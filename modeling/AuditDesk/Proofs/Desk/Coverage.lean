import AuditDesk.Proofs.Desk.HistoryOrder

/-! What the desk says about the fetching of the history, and what is under way. It never says so for
nothing, so that a refresh is never locked out for good. It may say too little: an analysis that is started
while the history is being fetched ends the loading on its own account. -/
namespace AuditDesk

open Service

/-- Only the user starts an analysis, and a new worker is sent out for it. -/
theorem Work.Turn.starts_of_crossing {w after : Work} {m : Move} (hTurn : w.Turn m after)
    (hCrossed : w.crossings after ≠ []) : m.isUsers = true ∧ ∃ request,
      ⟨w.nextWorker, .analysis request .asking, false, false⟩ ∈ after.workers := by
  have hBegins : w.analysis ≠ .running ∧ after.analysis = .running := by
    refine Decidable.byContradiction fun hNot => hCrossed ?_
    rw [Work.crossings, Work.beginnings, if_neg hNot]
    split <;> rfl
  obtain ⟨hIdle, hRunning⟩ := hBegins
  cases hTurn with
  | starts hUser _ request => exact ⟨hUser, request, List.mem_append_right _ (.head _)⟩
  | cancels _ _ hWas => exact absurd hWas hIdle
  | @delivers command rest => cases command <;> first | cases hRunning | exact absurd hRunning hIdle
  | _ => exact absurd hRunning hIdle

namespace Chronicle

theorem Reachable.covered {c : Chronicle} (h : c.Reachable) :
    c.ledger.desk.work.Covered c.ledger.posts c.crossed.length := by
  induction h with
  | start policy exportDir files storage store warnings =>
      rw [Desk.work_start]
      exact ⟨Nat.zero_le _, Nat.zero_le _⟩
  | move hBefore hAllows ih =>
      have hAccounts := hBefore.ledger.accounts
      have hTurn := Desk.turn_move hAccounts.staffed hAllows
      simp only [after, List.length_append]
      exact ih.turn hAccounts.staffed hAccounts.posted hBefore.ledger.desk.orderly hTurn

/-- With each question an answer more is awaited; only the service takes one away. -/
theorem Reachable.length_awaited {c : Chronicle} {m : Move} (h : c.Reachable)
    (hAllows : c.ledger.desk.Allows m) (hDeliver : m ≠ .deliver) :
    (c.after m).awaited.length = c.awaited.length + (c.ledger.desk.work.asks m).length := by
  have hStaffed := h.ledger.accounts.staffed
  have hTurn := Desk.turn_move hStaffed hAllows
  have hLength :=
    (Matter.answer.unsettled_turn c.ledger.posts hStaffed h.ledger.desk.orderly hTurn).length_eq
  have hSettled : Matter.answer.settled c.ledger.posts m = [] := by
    cases m <;> first | rfl | exact absurd rfl hDeliver
  rw [hSettled, Work.raised_answer hStaffed hTurn, List.nil_append, List.length_append] at hLength
  exact hLength

section Worker

variable {c : Chronicle} {worker : Worker}

theorem Reachable.commences (h : c.Reachable) (hMem : worker ∈ c.ledger.desk.workers)
    (hBegun : worker.begun = false)
    (hAction : (worker.errand.action? c.ledger.desk.policy).isSome = true) :
    (c.after (.commence worker.id)).Reachable ∧
      { worker with begun := true } ∈ (c.after (.commence worker.id)).ledger.desk.workers ∧
      (c.after (.commence worker.id)).awaited.length =
        c.awaited.length + if Matter.answer.begins worker then 1 else 0 := by
  have hStaffed := h.ledger.accounts.staffed
  have hAllows : c.ledger.desk.Allows (.commence worker.id) :=
    ⟨worker, Desk.worker?_of_mem hStaffed hMem, hBegun, hAction⟩
  have hWorkers := congrArg Work.workers (Desk.work_commence hStaffed hMem)
  refine ⟨h.move hAllows, ?_, ?_⟩
  · show _ ∈ (c.ledger.desk.commence worker.id).work.workers
    rw [hWorkers]
    exact Desk.mem_replace_self hMem rfl
  · rw [h.length_awaited hAllows nofun, Work.asks_commence hStaffed hMem hBegun hAction]
    split <;> rfl

theorem Reachable.happens {event : Event} {next : Errand} (h : c.Reachable)
    (hMem : worker ∈ c.ledger.desk.workers) (hMeet : worker.MayMeet event)
    (hStep : worker.errand.step c.ledger.desk.policy event = some next) :
    (c.after (.happen worker.id event)).Reachable ∧
      { worker with errand := next, begun := false } ∈
        (c.after (.happen worker.id event)).ledger.desk.workers ∧
      (c.after (.happen worker.id event)).awaited.length = c.awaited.length := by
  have hStaffed := h.ledger.accounts.staffed
  have hAllows : c.ledger.desk.Allows (.happen worker.id event) :=
    ⟨worker, Desk.worker?_of_mem hStaffed hMem, hMeet, by rw [hStep]; rfl⟩
  have hWorkers := congrArg Work.workers (Desk.work_happen hStaffed hMem hStep)
  refine ⟨h.move hAllows, ?_, h.length_awaited hAllows nofun⟩
  show _ ∈ (c.ledger.desk.happen worker.id event).work.workers
  rw [hWorkers]
  exact Desk.mem_replace_self hMem rfl

/-- An analysis that is started during a fetch can have the history asked for once more: it does when its
submission is answered with the report at once. -/
theorem Reachable.exists_doubled {m : Move} (h : c.Reachable) (hAllows : c.ledger.desk.Allows m)
    (hCrossed : c.ledger.desk.work.crossings (c.ledger.desk.move m).work ≠ []) :
    ∃ moves : List Move, (moves.foldl after (c.after m)).Reachable ∧
      (moves.foldl after (c.after m)).awaited.length = c.awaited.length + 1 := by
  have hTurn := Desk.turn_move h.ledger.accounts.staffed hAllows
  obtain ⟨hUser, request, hMem⟩ := hTurn.starts_of_crossing hCrossed
  have hStarted : (c.after m).awaited.length = c.awaited.length := by
    rw [h.length_awaited hAllows (fun hDeliver => by rw [hDeliver] at hUser; cases hUser),
      Work.asks_of_user _ hUser]
    rfl
  have hReport : (Errand.analysis request .asking).step
      ((c.after m).after (.commence c.ledger.desk.nextWorker)).ledger.desk.policy
      (.reply (.analyzed (.ok (.completed sample)))) =
        some (.recording sample) := rfl
  -- The worker submits, the report comes, and the worker asks for the history.
  obtain ⟨hSubmitted, hSubmitter, hOne⟩ := (h.move hAllows).commences hMem rfl rfl
  obtain ⟨hReported, hReporter, hTwo⟩ := hSubmitted.happens hSubmitter (by exact rfl) hReport
  obtain ⟨hAsked, _, hThree⟩ := hReported.commences hReporter rfl rfl
  refine ⟨[.commence _, .happen _ _, .commence _], hAsked, ?_⟩
  exact hThree.trans (congrArg (· + 1) (hTwo.trans (hOne.trans hStarted)))

end Worker

/-- Beside the fetch that the desk knows of, no more answers are awaited than analyses were started during
a fetch. Where none was, an awaited answer is the only one, the desk says that it is loading, and it does
not ask again. Where one is started, it can have the history asked for once more. -/
theorem fetches_covered {c : Chronicle} (h : c.Reachable) :
    c.awaited.length ≤ c.crossed.length + (if c.ledger.desk.loading then 1 else 0) ∧
    (c.crossed = [] → c.awaited ≠ [] → c.awaited.length = 1 ∧ c.ledger.desk.loading = true ∧
      c.ledger.desk.refreshHistory = c.ledger.desk) ∧
    (∀ m, c.ledger.desk.Allows m → c.ledger.desk.work.crossings (c.ledger.desk.move m).work ≠ [] →
      ∃ moves : List Move, (moves.foldl after (c.after m)).Reachable ∧
        (moves.foldl after (c.after m)).awaited.length = c.awaited.length + 1) := by
  have hFew : c.awaited.length ≤ c.crossed.length + (if c.ledger.desk.loading then 1 else 0) :=
    Nat.le_trans (Work.length_answer_le c.ledger.desk.work.workers c.ledger.posts) h.covered.few
  refine ⟨hFew, fun hUncrossed hAwaited => ?_, fun m => h.exists_doubled⟩
  have hSome : 0 < c.awaited.length := List.length_pos_iff.mpr hAwaited
  rw [hUncrossed, List.length_nil, Nat.zero_add] at hFew
  cases hLoading : c.ledger.desk.loading with
  | false =>
      rw [hLoading] at hFew
      exact absurd hSome (Nat.not_lt.mpr hFew)
  | true =>
      rw [hLoading] at hFew
      refine ⟨Nat.le_antisymm hFew hSome, rfl, ?_⟩
      rw [Desk.refreshHistory, if_pos hLoading]

theorem fetches_covered_asking :
    asking.Reachable ∧ asking.crossed = [] ∧ asking.awaited = [0] ∧
      asking.awaited.length = 1 ∧ asking.ledger.desk.loading = true ∧
      ∃ moves : List Move, (moves.foldl after (asking.after (.press (.ofChar 'a')))).Reachable ∧
        (moves.foldl after (asking.after (.press (.ofChar 'a')))).awaited.length = 2 := by
  obtain ⟨_, hUncrossed, hStarted⟩ := fetches_covered reachable_asking
  obtain ⟨hOne, hLoading, _⟩ := hUncrossed rfl (List.cons_ne_nil 0 [])
  exact ⟨reachable_asking, rfl, rfl, hOne, hLoading,
    hStarted (.press (.ofChar 'a')) trivial (List.cons_ne_nil _ _)⟩

/-- While the history is being fetched an analysis is started, and cancelled before the service answers. -/
def abandoned : Chronicle :=
  let cancelled := (asking.after (.press (.ofChar 'a'))).after (.press (.ofCode .escape))
  ((((cancelled.after (.happen 1 .cancelled)).after (.send 1)).after (.send 1)).after .deliver).after
    .deliver

/-- The history is asked for again. -/
def doubled : Chronicle := (abandoned.after (.press (.ofChar 'r'))).after (.commence 2)

theorem reachable_abandoned : abandoned.Reachable := by
  have hStarted := reachable_asking.move (m := .press (.ofChar 'a')) trivial
  have hCancelled := hStarted.move (m := .press (.ofCode .escape)) trivial
  refine .move (.move (.move (.move (.move hCancelled ?_) ?_) ?_) ?_) ?_
  · exact ⟨_, rfl, rfl, rfl⟩
  · exact ⟨_, _, rfl, rfl⟩
  · exact ⟨_, _, rfl, rfl⟩
  · exact List.cons_ne_nil _ _
  · exact List.cons_ne_nil _ _

/-- The end of the analysis ends the loading, although the first fetch goes on; so a second one begins. -/
theorem not_covered_abandoned :
    abandoned.Reachable ∧ abandoned.awaited = [0] ∧ abandoned.ledger.desk.loading = false ∧
      doubled.Reachable ∧ doubled.ledger.posts = [] ∧ doubled.awaited = [0, 2] := by
  have hDoubled : doubled.Reachable :=
    .move (.move reachable_abandoned trivial) ⟨_, rfl, rfl, rfl⟩
  exact ⟨reachable_abandoned, rfl, rfl, hDoubled, rfl, rfl⟩

theorem exists_of_reachable_desk {d : Desk} (h : d.Reachable) :
    ∃ c : Chronicle, c.Reachable ∧ c.ledger.desk = d := by
  induction h with
  | start policy exportDir files storage store warnings => exact ⟨_, .start .., rfl⟩
  | @move d m hBefore hAllows ih =>
      obtain ⟨c, hReachable, rfl⟩ := ih
      exact ⟨c.after m, hReachable.move hAllows, rfl⟩

end Chronicle

namespace Desk

variable {d : Desk}

/-- The desk sends out a worker to fetch the history, and the worker can begin. -/
structure Fetches (d after : Desk) : Prop where
  employed : after.workers = d.workers ++ [⟨d.nextWorker, .listing, false, false⟩]
  loading : after.loading = true
  begins : after.Allows (.commence d.nextWorker)

theorem fetches_refreshHistory (hStaffed : d.work.Staffed) (hLoaded : d.loading = false) :
    d.Fetches d.refreshHistory := by
  have hRefresh : d.refreshHistory = { d.employ .listing with loading := true } := by
    rw [refreshHistory, hLoaded]
    rfl
  have hEmployed : ({ d.employ .listing with loading := true } : Desk).work.Staffed :=
    ⟨(hStaffed.employ .listing).ordered, (hStaffed.employ .listing).known⟩
  rw [hRefresh]
  exact ⟨rfl, rfl, _, worker?_of_mem hEmployed (List.mem_append_right _ (.head _)), rfl, rfl⟩

/-- Something is under way that ends the loading. -/
def EndsLoading (d : Desk) : Prop :=
  (∃ worker ∈ d.workers, worker.errand.isLoading = true) ∨
    ∃ command ∈ d.queue, command.endsLoading = true

theorem Reachable.endsLoading (h : d.Reachable) (hLoading : d.loading = true) : d.EndsLoading := by
  obtain ⟨c, hReachable, rfl⟩ := Chronicle.exists_of_reachable_desk h
  have hLive := hReachable.covered.live
  rw [show c.ledger.desk.work.loading = true from hLoading, if_pos rfl] at hLive
  obtain ⟨id, hOpen⟩ := List.exists_mem_of_length_pos hLive
  rcases List.mem_append.mp hOpen with hPending | hQueued
  · obtain ⟨worker, hMem, hWorker, _⟩ := Matter.loading.mem_pending.mp hPending
    exact .inl ⟨worker, hMem, hWorker⟩
  · obtain ⟨⟨_, command⟩, hPost, _⟩ := List.mem_map.mp hQueued
    obtain ⟨hMem, hEnds⟩ := List.mem_filter.mp hPost
    have hQueue : c.ledger.posts.map Prod.snd = c.ledger.desk.queue := hReachable.ledger.accounts.posted
    exact .inr ⟨command, hQueue ▸ List.mem_map_of_mem hMem, hEnds⟩

theorem press_refresh (hClosed : d.dialog = .closed) (control : Bool) :
    d.press ⟨.char 'r', control, .press⟩ = d.refreshHistory := by
  unfold press
  rw [hClosed]
  cases control <;> rfl

theorem press_escape (hOpen : d.dialog ≠ .closed) (control : Bool) :
    d.press ⟨.escape, control, .press⟩ = d.closeDialog := by
  cases hDialog : d.dialog with
  | closed => exact absurd hDialog hOpen
  | _ =>
      unfold press
      rw [hDialog]
      rfl

/-- The desk says that the history is being fetched only while something is under way that ends that. So
once nothing is, the r key fetches the history; an open dialog has to be closed before. -/
theorem never_locked_out (h : d.Reachable) :
    (d.loading = true → d.EndsLoading) ∧
    (d.workers = [] → d.queue = [] → d.loading = false ∧ ∀ control,
      (d.dialog = .closed → d.Fetches (d.press ⟨.char 'r', control, .press⟩)) ∧
      (d.dialog ≠ .closed →
        d.Fetches ((d.press ⟨.escape, control, .press⟩).press ⟨.char 'r', control, .press⟩))) := by
  refine ⟨h.endsLoading, fun hWorkers hQueue => ?_⟩
  have hLoaded : d.loading = false := by
    refine Bool.eq_false_iff.mpr fun hLoading => ?_
    rcases h.endsLoading hLoading with ⟨worker, hMem, _⟩ | ⟨command, hMem, _⟩
    · rw [hWorkers] at hMem
      cases hMem
    · rw [hQueue] at hMem
      cases hMem
  refine ⟨hLoaded, fun control => ⟨fun hClosed => ?_, fun hOpen => ?_⟩⟩
  · rw [press_refresh hClosed]
    exact fetches_refreshHistory h.staffed hLoaded
  · have hStaffed : d.closeDialog.work.Staffed := h.staffed
    obtain ⟨hEmployed, hLoading, hBegins⟩ := fetches_refreshHistory hStaffed hLoaded
    rw [press_escape hOpen, press_refresh rfl]
    exact ⟨hEmployed, hLoading, hBegins⟩

/-- A desk at which the name of a snippet is being typed. -/
def naming : Desk :=
  ((start .standard "" .empty .empty ⟨[]⟩ []).move (.setSource "contract" .solidity none)).move
    (.press (.ofChar 's'))

theorem reachable_naming : naming.Reachable := .move (.move (.start ..) trivial) trivial

theorem never_locked_out_naming :
    naming.Reachable ∧ naming.loading = false ∧ naming.dialog ≠ .closed ∧
      naming.Fetches ((naming.press (.ofCode .escape)).press (.ofChar 'r')) := by
  obtain ⟨hLoaded, hFetches⟩ := (never_locked_out reachable_naming).2 rfl rfl
  have hOpen : naming.dialog ≠ .closed := by decide
  exact ⟨reachable_naming, hLoaded, hOpen, (hFetches false).2 hOpen⟩

/-- A dialog keeps the r key for itself. -/
theorem not_fetching_naming :
    naming.Reachable ∧ naming.workers = [] ∧ naming.queue = [] ∧
      (naming.press (.ofChar 'r')).dialog = .save "r" ∧ (naming.press (.ofChar 'r')).workers = [] ∧
      (naming.press (.ofChar 'r')).loading = false :=
  ⟨reachable_naming, rfl, rfl, rfl, rfl, rfl⟩

end Desk

end AuditDesk

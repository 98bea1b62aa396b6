import AuditDesk.Proofs.Desk.Matter

/-! Every analysis is accounted for: while one runs there is exactly one worker that will end it, or one
command on its way that does, and the ledger of any desk tells an orderly story. -/
namespace AuditDesk

open Service

/-- The end of an analysis. -/
def Matter.ending : Matter where
  worker w := w.errand.isAnalysis
  command := Command.endsAnalysis
  sending hErrand := by rw [hErrand]; rfl
  once hSays := by
    cases hSays with
    | recorded report answer => cases answer <;> exact Nat.le_refl 1
    | listed answer => cases answer <;> exact Nat.zero_le 1
    | failed e => exact Nat.le_of_eq (Errand.countP_failure e)
  cancelled _ := rfl
  begun h := h
  happens _ hStep := Errand.isAnalysis_step hStep

/-- At most one analysis is owed, so the order in which they are listed does not matter. -/
theorem Standing.eq_owed_of_perm {s : Standing} {list : List Nat} (h : list.Perm s.owed) :
    list = s.owed := by
  cases s with
  | idle => exact List.perm_nil.mp h
  | running worker fired => exact List.perm_singleton.mp h

namespace Work

theorem mem_analysts {workers : List Worker} {worker : Worker} (hMem : worker ∈ workers)
    (hAnalysis : worker.errand.isAnalysis = true) : worker.id ∈ analysts workers :=
  (Matter.ending.mem_pending).mpr ⟨worker, hMem, hAnalysis, rfl⟩

/-- The work agrees with what the log says of the latest analysis. -/
structure Fits (w : Work) (posts : List (Nat × Command)) (s : Standing) : Prop where
  owing : analysts w.workers ++ announced posts = s.owed
  running : w.analysis = .running ↔ s ≠ .idle
  handle : w.cancellable = s.handle
  flag : ∀ worker ∈ w.workers, worker.errand.isAnalysis = true → worker.cancelled = s.fired

section Story

variable {w after : Work} {posts : List (Nat × Command)} {m : Move} {s : Standing}

theorem Fits.quiet {posts' : List (Nat × Command)} (h : w.Fits posts s)
    (hOwing : (analysts after.workers ++ announced posts').Perm (analysts w.workers ++ announced posts))
    (hAnalysis : after.analysis = w.analysis) (hHandle : after.cancellable = w.cancellable)
    (hFlag : ∀ worker ∈ after.workers, worker.errand.isAnalysis = true →
      ∃ before ∈ w.workers, before.errand.isAnalysis = true ∧ before.cancelled = worker.cancelled) :
    after.Fits posts' s := by
  refine ⟨Standing.eq_owed_of_perm (h.owing ▸ hOwing), by rw [hAnalysis, h.running],
    hHandle.trans h.handle, ?_⟩
  intro worker hMem hIs
  obtain ⟨before, hBefore, hWas, hSame⟩ := hFlag worker hMem hIs
  rw [← hSame, h.flag before hBefore hWas]

theorem Fits.of_idle (h : w.Fits posts s) (hIdle : w.analysis ≠ .running) : s = .idle := by
  by_cases hs : s = .idle
  · exact hs
  · exact absurd (h.running.mpr hs) hIdle

theorem Fits.of_handle (h : w.Fits posts s) {id : Nat} (hHandle : w.cancellable = some id) :
    s = .running id false := by
  rw [h.handle] at hHandle
  cases s with
  | idle => cases hHandle
  | running worker fired =>
      cases fired with
      | true => cases hHandle
      | false =>
          cases hHandle
          rfl

theorem Fits.of_owed (h : w.Fits posts s) {id : Nat}
    (hOwed : id ∈ analysts w.workers ++ announced posts) : ∃ fired, s = .running id fired := by
  rw [h.owing] at hOwed
  cases s with
  | idle => cases hOwed
  | running worker fired => exact ⟨fired, by rw [List.mem_singleton.mp hOwed]⟩

theorem Fits.starts (h : w.Fits posts s) (hIdle : w.analysis ≠ .running) (request : Request) :
    Fits { w.employ (.analysis request .asking) with
      analysis := .running, cancellable := some w.nextWorker, loading := true } posts
      (.running w.nextWorker false) := by
  obtain ⟨hNobody, hNothing⟩ : analysts w.workers = [] ∧ announced posts = [] := by
    have hOwing := h.owing
    rw [h.of_idle hIdle] at hOwing
    exact List.append_eq_nil_iff.mp hOwing
  refine ⟨?_, ⟨fun _ => nofun, fun _ => rfl⟩, rfl, fun worker hMem hIs => ?_⟩
  · have hWorkers : analysts (w.employ (.analysis request .asking)).workers =
        analysts w.workers ++ [w.nextWorker] := Matter.ending.pending_append w.workers _
    rw [hNothing, List.append_nil]
    exact hWorkers.trans (by rw [hNobody]; rfl)
  · rcases List.mem_append.mp hMem with hOld | hNew
    · have hListed := mem_analysts hOld hIs
      rw [hNobody] at hListed
      cases hListed
    · rw [List.mem_singleton.mp hNew]
      rfl

theorem Fits.cancels (h : w.Fits posts s) {id : Nat} (hHandle : w.cancellable = some id) :
    (w.cancel id).Fits posts (.running id true) := by
  obtain rfl := h.of_handle hHandle
  have hOwing : analysts (w.cancel id).workers = analysts w.workers :=
    Matter.ending.pending_map (fun other => by split <;> rfl) fun other => by split <;> rfl
  refine ⟨by rw [hOwing]; exact h.owing, ?_, rfl, fun worker hMem hIs => ?_⟩
  · exact ⟨fun _ => nofun, fun _ => h.running.mpr nofun⟩
  · obtain ⟨before, hBefore, rfl⟩ := List.mem_map.mp hMem
    split
    · rfl
    · rename_i hOther
      rw [if_neg hOther] at hIs
      have hOwed := List.mem_append_left (announced posts) (mem_analysts hBefore hIs)
      rw [h.owing] at hOwed
      exact absurd (List.mem_singleton.mp hOwed) hOther

theorem Fits.fetches (h : w.Fits posts s) :
    Fits { w.employ .listing with loading := true } posts s := by
  have hOwing : analysts (w.employ .listing).workers = analysts w.workers :=
    (Matter.ending.pending_append w.workers _).trans (List.append_nil _)
  refine h.quiet (.of_eq (congrArg (· ++ announced posts) hOwing)) rfl rfl fun worker hMem hIs => ?_
  rcases List.mem_append.mp hMem with hOld | hNew
  · exact ⟨worker, hOld, hIs, rfl⟩
  · rw [List.mem_singleton.mp hNew] at hIs
    cases hIs

/-- A worker goes on with what it does. -/
theorem Fits.replace (h : w.Fits posts s) (hStaffed : w.Staffed) {before worker : Worker}
    (hMem : before ∈ w.workers) (hId : worker.id = before.id)
    (hSame : worker.errand.isAnalysis = before.errand.isAnalysis)
    (hFlag : worker.cancelled = before.cancelled) : (w.replace worker).Fits posts s := by
  have hOwing : analysts (w.replace worker).workers = analysts w.workers :=
    Matter.ending.pending_replace_of_eq hStaffed hMem hId hSame
  refine h.quiet (.of_eq (congrArg (· ++ announced posts) hOwing)) rfl rfl fun other hOther hIs => ?_
  rcases mem_replace hOther with rfl | ⟨hOld, _⟩
  · exact ⟨before, hMem, by rw [← hSame, hIs], hFlag.symm⟩
  · exact ⟨other, hOld, hIs, rfl⟩

/-- The account is handed over to the command that is queued, if it ends the analysis. -/
theorem Fits.sends (h : w.Fits posts s) (hStaffed : w.Staffed) {worker : Worker}
    {command : Command} {rest : List Command} (hMem : worker ∈ w.workers)
    (hOrderly : worker.errand.Orderly) (hErrand : worker.errand = .sending (command :: rest)) :
    Fits { w.replace { worker with errand := .sending rest } with queue := w.queue ++ [command] }
      (posts ++ [(worker.id, command)]) s := by
  have hIs : worker.errand.isAnalysis = (command.endsAnalysis || (Errand.sending rest).isAnalysis) := by
    rw [hErrand]
    rfl
  have hQueued : announced (posts ++ [(worker.id, command)]) =
      announced posts ++ announced [(worker.id, command)] := Matter.ending.queued_append posts _
  have hSent : (analysts (w.replace { worker with errand := .sending rest }).workers ++
      announced [(worker.id, command)]).Perm (analysts w.workers) :=
    Matter.ending.pending_send hStaffed hMem hOrderly hErrand
  refine h.quiet ?_ rfl rfl fun other hOther hOtherIs => ?_
  · rw [hQueued]
    refine (List.Perm.append_left _ List.perm_append_comm).trans ?_
    rw [← List.append_assoc]
    exact hSent.append_right _
  · rcases mem_replace hOther with rfl | ⟨hOld, _⟩
    · exact ⟨worker, hMem, by rw [hIs, hOtherIs, Bool.or_true], rfl⟩
    · exact ⟨other, hOld, hOtherIs, rfl⟩

theorem Fits.leaves (h : w.Fits posts s) (hStaffed : w.Staffed) {worker : Worker}
    (hMem : worker ∈ w.workers) (hErrand : worker.errand = .sending []) :
    Fits { w with workers := w.workers.filter fun other => other.id ≠ worker.id } posts s := by
  have hOwing : analysts (w.workers.filter fun other => other.id ≠ worker.id) = analysts w.workers :=
    Matter.ending.pending_leave hStaffed hMem hErrand
  refine h.quiet (.of_eq (congrArg (· ++ announced posts) hOwing)) rfl rfl fun other hOther hIs => ?_
  exact ⟨other, (List.mem_filter.mp hOther).1, hIs, rfl⟩

theorem Fits.applies {id : Nat} {command : Command} {rest : List (Nat × Command)}
    (h : w.Fits ((id, command) :: rest) s) (hQuiet : command.endsAnalysis = false)
    (queue : List Command) : ({ w with queue := queue }.apply command).Fits rest s := by
  have hOwing : announced ((id, command) :: rest) = announced rest := by
    simp [announced, hQuiet]
  cases command with
  | analysisFinished report => cases hQuiet
  | analysisFailed message => cases hQuiet
  | _ => exact h.quiet (.of_eq (by rw [hOwing]; rfl)) rfl rfl fun other hOther hIs => ⟨other, hOther, hIs, rfl⟩

/-- The command that ends an analysis is the one that is owed. -/
theorem Fits.ends {id : Nat} {command : Command} {rest : List (Nat × Command)}
    (h : w.Fits ((id, command) :: rest) s) (hEnds : command.endsAnalysis = true)
    (queue : List Command) :
    (∃ fired, s = .running id fired) ∧ ({ w with queue := queue }.apply command).Fits rest .idle := by
  have hAnnounced : announced ((id, command) :: rest) = id :: announced rest := by
    simp [announced, hEnds]
  have hOwed : id ∈ analysts w.workers ++ announced ((id, command) :: rest) := by
    rw [hAnnounced]
    exact List.mem_append_right _ List.mem_cons_self
  obtain ⟨fired, rfl⟩ := h.of_owed hOwed
  have hOwing := h.owing
  rw [hAnnounced] at hOwing
  obtain ⟨hNobody, hNothing⟩ : analysts w.workers = [] ∧ announced rest = [] := by
    rcases List.append_eq_singleton_iff.mp hOwing with ⟨hNobody, hLast⟩ | ⟨_, hNone⟩
    · exact ⟨hNobody, (List.cons_eq_cons.mp hLast).2⟩
    · cases hNone
  have hNoAnalyst : ∀ worker ∈ w.workers, worker.errand.isAnalysis = true →
      worker.cancelled = false := by
    intro worker hMem hIs
    have hListed := mem_analysts hMem hIs
    rw [hNobody] at hListed
    cases hListed
  refine ⟨⟨fired, rfl⟩, ?_⟩
  cases command with
  | analysisFinished report =>
      exact ⟨by rw [hNothing]; exact (List.append_nil _).trans hNobody,
        ⟨nofun, fun hIdle => absurd rfl hIdle⟩, rfl, hNoAnalyst⟩
  | analysisFailed message =>
      exact ⟨by rw [hNothing]; exact (List.append_nil _).trans hNobody,
        ⟨nofun, fun hIdle => absurd rfl hIdle⟩, rfl, hNoAnalyst⟩
  | _ => cases hEnds

/-- The log goes on as it should, and agrees with the work again. -/
def Continues (w after : Work) (posts : List (Nat × Command)) (m : Move) (s : Standing) : Prop :=
  ∃ next, (w.marks after posts m).foldlM Standing.after s = some next ∧
    after.Fits (kept posts m ++ w.posted m) next

theorem Continues.of_quiet (hAnalysis : after.analysis = w.analysis)
    (hHandle : after.cancellable = w.cancellable) (hEndings : endings posts m = [])
    (hFits : after.Fits (kept posts m ++ w.posted m) s) : w.Continues after posts m s := by
  refine ⟨s, ?_, hFits⟩
  rw [marks_of_quiet hAnalysis hHandle, hEndings]
  rfl

theorem Continues.of_user (hUser : m.isUsers = true) {next : Standing}
    (hMarks : (w.beginnings after ++ w.cancellations after).foldlM Standing.after s = some next)
    (hFits : after.Fits posts next) : w.Continues after posts m s := by
  refine ⟨next, by rw [marks_of_user hUser, hMarks], ?_⟩
  rw [kept_of_user posts hUser, posted_of_user w hUser, List.append_nil]
  exact hFits

theorem Continues.of_quiet_user (hUser : m.isUsers = true) (hAnalysis : after.analysis = w.analysis)
    (hHandle : after.cancellable = w.cancellable) (hFits : after.Fits posts s) :
    w.Continues after posts m s := by
  refine .of_user hUser ?_ hFits
  rw [beginnings_of_same hAnalysis, cancellations_of_same hHandle]
  rfl

theorem Fits.continues_deliver {command : Command} {queue : List Command} (h : w.Fits posts s)
    (hPosted : posts.map Prod.snd = w.queue) (hQueue : w.queue = command :: queue) :
    w.Continues ({ w with queue := queue }.apply command) posts .deliver s := by
  obtain ⟨⟨id, posted⟩, rest, rfl, hCommand, _⟩ := List.map_eq_cons_iff.mp (hPosted.trans hQueue)
  obtain rfl : posted = command := hCommand
  have hKept : kept ((id, posted) :: rest) .deliver ++ w.posted .deliver = rest :=
    List.append_nil rest
  cases hEnds : posted.endsAnalysis with
  | false =>
      have hEndings : endings ((id, posted) :: rest) .deliver = [] := by simp [endings, hEnds]
      refine .of_quiet ?_ ?_ hEndings (by rw [hKept]; exact h.applies hEnds queue)
      · cases posted <;> first | rfl | cases hEnds
      · cases posted <;> first | rfl | cases hEnds
  | true =>
      obtain ⟨⟨fired, rfl⟩, hFits⟩ := h.ends hEnds queue
      have hStopped : ({ w with queue := queue }.apply posted).analysis ≠ .running := by
        intro hRunning
        exact hFits.running.mp hRunning rfl
      have hEndings : endings ((id, posted) :: rest) .deliver = [.ended id] := by
        simp [endings, hEnds]
      refine ⟨.idle, ?_, by rw [hKept]; exact hFits⟩
      rw [marks, beginnings, if_neg fun hStart => hStopped hStart.2,
        cancellations_of_stopped hStopped, hEndings]
      exact Standing.foldlM_ended id fired

/-- The log goes on as it should, whatever the move. -/
theorem Fits.continues (h : w.Fits posts s) (hStaffed : w.Staffed)
    (hPosted : posts.map Prod.snd = w.queue)
    (hOrderly : ∀ worker ∈ w.workers, worker.errand.Orderly) (hTurn : w.Turn m after) :
    w.Continues after posts m s := by
  cases hTurn with
  | keeps hUser => exact .of_quiet_user hUser rfl rfl h
  | starts hUser hIdle request =>
      refine .of_user hUser ?_ (h.starts hIdle request)
      have hHandle : w.cancellable = none := by rw [h.handle, h.of_idle hIdle]; rfl
      rw [beginnings, cancellations, hHandle, h.of_idle hIdle, if_pos ⟨hIdle, rfl⟩]
      rfl
  | @cancels _ hUser id hHandle hRunning =>
      refine .of_user hUser ?_ (h.cancels hHandle)
      have hNoStart : w.beginnings (w.cancel id) = [] := beginnings_of_same rfl
      rw [hNoStart, cancellations_cancel hHandle hRunning, h.of_handle hHandle]
      exact Standing.foldlM_cancelled id
  | drops hUser hHandle hIdle =>
      rw [h.handle, h.of_idle hIdle] at hHandle
      cases hHandle
  | fetches hUser hLoaded => exact .of_quiet_user hUser rfl rfl h.fetches
  | commences hMem hBegun hAction =>
      refine .of_quiet rfl rfl rfl ?_
      exact (List.append_nil posts).symm ▸ h.replace hStaffed hMem rfl rfl rfl
  | happens hMem hMeet hStep =>
      refine .of_quiet rfl rfl rfl ?_
      exact (List.append_nil posts).symm ▸
        h.replace hStaffed hMem rfl (Errand.isAnalysis_step hStep) rfl
  | sends hMem hErrand =>
      refine .of_quiet rfl rfl rfl ?_
      rw [posted_send hStaffed hMem hErrand]
      exact h.sends hStaffed hMem (hOrderly _ hMem) hErrand
  | leaves hMem hErrand =>
      refine .of_quiet rfl rfl rfl ?_
      rw [posted_send hStaffed hMem hErrand]
      exact (List.append_nil posts).symm ▸ h.leaves hStaffed hMem hErrand
  | delivers hQueue => exact h.continues_deliver hPosted hQueue

end Story

section Log

variable {w after : Work} {posts : List (Nat × Command)} {m : Move} {log : List Mark}

/-- The number of a new worker is used up. -/
theorem Turn.nextWorker_le (hTurn : w.Turn m after) : w.nextWorker ≤ after.nextWorker ∧
    (w.analysis ≠ .running ∧ after.analysis = .running → w.nextWorker < after.nextWorker) := by
  have hSame : ∀ {after : Work}, after.analysis = w.analysis → after.nextWorker = w.nextWorker →
      w.nextWorker ≤ after.nextWorker ∧
        (w.analysis ≠ .running ∧ after.analysis = .running → w.nextWorker < after.nextWorker) :=
    fun hAnalysis hNext => ⟨Nat.le_of_eq hNext.symm, fun h => absurd (hAnalysis ▸ h.2) h.1⟩
  cases hTurn with
  | keeps => exact hSame rfl rfl
  | starts => exact ⟨Nat.le_succ _, fun _ => Nat.lt_succ_self _⟩
  | cancels => exact hSame rfl rfl
  | drops => exact hSame rfl rfl
  | fetches => exact ⟨Nat.le_succ _, fun _ => Nat.lt_succ_self _⟩
  | commences => exact hSame rfl rfl
  | happens => exact hSame rfl rfl
  | sends => exact hSame rfl rfl
  | leaves => exact hSame rfl rfl
  | @delivers command rest =>
      cases command with
      | analysisFinished report => exact ⟨Nat.le_refl _, fun h => nomatch h.2⟩
      | analysisFailed message => exact ⟨Nat.le_refl _, fun h => nomatch h.2⟩
      | _ => exact hSame rfl rfl

/-- A worker who is cancelled after a move was cancelled before, or is the one cancelled just now. -/
theorem Turn.cancelled_cases (hTurn : w.Turn m after) {worker : Worker}
    (hMem : worker ∈ after.workers) (hCancelled : worker.cancelled = true) :
    (∃ before ∈ w.workers, before.id = worker.id ∧ before.cancelled = true) ∨
      .cancelled worker.id ∈ w.marks after posts m := by
  rcases hTurn.origin hMem with ⟨errand, rfl, _⟩ | ⟨before, hBefore, hId, _, hSame | hNow⟩
  · cases hCancelled
  · exact .inl ⟨before, hBefore, hId.symm, hSame ▸ hCancelled⟩
  · obtain ⟨hHandle, hRunning, rfl⟩ := hNow
    right
    rw [marks, cancellations_cancel hHandle hRunning]
    exact List.mem_append_left _ (List.mem_append_right _ List.mem_cons_self)

theorem Turn.posted (hTurn : w.Turn m after) (hStaffed : w.Staffed)
    (hPosted : posts.map Prod.snd = w.queue) :
    (kept posts m ++ w.posted m).map Prod.snd = after.queue := by
  have hUsers : m.isUsers = true → (kept posts m ++ w.posted m).map Prod.snd = w.queue := by
    intro hUser
    rw [kept_of_user posts hUser, posted_of_user w hUser, List.append_nil, hPosted]
  cases hTurn with
  | keeps hUser => exact hUsers hUser
  | starts hUser => exact hUsers hUser
  | cancels hUser => exact hUsers hUser
  | drops hUser => exact hUsers hUser
  | fetches hUser => exact hUsers hUser
  | commences => exact (congrArg _ (List.append_nil posts)).trans hPosted
  | happens => exact (congrArg _ (List.append_nil posts)).trans hPosted
  | @sends worker _ _ hMem hErrand =>
      have hKept : kept posts (.send worker.id) = posts := rfl
      rw [posted_send hStaffed hMem hErrand, List.map_append, hKept, hPosted]
      rfl
  | @leaves worker hMem hErrand =>
      have hKept : kept posts (.send worker.id) = posts := rfl
      rw [posted_send hStaffed hMem hErrand, List.map_append, hKept, hPosted]
      exact List.append_nil _
  | @delivers command rest hQueue =>
      have hKept : kept posts .deliver = posts.tail := rfl
      have hNothing : w.posted .deliver = [] := rfl
      have hSame : ({ w with queue := rest }.apply command).queue = rest := queue_apply _ command
      rw [hSame, hKept, hNothing, List.append_nil, List.map_tail, hPosted, hQueue]
      rfl

theorem Turn.tidy (hTurn : w.Turn m after) (hTidy : ∀ worker ∈ w.workers, worker.errand.Tidy) :
    ∀ worker ∈ after.workers, worker.errand.Tidy := by
  intro worker hMem
  rcases hTurn.origin hMem with ⟨errand, rfl, hFresh⟩ | ⟨before, hBefore, _, hGoesOn, _⟩
  · exact Errand.tidy_fresh hFresh
  · exact (hTidy before hBefore).goesOn hGoesOn

end Log

/-- What is true of a desk beside its ledger. -/
structure Accounts (w : Work) (posts : List (Nat × Command)) (log : List Mark) : Prop where
  staffed : w.Staffed
  posted : posts.map Prod.snd = w.queue
  tidy : ∀ worker ∈ w.workers, worker.errand.Tidy
  story : ∃ s, log.foldlM Standing.after .idle = some s ∧ w.Fits posts s
  ordered : (log.filterMap Mark.started?).Pairwise (· < ·)
  given : ∀ id ∈ log.filterMap Mark.started?, id < w.nextWorker
  logged : ∀ worker ∈ w.workers, worker.cancelled = true → .cancelled worker.id ∈ log

theorem Accounts.start (policy : PollPolicy) :
    Accounts ⟨.idle, none, false, policy, [], 0, []⟩ [] [] where
  staffed := ⟨.nil, fun _ hMem => absurd hMem List.not_mem_nil⟩
  posted := rfl
  tidy _ hMem := absurd hMem List.not_mem_nil
  story := by
    refine ⟨.idle, rfl, rfl, ⟨nofun, fun hIdle => absurd rfl hIdle⟩, rfl, ?_⟩
    exact fun _ hMem => absurd hMem List.not_mem_nil
  ordered := .nil
  given _ hMem := absurd hMem List.not_mem_nil
  logged _ hMem := absurd hMem List.not_mem_nil

theorem Accounts.turn {w after : Work} {posts : List (Nat × Command)} {log : List Mark} {m : Move}
    (h : w.Accounts posts log) (hOrderly : ∀ worker ∈ w.workers, worker.errand.Orderly)
    (hTurn : w.Turn m after) : after.Accounts (kept posts m ++ w.posted m) (log ++ w.marks after posts m) where
  staffed := h.staffed.turn hTurn
  posted := hTurn.posted h.staffed h.posted
  tidy := hTurn.tidy h.tidy
  story := by
    obtain ⟨s, hLog, hFits⟩ := h.story
    obtain ⟨next, hMarks, hNext⟩ := hFits.continues h.staffed h.posted hOrderly hTurn
    refine ⟨next, ?_, hNext⟩
    rw [List.foldlM_append, hLog]
    exact hMarks
  ordered := by
    rw [List.filterMap_append, starts_marks]
    refine List.pairwise_append.mpr ⟨h.ordered, ?_, fun id hId last hLast => ?_⟩
    · split
      · exact List.pairwise_singleton _ _
      · exact .nil
    · split at hLast
      · rw [List.mem_singleton.mp hLast]
        exact h.given id hId
      · cases hLast
  given := by
    intro id hId
    rw [List.filterMap_append, starts_marks] at hId
    rcases List.mem_append.mp hId with hOld | hNew
    · exact Nat.lt_of_lt_of_le (h.given id hOld) hTurn.nextWorker_le.1
    · split at hNew
      · rename_i hStart
        rw [List.mem_singleton.mp hNew]
        exact hTurn.nextWorker_le.2 hStart
      · cases hNew
  logged := by
    intro worker hMem hCancelled
    rcases hTurn.cancelled_cases hMem hCancelled with ⟨before, hBefore, hId, hWas⟩ | hNow
    · rw [← hId]
      exact List.mem_append_left _ (h.logged before hBefore hWas)
    · exact List.mem_append_right _ hNow

end Work

namespace Ledger

theorem Reachable.accounts {l : Ledger} (h : l.Reachable) : l.desk.work.Accounts l.posts l.log := by
  induction h with
  | start policy exportDir files storage store warnings =>
      rw [Desk.work_start]
      exact .start policy
  | move hBefore hAllows ih =>
      exact ih.turn hBefore.desk.orderly (Desk.turn_move ih.staffed hAllows)

theorem Reachable.length_owing {l : Ledger} (h : l.Reachable) :
    l.owing.length = l.desk.workers.countP (fun worker => worker.errand.isAnalysis) +
      l.desk.queue.countP Command.endsAnalysis := by
  have hQueue : l.desk.queue = l.posts.map Prod.snd := h.accounts.posted.symm
  rw [owing, List.length_append, Work.analysts, Work.announced, List.length_map, List.length_map,
    ← List.countP_eq_length_filter, ← List.countP_eq_length_filter, hQueue, List.countP_map]
  rfl

/-- While an analysis runs, exactly one command will end it: its worker has still to queue it, or it is
queued. At any other time there is none. The handle to cancel belongs to that worker, every analysis in
the log is ended by its own worker and cancelled only before that, and a worker is cancelled only by
what the log says of its own analysis. -/
theorem analyses_accounted {l : Ledger} (h : l.Reachable) :
    l.desk.workers.countP (fun worker => worker.errand.isAnalysis) +
        l.desk.queue.countP Command.endsAnalysis = (if l.desk.isRunning then 1 else 0) ∧
      l.posts.map Prod.snd = l.desk.queue ∧
      (∀ id, l.desk.cancellable = some id → l.desk.isRunning = true ∧ l.owing = [id]) ∧
      (∀ command ∈ l.desk.queue, command.endsAnalysis = true → l.desk.isRunning = true) ∧
      (∃ s, l.log.foldlM Standing.after .idle = some s) ∧
      (l.log.filterMap Mark.started?).Pairwise (· < ·) ∧
      ∀ worker ∈ l.desk.workers, worker.cancelled = true → .cancelled worker.id ∈ l.log := by
  have hAccounts := h.accounts
  obtain ⟨s, hLog, hFits⟩ := hAccounts.story
  have hOwing : l.owing = s.owed := hFits.owing
  have hRunning : l.desk.isRunning = true ↔ s ≠ .idle := by
    rw [Desk.isRunning, decide_eq_true_iff]
    exact hFits.running
  have hCount : l.owing.length = if l.desk.isRunning then 1 else 0 := by
    rw [hOwing]
    cases s with
    | idle => exact (if_neg fun hIs => hRunning.mp hIs rfl).symm
    | running worker fired => exact (if_pos (hRunning.mpr nofun)).symm
  rw [h.length_owing] at hCount
  refine ⟨hCount, hAccounts.posted, fun id hHandle => ?_, fun command hMem hEnds => ?_, ⟨s, hLog⟩,
    hAccounts.ordered, hAccounts.logged⟩
  · obtain rfl := hFits.of_handle hHandle
    exact ⟨hRunning.mpr nofun, hOwing⟩
  · have hSome : 0 < l.desk.queue.countP Command.endsAnalysis :=
      List.countP_pos_iff.mpr ⟨command, hMem, hEnds⟩
    by_cases hIs : l.desk.isRunning = true
    · exact hIs
    · rw [if_neg hIs] at hCount
      omega

/-- The ledger of an empty desk. -/
def blank : Ledger := ⟨.start .standard "" .empty .empty ⟨[]⟩ [], [], []⟩

/-- The ledger of a desk where an analysis has just been started. -/
def opening : Ledger := (blank.after (.setSource "contract" .solidity none)).after (.press (.ofChar 'a'))

theorem reachable_opening : opening.Reachable := by
  have hBlank : blank.Reachable := .start ..
  have hSource : (blank.after (.setSource "contract" .solidity none)).Reachable := .move hBlank trivial
  exact .move hSource trivial

theorem analyses_accounted_opening :
    opening.Reachable ∧ opening.log = [.started 0] ∧
      opening.desk.workers.countP (fun worker => worker.errand.isAnalysis) +
        opening.desk.queue.countP Command.endsAnalysis = 1 ∧ opening.owing = [0] := by
  obtain ⟨hCount, _, hHandle, _⟩ := analyses_accounted reachable_opening
  exact ⟨reachable_opening, by decide, hCount, (hHandle 0 rfl).2⟩

end Ledger

end AuditDesk

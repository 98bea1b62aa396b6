import AuditDesk.Proofs.Desk.Errand
import AuditDesk.Proofs.Desk.Ledger

/-! A matter is what certain commands settle: the end of an analysis, say, or the answer to a question for
the history. A worker that has to settle one hands it to the queue together with its command, and the
command takes it to the desk, so that the open matters change only where one is raised or settled. -/
namespace AuditDesk

open Service

structure Matter where
  /-- Whether a worker has still to queue a command that settles the matter. -/
  worker : Worker → Bool
  /-- Whether a command settles the matter. -/
  command : Command → Bool
  sending : ∀ {w : Worker} {commands : List Command}, w.errand = .sending commands →
    worker w = commands.any command
  once : ∀ {commands : List Command}, Errand.Says commands → commands.countP command ≤ 1
  cancelled : ∀ w : Worker, worker { w with cancelled := true } = worker w
  begun : ∀ {w : Worker}, worker w = true → worker { w with begun := true } = true
  happens : ∀ {policy : PollPolicy} {w : Worker} {event : Event} {next : Errand}, w.MayMeet event →
    w.errand.step policy event = some next → worker { w with errand := next, begun := false } = worker w

namespace Matter

/-- The workers that have still to settle the matter. -/
def pending (c : Matter) (workers : List Worker) : List Nat := (workers.filter c.worker).map Worker.id

/-- The workers whose command that settles the matter is queued. -/
def queued (c : Matter) (posts : List (Nat × Command)) : List Nat :=
  (posts.filter fun post => c.command post.2).map Prod.fst

/-- The workers for whom the matter is open. -/
def unsettled (c : Matter) (workers : List Worker) (posts : List (Nat × Command)) : List Nat :=
  c.pending workers ++ c.queued posts

/-- Whether a worker has the matter to settle from the beginning of its action on. -/
def begins (c : Matter) (worker : Worker) : Bool :=
  !c.worker worker && c.worker { worker with begun := true }

/-- The workers for whom a move raises the matter: new ones, and one that begins its action. -/
def raised (c : Matter) (before after : Work) : Move → List Nat
  | .commence id =>
      match before.workers.find? fun worker => worker.id = id with
      | some worker => if c.begins worker then [id] else []
      | none => []
  | .happen _ _ | .send _ | .deliver => []
  | _ => c.pending (after.workers.drop before.workers.length)

/-- The workers for whom a move settles the matter. -/
def settled (c : Matter) (posts : List (Nat × Command)) : Move → List Nat
  | .deliver => c.queued (posts.take 1)
  | _ => []

section Lists

variable (c : Matter)

theorem pending_append (front back : List Worker) :
    c.pending (front ++ back) = c.pending front ++ c.pending back := by
  simp only [pending, List.filter_append, List.map_append]

theorem queued_append (front back : List (Nat × Command)) :
    c.queued (front ++ back) = c.queued front ++ c.queued back := by
  simp only [queued, List.filter_append, List.map_append]

theorem mem_pending {workers : List Worker} {id : Nat} :
    id ∈ c.pending workers ↔ ∃ worker ∈ workers, c.worker worker = true ∧ worker.id = id := by
  simp only [pending, List.mem_map, List.mem_filter, and_assoc]

theorem exists_of_queued {posts : List (Nat × Command)} {id : Nat} (hQueued : id ∈ c.queued posts) :
    ∃ command, (id, command) ∈ posts := by
  obtain ⟨⟨id, command⟩, hPost, rfl⟩ := List.mem_map.mp hQueued
  exact ⟨command, (List.mem_filter.mp hPost).1⟩

theorem pending_singleton (worker : Worker) :
    c.pending [worker] = if c.worker worker then [worker.id] else [] := by
  rw [pending, List.filter_cons, List.filter_nil]
  split <;> rfl

theorem queued_singleton (id : Nat) (command : Command) :
    c.queued [(id, command)] = if c.command command then [id] else [] := by
  rw [queued, List.filter_cons, List.filter_nil]
  split <;> rfl

theorem pending_map {workers : List Worker} {change : Worker → Worker}
    (hId : ∀ worker, (change worker).id = worker.id)
    (hSame : ∀ worker, c.worker (change worker) = c.worker worker) :
    c.pending (workers.map change) = c.pending workers := by
  have hFilter : (c.worker ∘ change) = c.worker := funext hSame
  have hIds : Worker.id ∘ change = Worker.id := funext hId
  rw [pending, List.filter_map, List.map_map, hFilter, hIds, pending]

theorem raised_of_user {before after : Work} {m : Move} (hUser : m.isUsers = true) :
    c.raised before after m = c.pending (after.workers.drop before.workers.length) := by
  cases m <;> first | rfl | cases hUser

theorem settled_of_user (posts : List (Nat × Command)) {m : Move} (hUser : m.isUsers = true) :
    c.settled posts m = [] := by
  cases m <;> first | rfl | cases hUser

theorem raised_commence {w : Work} (hStaffed : w.Staffed) {worker : Worker} (hMem : worker ∈ w.workers)
    (after : Work) :
    c.raised w after (.commence worker.id) = if c.begins worker then [worker.id] else [] := by
  simp only [raised, hStaffed.find? hMem]

/-- A matter that settles another one as well is open no more often. -/
theorem length_unsettled_le {c other : Matter}
    (hWorker : ∀ w : Worker, c.worker w = true → other.worker w = true)
    (hCommand : ∀ command, c.command command = true → other.command command = true)
    (workers : List Worker) (posts : List (Nat × Command)) :
    (c.unsettled workers posts).length ≤ (other.unsettled workers posts).length := by
  simp only [unsettled, pending, queued, List.length_append, List.length_map,
    ← List.countP_eq_length_filter]
  exact Nat.add_le_add (List.countP_mono_left fun w _ => hWorker w)
    (List.countP_mono_left fun post _ => hCommand post.2)

/-- Queueing goes on at the end, and delivery at the front. -/
theorem queued_turn (w : Work) (posts : List (Nat × Command)) (m : Move) :
    c.settled posts m ++ c.queued (Work.kept posts m ++ w.posted m) =
      c.queued posts ++ c.queued (w.posted m) := by
  have hKept : c.settled posts m ++ c.queued (Work.kept posts m) = c.queued posts := by
    cases m with
    | deliver =>
        cases posts with
        | nil => rfl
        | cons post rest => exact (c.queued_append [post] rest).symm
    | _ => rfl
  rw [queued_append, ← List.append_assoc, hKept]

end Lists

end Matter

namespace Work

variable {w : Work}

/-- A worker stands at one place among the workers. -/
theorem Staffed.split (h : w.Staffed) {before : Worker} (hMem : before ∈ w.workers) :
    ∃ front back, w.workers = front ++ before :: back ∧
      (∀ worker : Worker, worker.id = before.id →
        (w.replace worker).workers = front ++ worker :: back) ∧
      (w.workers.filter fun other => other.id ≠ before.id) = front ++ back := by
  obtain ⟨front, back, hWorkers⟩ := List.append_of_mem hMem
  have hIds : (w.workers.map Worker.id).Nodup := h.ordered.imp Nat.ne_of_lt
  rw [hWorkers, List.map_append, List.map_cons, List.nodup_append] at hIds
  obtain ⟨_, hBack, hApart⟩ := hIds
  have hOthers : ∀ other ∈ front ++ back, other.id ≠ before.id := by
    intro other hOther
    rcases List.mem_append.mp hOther with hFront | hLater
    · exact hApart _ (List.mem_map_of_mem hFront) _ List.mem_cons_self
    · exact fun hId => (List.nodup_cons.mp hBack).1 (hId ▸ List.mem_map_of_mem hLater)
  refine ⟨front, back, hWorkers, fun worker hId => ?_, ?_⟩
  · have hKept : ∀ {part : List Worker}, (∀ other ∈ part, other.id ≠ before.id) →
        (part.map fun other => if other.id = worker.id then worker else other) = part := by
      intro part hPart
      refine (List.map_congr_left fun other hOther => ?_).trans (List.map_id part)
      exact if_neg (hId ▸ hPart other hOther)
    have hFront := hKept fun other hOther => hOthers other (List.mem_append_left _ hOther)
    have hLater := hKept fun other hOther => hOthers other (List.mem_append_right _ hOther)
    simp only [replace, hWorkers, List.map_append, List.map_cons, hFront, hLater]
    rw [if_pos hId.symm]
  · have hKept : ∀ {part : List Worker}, (∀ other ∈ part, other.id ≠ before.id) →
        (part.filter fun other => other.id ≠ before.id) = part :=
      fun hPart => List.filter_eq_self.mpr fun other hOther => decide_eq_true (hPart other hOther)
    have hFront := hKept fun other hOther => hOthers other (List.mem_append_left _ hOther)
    have hLater := hKept fun other hOther => hOthers other (List.mem_append_right _ hOther)
    rw [hWorkers, List.filter_append, List.filter_cons_of_neg (by simp), hFront, hLater]

end Work

namespace Matter

section Turns

variable {w after : Work} {m : Move} (c : Matter)

theorem pending_replace (hStaffed : w.Staffed) {before : Worker} (hMem : before ∈ w.workers)
    (worker : Worker) (hId : worker.id = before.id) :
    ∃ front back, c.pending w.workers = front ++ c.pending [before] ++ back ∧
      c.pending (w.replace worker).workers = front ++ c.pending [worker] ++ back := by
  obtain ⟨front, back, hWorkers, hReplaced, _⟩ := hStaffed.split hMem
  refine ⟨c.pending front, c.pending back, ?_, ?_⟩
  · rw [hWorkers, ← List.singleton_append, pending_append, pending_append, List.append_assoc]
  · rw [hReplaced worker hId, ← List.singleton_append, pending_append, pending_append,
      List.append_assoc]

theorem pending_replace_of_eq (hStaffed : w.Staffed) {before worker : Worker}
    (hMem : before ∈ w.workers) (hId : worker.id = before.id)
    (hSame : c.worker worker = c.worker before) :
    c.pending (w.replace worker).workers = c.pending w.workers := by
  obtain ⟨front, back, hBefore, hAfter⟩ := c.pending_replace hStaffed hMem worker hId
  rw [hBefore, hAfter, pending_singleton, pending_singleton, hSame, hId]

theorem pending_leave (hStaffed : w.Staffed) {worker : Worker} (hMem : worker ∈ w.workers)
    (hErrand : worker.errand = .sending []) :
    c.pending (w.workers.filter fun other => other.id ≠ worker.id) = c.pending w.workers := by
  obtain ⟨front, back, hWorkers, _, hLeft⟩ := hStaffed.split hMem
  have hNothing : c.pending [worker] = [] := by
    rw [pending_singleton, c.sending hErrand]
    rfl
  rw [hLeft, hWorkers, ← List.singleton_append (x := worker), pending_append, pending_append,
    pending_append, hNothing, List.nil_append]

theorem pending_begin (hStaffed : w.Staffed) {worker : Worker} (hMem : worker ∈ w.workers) :
    (c.pending (w.replace { worker with begun := true }).workers).Perm
      (c.pending w.workers ++ if c.begins worker then [worker.id] else []) := by
  cases hBefore : c.worker worker with
  | true =>
      have hSame : c.pending (w.replace { worker with begun := true }).workers = c.pending w.workers :=
        c.pending_replace_of_eq hStaffed hMem rfl ((c.begun hBefore).trans hBefore.symm)
      rw [hSame, begins, hBefore]
      exact .of_eq (List.append_nil _).symm
  | false =>
      obtain ⟨front, back, hPending, hReplaced⟩ :=
        c.pending_replace hStaffed hMem { worker with begun := true } rfl
      rw [hReplaced, hPending, pending_singleton, pending_singleton, hBefore, begins, hBefore,
        if_neg Bool.false_ne_true, List.append_nil, List.append_assoc, List.append_assoc]
      exact .append_left _ List.perm_append_comm

/-- The worker that queues a command gives the matter up together with it. -/
theorem pending_tell {worker : Worker} {command : Command} {rest : List Command}
    (hOrderly : worker.errand.Orderly) (hErrand : worker.errand = .sending (command :: rest)) :
    c.pending [{ worker with errand := .sending rest }] ++ c.queued [(worker.id, command)] =
      c.pending [worker] := by
  obtain ⟨all, hSays, hSuffix⟩ := hOrderly _ hErrand
  have hOnce : (command :: rest).countP c.command ≤ 1 :=
    Nat.le_trans hSuffix.sublist.countP_le (c.once hSays)
  have hBefore : c.worker worker = (c.command command || rest.any c.command) := c.sending hErrand
  have hAfter : c.worker { worker with errand := .sending rest } = rest.any c.command := c.sending rfl
  rw [pending_singleton, pending_singleton, queued_singleton, hBefore, hAfter]
  cases hCommand : c.command command with
  | false => simp
  | true =>
      rw [List.countP_cons_of_pos hCommand] at hOnce
      have hRest : rest.any c.command = false := by
        rw [← Bool.not_eq_true, List.any_eq_true]
        exact fun hSome => Nat.not_lt_of_le (Nat.le_of_succ_le_succ hOnce) (List.countP_pos_iff.mpr hSome)
      simp [hRest]

theorem pending_send (hStaffed : w.Staffed) {worker : Worker} {command : Command}
    {rest : List Command} (hMem : worker ∈ w.workers) (hOrderly : worker.errand.Orderly)
    (hErrand : worker.errand = .sending (command :: rest)) :
    (c.pending (w.replace { worker with errand := .sending rest }).workers ++
      c.queued [(worker.id, command)]).Perm (c.pending w.workers) := by
  obtain ⟨front, back, hPending, hReplaced⟩ :=
    c.pending_replace hStaffed hMem { worker with errand := .sending rest } rfl
  rw [hReplaced, hPending, ← c.pending_tell hOrderly hErrand, List.append_assoc, List.append_assoc,
    List.append_assoc, List.append_assoc]
  exact .append_left _ (.append_left _ List.perm_append_comm)

/-- What the workers have to settle they queue, and nothing is raised but by a new worker or by one that
begins its action. -/
theorem pending_turn (hStaffed : w.Staffed) (hOrderly : ∀ worker ∈ w.workers, worker.errand.Orderly)
    (hTurn : w.Turn m after) :
    (c.pending after.workers ++ c.queued (w.posted m)).Perm
      (c.pending w.workers ++ c.raised w after m) := by
  have hQuiet : w.posted m = [] → c.raised w after m = [] →
      c.pending after.workers = c.pending w.workers →
      (c.pending after.workers ++ c.queued (w.posted m)).Perm
        (c.pending w.workers ++ c.raised w after m) := by
    intro hPosted hRaised hPending
    rw [hPosted, hRaised, hPending]
    exact .refl _
  have hStays : m.isUsers = true → after.workers.length = w.workers.length →
      c.pending after.workers = c.pending w.workers →
      (c.pending after.workers ++ c.queued (w.posted m)).Perm
        (c.pending w.workers ++ c.raised w after m) := by
    intro hUser hLength
    refine hQuiet (Work.posted_of_user w hUser) ?_
    rw [c.raised_of_user hUser, ← hLength, List.drop_length]
    rfl
  have hEmploys : ∀ errand, m.isUsers = true → after.workers = (w.employ errand).workers →
      (c.pending after.workers ++ c.queued (w.posted m)).Perm
        (c.pending w.workers ++ c.raised w after m) := by
    intro errand hUser hWorkers
    rw [Work.posted_of_user w hUser, c.raised_of_user hUser, hWorkers, Work.employ, pending_append,
      List.drop_left]
    exact .of_eq (List.append_nil _)
  cases hTurn with
  | keeps hUser => exact hStays hUser rfl rfl
  | starts hUser => exact hEmploys _ hUser rfl
  | cancels hUser =>
      refine hStays hUser (List.length_map _) (c.pending_map (fun worker => ?_) fun worker => ?_)
      · split <;> rfl
      · split
        · exact c.cancelled worker
        · rfl
  | drops hUser => exact hStays hUser rfl rfl
  | fetches hUser => exact hEmploys _ hUser rfl
  | commences hMem =>
      rw [c.raised_commence hStaffed hMem]
      exact (List.append_nil _).symm ▸ c.pending_begin hStaffed hMem
  | happens hMem hMeet hStep =>
      exact hQuiet rfl rfl (c.pending_replace_of_eq hStaffed hMem rfl (c.happens hMeet hStep))
  | sends hMem hErrand =>
      rw [Work.posted_send hStaffed hMem hErrand]
      exact (List.append_nil _).symm ▸ c.pending_send hStaffed hMem (hOrderly _ hMem) hErrand
  | leaves hMem hErrand =>
      refine hQuiet ?_ rfl (c.pending_leave hStaffed hMem hErrand)
      rw [Work.posted_send hStaffed hMem hErrand]
      rfl
  | @delivers command =>
      exact hQuiet rfl rfl (congrArg c.pending (Work.workers_apply _ command))

/-- A matter that is open is raised before and settled after, each once. -/
theorem unsettled_turn (posts : List (Nat × Command)) (hStaffed : w.Staffed)
    (hOrderly : ∀ worker ∈ w.workers, worker.errand.Orderly) (hTurn : w.Turn m after) :
    (c.settled posts m ++ c.unsettled after.workers (Work.kept posts m ++ w.posted m)).Perm
      (c.unsettled w.workers posts ++ c.raised w after m) := by
  rw [List.perm_iff_count]
  intro id
  have hQueued := congrArg (List.count id) (c.queued_turn w posts m)
  have hPending := (c.pending_turn hStaffed hOrderly hTurn).count_eq id
  simp only [unsettled, List.count_append] at hQueued hPending ⊢
  omega

end Turns

end Matter

end AuditDesk

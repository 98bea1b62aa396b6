import AuditDesk.Proofs.Desk.Accounting
import AuditDesk.Proofs.Desk.Told

/-! What a failed analysis leaves behind. From its start to its end the report on the screen stays, since
no other analysis can bring one meanwhile; its worker says two things, and neither of them touches more
than the standing of the analysis and the notices. -/
namespace AuditDesk

open Service

/-- The error that a submission has come to. -/
def Service.Stage.error? : Stage → Option AnalysisError
  | .ended (.error e) => some e
  | _ => none

/-- The error that an event ends an analysis with. -/
def Errand.error? (policy : PollPolicy) : Errand → Event → Option AnalysisError
  | .analysis _ stage, event => (stage.step policy event).bind Stage.error?
  | _, _ => none

namespace Work

/-- What a worker is at. One who is gone is as one with nothing left to say. -/
def errandOf (w : Work) (id : Nat) : Errand :=
  ((w.workers.find? fun worker => worker.id = id).map Worker.errand).getD (.sending [])

/-- The error that a move ends an analysis with, with the number of its worker. -/
def failed (w : Work) : Move → List (Nat × AnalysisError)
  | .happen id event => ((w.errandOf id).error? w.policy event).toList.map fun e => (id, e)
  | _ => []

end Work

/-- A part of a run: which worker has queued which commands in it and whose analysis has come to which
error, and the ledger that it leads to. -/
inductive Ledger.Stretch (start : Ledger) :
    List (Nat × Command) → List (Nat × AnalysisError) → Ledger → Prop
  | begin : Stretch start [] [] start
  | move {said : List (Nat × Command)} {errors : List (Nat × AnalysisError)} {l : Ledger} {m : Move}
      (prior : Stretch start said errors l) (hAllows : l.desk.Allows m) :
      Stretch start (said ++ l.desk.work.posted m) (errors ++ l.desk.work.failed m) (l.after m)

section Entries

variable {Entry : Type}

/-- What a list notes about one worker. -/
def entriesOf (id : Nat) (list : List (Nat × Entry)) : List Entry :=
  (list.filter fun entry => entry.1 = id).map Prod.snd

theorem entriesOf_append (id : Nat) (front back : List (Nat × Entry)) :
    entriesOf id (front ++ back) = entriesOf id front ++ entriesOf id back := by
  rw [entriesOf, List.filter_append, List.map_append, entriesOf, entriesOf]

theorem entriesOf_map_self (id : Nat) (entries : List Entry) :
    entriesOf id (entries.map fun entry => (id, entry)) = entries := by
  have hAll : (entries.map fun entry => (id, entry)).filter (fun entry => entry.1 = id) =
      entries.map fun entry => (id, entry) := by
    refine List.filter_eq_self.mpr fun entry hEntry => ?_
    obtain ⟨_, _, rfl⟩ := List.mem_map.mp hEntry
    exact decide_eq_true rfl
  rw [entriesOf, hAll, List.map_map]
  exact List.map_id _

theorem entriesOf_map_other {id other : Nat} (h : other ≠ id) (entries : List Entry) :
    entriesOf id (entries.map fun entry => (other, entry)) = [] := by
  rw [entriesOf, List.map_eq_nil_iff, List.filter_eq_nil_iff]
  intro entry hEntry
  obtain ⟨_, _, rfl⟩ := List.mem_map.mp hEntry
  simpa using h

theorem mem_entriesOf {id : Nat} {list : List (Nat × Entry)} {entry : Entry} :
    entry ∈ entriesOf id list ↔ (id, entry) ∈ list := by
  simp [entriesOf]

end Entries

namespace Errand

variable {policy : PollPolicy} {errand next : Errand} {said told : List Command}
  {errors met : List AnalysisError}

/-- What one move makes of one errand, with the commands queued and the errors met on the way. -/
inductive Acts (policy : PollPolicy) : Errand → List Command → List AnalysisError → Errand → Prop
  | stays (errand : Errand) : Acts policy errand [] [] errand
  | steps {errand next : Errand} {event : Event} (hStep : errand.step policy event = some next) :
      Acts policy errand [] (errand.error? policy event).toList next
  | tells (command : Command) (rest : List Command) :
      Acts policy (.sending (command :: rest)) [command] [] (.sending rest)

/-- Where the errand of an analysis stands, by what its worker has said and met since its start. -/
inductive Spoken : List Command → List AnalysisError → Errand → Prop
  | submitting (request : Request) (stage : Stage) : Spoken [] [] (.analysis request stage)
  | recording (report : Report) : Spoken [] [] (.recording report)
  | recorded {report : Report} {answer : Except NetworkError (List Report)} {said rest : List Command}
      (h : said ++ rest = [.analysisFinished report, listed answer]) : Spoken said [] (.sending rest)
  | failed {e : AnalysisError} {said rest : List Command} (h : said ++ rest = failure e) :
      Spoken said [e] (.sending rest)

theorem spoken_ofStage (request : Request) (stage : Stage) :
    Spoken [] stage.error?.toList (ofStage request stage) := by
  unfold ofStage
  split
  · exact .recording _
  · exact .failed rfl
  · rename_i hFailed
    have hNone : stage.error? = none := by
      unfold Stage.error?
      split
      · exact absurd rfl (hFailed _)
      · rfl
    rw [hNone]
    exact .submitting request stage

theorem Spoken.acts (h : Spoken said errors errand) (hActs : Acts policy errand told met next) :
    Spoken (said ++ told) (errors ++ met) next := by
  cases hActs with
  | stays => simpa using h
  | @steps _ _ event hStep =>
      rw [List.append_nil]
      cases h with
      | submitting request stage =>
          obtain ⟨after, hAfter, rfl⟩ := Option.map_eq_some_iff.mp hStep
          simp only [error?, hAfter, Option.bind_some, List.nil_append]
          exact spoken_ofStage request after
      | recording report =>
          match event, hStep with
          | .reply (.history answer), rfl => exact .recorded rfl
      | recorded hAll => cases hStep
      | failed hAll => cases hStep
  | tells command rest =>
      rw [List.append_nil]
      cases h with
      | recorded hAll => exact .recorded ((List.append_assoc _ _ _).trans hAll)
      | failed hAll => exact .failed ((List.append_assoc _ _ _).trans hAll)

theorem exists_failure (e : AnalysisError) : ∃ level title,
    failure e = [.notify level title e.message, .analysisFailed e.message] := by
  unfold failure
  split <;> exact ⟨_, _, rfl⟩

/-- A worker that has said that its analysis failed has said so last. -/
theorem Spoken.of_failed (h : Spoken said errors errand) {message : String}
    (hFailed : .analysisFailed message ∈ said) :
    ∃ e, errors = [e] ∧ message = e.message ∧ said = failure e ∧ errand = .sending [] := by
  cases h with
  | submitting => cases hFailed
  | recording => cases hFailed
  | @recorded report answer _ rest hAll =>
      have hMem := List.mem_append_left rest hFailed
      rw [hAll] at hMem
      cases answer <;> simp [listed] at hMem
  | @failed e _ rest hAll =>
      obtain ⟨level, title, hFailure⟩ := exists_failure e
      have hParts := hAll.trans hFailure
      cases said with
      | nil => cases hFailed
      | cons first said =>
          obtain ⟨rfl, hTail⟩ := List.cons_eq_cons.mp hParts
          cases said with
          | nil => cases List.mem_singleton.mp hFailed
          | cons second said =>
              obtain ⟨rfl, hRest⟩ := List.cons_eq_cons.mp hTail
              obtain ⟨rfl, rfl⟩ := List.append_eq_nil_iff.mp hRest
              have hMessage : message = e.message := by simpa using hFailed
              exact ⟨e, rfl, hMessage, hFailure.symm, rfl⟩

/-- A worker with nothing left to say remains one. -/
theorem Acts.silent (h : Acts policy (.sending []) told met next) :
    told = [] ∧ met = [] ∧ next = .sending [] := by
  cases h with
  | stays => exact ⟨rfl, rfl, rfl⟩
  | steps hStep => cases hStep

end Errand

namespace Work

section Turns

variable {w after : Work} {m : Move} {id : Nat}

theorem errandOf_of_mem (hStaffed : w.Staffed) {worker : Worker} (hMem : worker ∈ w.workers) :
    w.errandOf worker.id = worker.errand := by
  rw [errandOf, hStaffed.find? hMem]
  rfl

/-- A new worker has a number of its own. -/
theorem errandOf_employ (hKnown : id < w.nextWorker) (errand : Errand) :
    (w.employ errand).errandOf id = w.errandOf id := by
  have hOther : decide (w.nextWorker = id) = false := decide_eq_false (Nat.ne_of_gt hKnown)
  simp [errandOf, employ, List.find?_append, hOther]

theorem errandOf_of_map {change : Worker → Worker} (hId : ∀ other, (change other).id = other.id)
    (hErrand : ∀ other : Worker, other.id = id → (change other).errand = other.errand)
    (hAfter : after.workers = w.workers.map change) : after.errandOf id = w.errandOf id := by
  have hSame : ((fun worker : Worker => decide (worker.id = id)) ∘ change) =
      fun worker => decide (worker.id = id) := funext fun other => congrArg (decide <| · = id) (hId other)
  rw [errandOf, errandOf, hAfter, List.find?_map, hSame]
  cases hFound : w.workers.find? fun worker => worker.id = id with
  | none => rfl
  | some other =>
      have hFits := List.find?_some hFound
      exact hErrand other (of_decide_eq_true hFits)

/-- A worker that goes on is at another errand, and the others are where they were. -/
theorem errandOf_replace (hStaffed : w.Staffed) {worker : Worker} (hMem : worker ∈ w.workers)
    (errand : Errand) (begun cancelled : Bool) :
    (w.replace ⟨worker.id, errand, begun, cancelled⟩).errandOf id =
      if worker.id = id then errand else w.errandOf id := by
  split
  · rename_i hId
    have hAfter : (w.replace ⟨worker.id, errand, begun, cancelled⟩).Staffed :=
      hStaffed.of_same_ids (ids_replace w _) rfl
    have hThere : ⟨worker.id, errand, begun, cancelled⟩ ∈
        (w.replace ⟨worker.id, errand, begun, cancelled⟩).workers :=
      List.mem_map.mpr ⟨worker, hMem, if_pos rfl⟩
    rw [← hId]
    exact errandOf_of_mem hAfter hThere
  · rename_i hId
    refine errandOf_of_map (fun other => ?_) (fun other hOther => ?_) rfl
    · split
      · rename_i hSame
        exact hSame.symm
      · rfl
    · rw [if_neg fun hSame => hId (hSame.symm.trans hOther)]

theorem errandOf_leave (hStaffed : w.Staffed) {worker : Worker} (hMem : worker ∈ w.workers)
    (hErrand : worker.errand = .sending []) :
    errandOf { w with workers := w.workers.filter fun other => other.id ≠ worker.id } id =
      w.errandOf id := by
  by_cases hId : worker.id = id
  · subst hId
    have hGone : ((w.workers.filter fun other => other.id ≠ worker.id).find?
        fun other => other.id = worker.id) = none :=
      List.find?_eq_none.mpr fun other hOther hSame =>
        of_decide_eq_true (List.mem_filter.mp hOther).2 (of_decide_eq_true hSame)
    rw [errandOf_of_mem hStaffed hMem, hErrand, errandOf, hGone]
    rfl
  · obtain ⟨front, back, hWorkers, _, hLeft⟩ := hStaffed.split hMem
    have hOther : (worker :: back).find? (fun other => other.id = id) =
        back.find? fun other => other.id = id := List.find?_cons_of_neg (by simpa using hId)
    rw [errandOf, errandOf, hLeft, hWorkers, List.find?_append, List.find?_append, hOther]

/-- Only the user starts an analysis. -/
theorem Turn.of_start (hTurn : w.Turn m after) (hIdle : w.analysis ≠ .running)
    (hRunning : after.analysis = .running) : m.isUsers = true ∧ ∃ request,
      after.workers = w.workers ++ [⟨w.nextWorker, .analysis request .asking, false, false⟩] := by
  cases hTurn with
  | starts hUser _ request => exact ⟨hUser, request, rfl⟩
  | cancels _ _ hWas => exact absurd hWas hIdle
  | @delivers command rest =>
      cases command with
      | analysisFinished report => cases hRunning
      | analysisFailed message => cases hRunning
      | _ => exact absurd hRunning hIdle
  | _ => exact absurd hRunning hIdle

theorem failed_of_user (w : Work) (hUser : m.isUsers = true) : w.failed m = [] := by
  cases m <;> first | rfl | cases hUser

/-- What one move makes of the errand of one worker. -/
theorem Turn.acts (hStaffed : w.Staffed) (hTurn : w.Turn m after) (hKnown : id < w.nextWorker) :
    Errand.Acts w.policy (w.errandOf id) (entriesOf id (w.posted m)) (entriesOf id (w.failed m))
      (after.errandOf id) := by
  have hUsers : m.isUsers = true → after.errandOf id = w.errandOf id →
      Errand.Acts w.policy (w.errandOf id) (entriesOf id (w.posted m)) (entriesOf id (w.failed m))
        (after.errandOf id) := by
    intro hUser hSame
    rw [posted_of_user w hUser, failed_of_user w hUser, hSame]
    exact .stays _
  cases hTurn with
  | keeps hUser => exact hUsers hUser rfl
  | starts hUser hIdle request => exact hUsers hUser (errandOf_employ hKnown _)
  | cancels hUser =>
      refine hUsers hUser (errandOf_of_map (fun other => ?_) (fun other _ => ?_) rfl)
      · split <;> rfl
      · split <;> rfl
  | drops hUser => exact hUsers hUser rfl
  | fetches hUser => exact hUsers hUser (errandOf_employ hKnown _)
  | @commences worker hMem =>
      rw [errandOf_replace hStaffed hMem]
      split
      · rename_i hId
        rw [← hId, errandOf_of_mem hStaffed hMem]
        exact .stays _
      · exact .stays _
  | @happens worker event next hMem hMeet hStep =>
      rw [errandOf_replace hStaffed hMem, failed]
      split
      · rename_i hId
        rw [← hId, entriesOf_map_self, errandOf_of_mem hStaffed hMem]
        exact .steps hStep
      · rename_i hId
        rw [entriesOf_map_other hId]
        exact .stays _
  | @sends worker command rest hMem hErrand =>
      have hAfter : (w.replace { worker with errand := .sending rest }).errandOf id =
          if worker.id = id then .sending rest else w.errandOf id := errandOf_replace hStaffed hMem ..
      refine (?_ : Errand.Acts _ _ _ _ ((w.replace _).errandOf id))
      rw [hAfter, posted_send hStaffed hMem hErrand]
      split
      · rename_i hId
        rw [← hId, entriesOf_map_self, errandOf_of_mem hStaffed hMem, hErrand]
        exact .tells command rest
      · rename_i hId
        rw [entriesOf_map_other hId]
        exact .stays _
  | @leaves worker hMem hErrand =>
      rw [errandOf_leave hStaffed hMem hErrand, posted_send hStaffed hMem hErrand]
      exact .stays _
  | @delivers command rest hQueue =>
      have hSame : ({ w with queue := rest }.apply command).errandOf id = w.errandOf id := by
        rw [errandOf, workers_apply]
        rfl
      rw [hSame]
      exact .stays _

end Turns

end Work

namespace Standing

/-- What is owed in the end was owed before, or has been started meanwhile. -/
theorem mem_owed_after {mark : Mark} {s next : Standing} {id : Nat} (h : s.after mark = some next)
    (hOwed : id ∈ next.owed) : mark = .started id ∨ id ∈ s.owed := by
  unfold after at h
  split at h
  · cases h
    rw [List.mem_singleton.mp hOwed]
    exact .inl rfl
  · split at h <;> cases h
    exact .inr hOwed
  · split at h <;> cases h
    cases hOwed
  · cases h

theorem mem_owed_foldlM {marks : List Mark} {s next : Standing} {id : Nat}
    (h : marks.foldlM after s = some next) (hOwed : id ∈ next.owed) :
    .started id ∈ marks ∨ id ∈ s.owed := by
  induction marks generalizing s with
  | nil =>
      cases h
      exact .inr hOwed
  | cons mark marks ih =>
      obtain ⟨middle, hMiddle, hMarks⟩ := Option.bind_eq_some_iff.mp (List.foldlM_cons.symm.trans h)
      rcases ih hMarks with hStarted | hOwed
      · exact .inl (List.mem_cons_of_mem _ hStarted)
      · rcases mem_owed_after hMiddle hOwed with rfl | hBefore
        · exact .inl List.mem_cons_self
        · exact .inr hBefore

end Standing

namespace Ledger

variable {l : Ledger} {m : Move} {id : Nat}

theorem Reachable.known (h : l.Reachable) : ∀ post ∈ l.posts, post.1 < l.desk.nextWorker := by
  induction h with
  | start policy exportDir files storage store warnings => exact fun _ hPost => nomatch hPost
  | @move l m hBefore hAllows ih =>
      intro post hPost
      have hTurn := Desk.turn_move hBefore.desk.staffed hAllows
      refine Nat.lt_of_lt_of_le ?_ hTurn.nextWorker_le.1
      rcases List.mem_append.mp hPost with hKept | hPosted
      · refine ih post ?_
        cases m with
        | deliver => exact List.mem_of_mem_tail hKept
        | _ => exact hKept
      · obtain ⟨worker, hMem, hId, _⟩ := Work.exists_of_posted hPosted
        rw [← hId]
        exact hBefore.desk.staffed.known worker hMem

theorem Reachable.owing_of_after (h : l.Reachable) (hAllows : l.desk.Allows m)
    (hKnown : id < l.desk.nextWorker) (hOwing : id ∈ (l.after m).owing) : id ∈ l.owing := by
  obtain ⟨s, hLog, hFits⟩ := h.accounts.story
  obtain ⟨next, hNextLog, hNextFits⟩ := (h.move hAllows).accounts.story
  have hMarks : (l.desk.work.marks (l.desk.move m).work l.posts m).foldlM Standing.after s = some next := by
    have hWhole := (List.foldlM_append ..).symm.trans hNextLog
    rw [hLog] at hWhole
    exact hWhole
  have hOwed : id ∈ next.owed := hNextFits.owing ▸ hOwing
  rcases Standing.mem_owed_foldlM hMarks hOwed with hStarted | hBefore
  · have hNew : id ∈ (l.desk.work.marks (l.desk.move m).work l.posts m).filterMap Mark.started? :=
      List.mem_filterMap.mpr ⟨_, hStarted, rfl⟩
    rw [Work.starts_marks] at hNew
    split at hNew
    · rw [List.mem_singleton.mp hNew] at hKnown
      exact absurd hKnown (Nat.lt_irrefl _)
    · cases hNew
  · have hSame : l.owing = s.owed := hFits.owing
    rw [hSame]
    exact hBefore

/-- While an analysis is owed, no command brings another report. -/
theorem Reachable.report_of_after (h : l.Reachable) (hAllows : l.desk.Allows m)
    (hOwing : id ∈ (l.after m).owing) : (l.after m).desk.report = l.desk.report := by
  by_cases hDeliver : m = .deliver
  · subst hDeliver
    obtain ⟨s, _, hFits⟩ := h.accounts.story
    obtain ⟨command, queue, hQueue⟩ := List.exists_cons_of_ne_nil hAllows
    obtain ⟨⟨sender, posted⟩, rest, hPosts, hCommand, _⟩ :=
      List.map_eq_cons_iff.mp (h.accounts.posted.trans hQueue)
    obtain rfl : posted = command := hCommand
    have hAfter : (l.after .deliver).desk = { l.desk with queue := queue }.apply posted := by
      simp only [after, Desk.move, Desk.deliver, hQueue]
    have hTold := Desk.told_apply { l.desk with queue := queue } posted
    rw [← hAfter] at hTold
    cases hEnds : posted.endsAnalysis with
    | false =>
        have hReport := congrArg Desk.Told.report hTold
        cases posted with
        | analysisFinished report => cases hEnds
        | _ => exact hReport
    | true =>
        have hWork : (l.after .deliver).desk.work = { l.desk.work with queue := queue }.apply posted := by
          rw [hAfter]
          exact Desk.work_apply posted
        have hRest : (l.after .deliver).posts = rest := by
          simp only [after, Work.kept, Work.posted, hPosts, List.tail_cons, List.append_nil]
        rw [hPosts] at hFits
        have hIdle := (hFits.ends hEnds queue).2.owing
        rw [← hWork, ← hRest] at hIdle
        exact absurd (hIdle ▸ hOwing : id ∈ Standing.idle.owed) List.not_mem_nil
  · exact congrArg Desk.Told.report (l.desk.told_move hDeliver)

theorem Stretch.reachable {start : Ledger} {said : List (Nat × Command)}
    {errors : List (Nat × AnalysisError)} (h : start.Stretch said errors l) (hStart : start.Reachable) :
    l.Reachable := by
  induction h with
  | begin => exact hStart
  | move _ hAllows ih => exact ih.move hAllows

/-- What is true of a worker that carries out an analysis, with all that it has said and met, and of the
report on the screen meanwhile. -/
structure Follows (l : Ledger) (id : Nat) (report : Option Report) (said : List Command)
    (errors : List AnalysisError) : Prop where
  known : id < l.desk.nextWorker
  spoken : Errand.Spoken said errors (l.desk.work.errandOf id)
  queued : ∀ command, (id, command) ∈ l.posts → command ∈ said
  shown : id ∈ l.owing → l.desk.report = report

theorem Follows.start (h : l.Reachable) (hAllows : l.desk.Allows m)
    (hStarted : .started id ∈ l.desk.work.marks (l.desk.move m).work l.posts m) :
    (l.after m).Follows id l.desk.report [] [] := by
  have hTurn := Desk.turn_move h.desk.staffed hAllows
  have hNew : id ∈ (l.desk.work.marks (l.desk.move m).work l.posts m).filterMap Mark.started? :=
    List.mem_filterMap.mpr ⟨_, hStarted, rfl⟩
  rw [Work.starts_marks] at hNew
  split at hNew
  case isFalse => cases hNew
  case isTrue hStart =>
    obtain rfl := List.mem_singleton.mp hNew
    obtain ⟨hUser, request, hWorkers⟩ := hTurn.of_start hStart.1 hStart.2
    have hPosts : (l.after m).posts = l.posts := by
      simp only [after, Work.kept_of_user _ hUser, Work.posted_of_user _ hUser, List.append_nil]
    have hErrand : (l.desk.move m).work.errandOf l.desk.work.nextWorker = .analysis request .asking := by
      have hMem := List.mem_append_right l.desk.work.workers
        (List.mem_singleton_self (⟨l.desk.work.nextWorker, .analysis request .asking, false, false⟩ : Worker))
      exact Work.errandOf_of_mem (h.desk.staffed.turn hTurn) (hWorkers ▸ hMem)
    refine ⟨hTurn.nextWorker_le.2 hStart, ?_, fun command hPost => ?_, fun _ => ?_⟩
    · rw [after, hErrand]
      exact .submitting request .asking
    · rw [hPosts] at hPost
      exact absurd (h.known _ hPost) (Nat.lt_irrefl _)
    · refine congrArg Desk.Told.report (l.desk.told_move ?_)
      rintro rfl
      cases hUser

theorem Follows.move {report : Option Report} {said : List Command} {errors : List AnalysisError}
    (hFollows : l.Follows id report said errors) (h : l.Reachable) (hAllows : l.desk.Allows m) :
    (l.after m).Follows id report (said ++ entriesOf id (l.desk.work.posted m))
      (errors ++ entriesOf id (l.desk.work.failed m)) where
  known := Nat.lt_of_lt_of_le hFollows.known (Desk.turn_move h.desk.staffed hAllows).nextWorker_le.1
  spoken := hFollows.spoken.acts ((Desk.turn_move h.desk.staffed hAllows).acts h.desk.staffed hFollows.known)
  queued command hPost := by
    rcases List.mem_append.mp hPost with hKept | hPosted
    · refine List.mem_append_left _ (hFollows.queued command ?_)
      cases m with
      | deliver => exact List.mem_of_mem_tail hKept
      | _ => exact hKept
    · exact List.mem_append_right _ (mem_entriesOf.mpr hPosted)
  shown hOwing := by
    rw [h.report_of_after hAllows hOwing]
    exact hFollows.shown (h.owing_of_after hAllows hFollows.known hOwing)

theorem Stretch.follows {start : Ledger} {report : Option Report} {said : List (Nat × Command)}
    {errors : List (Nat × AnalysisError)} (h : start.Stretch said errors l) (hStart : start.Reachable)
    (hFollows : start.Follows id report [] []) :
    l.Follows id report (entriesOf id said) (entriesOf id errors) := by
  induction h with
  | begin => exact hFollows
  | move prior hAllows ih =>
      rw [entriesOf_append, entriesOf_append]
      exact ih.move (prior.reachable hStart) hAllows

/-- A worker with nothing left to say meets and says nothing any more. -/
theorem Stretch.silent {start : Ledger} {said : List (Nat × Command)}
    {errors : List (Nat × AnalysisError)} (h : start.Stretch said errors l) (hStart : start.Reachable)
    (hKnown : id < start.desk.nextWorker) (hSilent : start.desk.work.errandOf id = .sending []) :
    entriesOf id said = [] ∧ entriesOf id errors = [] ∧ id < l.desk.nextWorker ∧
      l.desk.work.errandOf id = .sending [] := by
  induction h with
  | begin => exact ⟨rfl, rfl, hKnown, hSilent⟩
  | @move said errors l m prior hAllows ih =>
      obtain ⟨hSaid, hErrors, hKnown, hSilent⟩ := ih
      have hStaffed := (prior.reachable hStart).desk.staffed
      have hTurn := Desk.turn_move hStaffed hAllows
      have hActs := hTurn.acts hStaffed hKnown
      rw [hSilent] at hActs
      obtain ⟨hTold, hMet, hAfter⟩ := hActs.silent
      rw [entriesOf_append, entriesOf_append, hSaid, hErrors, hTold, hMet]
      exact ⟨rfl, rfl, Nat.lt_of_lt_of_le hKnown hTurn.nextWorker_le.1, hAfter⟩

end Ledger

namespace Desk

/-- Nothing has changed but how the analysis stands, whether it can be cancelled, whether the history is
awaited, and the notices. -/
def Undisturbed (before after : Desk) : Prop :=
  after = { before with
    analysis := after.analysis, cancellable := after.cancellable, loading := after.loading,
    notices := after.notices }

/-- Only a report or a list changes what the user works on. -/
theorem undisturbed_apply (d : Desk) {command : Command} (hList : command.reports? = none)
    (hReport : ∀ report, command ≠ .analysisFinished report) : d.Undisturbed (d.apply command) := by
  cases command with
  | analysisFinished report => exact absurd rfl (hReport report)
  | historyLoaded reports => cases hList
  | _ => rfl

theorem undisturbed_failure (d : Desk) {e : AnalysisError} {command : Command}
    (h : command ∈ Errand.failure e) : d.Undisturbed (d.apply command) := by
  obtain ⟨level, title, hFailure⟩ := Errand.exists_failure e
  rw [hFailure] at h
  rcases List.mem_cons.mp h with rfl | h
  · exact d.undisturbed_apply rfl nofun
  · obtain rfl := List.mem_singleton.mp h
    exact d.undisturbed_apply rfl nofun

end Desk

namespace Ledger

/-- When an analysis ends in a failure, the report on the screen is the one from before its start. Its
worker has met one error and has told it twice, first in a notice and then as the end of the analysis, and
says nothing more. Neither of the two changes more than how the analysis stands, whether it can be
cancelled, whether the history is awaited, and the notices; nor does a failure to fetch the history. -/
theorem failure_leaves_rest {l : Ledger} (h : l.Reachable) {m : Move} (hAllows : l.desk.Allows m)
    {id : Nat} (hStarted : .started id ∈ l.desk.work.marks (l.desk.move m).work l.posts m)
    {said : List (Nat × Command)} {errors : List (Nat × AnalysisError)} {l' : Ledger}
    (hStretch : (l.after m).Stretch said errors l') {message : String} {rest : List (Nat × Command)}
    (hEnded : l'.posts = (id, .analysisFailed message) :: rest) :
    (l'.after .deliver).desk.report = l.desk.report ∧
      (∃ e : AnalysisError, entriesOf id errors = [e] ∧ message = e.message ∧
        entriesOf id said =
          [if e.isCancelled then .notify .info "Analysis Cancelled" message
            else .notify .error "Analysis Failed" message, .analysisFailed message]) ∧
      (∀ {more met last}, l'.Stretch more met last → entriesOf id more = [] ∧ entriesOf id met = []) ∧
      (∀ command ∈ entriesOf id said, ∀ d : Desk, d.Undisturbed (d.apply command)) ∧
      ∀ (d : Desk) (reason : String), d.Undisturbed (d.apply (.historyFailed reason)) := by
  have hStart := h.move hAllows
  have hReachable := hStretch.reachable hStart
  have hFollows := hStretch.follows hStart (.start h hAllows hStarted)
  have hPost : (id, .analysisFailed message) ∈ l'.posts := hEnded ▸ List.mem_cons_self
  obtain ⟨e, hErrors, rfl, hSaid, hSilent⟩ := hFollows.spoken.of_failed (hFollows.queued _ hPost)
  refine ⟨?_, ⟨e, hErrors, rfl, hSaid⟩, fun hMore => ?_, fun command hMem d => ?_, fun d reason => ?_⟩
  · have hQueue : l'.desk.queue = .analysisFailed e.message :: rest.map Prod.snd := by
      have hPosted := hReachable.accounts.posted
      rw [hEnded] at hPosted
      exact hPosted.symm
    have hOwing : id ∈ l'.owing :=
      List.mem_append_right _ (List.mem_map.mpr ⟨_, List.mem_filter.mpr ⟨hPost, rfl⟩, rfl⟩)
    have hAfter : (l'.after .deliver).desk.report = l'.desk.report := by
      simp only [after, Desk.move, Desk.deliver, hQueue, Desk.apply, Desk.failAnalysis]
    exact hAfter.trans (hFollows.shown hOwing)
  · obtain ⟨hNothing, hNone, _⟩ := hMore.silent hReachable hFollows.known hSilent
    exact ⟨hNothing, hNone⟩
  · exact d.undisturbed_failure (hSaid ▸ hMem)
  · exact d.undisturbed_apply rfl (by simp)

/-- The analysis of an opening, cancelled and given up, with its end about to be told. -/
def givenUp : Ledger :=
  ((((opening.after (.press (.ofCode .escape))).after (.happen 0 .cancelled)).after (.send 0)).after
    (.send 0)).after .deliver

theorem failure_leaves_rest_given_up :
    givenUp.Reachable ∧ givenUp.posts = [(0, .analysisFailed AnalysisError.cancelled.message)] ∧
      (givenUp.after .deliver).desk.report = none := by
  have hBlank : blank.Reachable := .start ..
  have hSource : (blank.after (.setSource "contract" .solidity none)).Reachable := .move hBlank trivial
  have hStretch : ∃ said errors, opening.Stretch said errors givenUp :=
    ⟨_, _, .move (.move (.move (.move (.move .begin trivial) ⟨_, rfl, rfl, rfl⟩) ⟨_, _, rfl, rfl⟩)
      ⟨_, _, rfl, rfl⟩) (List.cons_ne_nil _ _)⟩
  obtain ⟨said, errors, hStretch⟩ := hStretch
  have hEnded : givenUp.posts = [(0, .analysisFailed AnalysisError.cancelled.message)] := rfl
  refine ⟨hStretch.reachable reachable_opening, hEnded, ?_⟩
  exact (failure_leaves_rest hSource (m := .press (.ofChar 'a')) trivial (by decide) hStretch hEnded).1

end Ledger

end AuditDesk

import AuditDesk.Proofs.Desk.Accounting
import AuditDesk.Proofs.Desk.Matter
import AuditDesk.Proofs.Desk.Told

/-! In which order the history is asked for, and in which order the answers reach the desk. Every answer
belongs to a question of its own. As long as no analysis is started while the history is being fetched,
there is one question at a time and the answers keep the order of the questions; an analysis started
meanwhile asks for itself, and the older answer may come after its own. -/
namespace AuditDesk

open Service

/-- Whether the desk no longer says that the history is being fetched once the command is applied. -/
def Command.endsLoading : Command → Bool
  | .historyLoaded _ | .historyFailed _ | .analysisFailed _ => true
  | _ => false

theorem Command.endsLoading_of_answers {command : Command} (h : command.answersHistory = true) :
    command.endsLoading = true := by
  cases command <;> first | rfl | cases h

namespace Errand

/-- Whether a command that ends the loading has still to be queued. -/
def isLoading : Errand → Bool
  | .sending commands => commands.any Command.endsLoading
  | _ => true

theorem Says.isLoading {commands : List Command} (h : Says commands) :
    (Errand.sending commands).isLoading = true := by
  cases h with
  | recorded report answer => cases answer <;> rfl
  | listed answer => cases answer <;> rfl
  | failed e =>
      unfold failure
      split <;> rfl

variable {policy : PollPolicy} {errand next : Errand} {event : Event}

theorem isLoading_step (h : errand.step policy event = some next) :
    next.isLoading = errand.isLoading := by
  have hBefore : errand.isLoading = true := by
    cases errand with
    | sending commands => cases h
    | _ => rfl
  rw [hBefore]
  cases hNext : next with
  | sending commands => exact (says_step h hNext).isLoading
  | _ => rfl

end Errand

namespace Worker

/-- Whether the worker has asked for the history and not queued the answer yet. -/
def hasAsked (w : Worker) : Bool :=
  match w.errand with
  | .analysis _ _ => false
  | .recording _ | .listing => w.begun
  | .sending commands => commands.any Command.answersHistory

theorem isLoading_of_hasAsked {w : Worker} (h : w.hasAsked = true) : w.errand.isLoading = true := by
  unfold hasAsked at h
  cases hErrand : w.errand with
  | sending commands =>
      rw [hErrand] at h
      obtain ⟨command, hMem, hAnswers⟩ := List.any_eq_true.mp h
      exact List.any_eq_true.mpr ⟨command, hMem, Command.endsLoading_of_answers hAnswers⟩
  | _ => rfl

theorem hasAsked_ofStage (w : Worker) (request : Request) (stage : Stage) :
    hasAsked { w with errand := .ofStage request stage, begun := false } = false := by
  unfold Errand.ofStage
  split
  · rfl
  · rename_i e
    simp only [hasAsked, Errand.failure]
    split <;> rfl
  · rfl

theorem hasAsked_happens {policy : PollPolicy} {w : Worker} {event : Event} {next : Errand}
    (hMeet : w.MayMeet event) (hStep : w.errand.step policy event = some next) :
    hasAsked { w with errand := next, begun := false } = w.hasAsked := by
  obtain ⟨id, errand, begun, cancelled⟩ := w
  unfold Errand.step at hStep
  split at hStep
  · rename_i hErrand
    obtain rfl : errand = _ := hErrand
    obtain ⟨stage, _, rfl⟩ := Option.map_eq_some_iff.mp hStep
    exact hasAsked_ofStage ⟨id, _, begun, cancelled⟩ _ _
  · rename_i answer hErrand
    obtain rfl : errand = _ := hErrand
    cases hStep
    obtain rfl : begun = true := hMeet
    cases answer <;> rfl
  · rename_i answer hErrand
    obtain rfl : errand = _ := hErrand
    cases hStep
    obtain rfl : begun = true := hMeet
    cases answer <;> rfl
  · cases hStep

end Worker

namespace Matter

/-- That the desk says that the history is being fetched. -/
def loading : Matter where
  worker w := w.errand.isLoading
  command := Command.endsLoading
  sending hErrand := by rw [hErrand]; rfl
  once hSays := by
    cases hSays with
    | recorded report answer => cases answer <;> exact Nat.le_refl 1
    | listed answer => cases answer <;> exact Nat.le_refl 1
    | failed e => unfold Errand.failure; split <;> exact Nat.le_refl 1
  cancelled _ := rfl
  begun h := h
  happens _ hStep := Errand.isLoading_step hStep

/-- The answer to a question for the history that has been asked. -/
def answer : Matter where
  worker := Worker.hasAsked
  command := Command.answersHistory
  sending hErrand := by rw [Worker.hasAsked, hErrand]
  once hSays := by
    cases hSays with
    | recorded report answer => cases answer <;> exact Nat.le_refl 1
    | listed answer => cases answer <;> exact Nat.le_refl 1
    | failed e => unfold Errand.failure; split <;> exact Nat.zero_le 1
  cancelled _ := rfl
  begun {w} h := by
    unfold Worker.hasAsked at h ⊢
    cases hErrand : w.errand with
    | sending commands => rwa [hErrand] at h
    | analysis request stage => rwa [hErrand] at h
    | _ => rfl
  happens := Worker.hasAsked_happens

end Matter

namespace Work

/-- The worker that asks for the history with a move. -/
def asks (w : Work) : Move → List Nat
  | .commence id =>
      match (w.workers.find? fun worker => worker.id = id).bind fun worker =>
          worker.errand.action? w.policy with
      | some (.call .history) => [id]
      | _ => []
  | _ => []

/-- The answer that a move applies, with the number of the worker who asked. -/
def answers (posts : List (Nat × Command)) : Move → List (Nat × Command)
  | .deliver => (posts.take 1).filter fun post => post.2.answersHistory
  | _ => []

/-- The worker of an analysis that is started while the history is being fetched. -/
def crossings (before after : Work) : List Nat :=
  if before.loading then (before.beginnings after).filterMap Mark.started? else []

end Work

namespace Work

section Turns

variable {w after : Work} {posts : List (Nat × Command)} {m : Move}

theorem asks_of_user (w : Work) (hUser : m.isUsers = true) : w.asks m = [] := by
  cases m <;> first | rfl | cases hUser

theorem asks_commence (hStaffed : w.Staffed) {worker : Worker} (hMem : worker ∈ w.workers)
    (hBegun : worker.begun = false) (hAction : (worker.errand.action? w.policy).isSome = true) :
    w.asks (.commence worker.id) = if Matter.answer.begins worker then [worker.id] else [] := by
  simp only [asks, hStaffed.find? hMem, Option.bind_some]
  cases hErrand : worker.errand with
  | analysis request stage =>
      have hQuiet : Matter.answer.begins worker = false := by
        simp only [Matter.begins, Matter.answer, Worker.hasAsked, hErrand, Bool.and_false]
      rw [hQuiet]
      cases stage <;> rfl
  | sending commands => rw [hErrand] at hAction; cases hAction
  | _ =>
      have hAsks : Matter.answer.begins worker = true := by
        simp only [Matter.begins, Matter.answer, Worker.hasAsked, hErrand, hBegun, Bool.not_false,
          Bool.and_true]
      rw [hAsks]
      rfl

/-- The answers that the desk waits for are those to the questions that have been asked. -/
theorem raised_answer (hStaffed : w.Staffed) (hTurn : w.Turn m after) :
    Matter.answer.raised w after m = w.asks m := by
  have hStays : m.isUsers = true → after.workers.length = w.workers.length →
      Matter.answer.raised w after m = w.asks m := by
    intro hUser hLength
    rw [asks_of_user w hUser, Matter.raised_of_user _ hUser, ← hLength, List.drop_length]
    rfl
  have hEmploys : ∀ errand, m.isUsers = true → after.workers = (w.employ errand).workers →
      (∀ commands, errand ≠ .sending commands) → Matter.answer.raised w after m = w.asks m := by
    intro errand hUser hWorkers hFresh
    rw [asks_of_user w hUser, Matter.raised_of_user _ hUser, hWorkers, employ, List.drop_left]
    cases errand with
    | sending commands => exact absurd rfl (hFresh commands)
    | _ => rfl
  cases hTurn with
  | keeps hUser => exact hStays hUser rfl
  | starts hUser => exact hEmploys _ hUser rfl fun _ hSending => by cases hSending
  | cancels hUser => exact hStays hUser (List.length_map _)
  | drops hUser => exact hStays hUser rfl
  | fetches hUser => exact hEmploys _ hUser rfl fun _ hSending => by cases hSending
  | commences hMem hBegun hAction =>
      rw [asks_commence hStaffed hMem hBegun hAction, Matter.raised_commence _ hStaffed hMem]
  | happens => rfl
  | sends => rfl
  | leaves => rfl
  | delivers => rfl

/-- A move leaves the loading alone, or begins it with a new worker, or ends it with a command. -/
theorem Turn.loading_cases (hStaffed : w.Staffed) (hPosted : posts.map Prod.snd = w.queue)
    (hTurn : w.Turn m after) :
    (after.loading = w.loading ∧ Matter.loading.raised w after m = [] ∧
      Matter.loading.settled posts m = []) ∨
    (after.loading = true ∧ (w.loading = true → w.crossings after ≠ []) ∧
      Matter.loading.raised w after m = [w.nextWorker] ∧ Matter.loading.settled posts m = []) ∨
    (after.loading = false ∧ Matter.loading.raised w after m = [] ∧
      ∃ id, Matter.loading.settled posts m = [id]) := by
  have hStays : m.isUsers = true → after.loading = w.loading →
      after.workers.length = w.workers.length →
      after.loading = w.loading ∧ Matter.loading.raised w after m = [] ∧
        Matter.loading.settled posts m = [] := by
    intro hUser hLoading hLength
    rw [Matter.raised_of_user _ hUser, Matter.settled_of_user _ _ hUser, ← hLength, List.drop_length]
    exact ⟨hLoading, rfl, rfl⟩
  have hEmploys : ∀ errand, m.isUsers = true → after.workers = (w.employ errand).workers →
      (∀ commands, errand ≠ .sending commands) →
      Matter.loading.raised w after m = [w.nextWorker] ∧ Matter.loading.settled posts m = [] := by
    intro errand hUser hWorkers hFresh
    rw [Matter.raised_of_user _ hUser, Matter.settled_of_user _ _ hUser, hWorkers, employ, List.drop_left]
    cases errand with
    | sending commands => exact absurd rfl (hFresh commands)
    | _ => exact ⟨rfl, rfl⟩
  cases hTurn with
  | keeps hUser => exact .inl (hStays hUser rfl rfl)
  | starts hUser hIdle request =>
      refine .inr (.inl ⟨rfl, fun hLoading => ?_, hEmploys _ hUser rfl fun _ hSending => by cases hSending⟩)
      rw [crossings, if_pos hLoading, beginnings, if_pos ⟨hIdle, rfl⟩]
      exact List.cons_ne_nil _ _
  | cancels hUser => exact .inl (hStays hUser rfl (List.length_map _))
  | drops hUser => exact .inl (hStays hUser rfl rfl)
  | fetches hUser hLoaded =>
      refine .inr (.inl ⟨rfl, fun hLoading => ?_, hEmploys _ hUser rfl fun _ hSending => by cases hSending⟩)
      rw [hLoaded] at hLoading
      cases hLoading
  | @commences worker hMem =>
      have hNever : Matter.loading.begins worker = false := Bool.not_and_self _
      refine .inl ⟨rfl, ?_, rfl⟩
      rw [Matter.raised_commence _ hStaffed hMem, hNever]
      rfl
  | happens => exact .inl ⟨rfl, rfl, rfl⟩
  | sends => exact .inl ⟨rfl, rfl, rfl⟩
  | leaves => exact .inl ⟨rfl, rfl, rfl⟩
  | @delivers command rest hQueue =>
      obtain ⟨⟨id, posted⟩, others, rfl, hCommand, _⟩ := List.map_eq_cons_iff.mp (hPosted.trans hQueue)
      obtain rfl : posted = command := hCommand
      cases posted with
      | analysisFinished report => exact .inl ⟨rfl, rfl, rfl⟩
      | notify level title message => exact .inl ⟨rfl, rfl, rfl⟩
      | _ => exact .inr (.inr ⟨rfl, rfl, id, rfl⟩)

/-- Who asks for the history has not asked yet, and has not come to its commands. -/
theorem Turn.asks_cases (hStaffed : w.Staffed) (hTurn : w.Turn m after) :
    w.asks m = [] ∨ ∃ worker ∈ w.workers, w.asks m = [worker.id] ∧ worker.hasAsked = false ∧
      ∀ commands, worker.errand ≠ .sending commands := by
  cases m with
  | commence id =>
      cases hTurn with
      | keeps hUser => cases hUser
      | starts hUser => cases hUser
      | cancels hUser => cases hUser
      | drops hUser => cases hUser
      | fetches hUser => cases hUser
      | @commences worker hMem hBegun hAction =>
          rw [asks_commence hStaffed hMem hBegun hAction]
          split
          · rename_i hBegins
            refine .inr ⟨worker, hMem, rfl, ?_, fun commands hErrand => ?_⟩
            · exact Bool.not_eq_true' _ |>.mp (Bool.and_eq_true_iff.mp hBegins).1
            · rw [hErrand] at hAction
              cases hAction
          · exact .inl rfl
  | _ => exact .inl rfl

end Turns

end Work

/-- A ledger, who has asked for the history, the answers that have been applied with those who asked for
them, both in order, and the analyses that were started while the history was being fetched. -/
structure Chronicle where
  ledger : Ledger
  asked : List Nat
  applied : List (Nat × Command)
  crossed : List Nat

namespace Work

/-- What a chronicle tells agrees with the work: each answer that has been applied or is still open belongs
to a question, and no worker asks twice. -/
structure Agrees (w : Work) (posts : List (Nat × Command)) (asked applied : List Nat) : Prop where
  answered : asked.Perm (applied ++ Matter.answer.unsettled w.workers posts)
  nodup : asked.Nodup
  known : ∀ id ∈ asked, id < w.nextWorker
  spoken : ∀ worker ∈ w.workers, worker.id ∈ applied ++ Matter.answer.queued posts →
    ∃ commands, worker.errand = .sending commands

section Agreement

variable {w after : Work} {posts : List (Nat × Command)} {m : Move} {asked applied : List Nat}

theorem Agrees.not_asked (h : w.Agrees posts asked applied) (hStaffed : w.Staffed) {worker : Worker}
    (hMem : worker ∈ w.workers) (hNew : worker.hasAsked = false)
    (hErrand : ∀ commands, worker.errand ≠ .sending commands) : worker.id ∉ asked := by
  intro hAsked
  rw [h.answered.mem_iff, Matter.unsettled, List.mem_append, List.mem_append] at hAsked
  have hSilent : worker.id ∉ applied ++ Matter.answer.queued posts := fun hSpoken =>
    (h.spoken worker hMem hSpoken).elim hErrand
  rw [List.mem_append, not_or] at hSilent
  rcases hAsked with hApplied | hPending | hQueued
  · exact hSilent.1 hApplied
  · obtain ⟨other, hOther, hHas, hId⟩ := Matter.answer.mem_pending.mp hPending
    rw [hStaffed.eq_of_id hOther hMem hId] at hHas
    cases hNew.symm.trans hHas
  · exact hSilent.2 hQueued

theorem Agrees.turn (h : w.Agrees posts asked applied) (hStaffed : w.Staffed)
    (hOrderly : ∀ worker ∈ w.workers, worker.errand.Orderly) (hTurn : w.Turn m after) :
    after.Agrees (kept posts m ++ w.posted m) (asked ++ w.asks m)
      (applied ++ Matter.answer.settled posts m) where
  answered := by
    have hUnsettled := Matter.answer.unsettled_turn posts hStaffed hOrderly hTurn
    rw [raised_answer hStaffed hTurn] at hUnsettled
    have hBehind := hUnsettled.symm.append_left applied
    rw [← List.append_assoc, ← List.append_assoc] at hBehind
    exact (h.answered.append_right _).trans hBehind
  nodup := by
    rcases hTurn.asks_cases hStaffed with hAsks | ⟨worker, hMem, hAsks, hNew, hErrand⟩
    · rw [hAsks, List.append_nil]
      exact h.nodup
    · rw [hAsks, List.nodup_append]
      refine ⟨h.nodup, List.pairwise_singleton _ _, fun id hId other hOther hSame => ?_⟩
      rw [List.mem_singleton.mp hOther] at hSame
      exact h.not_asked hStaffed hMem hNew hErrand (hSame ▸ hId)
  known := by
    intro id hId
    refine Nat.lt_of_lt_of_le ?_ hTurn.nextWorker_le.1
    rcases List.mem_append.mp hId with hOld | hNow
    · exact h.known id hOld
    · rcases hTurn.asks_cases hStaffed with hAsks | ⟨worker, hMem, hAsks, _⟩
      · rw [hAsks] at hNow
        cases hNow
      · rw [hAsks] at hNow
        rw [List.mem_singleton.mp hNow]
        exact hStaffed.known worker hMem
  spoken := by
    intro worker hMem hSpoken
    rw [List.append_assoc, Matter.queued_turn, ← List.append_assoc, List.mem_append] at hSpoken
    -- Whoever has spoken before the move was at its commands then, and so was whoever speaks now.
    have hSending : worker.id < w.nextWorker ∧ ∀ before ∈ w.workers, before.id = worker.id →
        ∃ commands, before.errand = .sending commands := by
      rcases hSpoken with hOld | hNow
      · refine ⟨h.known _ (h.answered.mem_iff.mpr ?_), fun before hBefore hId => ?_⟩
        · rw [Matter.unsettled]
          rcases List.mem_append.mp hOld with hApplied | hQueued
          · exact List.mem_append_left _ hApplied
          · exact List.mem_append_right _ (List.mem_append_right _ hQueued)
        · exact h.spoken before hBefore (hId ▸ hOld)
      · obtain ⟨command, hPosted⟩ := Matter.answer.exists_of_queued hNow
        obtain ⟨speaker, hSpeaker, hId, hErrand⟩ := exists_of_posted hPosted
        refine ⟨hId ▸ hStaffed.known speaker hSpeaker, fun before hBefore hSame => ?_⟩
        rwa [hStaffed.eq_of_id hBefore hSpeaker (hSame.trans hId.symm)]
    rcases hTurn.origin hMem with ⟨errand, rfl, _⟩ | ⟨before, hBefore, hId, hGoesOn, _⟩
    · exact absurd hSending.1 (Nat.lt_irrefl _)
    · exact hGoesOn.sending (hSending.2 before hBefore hId.symm)

end Agreement

/-- When the desk says that the history is being fetched, something is under way that ends that; and no
more is than that and the analyses that were started meanwhile. -/
structure Covered (w : Work) (posts : List (Nat × Command)) (crossed : Nat) : Prop where
  live : (if w.loading then 1 else 0) ≤ (Matter.loading.unsettled w.workers posts).length
  few : (Matter.loading.unsettled w.workers posts).length ≤ crossed + if w.loading then 1 else 0

theorem Covered.turn {w after : Work} {posts : List (Nat × Command)} {m : Move} {crossed : Nat}
    (h : w.Covered posts crossed) (hStaffed : w.Staffed) (hPosted : posts.map Prod.snd = w.queue)
    (hOrderly : ∀ worker ∈ w.workers, worker.errand.Orderly) (hTurn : w.Turn m after) :
    after.Covered (kept posts m ++ w.posted m) (crossed + (w.crossings after).length) := by
  have hLength := (Matter.loading.unsettled_turn posts hStaffed hOrderly hTurn).length_eq
  rw [List.length_append, List.length_append] at hLength
  obtain ⟨hLive, hFew⟩ := h
  rcases hTurn.loading_cases hStaffed hPosted with ⟨hSame, hRaised, hSettled⟩ |
    ⟨hLoading, hCrossed, hRaised, hSettled⟩ | ⟨hLoaded, hRaised, id, hSettled⟩
  · rw [hRaised, hSettled, List.length_nil, Nat.zero_add, Nat.add_zero] at hLength
    constructor <;> rw [hSame, hLength] <;> omega
  · rw [hRaised, hSettled, List.length_nil, List.length_singleton, Nat.zero_add] at hLength
    have hMore : (if w.loading then 1 else 0) ≤ (w.crossings after).length := by
      split
      · rename_i hWas
        exact List.length_pos_iff.mpr (hCrossed hWas)
      · exact Nat.zero_le _
    constructor <;> rw [hLoading, if_pos rfl] <;> omega
  · rw [hRaised, hSettled, List.length_nil, List.length_singleton, Nat.add_zero] at hLength
    have hWas : (if w.loading then 1 else 0) ≤ 1 := by split <;> omega
    constructor <;> rw [hLoaded, if_neg Bool.false_ne_true] <;> omega

/-- No more than one thing is under way that ends the loading, and the answers come in the order of the
questions. -/
structure InOrder (w : Work) (posts : List (Nat × Command)) (asked applied : List Nat) : Prop where
  single : (Matter.loading.unsettled w.workers posts).length = if w.loading then 1 else 0
  ordered : applied <+: asked

section Order

variable {w after : Work} {posts : List (Nat × Command)} {m : Move} {asked applied : List Nat}

/-- While an answer is open, the desk is loading. -/
theorem length_answer_le (workers : List Worker) (posts : List (Nat × Command)) :
    (Matter.answer.unsettled workers posts).length ≤ (Matter.loading.unsettled workers posts).length := by
  exact Matter.length_unsettled_le (fun _ => Worker.isLoading_of_hasAsked)
    (fun _ => Command.endsLoading_of_answers) workers posts

theorem InOrder.turn (h : w.InOrder posts asked applied) (hAgrees : w.Agrees posts asked applied)
    (hStaffed : w.Staffed) (hPosted : posts.map Prod.snd = w.queue)
    (hOrderly : ∀ worker ∈ w.workers, worker.errand.Orderly) (hTurn : w.Turn m after)
    (hUncrossed : w.crossings after = []) :
    after.InOrder (kept posts m ++ w.posted m) (asked ++ w.asks m)
      (applied ++ Matter.answer.settled posts m) where
  single := by
    have hCovered : w.Covered posts 0 :=
      ⟨Nat.le_of_eq h.single.symm, Nat.le_of_eq (h.single.trans (Nat.zero_add _).symm)⟩
    obtain ⟨hLive, hFew⟩ := hCovered.turn hStaffed hPosted hOrderly hTurn
    rw [hUncrossed, List.length_nil, Nat.zero_add] at hFew
    exact Nat.le_antisymm hFew hLive
  ordered := by
    have hAnswered := (hAgrees.turn hStaffed hOrderly hTurn).answered
    have hLength := (Matter.answer.unsettled_turn posts hStaffed hOrderly hTurn).length_eq
    have hSingle : (Matter.answer.unsettled w.workers posts).length ≤ 1 := by
      refine Nat.le_trans (length_answer_le _ _) ?_
      rw [h.single]
      split <;> omega
    obtain ⟨waiting, rfl⟩ := h.ordered
    cases hSettled : Matter.answer.settled posts m with
    | nil =>
        rw [List.append_nil, List.append_assoc]
        exact List.prefix_append _ _
    | cons id others =>
        have hAsks : w.asks m = [] := by
          cases m <;> first | rfl | cases hSettled
        rw [raised_answer hStaffed hTurn, hSettled, hAsks] at hLength
        simp only [List.length_append, List.length_cons, List.length_nil] at hLength
        obtain rfl : others = [] := List.eq_nil_of_length_eq_zero (by omega)
        have hNothing : Matter.answer.unsettled after.workers (kept posts m ++ w.posted m) = [] :=
          List.eq_nil_of_length_eq_zero (by omega)
        rw [hNothing, hSettled, hAsks, List.append_nil, List.append_nil,
          List.perm_append_left_iff] at hAnswered
        exact ⟨[], by rw [List.perm_singleton.mp hAnswered, hAsks, List.append_nil]⟩

end Order

end Work

namespace Chronicle

def after (c : Chronicle) (m : Move) : Chronicle where
  ledger := c.ledger.after m
  asked := c.asked ++ c.ledger.desk.work.asks m
  applied := c.applied ++ Work.answers c.ledger.posts m
  crossed := c.crossed ++ c.ledger.desk.work.crossings (c.ledger.desk.move m).work

/-- The chronicles that can come about. -/
inductive Reachable : Chronicle → Prop
  | start (policy : PollPolicy) (exportDir : String) (files : FileTree) (storage : Storage)
      (store : SnippetStore) (warnings : List String) :
      Reachable ⟨⟨.start policy exportDir files storage store warnings, [], []⟩, [], [], []⟩
  | move {c : Chronicle} {m : Move} (hBefore : Reachable c) (hAllows : c.ledger.desk.Allows m) :
      Reachable (c.after m)

theorem Reachable.ledger {c : Chronicle} (h : c.Reachable) : c.ledger.Reachable := by
  induction h with
  | start policy exportDir files storage store warnings => exact .start ..
  | move _ hAllows ih => exact ih.move hAllows

/-- The workers whose answers have been applied. -/
def answered (c : Chronicle) : List Nat := c.applied.map Prod.fst

/-- The workers that have asked for the history, and whose answer has not been applied. -/
def awaited (c : Chronicle) : List Nat :=
  Matter.answer.unsettled c.ledger.desk.workers c.ledger.posts

/-- The list that the latest answer with one brought. -/
def latest (c : Chronicle) : List Report :=
  ((c.applied.filterMap fun post => post.2.reports?).getLast?).getD []

theorem answered_after (c : Chronicle) (m : Move) :
    (c.after m).answered = c.answered ++ Matter.answer.settled c.ledger.posts m := by
  rw [answered, after, List.map_append]
  cases m <;> rfl

theorem Reachable.agrees {c : Chronicle} (h : c.Reachable) :
    c.ledger.desk.work.Agrees c.ledger.posts c.asked c.answered := by
  induction h with
  | start policy exportDir files storage store warnings =>
      rw [Desk.work_start]
      exact ⟨.nil, .nil, fun _ hMem => absurd hMem List.not_mem_nil,
        fun _ hMem => absurd hMem List.not_mem_nil⟩
  | move hBefore hAllows ih =>
      have hStaffed := hBefore.ledger.accounts.staffed
      rw [answered_after]
      exact ih.turn hStaffed hBefore.ledger.desk.orderly (Desk.turn_move hStaffed hAllows)

theorem Reachable.inOrder {c : Chronicle} (h : c.Reachable) (hUncrossed : c.crossed = []) :
    c.ledger.desk.work.InOrder c.ledger.posts c.asked c.answered := by
  induction h with
  | start policy exportDir files storage store warnings =>
      rw [Desk.work_start]
      exact ⟨rfl, List.prefix_refl _⟩
  | move hBefore hAllows ih =>
      obtain ⟨hEarlier, hNow⟩ := List.append_eq_nil_iff.mp hUncrossed
      have hAccounts := hBefore.ledger.accounts
      rw [answered_after]
      exact (ih hEarlier).turn hBefore.agrees hAccounts.staffed hAccounts.posted
        hBefore.ledger.desk.orderly (Desk.turn_move hAccounts.staffed hAllows) hNow

theorem latest_deliver (c : Chronicle) {id : Nat} {command : Command} {rest : List (Nat × Command)}
    (hPosts : c.ledger.posts = (id, command) :: rest) :
    (c.after .deliver).latest = command.reports?.getD c.latest := by
  have hApplied : (c.after .deliver).applied =
      c.applied ++ if command.answersHistory then [(id, command)] else [] := by
    simp only [after, Work.answers, hPosts, List.take_succ_cons, List.take_zero, List.filter_cons,
      List.filter_nil]
  rw [latest, hApplied, List.filterMap_append]
  cases command with
  | historyLoaded reports =>
      have hLast : [(id, Command.historyLoaded reports)].filterMap (fun post => post.2.reports?) =
          [reports] := rfl
      rw [Command.answersHistory, if_pos rfl, hLast, List.getLast?_concat]
      rfl
  | _ => exact congrArg (fun lists => (List.getLast? lists).getD []) (List.append_nil _)

/-- The list on the screen is the one that the latest answer brought. -/
theorem Reachable.shown {c : Chronicle} (h : c.Reachable) :
    c.ledger.desk.history.reports = c.latest := by
  induction h with
  | start policy exportDir files storage store warnings =>
      exact congrArg Desk.Told.reports (Desk.told_start policy exportDir files storage store warnings)
  | @move c m hBefore hAllows ih =>
      by_cases hDeliver : m = .deliver
      · subst hDeliver
        obtain ⟨command, rest, hQueue⟩ := List.exists_cons_of_ne_nil hAllows
        obtain ⟨⟨id, posted⟩, others, hPosts, hCommand, _⟩ :=
          List.map_eq_cons_iff.mp (hBefore.ledger.accounts.posted.trans hQueue)
        obtain rfl : posted = command := hCommand
        have hTold : (c.ledger.desk.move .deliver).told = c.ledger.desk.told.apply posted := by
          simp only [Desk.move, Desk.deliver, hQueue]
          exact Desk.told_apply _ posted
        rw [latest_deliver c hPosts, ← ih]
        have hReports := Desk.Told.reports_apply c.ledger.desk.told posted
        rw [← hTold] at hReports
        exact hReports
      · have hTold := congrArg Desk.Told.reports (Desk.told_move c.ledger.desk hDeliver)
        have hSame : (c.after m).latest = c.latest := by
          have hNone : Work.answers c.ledger.posts m = [] := by
            cases m <;> first | rfl | exact absurd rfl hDeliver
          simp only [latest, after, hNone, List.append_nil]
        rw [hSame, ← ih]
        exact hTold

/-- Nobody asks for the history twice, each answer belongs to a question of its own, and the list on the
screen is the one that came last. As long as no analysis has been started while the history was being
fetched, the answers come in the order of the questions, and at most one of them is awaited; so the list
on the screen is then the one that was asked for last of all that have come. -/
theorem answers_in_order {c : Chronicle} (h : c.Reachable) :
    c.asked.Nodup ∧ c.asked.Perm (c.answered ++ c.awaited) ∧
      c.ledger.desk.history.reports = c.latest ∧
      (c.crossed = [] → c.answered <+: c.asked ∧ c.awaited.length ≤ 1) := by
  refine ⟨h.agrees.nodup, h.agrees.answered, h.shown, fun hUncrossed => ?_⟩
  have hInOrder := h.inOrder hUncrossed
  have hSingle := Work.length_answer_le c.ledger.desk.work.workers c.ledger.posts
  rw [hInOrder.single] at hSingle
  refine ⟨hInOrder.ordered, Nat.le_trans hSingle ?_⟩
  split <;> omega

/-- The desk has a source, the history has been asked for, and the answer is awaited. -/
def asking : Chronicle :=
  let start : Chronicle := ⟨⟨.start .standard "" .empty .empty ⟨[]⟩ [], [], []⟩, [], [], []⟩
  ((start.after (.setSource "contract" .solidity none)).after .refresh).after (.commence 0)

theorem reachable_asking : asking.Reachable :=
  .move (.move (.move (.start ..) trivial) trivial) ⟨_, rfl, rfl, rfl⟩

/-- The list that was asked for arrives, empty. -/
def listed (c : Chronicle) : Chronicle :=
  ((c.after (.happen 0 (.reply (.history (.ok []))))).after (.send 0)).after .deliver

def sample : Report := ⟨none, none, none, []⟩

/-- The second worker submits the source, gets its report at once, and asks for the history. -/
def analyzed (c : Chronicle) : Chronicle :=
  (((c.after (.press (.ofChar 'a'))).after (.commence 1)).after
    (.happen 1 (.reply (.analyzed (.ok (.completed sample)))))).after (.commence 1)

theorem reachable_listed : asking.listed.Reachable :=
  .move (.move (.move reachable_asking ⟨_, rfl, rfl, rfl⟩) ⟨_, _, rfl, rfl⟩) (List.cons_ne_nil _ _)

theorem reachable_analyzed : asking.listed.analyzed.Reachable := by
  have hStarted := reachable_listed.move (m := .press (.ofChar 'a')) trivial
  have hOut : (asking.listed.after (.press (.ofChar 'a'))).ledger.desk.Allows (.commence 1) :=
    ⟨_, rfl, rfl, rfl⟩
  exact .move (.move (hStarted.move hOut) ⟨_, rfl, rfl, rfl⟩) ⟨_, rfl, rfl, rfl⟩

/-- One question has been answered before the next one is asked. -/
theorem answers_in_order_analyzed :
    asking.listed.analyzed.Reachable ∧ asking.listed.analyzed.crossed = [] ∧
      asking.listed.analyzed.asked = [0, 1] ∧ asking.listed.analyzed.answered = [0] ∧
      asking.listed.analyzed.answered <+: asking.listed.analyzed.asked ∧
      asking.listed.analyzed.awaited.length ≤ 1 := by
  obtain ⟨_, _, _, hUncrossed⟩ := answers_in_order reachable_analyzed
  exact ⟨reachable_analyzed, rfl, rfl, rfl, hUncrossed rfl⟩

/-- The list that the analysis has asked for arrives, and the desk applies it after the report. -/
def recorded (c : Chronicle) : Chronicle :=
  let answered := c.after (.happen 1 (.reply (.history (.ok [sample]))))
  (((answered.after (.send 1)).after (.send 1)).after .deliver).after .deliver

/-- The analysis is started while the history is being fetched. Its report and the list with it come first,
and then the list that was asked for before. -/
def overtaken : Chronicle := asking.analyzed.recorded.listed

theorem reachable_overtaken : overtaken.Reachable := by
  have hAnalyzed : asking.analyzed.Reachable := by
    have hStarted := reachable_asking.move (m := .press (.ofChar 'a')) trivial
    have hOut : (asking.after (.press (.ofChar 'a'))).ledger.desk.Allows (.commence 1) :=
      ⟨_, rfl, rfl, rfl⟩
    exact .move (.move (hStarted.move hOut) ⟨_, rfl, rfl, rfl⟩) ⟨_, rfl, rfl, rfl⟩
  have hRecorded : asking.analyzed.recorded.Reachable := by
    refine .move (.move (.move (.move (.move hAnalyzed ?_) ?_) ?_) ?_) ?_
    · exact ⟨_, rfl, rfl, rfl⟩
    · exact ⟨_, _, rfl, rfl⟩
    · exact ⟨_, _, rfl, rfl⟩
    · exact List.cons_ne_nil _ _
    · exact List.cons_ne_nil _ _
  refine .move (.move (.move hRecorded ?_) ?_) ?_
  · exact ⟨_, rfl, rfl, rfl⟩
  · exact ⟨_, _, rfl, rfl⟩
  · exact List.cons_ne_nil _ _

/-- The older list comes last, and takes the report of the analysis off the screen again. -/
theorem not_in_order_overtaken :
    overtaken.Reachable ∧ overtaken.asked = [0, 1] ∧
      overtaken.applied = [(1, .historyLoaded [sample]), (0, .historyLoaded [])] ∧
      overtaken.ledger.desk.report = some sample ∧ overtaken.ledger.desk.history.reports = [] :=
  ⟨reachable_overtaken, rfl, rfl, rfl, rfl⟩

end Chronicle

end AuditDesk

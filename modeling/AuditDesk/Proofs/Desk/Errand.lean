import AuditDesk.Proofs.Desk.Turn

/-! What an errand can come to: an analysis remains one until its end is queued, its end is queued once,
and what a worker says is one of three things. -/
namespace AuditDesk

open Service

namespace Errand

/-- At most one command that a worker has still to queue ends an analysis, and one whose analysis has
ended has its commands ready. -/
structure Tidy (errand : Errand) : Prop where
  once : ∀ commands, errand = .sending commands → commands.countP Command.endsAnalysis ≤ 1
  unfinished : ∀ request outcome, errand ≠ .analysis request (.ended outcome)

variable {policy : PollPolicy} {errand next : Errand} {event : Event}

/-- What a failed analysis has to say ends it, and ends it once. -/
theorem countP_failure (e : AnalysisError) : (failure e).countP Command.endsAnalysis = 1 := by
  unfold failure
  split <;> rfl

theorem isAnalysis_ofStage (request : Request) (stage : Stage) :
    (ofStage request stage).isAnalysis = true := by
  unfold ofStage
  split
  · rfl
  · rename_i e
    refine List.any_eq_true.mpr (List.countP_pos_iff.mp ?_)
    rw [countP_failure]
    exact Nat.one_pos
  · rfl

/-- An analysis remains one until its end is queued, and nothing else becomes one. -/
theorem isAnalysis_step (h : errand.step policy event = some next) :
    next.isAnalysis = errand.isAnalysis := by
  unfold step at h
  split at h
  · obtain ⟨stage, _, rfl⟩ := Option.map_eq_some_iff.mp h
    exact isAnalysis_ofStage _ _
  · cases h
    rfl
  · rename_i answer
    cases h
    cases answer <;> rfl
  · cases h

theorem tidy_sending {commands : List Command}
    (h : commands.countP Command.endsAnalysis ≤ 1) : (Errand.sending commands).Tidy where
  once _ hSending := by
    cases hSending
    exact h
  unfinished _ _ hErrand := nomatch hErrand

theorem tidy_analysis (request : Request) {stage : Stage} (h : ∀ outcome, stage ≠ .ended outcome) :
    (Errand.analysis request stage).Tidy where
  once _ hErrand := nomatch hErrand
  unfinished _ outcome hErrand := by
    cases hErrand
    exact h outcome rfl

theorem tidy_ofStage (request : Request) (stage : Stage) : (ofStage request stage).Tidy := by
  unfold ofStage
  split
  · exact ⟨fun _ hErrand => (nomatch hErrand), fun _ _ hErrand => (nomatch hErrand)⟩
  · exact tidy_sending (Nat.le_of_eq (countP_failure _))
  · rename_i hFinished hFailed
    refine tidy_analysis request fun outcome hEnded => ?_
    cases outcome with
    | ok report => exact hFinished report hEnded
    | error e => exact hFailed e hEnded

theorem tidy_step (h : errand.step policy event = some next) : next.Tidy := by
  unfold step at h
  split at h
  · obtain ⟨stage, _, rfl⟩ := Option.map_eq_some_iff.mp h
    exact tidy_ofStage _ _
  · rename_i answer
    cases h
    refine tidy_sending ?_
    cases answer <;> exact Nat.le_refl 1
  · rename_i answer
    cases h
    refine tidy_sending ?_
    cases answer <;> exact Nat.zero_le 1
  · cases h

theorem Tidy.tail {command : Command} {rest : List Command}
    (h : (Errand.sending (command :: rest)).Tidy) :
    (Errand.sending rest).Tidy ∧
      (command.endsAnalysis = true → (Errand.sending rest).isAnalysis = false) := by
  have hCount := h.once _ rfl
  rw [List.countP_cons] at hCount
  refine ⟨tidy_sending (by omega), fun hEnds => ?_⟩
  rw [hEnds] at hCount
  have hZero : rest.countP Command.endsAnalysis = 0 := by simpa using hCount
  rw [List.countP_eq_zero] at hZero
  simpa [isAnalysis] using hZero

theorem tidy_fresh (h : errand = .listing ∨ ∃ request, errand = .analysis request .asking) :
    errand.Tidy := by
  rcases h with rfl | ⟨request, rfl⟩
  · exact ⟨fun _ hErrand => (nomatch hErrand), fun _ _ hErrand => (nomatch hErrand)⟩
  · exact tidy_analysis request fun _ hEnded => nomatch hEnded

theorem Tidy.goesOn (h : errand.Tidy) (hGoesOn : GoesOn policy errand next) : next.Tidy := by
  cases hGoesOn with
  | stays => exact h
  | steps hStep => exact tidy_step hStep
  | tells => exact h.tail.1

/-- All that a worker says, once it is done. -/
inductive Says : List Command → Prop
  | recorded (report : Report) (answer : Except NetworkError (List Report)) :
      Says [.analysisFinished report, listed answer]
  | listed (answer : Except NetworkError (List Report)) : Says [listed answer]
  | failed (e : AnalysisError) : Says (failure e)

/-- What a worker has still to queue is the end of what it says. -/
def Orderly (errand : Errand) : Prop :=
  ∀ commands, errand = .sending commands → ∃ all, Says all ∧ commands <:+ all

theorem Says.orderly {all : List Command} (h : Says all) : (Errand.sending all).Orderly := by
  rintro _ ⟨rfl⟩
  exact ⟨all, h, List.suffix_refl all⟩

theorem orderly_fresh (h : errand = .listing ∨ ∃ request, errand = .analysis request .asking) :
    errand.Orderly := by
  rcases h with rfl | ⟨request, rfl⟩ <;> exact nofun

/-- A worker gets to its commands with all of them. -/
theorem says_step (h : errand.step policy event = some next) {commands : List Command}
    (hSending : next = .sending commands) : Says commands := by
  unfold step at h
  split at h
  · obtain ⟨stage, _, rfl⟩ := Option.map_eq_some_iff.mp h
    unfold ofStage at hSending
    split at hSending <;> cases hSending
    exact .failed _
  · cases h
    cases hSending
    exact .recorded _ _
  · cases h
    cases hSending
    exact .listed _
  · cases h

theorem Orderly.goesOn (h : errand.Orderly) (hGoesOn : GoesOn policy errand next) : next.Orderly := by
  cases hGoesOn with
  | stays => exact h
  | steps hStep => exact fun _ hSending => (says_step hStep hSending).orderly _ rfl
  | tells command rest =>
      rintro _ ⟨rfl⟩
      obtain ⟨all, hSays, hSuffix⟩ := h _ rfl
      exact ⟨all, hSays, (List.suffix_cons command rest).trans hSuffix⟩

end Errand

theorem Errand.GoesOn.sending {policy : PollPolicy} {errand next : Errand}
    (h : GoesOn policy errand next) (hSending : ∃ commands, errand = .sending commands) :
    ∃ commands, next = .sending commands := by
  obtain ⟨commands, rfl⟩ := hSending
  cases h with
  | stays => exact ⟨commands, rfl⟩
  | steps hStep => cases hStep
  | tells command rest => exact ⟨rest, rfl⟩

theorem Desk.Reachable.orderly {d : Desk} (h : d.Reachable) :
    ∀ worker ∈ d.workers, worker.errand.Orderly := by
  induction h with
  | start policy exportDir files storage store warnings =>
      have hNobody : (Desk.start policy exportDir files storage store warnings).workers = [] :=
        congrArg Work.workers (work_start ..)
      rw [hNobody]
      exact fun _ hMem => absurd hMem List.not_mem_nil
  | move hBefore hAllows ih =>
      intro worker hMem
      rcases (turn_move hBefore.staffed hAllows).origin hMem with
        ⟨errand, rfl, hFresh⟩ | ⟨before, hBefore, _, hGoesOn, _⟩
      · exact Errand.orderly_fresh hFresh
      · exact (ih before hBefore).goesOn hGoesOn

end AuditDesk

import AuditDesk.Proofs.Service.Course

/-! A submission that is woken again and again, and each time goes on as far as it can. Its token may fire
between two wake-ups. What it does and meets is written down in its diary. -/
namespace AuditDesk.Service

/-- How the service and the clock behave. What they do may depend on all that was done before, and they
may leave the submission waiting for ever; only a task is always released in the end. -/
structure Outlook where
  analyzed : List Entry → Option (Except NetworkError AnalyzeAnswer)
  reported : List Entry → Option (Except NetworkError TaskStatus)
  /-- The pause that has begun last ends. -/
  elapses : List Entry → Bool
  /-- How often the submission is woken in vain before the action that has begun last is over. -/
  vain : List Entry → Nat

/-- What a submission has done so far, and how often it will still be woken in vain, once the action that
its stage needs has begun. -/
structure Log where
  diary : List Entry
  left : Option Nat

namespace Outlook

variable (o : Outlook) (policy : PollPolicy) (request : Request)

/-- What ends the action that has begun last. -/
def event? (diary : List Entry) : Stage.Action → Option Event
  | .sleep _ => if o.elapses diary then some .elapsed else none
  | .call (.analyze _) => (o.analyzed diary).map fun answer => .reply (.analyzed answer)
  | .call (.status _) => (o.reported diary).map fun answer => .reply (.status answer)
  | .call (.release _) => some (.reply .released)
  | .call .history | .call (.render _ _) => none

/-- Begins an action, unless it has begun already. -/
def begin (l : Log) (action : Stage.Action) : Log :=
  match l.left with
  | none => ⟨l.diary ++ [.began action], some (o.vain (l.diary ++ [.began action]))⟩
  | some _ => l

/-- What happens in a stage while the submission is awake. The token is looked at first. -/
def react (fired : Bool) (stage : Stage) (l : Log) : Option Event × Log :=
  if stage.heeds && fired then (some .cancelled, ⟨l.diary ++ [.met .cancelled], none⟩)
  else
    match stage.action? policy request with
    | none => (none, l)
    | some action =>
        let l := o.begin l action
        match l.left with
        | some (n + 1) => (none, ⟨l.diary, some n⟩)
        | _ =>
            match o.event? l.diary action with
            | some event => (some event, ⟨l.diary ++ [.met event], none⟩)
            | none => (none, l)

/-- The submission is woken, and goes on as far as it can without waiting. -/
def wake (fired : Bool) (w : Stage × Log) : Stage × Log :=
  Stage.carryOn policy (o.react policy request fired) (w.1.remaining policy) w.1 w.2

/-- Where the submission is after so many wake-ups, when the token fires after `fires` of them. -/
def awoken (fires : Option Nat) : Nat → Stage × Log
  | 0 => (.asking, ⟨[], none⟩)
  | count + 1 => o.wake policy request (fires.any (· ≤ count)) (awoken fires count)

end Outlook

namespace Entry

/-- A pause, the submission or a question; not the release of the task. -/
def effort? : Entry → Option Stage.Action
  | .began (.call (.release _)) => none
  | .began action => some action
  | .met _ => none

end Entry

namespace Diary

/-- The pauses, the submission and the questions. -/
def efforts (diary : List Entry) : List Stage.Action := diary.filterMap Entry.effort?

end Diary

/-- What every reaction keeps, going on keeps. -/
theorem Stage.carryOn_keeps {Surroundings : Type} {policy : PollPolicy}
    {react : Stage → Surroundings → Option Event × Surroundings} {P : Stage → Surroundings → Prop}
    (hRests : ∀ stage s, P stage s → (react stage s).1.bind (stage.step policy) = none →
      P stage (react stage s).2)
    (hSteps : ∀ stage s next, P stage s → (react stage s).1.bind (stage.step policy) = some next →
      P next (react stage s).2) (steps : Nat) :
    ∀ stage s, P stage s →
      P (carryOn policy react steps stage s).1 (carryOn policy react steps stage s).2 := by
  induction steps with
  | zero => exact fun _ _ h => h
  | succ steps ih =>
      intro stage s h
      simp only [carryOn]
      split
      · rename_i next hNext
        exact ih next _ (hSteps stage s next h hNext)
      · rename_i hNone
        exact hRests stage s h hNone

namespace Outlook

variable {o : Outlook} {policy : PollPolicy} {request : Request} {fired : Bool} {stage : Stage} {l : Log}

/-- What a reaction can be. -/
inductive Reacts (o : Outlook) (policy : PollPolicy) (request : Request) (fired : Bool) (stage : Stage)
    (l : Log) : Option Event × Log → Prop
  | stops (hHeeds : stage.heeds = true) (hFired : fired = true) :
      Reacts o policy request fired stage l (some .cancelled, ⟨l.diary ++ [.met .cancelled], none⟩)
  | ends (hAction : stage.action? policy request = none) : Reacts o policy request fired stage l (none, l)
  | waits {action : Stage.Action} (hOn : (stage.heeds && fired) = false)
      (hAction : stage.action? policy request = some action) (left : Nat) :
      Reacts o policy request fired stage l (none, ⟨(o.begin l action).diary, some left⟩)
  | meets {action : Stage.Action} {event : Event} (hOn : (stage.heeds && fired) = false)
      (hAction : stage.action? policy request = some action)
      (hEvent : o.event? (o.begin l action).diary action = some event) :
      Reacts o policy request fired stage l
        (some event, ⟨(o.begin l action).diary ++ [.met event], none⟩)

theorem exists_left_begin (o : Outlook) (l : Log) (action : Stage.Action) :
    ∃ left, o.begin l action = ⟨(o.begin l action).diary, some left⟩ := by
  obtain ⟨diary, left⟩ := l
  cases left with
  | none => exact ⟨_, rfl⟩
  | some left => exact ⟨left, rfl⟩

theorem react_cases : o.Reacts policy request fired stage l (o.react policy request fired stage l) := by
  unfold react
  split
  · rename_i hStops
    obtain ⟨hHeeds, hFired⟩ := Bool.and_eq_true_iff.mp hStops
    exact .stops hHeeds hFired
  · rename_i hGoesOn
    have hOn : (stage.heeds && fired) = false := Bool.not_eq_true _ ▸ hGoesOn
    split
    · rename_i hAction
      exact .ends hAction
    · rename_i action hAction
      obtain ⟨left, hBegin⟩ := exists_left_begin o l action
      dsimp only
      split
      · exact .waits hOn hAction _
      · split
        · rename_i hEvent
          exact .meets hOn hAction hEvent
        · rw [hBegin]
          exact .waits hOn hAction left

/-- What ends an action leads on from the stage that needs it. -/
theorem isSome_step_event {diary : List Entry} {action : Stage.Action} {event : Event}
    (hAction : stage.action? policy request = some action) (hEvent : o.event? diary action = some event) :
    (stage.step policy event).isSome = true := by
  cases stage with
  | asking =>
      cases hAction
      obtain ⟨answer, _, rfl⟩ := Option.map_eq_some_iff.mp hEvent
      rfl
  | waiting task attempt =>
      cases hAction
      simp only [event?] at hEvent
      split at hEvent <;> cases hEvent
      rfl
  | polling task attempt =>
      cases hAction
      obtain ⟨answer, _, rfl⟩ := Option.map_eq_some_iff.mp hEvent
      rfl
  | releasing task e =>
      cases hAction
      cases hEvent
      rfl
  | ended outcome => cases hAction

section Wake

variable {w : Stage × Log}

/-- What begins and events keep, a wake-up keeps. -/
theorem wake_keeps {P : Stage → Log → Prop}
    (hBegins : ∀ stage l action, P stage l → (stage.heeds && fired) = false →
      stage.action? policy request = some action →
      ∀ left, P stage ⟨(o.begin l action).diary, some left⟩)
    (hMeets : ∀ stage l action event next, P stage l → (stage.heeds && fired) = false →
      stage.action? policy request = some action → o.event? (o.begin l action).diary action = some event →
      stage.step policy event = some next → P next ⟨(o.begin l action).diary ++ [.met event], none⟩)
    (hStops : ∀ stage l next, P stage l → fired = true → stage.step policy .cancelled = some next →
      P next ⟨l.diary ++ [.met .cancelled], none⟩) (h : P w.1 w.2) :
    P (o.wake policy request fired w).1 (o.wake policy request fired w).2 := by
  refine Stage.carryOn_keeps (fun stage l h hNone => ?_) (fun stage l next h hSome => ?_) _ _ _ h
  · have hReacts : o.Reacts policy request fired stage l (o.react policy request fired stage l) :=
      react_cases
    generalize o.react policy request fired stage l = r at hReacts hNone ⊢
    cases hReacts with
    | stops hHeeds =>
        rw [Option.bind_some, ← Option.not_isSome_iff_eq_none] at hNone
        exact absurd ((Stage.heeds_iff_step_cancelled policy stage).mp hHeeds) hNone
    | ends => exact h
    | waits hOn hAction left => exact hBegins stage l _ h hOn hAction left
    | meets _ hAction hEvent =>
        rw [Option.bind_some, ← Option.not_isSome_iff_eq_none] at hNone
        exact absurd (isSome_step_event hAction hEvent) hNone
  · have hReacts : o.Reacts policy request fired stage l (o.react policy request fired stage l) :=
      react_cases
    generalize o.react policy request fired stage l = r at hReacts hSome ⊢
    cases hReacts with
    | stops _ hFired => exact hStops stage l next h hFired hSome
    | ends => cases hSome
    | waits => cases hSome
    | meets hOn hAction hEvent => exact hMeets stage l _ _ next h hOn hAction hEvent hSome

theorem diary_begin (o : Outlook) (l : Log) (action : Stage.Action) :
    (o.begin l action).diary = l.diary ++ if l.left.isSome then [] else [.began action] := by
  obtain ⟨diary, left⟩ := l
  cases left with
  | none => rfl
  | some left => exact (List.append_nil _).symm

theorem submitted_begin {action : Stage.Action}
    (h : Submitted policy request l.diary stage l.left.isSome)
    (hAction : stage.action? policy request = some action) :
    Submitted policy request (o.begin l action).diary stage true := by
  obtain ⟨diary, left⟩ := l
  cases left with
  | none => exact h.begins hAction
  | some left => exact h

/-- Between two wake-ups a submission is somewhere on its course. -/
theorem submitted_wake (h : Submitted policy request w.2.diary w.1 w.2.left.isSome) :
    Submitted policy request (o.wake policy request fired w).2.diary (o.wake policy request fired w).1
      (o.wake policy request fired w).2.left.isSome := by
  refine wake_keeps (P := fun stage l => Submitted policy request l.diary stage l.left.isSome)
    (fun _ _ _ h _ hAction _ => submitted_begin h hAction) (fun _ _ _ _ _ h _ hAction _ hStep => ?_)
    (fun _ _ _ h _ hStep => h.meets (.inl rfl) hStep) h
  exact (submitted_begin h hAction).meets (.inr rfl) hStep

/-- What has been written down stays. -/
theorem diary_prefix_wake : w.2.diary <+: (o.wake policy request fired w).2.diary := by
  have hBegin : ∀ (l : Log) (action : Stage.Action), l.diary <+: (o.begin l action).diary := by
    intro l action
    rw [diary_begin]
    exact List.prefix_append _ _
  exact wake_keeps (P := fun _ l => w.2.diary <+: l.diary)
    (fun _ l action h _ _ _ => h.trans (hBegin l action))
    (fun _ l action _ _ h _ _ _ _ => (h.trans (hBegin l action)).trans (List.prefix_append _ _))
    (fun _ _ _ h _ _ => h.trans (List.prefix_append _ _)) (List.prefix_refl _)

/-- Only the token cancels. -/
theorem uncancelled_wake (h : .met .cancelled ∉ w.2.diary) :
    .met .cancelled ∉ (o.wake policy request false w).2.diary := by
  have hBegin : ∀ (l : Log) (action : Stage.Action), .met .cancelled ∉ l.diary →
      .met .cancelled ∉ (o.begin l action).diary := by
    intro l action h hMem
    rw [diary_begin] at hMem
    rcases List.mem_append.mp hMem with hOld | hNew
    · exact h hOld
    · split at hNew
      · cases hNew
      · cases List.mem_singleton.mp hNew
  refine wake_keeps (P := fun _ l => .met .cancelled ∉ l.diary)
    (fun _ l action h _ _ _ => hBegin l action h)
    (fun _ l action event _ h _ hAction hEvent _ hMem => ?_)
    (fun _ _ _ _ (hFired : false = true) => nomatch hFired) h
  rcases List.mem_append.mp hMem with hOld | hNew
  · exact hBegin l action h hOld
  · cases List.mem_singleton.mp hNew
    cases action with
    | sleep milliseconds =>
        simp only [event?] at hEvent
        split at hEvent <;> cases hEvent
    | call call =>
        cases call with
        | analyze request =>
            obtain ⟨_, _, hAnswer⟩ := Option.map_eq_some_iff.mp hEvent
            cases hAnswer
        | status task =>
            obtain ⟨_, _, hAnswer⟩ := Option.map_eq_some_iff.mp hEvent
            cases hAnswer
        | release task => cases hEvent
        | _ => cases hEvent

/-- Once the token has fired, nothing is started but the release. -/
theorem efforts_wake_fired :
    Diary.efforts (o.wake policy request true w).2.diary = Diary.efforts w.2.diary := by
  have hBegin : ∀ (stage : Stage) (l : Log) (action : Stage.Action), (stage.heeds && true) = false →
      stage.action? policy request = some action →
      Diary.efforts (o.begin l action).diary = Diary.efforts l.diary := by
    intro stage l action hOn hAction
    rw [diary_begin, Diary.efforts, List.filterMap_append]
    cases stage with
    | releasing task e =>
        cases hAction
        split <;> exact List.append_nil _
    | ended outcome => cases hAction
    | _ => cases hOn
  have hMet : ∀ (diary : List Entry) (event : Event),
      Diary.efforts (diary ++ [.met event]) = Diary.efforts diary := by
    intro diary event
    rw [Diary.efforts, List.filterMap_append]
    exact List.append_nil _
  refine wake_keeps (P := fun _ l => Diary.efforts l.diary = Diary.efforts w.2.diary)
    (fun stage l action h hOn hAction _ => (hBegin stage l action hOn hAction).trans h)
    (fun stage l action event _ h hOn hAction _ _ => ?_)
    (fun _ _ _ h (_ : true = true) _ => (hMet _ _).trans h) rfl
  exact (hMet _ event).trans ((hBegin stage l action hOn hAction).trans h)

end Wake

section Run

theorem submitted_awoken (fires : Option Nat) (count : Nat) :
    Submitted policy request (o.awoken policy request fires count).2.diary
      (o.awoken policy request fires count).1 (o.awoken policy request fires count).2.left.isSome := by
  induction count with
  | zero => exact .start
  | succ count ih => exact submitted_wake ih

theorem uncancelled_awoken (count : Nat) :
    .met .cancelled ∉ (o.awoken policy request none count).2.diary := by
  induction count with
  | zero => exact List.not_mem_nil
  | succ count ih => exact uncancelled_wake ih

theorem diary_prefix_awoken (fires : Option Nat) {earlier later : Nat} (h : earlier ≤ later) :
    (o.awoken policy request fires earlier).2.diary <+: (o.awoken policy request fires later).2.diary := by
  obtain ⟨count, rfl⟩ := Nat.exists_eq_add_of_le h
  induction count with
  | zero => exact List.prefix_refl _
  | succ count ih => exact (ih (Nat.le_add_right _ _)).trans diary_prefix_wake

end Run

end Outlook

end AuditDesk.Service

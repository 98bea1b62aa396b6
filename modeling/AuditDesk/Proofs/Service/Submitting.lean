import AuditDesk.Proofs.Service.Waking
import AuditDesk.Service.Client

/-! The client that hands in a source and waits. A token that does not fire makes no difference to it, and
without one it does what is done in a single wake-up. -/
namespace AuditDesk.Service

namespace Client

variable {c : Client} {request : Request} {stage : Stage}

/-- The same client without its token. -/
def untied (c : Client) : Client := { c with token := none }

/-- Whether a call is cancelled while the service is at it makes no difference to the call. -/
theorem call_untied (c : Client) (call : Call) :
    c.untied.call call = ((c.call call).1, (c.call call).2.untied) := by
  cases hCancels : (c.backend.take call).1.cancels <;>
    cases hDelay : (c.backend.take call).1.delay <;>
      simp [Client.call, untied, fire, hCancels, hDelay]

theorem token_call_cases (c : Client) (call : Call) :
    (c.call call).2.token = c.token ∨ (c.call call).2.token = c.fire.token := by
  cases hCancels : (c.backend.take call).1.cancels <;>
    cases hDelay : (c.backend.take call).1.delay <;>
      simp [Client.call, fire, hCancels, hDelay]

theorem isCancelled_call {call : Call} (h : (c.call call).2.isCancelled = false) :
    c.isCancelled = false := by
  rw [isCancelled] at h ⊢
  rcases token_call_cases c call with hSame | hFired
  · rwa [hSame] at h
  · rw [hFired, fire] at h
    cases hToken : c.token with
    | none => rfl
    | some token =>
        rw [hToken] at h
        cases h

theorem token_call (c : Client) (call : Call) (h : c.token = none) : (c.call call).2.token = none := by
  rcases token_call_cases c call with hSame | hFired
  · rw [hSame, h]
  · rw [hFired, fire, h]
    rfl

theorem pause_untied {milliseconds : Nat} (h : (c.pause milliseconds).2.isCancelled = false) :
    c.isCancelled = false ∧
      c.untied.pause milliseconds = ((c.pause milliseconds).1, (c.pause milliseconds).2.untied) := by
  cases hToken : c.token with
  | none => simp [isCancelled, pause, untied, hToken]
  | some token =>
      by_cases hFires : token.firesInPause = some (c.pauses + 1)
      · simp [pause, hToken, hFires, fire, isCancelled] at h
      · simp_all [isCancelled, pause, untied]

/-- As long as the token has not fired, it makes no difference. -/
theorem event_untied (h : (c.event request stage).2.isCancelled = false) :
    c.isCancelled = false ∧
      c.untied.event request stage = ((c.event request stage).1, (c.event request stage).2.untied) := by
  have hUntied : c.untied.isCancelled = false := rfl
  have hPolicy : c.untied.policy = c.policy := rfl
  by_cases hStops : (stage.heeds && c.isCancelled) = true
  · simp only [event, hStops, if_true] at h
    simp [h] at hStops
  simp only [event, hStops, hUntied, hPolicy, Bool.and_false, Bool.false_eq_true, if_false] at h ⊢
  cases hAction : stage.action? c.policy request with
  | none =>
      simp only [hAction, and_true] at h ⊢
      exact h
  | some action =>
      cases action with
      | sleep milliseconds =>
          simp only [hAction] at h ⊢
          obtain ⟨hBefore, hSame⟩ := pause_untied h
          exact ⟨hBefore, by rw [hSame]⟩
      | call call =>
          simp only [hAction] at h ⊢
          rw [call_untied]
          cases hReply : (c.call call).1 with
          | none =>
              simp only [hReply] at h ⊢
              refine ⟨isCancelled_call h, ?_⟩
              simp [h, show (c.call call).2.untied.isCancelled = false from rfl]
          | some reply =>
              simp only [hReply, and_true] at h ⊢
              exact isCancelled_call h

theorem carryOn_untied (policy : PollPolicy) (steps : Nat) : ∀ (stage : Stage) (c : Client),
    (Stage.carryOn policy (fun stage c => c.event request stage) steps stage c).2.isCancelled = false →
      c.isCancelled = false ∧
        Stage.carryOn policy (fun stage c => c.event request stage) steps stage c.untied =
          ((Stage.carryOn policy (fun stage c => c.event request stage) steps stage c).1,
            (Stage.carryOn policy (fun stage c => c.event request stage) steps stage c).2.untied) := by
  induction steps with
  | zero => exact fun _ _ h => ⟨h, rfl⟩
  | succ steps ih =>
      intro stage c h
      simp only [Stage.carryOn] at h ⊢
      cases hNext : (c.event request stage).1.bind (stage.step policy) with
      | none =>
          simp only [hNext] at h ⊢
          obtain ⟨hBefore, hSame⟩ := event_untied h
          refine ⟨hBefore, ?_⟩
          simp only [hSame, hNext]
      | some next =>
          simp only [hNext] at h ⊢
          obtain ⟨hMiddle, hRest⟩ := ih next _ h
          obtain ⟨hBefore, hSame⟩ := event_untied hMiddle
          refine ⟨hBefore, ?_⟩
          simp only [hSame, hNext, hRest]

/-- A token that has not fired by the end makes no difference. -/
theorem submit_untied (h : (c.submit request).2.isCancelled = false) :
    c.untied.submit request = ((c.submit request).1, (c.submit request).2.untied) := by
  have hEnd : (c.submit request).2 = (runFrom request (Stage.asking.remaining c.policy) .asking c).2 := by
    simp only [submit]
    split <;> rfl
  rw [hEnd] at h
  obtain ⟨_, hSame⟩ := carryOn_untied c.policy _ .asking c h
  have hRun : runFrom request (Stage.asking.remaining c.policy) .asking c.untied =
      ((runFrom request (Stage.asking.remaining c.policy) .asking c).1,
        (runFrom request (Stage.asking.remaining c.policy) .asking c).2.untied) := hSame
  simp only [submit, show c.untied.policy = c.policy from rfl, hRun]
  split <;> rfl

/-- The client after an entry of a diary, and the last reply it has got. -/
def advance (now : Client × Option Reply) : Entry → Client × Option Reply
  | .began (.call call) => ((now.1.call call).2, (now.1.call call).1)
  | .began (.sleep milliseconds) => ((now.1.pause milliseconds).2, now.2)
  | .met _ => now

def replayed (c : Client) (diary : List Entry) : Client × Option Reply := diary.foldl advance (c, none)

theorem replayed_append (c : Client) (diary rest : List Entry) :
    c.replayed (diary ++ rest) = rest.foldl advance (c.replayed diary) := List.foldl_append

/-- How the service and the clock of a client behave towards it. -/
def outlook (c : Client) : Outlook where
  analyzed diary :=
    match (c.replayed diary).2 with
    | some (.analyzed answer) => some answer
    | _ => none
  reported diary :=
    match (c.replayed diary).2 with
    | some (.status answer) => some answer
    | _ => none
  elapses _ := true
  vain _ := 0

theorem replayed_keeps {P : Client → Prop} (hCall : ∀ c call, P c → P (c.call call).2)
    (hPause : ∀ c milliseconds, P c → P (c.pause milliseconds).2) (diary : List Entry) (h : P c) :
    P (c.replayed diary).1 := by
  refine List.foldlRecOn (motive := fun now : Client × Option Reply => P now.1) diary advance h
    fun now hNow entry _ => ?_
  cases entry with
  | met event => exact hNow
  | began action =>
      cases action with
      | sleep milliseconds => exact hPause _ _ hNow
      | call call => exact hCall _ _ hNow

theorem policy_call (c : Client) (call : Call) : (c.call call).2.policy = c.policy := by
  cases hCancels : (c.backend.take call).1.cancels <;>
    cases hDelay : (c.backend.take call).1.delay <;>
      simp [Client.call, fire, hCancels, hDelay]

theorem policy_pause (c : Client) (milliseconds : Nat) : (c.pause milliseconds).2.policy = c.policy := by
  simp only [pause]
  split
  · split <;> rfl
  · rfl

theorem token_pause (c : Client) (milliseconds : Nat) (h : c.token = none) :
    (c.pause milliseconds).2.token = none := by
  simp only [pause, h]

theorem elapsed_pause (c : Client) (milliseconds : Nat) (h : c.token = none) :
    (c.pause milliseconds).1 = .elapsed := by
  simp only [pause, h]

/-- Every service lets a task be released. -/
theorem call_release (c : Client) (task : String) : (c.call (.release task)).1 = some .released := by
  obtain ⟨backend, policy, clock, token, pauses⟩ := c
  cases backend <;> rfl

theorem token_replayed (hToken : c.token = none) (diary : List Entry) :
    (c.replayed diary).1.token = none :=
  replayed_keeps (P := fun c => c.token = none) token_call token_pause diary hToken

theorem policy_replayed (c : Client) (diary : List Entry) : (c.replayed diary).1.policy = c.policy :=
  replayed_keeps (P := fun now => now.policy = c.policy)
    (fun now call h => (policy_call now call).trans h)
    (fun now milliseconds h => (policy_pause now milliseconds).trans h) diary rfl

/-- What happens to the client in a stage happens in the same stage in its outlook. -/
structure Matches (c : Client) (request : Request) (stage : Stage) (diary : List Entry) : Prop where
  client : ((c.replayed diary).1.event request stage).2 =
    (c.replayed (c.outlook.react c.policy request false stage ⟨diary, none⟩).2.diary).1
  leads : ((c.replayed diary).1.event request stage).1.bind (stage.step c.policy) =
    (c.outlook.react c.policy request false stage ⟨diary, none⟩).1.bind (stage.step c.policy)
  rests : (c.outlook.react c.policy request false stage ⟨diary, none⟩).1.isSome = true →
    (c.outlook.react c.policy request false stage ⟨diary, none⟩).2.left = none

theorem matches_replayed (hToken : c.token = none) (diary : List Entry) (stage : Stage) :
    c.Matches request stage diary := by
  have hPolicy := c.policy_replayed diary
  have hNow := token_replayed hToken diary
  have hOpen : (c.replayed diary).1.isCancelled = false := by
    rw [isCancelled, hNow]
    rfl
  cases stage with
  | asking =>
      have hLater : ((c.replayed diary).1.call (.analyze request)).2.isCancelled = false := by
        rw [isCancelled, token_call _ _ hNow]
        rfl
      rcases hReply : ((c.replayed diary).1.call (.analyze request)).1 with _ | reply
      · constructor <;> simp [event, Outlook.react, Outlook.begin, Outlook.event?, outlook,
          Stage.action?, replayed_append, advance, hOpen, hReply, hLater]
      · cases reply <;> constructor <;> simp [event, Outlook.react, Outlook.begin, Outlook.event?,
          outlook, Stage.action?, Stage.step, replayed_append, advance, hOpen, hReply]
  | waiting task attempt =>
      constructor <;> simp [event, Outlook.react, Outlook.begin, Outlook.event?, outlook,
        Stage.action?, Stage.step, replayed_append, advance, hOpen, elapsed_pause, hNow, hPolicy]
  | polling task attempt =>
      have hLater : ((c.replayed diary).1.call (.status task)).2.isCancelled = false := by
        rw [isCancelled, token_call _ _ hNow]
        rfl
      rcases hReply : ((c.replayed diary).1.call (.status task)).1 with _ | reply
      · constructor <;> simp [event, Outlook.react, Outlook.begin, Outlook.event?, outlook,
          Stage.action?, replayed_append, advance, hOpen, hReply, hLater]
      · cases reply <;> constructor <;> simp [event, Outlook.react, Outlook.begin, Outlook.event?,
          outlook, Stage.action?, Stage.step, replayed_append, advance, hOpen, hReply]
  | releasing task e =>
      constructor <;> simp [event, Outlook.react, Outlook.begin, Outlook.event?, outlook,
        Stage.action?, Stage.step, replayed_append, advance, hOpen, call_release]
  | ended outcome => constructor <;> simp [event, Outlook.react, Stage.action?, hOpen]

/-- What the client does from a stage on, it does in its outlook. -/
theorem carryOn_replayed (hToken : c.token = none) (steps : Nat) : ∀ (stage : Stage) (diary : List Entry),
    Stage.carryOn c.policy (fun stage c => c.event request stage) steps stage (c.replayed diary).1 =
      ((Stage.carryOn c.policy (c.outlook.react c.policy request false) steps stage ⟨diary, none⟩).1,
        (c.replayed (Stage.carryOn c.policy (c.outlook.react c.policy request false) steps stage
          ⟨diary, none⟩).2.diary).1) := by
  induction steps with
  | zero => exact fun _ _ => rfl
  | succ steps ih =>
      intro stage diary
      have hMatches : c.Matches request stage diary := matches_replayed hToken diary stage
      obtain ⟨hClient, hLeads, hRests⟩ := hMatches
      simp only [Stage.carryOn]
      generalize c.outlook.react c.policy request false stage ⟨diary, none⟩ = r
        at hClient hLeads hRests ⊢
      obtain ⟨event, later, left⟩ := r
      cases hNext : event.bind (stage.step c.policy) with
      | none => simp only [hLeads, hNext, hClient]
      | some next =>
          obtain ⟨_, rfl, _⟩ := Option.bind_eq_some_iff.mp hNext
          obtain rfl : left = none := hRests rfl
          simp only [hLeads, hNext, hClient]
          exact ih next later

/-- A client without a token does what is done in the first wake-up, when every answer that comes comes at
once. -/
theorem runFrom_eq_awoken (hToken : c.token = none) :
    runFrom request (Stage.asking.remaining c.policy) .asking c =
      ((c.outlook.awoken c.policy request none 1).1,
        (c.replayed (c.outlook.awoken c.policy request none 1).2.diary).1) :=
  carryOn_replayed hToken _ .asking []

end Client

end AuditDesk.Service

import AuditDesk.Proofs.Desk.Discipline
import AuditDesk.Proofs.Settings.Spelled

/-! Which variables make settings and which are refused. The first variable that spells no number in its range
is blamed; all others are taken as they are. Settings that are accepted ask for a task at least once before it
is given up. -/
namespace AuditDesk.Config

open Service

/-- A variable that holds a number, and the largest number that it can hold. -/
structure Measure where
  name : String
  most : Nat

namespace Measure

def interval : Measure := ⟨"AUDITOR_POLL_INTERVAL_MS", UInt64.size - 1⟩
def attempts : Measure := ⟨"AUDITOR_MAX_POLL_ATTEMPTS", UInt32.size - 1⟩
def timeout : Measure := ⟨"AUDITOR_REQUEST_TIMEOUT_SECS", UInt64.size - 1⟩

/-- All of them, in the order in which they are looked at. -/
def all : List Measure := [interval, attempts, timeout]

end Measure

section Lookups

variable (lookup : String → Option String)

/-- The variable is present and not blank. -/
def Gives (name raw : String) : Prop := lookup name = some raw ∧ Text.trim raw ≠ ""

/-- A variable that is given means this value; another one leaves the usual value in place. -/
def Takes {α : Type} (name : String) (means : String → α → Prop) (usual value : α) : Prop :=
  (∀ raw, Gives lookup name raw → means raw value) ∧ ((∀ raw, ¬ Gives lookup name raw) → value = usual)

/-- The variable is given, but not with a number in its range. -/
def Offends (m : Measure) (raw : String) : Prop :=
  Gives lookup m.name raw ∧ ∀ n, ¬ SpellsWithin m.most raw n

/-- The variable of this name, unless it is blank. -/
def given? (name : String) : Option String := (lookup name).filter fun raw => !Text.allBlank raw

theorem given?_eq_some_iff {name raw : String} : given? lookup name = some raw ↔ Gives lookup name raw := by
  rw [given?, Option.filter_eq_some_iff, Gives, Ne, Text.trim_eq_empty_iff]
  simp

theorem given?_eq_none_iff {name : String} : given? lookup name = none ↔ ∀ raw, ¬ Gives lookup name raw := by
  simp only [← given?_eq_some_iff, Option.eq_none_iff_forall_ne_some, Ne]

theorem takes_getD (name usual : String) :
    Takes lookup name (fun raw value => value = raw) usual ((given? lookup name).getD usual) := by
  refine ⟨fun raw hGives => ?_, fun hNone => ?_⟩
  · rw [(given?_eq_some_iff lookup).mpr hGives, Option.getD_some]
  · rw [(given?_eq_none_iff lookup).mpr hNone, Option.getD_none]

theorem takes_given (name : String) :
    Takes lookup name (fun raw value => value = some raw) none (given? lookup name) :=
  ⟨fun _ => (given?_eq_some_iff lookup).mpr, (given?_eq_none_iff lookup).mpr⟩

/-- The number that a variable holds, if it is given. -/
def number (m : Measure) : Except ConfigError (Option Nat) :=
  match given? lookup m.name with
  | some raw => do return some (← positive m.name m.most raw)
  | none => .ok none

theorem number_of_not_given {m : Measure} (h : ∀ raw, ¬ Gives lookup m.name raw) :
    number lookup m = .ok none := by
  rw [number, (given?_eq_none_iff lookup).mpr h]

theorem number_of_gives {m : Measure} {raw : String} (h : Gives lookup m.name raw) :
    number lookup m = (positive m.name m.most raw).map some := by
  rw [number, (given?_eq_some_iff lookup).mpr h]
  rfl

/-- The settings made of these numbers and of the texts. -/
def made (interval attempts timeout : Option Nat) : Config where
  apiUrl := (given? lookup "AUDITOR_API_URL").getD "http://localhost:5000"
  apiToken := given? lookup "AUDITOR_API_TOKEN"
  policy := ⟨interval.getD 2000, attempts.getD 150⟩
  requestTimeout := timeout
  dataDir := given? lookup "AUDITOR_DATA_DIR"
  exportDir := (given? lookup "AUDITOR_EXPORT_DIR").getD "."
  offline := false
  ephemeral := false

/-- The numbers are looked at one after the other. -/
theorem ofLookup_eq : ofLookup lookup = (do
    let interval ← number lookup .interval
    let attempts ← number lookup .attempts
    let timeout ← number lookup .timeout
    return made lookup interval attempts timeout) := rfl

variable {lookup}

/-- What a number is taken for, if it is given. -/
theorem number_eq_ok_iff {m : Measure} {value : Option Nat} :
    number lookup m = .ok value ↔
      Takes lookup m.name (fun raw value => ∃ n, SpellsWithin m.most raw n ∧ value = some n) none value := by
  by_cases hGiven : ∃ raw, Gives lookup m.name raw
  · obtain ⟨raw, hGives⟩ := hGiven
    have hOnly : ∀ other, Gives lookup m.name other → other = raw := fun other hOther =>
      Option.some.inj (hOther.1.symm.trans hGives.1)
    rw [number_of_gives lookup hGives]
    constructor
    · intro hNumber
      cases hPositive : positive m.name m.most raw with
      | error e => rw [hPositive] at hNumber; cases hNumber
      | ok n =>
          rw [hPositive] at hNumber
          cases hNumber
          refine ⟨fun other hOther => ⟨n, ?_, rfl⟩, fun hNone => absurd hGives (hNone raw)⟩
          rw [hOnly other hOther]
          exact positive_eq_ok_iff.mp hPositive
    · rintro ⟨hMeans, -⟩
      obtain ⟨n, hSpells, rfl⟩ := hMeans raw hGives
      rw [positive_eq_ok_iff.mpr hSpells]
      rfl
  · have hNone := not_exists.mp hGiven
    rw [number_of_not_given lookup hNone, Except.ok.injEq]
    exact ⟨fun hValue => ⟨fun raw hGives => absurd hGives (hNone raw), fun _ => hValue.symm⟩,
      fun hTakes => (hTakes.2 hNone).symm⟩

theorem number_eq_error_iff {m : Measure} {e : ConfigError} :
    number lookup m = .error e ↔ ∃ raw, Offends lookup m raw ∧ e = ⟨m.name, raw⟩ := by
  constructor
  · intro hNumber
    by_cases hGiven : ∃ raw, Gives lookup m.name raw
    · obtain ⟨raw, hGives⟩ := hGiven
      rw [number_of_gives lookup hGives] at hNumber
      have hNot : ∀ n, ¬ SpellsWithin m.most raw n := by
        intro n hSpells
        rw [positive_eq_ok_iff.mpr hSpells] at hNumber
        cases hNumber
      rw [positive_eq_error hNot] at hNumber
      cases hNumber
      exact ⟨raw, ⟨hGives, hNot⟩, rfl⟩
    · rw [number_of_not_given lookup (not_exists.mp hGiven)] at hNumber
      cases hNumber
  · rintro ⟨raw, ⟨hGives, hNot⟩, rfl⟩
    rw [number_of_gives lookup hGives, positive_eq_error hNot]
    rfl

theorem exists_number_iff {m : Measure} :
    (∃ value, number lookup m = .ok value) ↔
      ∀ raw, Gives lookup m.name raw → ∃ n, SpellsWithin m.most raw n := by
  constructor
  · rintro ⟨value, hNumber⟩ raw hGives
    obtain ⟨n, hSpells, -⟩ := (number_eq_ok_iff.mp hNumber).1 raw hGives
    exact ⟨n, hSpells⟩
  · intro hSpells
    cases hNumber : number lookup m with
    | ok value => exact ⟨value, rfl⟩
    | error e =>
        obtain ⟨raw, ⟨hGives, hNot⟩, -⟩ := number_eq_error_iff.mp hNumber
        obtain ⟨n, hSpells⟩ := hSpells raw hGives
        exact absurd hSpells (hNot n)

theorem ofLookup_eq_ok_iff {c : Config} :
    ofLookup lookup = .ok c ↔ ∃ interval attempts timeout, number lookup .interval = .ok interval ∧
      number lookup .attempts = .ok attempts ∧ number lookup .timeout = .ok timeout ∧
      made lookup interval attempts timeout = c := by
  rw [ofLookup_eq]
  cases number lookup .interval <;> cases number lookup .attempts <;> cases number lookup .timeout <;>
    simp [bind, Except.bind, pure, Except.pure]

theorem not_offends_of_ok {m : Measure} {value : Option Nat} (h : number lookup m = .ok value) (raw : String) :
    ¬ Offends lookup m raw := by
  intro hOffends
  rw [number_eq_error_iff.mpr ⟨raw, hOffends, rfl⟩] at h
  cases h

theorem exists_number_of_not_offends {m : Measure} (h : ∀ raw, ¬ Offends lookup m raw) :
    ∃ value, number lookup m = .ok value := by
  refine exists_number_iff.mpr fun raw hGives => Classical.byContradiction fun hNot => ?_
  exact h raw ⟨hGives, not_exists.mp hNot⟩

variable (lookup)

/-- The error names the first variable that offends, and quotes what it holds. -/
def Blames (e : ConfigError) : Prop :=
  ∃ before m behind raw, Measure.all = before ++ m :: behind ∧
    (∀ other ∈ before, ∀ text, ¬ Offends lookup other text) ∧ Offends lookup m raw ∧ e = ⟨m.name, raw⟩ ∧
    e.message = m.name ++ " must be a positive integer, got '" ++ raw ++ "'"

variable {lookup}

theorem blames_of_error {e : ConfigError} (h : ofLookup lookup = .error e) : Blames lookup e := by
  rw [ofLookup_eq] at h
  cases hInterval : number lookup .interval with
  | error first =>
      rw [hInterval] at h
      cases h
      obtain ⟨raw, hOffends, rfl⟩ := number_eq_error_iff.mp hInterval
      exact ⟨[], .interval, [.attempts, .timeout], raw, rfl, nofun, hOffends, rfl, rfl⟩
  | ok interval =>
      rw [hInterval] at h
      cases hAttempts : number lookup .attempts with
      | error second =>
          rw [hAttempts] at h
          cases h
          obtain ⟨raw, hOffends, rfl⟩ := number_eq_error_iff.mp hAttempts
          refine ⟨[.interval], .attempts, [.timeout], raw, rfl, ?_, hOffends, rfl, rfl⟩
          exact List.forall_mem_singleton.mpr (not_offends_of_ok hInterval)
      | ok attempts =>
          rw [hAttempts] at h
          cases hTimeout : number lookup .timeout with
          | ok timeout => rw [hTimeout] at h; cases h
          | error third =>
              rw [hTimeout] at h
              cases h
              obtain ⟨raw, hOffends, rfl⟩ := number_eq_error_iff.mp hTimeout
              refine ⟨[.interval, .attempts], .timeout, [], raw, rfl, ?_, hOffends, rfl, rfl⟩
              exact List.forall_mem_cons.mpr ⟨not_offends_of_ok hInterval,
                List.forall_mem_singleton.mpr (not_offends_of_ok hAttempts)⟩

theorem error_of_blames {e : ConfigError} (h : Blames lookup e) : ofLookup lookup = .error e := by
  obtain ⟨before, m, behind, raw, hAll, hBefore, hOffends, rfl, -⟩ := h
  have hError : number lookup m = .error ⟨m.name, raw⟩ := number_eq_error_iff.mpr ⟨raw, hOffends, rfl⟩
  have hPassed : ∀ other ∈ before, ∃ value, number lookup other = .ok value := fun other hMem =>
    exists_number_of_not_offends (hBefore other hMem)
  rw [ofLookup_eq]
  simp only [Measure.all] at hAll
  rcases before with _ | ⟨first, _ | ⟨second, _ | ⟨third, others⟩⟩⟩ <;>
    simp only [List.nil_append, List.cons_append, List.cons.injEq] at hAll
  · obtain ⟨rfl, -⟩ := hAll
    rw [hError]
    rfl
  · obtain ⟨rfl, rfl, -⟩ := hAll
    obtain ⟨interval, hInterval⟩ := hPassed .interval List.mem_cons_self
    rw [hInterval, hError]
    rfl
  · obtain ⟨rfl, rfl, rfl, -⟩ := hAll
    obtain ⟨interval, hInterval⟩ := hPassed .interval List.mem_cons_self
    obtain ⟨attempts, hAttempts⟩ := hPassed .attempts (.tail _ List.mem_cons_self)
    rw [hInterval, hAttempts, hError]
    rfl
  · obtain ⟨-, -, -, hNil⟩ := hAll
    simp at hNil

variable (lookup)

/-- Each setting is what its variable means, or else the usual one. -/
structure Settles (c : Config) : Prop where
  interval : Takes lookup "AUDITOR_POLL_INTERVAL_MS" (SpellsWithin (UInt64.size - 1)) 2000 c.policy.interval
  attempts : Takes lookup "AUDITOR_MAX_POLL_ATTEMPTS" (SpellsWithin (UInt32.size - 1)) 150 c.policy.attempts
  timeout : Takes lookup "AUDITOR_REQUEST_TIMEOUT_SECS"
    (fun raw value => ∃ n, SpellsWithin (UInt64.size - 1) raw n ∧ value = some n) none c.requestTimeout
  apiUrl : Takes lookup "AUDITOR_API_URL" (fun raw value => value = raw) "http://localhost:5000" c.apiUrl
  apiToken : Takes lookup "AUDITOR_API_TOKEN" (fun raw value => value = some raw) none c.apiToken
  dataDir : Takes lookup "AUDITOR_DATA_DIR" (fun raw value => value = some raw) none c.dataDir
  exportDir : Takes lookup "AUDITOR_EXPORT_DIR" (fun raw value => value = raw) "." c.exportDir
  flags : c.offline = false ∧ c.ephemeral = false

variable {lookup}

/-- A number that may be missing, with the usual one in its place. -/
theorem takes_number {m : Measure} {value : Option Nat} (usual : Nat) (h : number lookup m = .ok value) :
    Takes lookup m.name (SpellsWithin m.most) usual (value.getD usual) := by
  obtain ⟨hMeans, hNone⟩ := number_eq_ok_iff.mp h
  refine ⟨fun raw hGives => ?_, fun hNot => ?_⟩
  · obtain ⟨n, hSpells, rfl⟩ := hMeans raw hGives
    exact hSpells
  · rw [hNone hNot, Option.getD_none]

theorem settles_of_ok {c : Config} (h : ofLookup lookup = .ok c) : Settles lookup c := by
  obtain ⟨interval, attempts, timeout, hInterval, hAttempts, hTimeout, rfl⟩ := ofLookup_eq_ok_iff.mp h
  exact {
    interval := takes_number 2000 hInterval
    attempts := takes_number 150 hAttempts
    timeout := number_eq_ok_iff.mp hTimeout
    apiUrl := takes_getD lookup _ _
    apiToken := takes_given lookup _
    dataDir := takes_given lookup _
    exportDir := takes_getD lookup _ _
    flags := ⟨rfl, rfl⟩ }

/-- Whether it was given or not, the number of attempts is positive. -/
theorem Settles.attempts_pos {c : Config} (h : Settles lookup c) : 1 ≤ c.policy.attempts := by
  by_cases hGiven : ∃ raw, Gives lookup "AUDITOR_MAX_POLL_ATTEMPTS" raw
  · obtain ⟨raw, hGives⟩ := hGiven
    exact (h.attempts.1 raw hGives).2.1
  · rw [h.attempts.2 (not_exists.mp hGiven)]
    decide

end Lookups

section Watching

variable {policy : PollPolicy} {request : Request} {diary : List Entry} {task : String} {asked : Nat}

theorem givenUp_exhausted {before rest : List Entry} {other : String}
    (h : Stage.GivenUp policy request before other (.exhausted task asked))
    (hRest : (Diary.calls rest).count (.status task) = 0) :
    asked = policy.attempts ∧ (Diary.calls (before ++ rest)).count (.status task) = asked := by
  cases h with
  | exhausted _ hPending hAll =>
      refine ⟨rfl, ?_⟩
      rw [Diary.calls_append, Diary.calls_watching, List.count_append, hRest,
        List.count_cons_of_ne (by simp), List.count_replicate_self, hAll, Nat.add_zero]

/-- A task that is given up as never answered has been asked for as often as the policy allows. -/
theorem asked_of_exhausted {stage : Stage} {begun : Bool} (h : Submitted policy request diary stage begun)
    (hStage : stage = .releasing task (.exhausted task asked) ∨
      stage = .ended (.error (.poll (.exhausted task asked)))) :
    asked = policy.attempts ∧ (Diary.calls diary).count (.status task) = asked := by
  have hAccount := h.account
  rcases hStage with rfl | rfl
  · obtain ⟨before, hGivenUp, rfl⟩ := hAccount
    refine givenUp_exhausted hGivenUp ?_
    cases begun <;> rfl
  · have hEnds : Stage.Ends policy request diary (.error (.poll (.exhausted task asked))) := hAccount
    generalize hOutcome : (Except.error (.poll (.exhausted task asked)) : Except AnalysisError Report) = outcome
      at hEnds
    cases hEnds with
    | unanswered hRest => cases hOutcome
    | refused e => cases hOutcome
    | completed report => cases hOutcome
    | judged other hPending hMore hReported =>
        subst hOutcome
        cases (reported_ended hReported).2
    | released hBefore =>
        cases hOutcome
        exact givenUp_exhausted hBefore rfl

end Watching

/-- Which variables are accepted, what becomes of them, and what is said about others. -/
structure Acceptance (lookup : String → Option String) : Prop where
  accepted : (∃ c, ofLookup lookup = .ok c) ↔
    ∀ m ∈ Measure.all, ∀ raw, Gives lookup m.name raw → ∃ n, SpellsWithin m.most raw n
  settled : ∀ c, ofLookup lookup = .ok c → Settles lookup c
  refused : ∀ e, ofLookup lookup = .error e ↔ Blames lookup e
  /-- Whatever the service does, a task has been asked for before it is given up as exhausted. -/
  asked : ∀ c, ofLookup lookup = .ok c → ∀ request diary stage begun task asked,
    Submitted c.policy request diary stage begun →
    stage = .releasing task (.exhausted task asked) ∨ stage = .ended (.error (.poll (.exhausted task asked))) →
      asked = c.policy.attempts ∧ 1 ≤ asked ∧ (Diary.calls diary).count (.status task) = asked

/-- Settings are read from every lookup as the grammar of numbers and the order of the checks tell. -/
theorem acceptance (lookup : String → Option String) : Acceptance lookup := by
  refine ⟨⟨?_, fun hAll => ?_⟩, fun c => settles_of_ok, fun e => ⟨blames_of_error, error_of_blames⟩, ?_⟩
  · rintro ⟨c, hAccepted⟩ m hMem
    obtain ⟨interval, attempts, timeout, hInterval, hAttempts, hTimeout, -⟩ := ofLookup_eq_ok_iff.mp hAccepted
    refine exists_number_iff.mp ?_
    simp only [Measure.all, List.mem_cons, List.not_mem_nil, or_false] at hMem
    rcases hMem with rfl | rfl | rfl
    · exact ⟨interval, hInterval⟩
    · exact ⟨attempts, hAttempts⟩
    · exact ⟨timeout, hTimeout⟩
  · cases hLookup : ofLookup lookup with
    | ok c => exact ⟨c, rfl⟩
    | error e =>
        obtain ⟨before, m, behind, raw, hSplit, -, ⟨hGives, hNot⟩, -⟩ := blames_of_error hLookup
        obtain ⟨n, hSpells⟩ := hAll m (by rw [hSplit]; simp) raw hGives
        exact absurd hSpells (hNot n)
  · intro c hAccepted request diary stage begun task asked hSubmitted hStage
    obtain ⟨hAll, hCount⟩ := asked_of_exhausted hSubmitted hStage
    exact ⟨hAll, hAll ▸ (settles_of_ok hAccepted).attempts_pos, hCount⟩

end AuditDesk.Config

import AuditDesk.Config

/-! Which texts spell a number: white space, an optional plus sign, decimal digits, white space. This is the
whole grammar, however many zeros stand in front and however large the number is; a bound comes on top. -/
namespace AuditDesk.Config

/-- A whole number is written: white space, an optional plus sign, at least one decimal digit, white space. -/
def Spells (raw : String) (n : Nat) : Prop :=
  ∃ front sign digits back, raw.toList = front ++ (sign ++ digits) ++ back ∧
    (∀ c ∈ front, Text.isBlank c = true) ∧ (∀ c ∈ back, Text.isBlank c = true) ∧
    (sign = [] ∨ sign = ['+']) ∧ digits ≠ [] ∧ (∀ c ∈ digits, c.isDigit = true) ∧
    n = Nat.ofDigitChars 10 digits 0

section Trimming

theorem exists_trimChars (cs : List Char) :
    ∃ front back, cs = front ++ Text.trimChars cs ++ back ∧ (∀ c ∈ front, Text.isBlank c = true) ∧
      ∀ c ∈ back, Text.isBlank c = true := by
  refine ⟨cs.takeWhile Text.isBlank, ((cs.dropWhile Text.isBlank).reverse.takeWhile Text.isBlank).reverse, ?_, ?_, ?_⟩
  · rw [Text.trimChars, Text.dropTrailing, List.append_assoc, ← List.reverse_append,
      List.takeWhile_append_dropWhile, List.reverse_reverse, List.takeWhile_append_dropWhile]
  · exact List.all_eq_true.mp List.all_takeWhile
  · exact fun c hMem => List.all_eq_true.mp List.all_takeWhile c (List.mem_reverse.mp hMem)

theorem trimChars_surrounded {front back : List Char} (hFront : ∀ c ∈ front, Text.isBlank c = true)
    (hBack : ∀ c ∈ back, Text.isBlank c = true) {body : List Char}
    (hBody : ∀ c ∈ body, Text.isBlank c = false) :
    Text.trimChars (front ++ body ++ back) = body := by
  rw [Text.trimChars_append hFront hBack]
  exact Text.trimChars_of_ends (fun c hFirst => hBody c (List.mem_of_mem_head? hFirst))
    fun c hLast => hBody c (List.mem_of_mem_getLast? hLast)

end Trimming

section Numbers

theorem digitsValue?_eq_some_iff {cs : List Char} {n : Nat} :
    digitsValue? cs = some n ↔ cs ≠ [] ∧ (∀ c ∈ cs, c.isDigit = true) ∧ n = Nat.ofDigitChars 10 cs 0 := by
  cases cs with
  | nil => simp [digitsValue?]
  | cons c cs =>
      have hStep : (fun value (c : Char) => value * 10 + (c.toNat - 48)) =
          fun value c => 10 * value + (c.toNat - '0'.toNat) := by
        funext value c
        rw [Nat.mul_comm]
        rfl
      have hValue : digitsValue? (c :: cs) =
          if (c :: cs).all Char.isDigit then some (Nat.ofDigitChars 10 (c :: cs) 0) else none := by
        rw [Nat.ofDigitChars, ← hStep]
        rfl
      rw [hValue, ← List.all_eq_true]
      split
      · rename_i hDigits
        rw [Option.some.injEq, eq_comm]
        exact ⟨fun hValue => ⟨List.cons_ne_nil c cs, hDigits, hValue⟩, fun h => h.2.2⟩
      · rename_i hOther
        exact ⟨nofun, fun h => absurd h.2.1 hOther⟩

theorem unsignedValue?_eq_some_iff {cs : List Char} {n : Nat} :
    unsignedValue? cs = some n ↔ ∃ sign digits, cs = sign ++ digits ∧ (sign = [] ∨ sign = ['+']) ∧
      digits ≠ [] ∧ (∀ c ∈ digits, c.isDigit = true) ∧ n = Nat.ofDigitChars 10 digits 0 := by
  constructor
  · intro h
    unfold unsignedValue? at h
    split at h
    · rename_i cs
      exact ⟨['+'], cs, rfl, .inr rfl, digitsValue?_eq_some_iff.mp h⟩
    · exact ⟨[], cs, rfl, .inl rfl, digitsValue?_eq_some_iff.mp h⟩
  · rintro ⟨sign, digits, rfl, rfl | rfl, hDigits⟩
    · obtain ⟨first, rest, rfl⟩ := List.exists_cons_of_ne_nil hDigits.1
      have hFirst : first ≠ '+' := by
        rintro rfl
        exact absurd (hDigits.2.1 '+' List.mem_cons_self) (by decide)
      rw [List.nil_append, unsignedValue?]
      · exact digitsValue?_eq_some_iff.mpr hDigits
      · rintro _ ⟨⟩
        exact hFirst rfl
    · exact digitsValue?_eq_some_iff.mpr hDigits

/-- What is left of a text without the white space around it is read as a number just if it spells one. -/
theorem spells_iff {raw : String} {n : Nat} :
    unsignedValue? (Text.trimChars raw.toList) = some n ↔ Spells raw n := by
  rw [unsignedValue?_eq_some_iff]
  constructor
  · rintro ⟨sign, digits, hBody, hNumber⟩
    obtain ⟨front, back, hRaw, hFront, hBack⟩ := exists_trimChars raw.toList
    exact ⟨front, sign, digits, back, hBody ▸ hRaw, hFront, hBack, hNumber⟩
  · rintro ⟨front, sign, digits, back, hRaw, hFront, hBack, hSign, hSome, hDigits, hValue⟩
    refine ⟨sign, digits, ?_, hSign, hSome, hDigits, hValue⟩
    rw [hRaw]
    refine trimChars_surrounded hFront hBack fun c hMem => ?_
    rcases List.mem_append.mp hMem with hPlus | hDigit
    · rcases hSign with rfl | rfl
      · cases hPlus
      · rw [List.mem_singleton.mp hPlus]
        decide
    · exact Text.isBlank_of_isDigit (hDigits c hDigit)

/-- A text is taken for a number if it spells one that is positive and not too large. -/
def SpellsWithin (most : Nat) (raw : String) (n : Nat) : Prop := Spells raw n ∧ 1 ≤ n ∧ n ≤ most

theorem positive_eq_ok_iff {name raw : String} {most n : Nat} :
    positive name most raw = .ok n ↔ SpellsWithin most raw n := by
  rw [positive, SpellsWithin, ← spells_iff]
  cases unsignedValue? (Text.trimChars raw.toList) with
  | none => simp
  | some value =>
      by_cases hRange : 1 ≤ value ∧ value ≤ most
      · simp only [Bool.and_eq_true, decide_eq_true_eq, show 0 < value ∧ value ≤ most from hRange, and_self, if_true,
          Except.ok.injEq, Option.some.injEq]
        constructor
        · rintro rfl
          exact ⟨rfl, hRange⟩
        · exact fun h => h.1
      · simp only [Bool.and_eq_true, decide_eq_true_eq, show ¬ (0 < value ∧ value ≤ most) from hRange, if_false,
          reduceCtorEq, Option.some.injEq, false_iff]
        rintro ⟨rfl, hWithin⟩
        exact hRange hWithin

example : positive "COUNT" 7 "\u00a0+007\n" = .ok 7 := rfl

theorem positive_eq_error {name raw : String} {most : Nat} (h : ∀ n, ¬ SpellsWithin most raw n) :
    positive name most raw = .error ⟨name, raw⟩ := by
  cases hPositive : positive name most raw with
  | ok n => exact absurd (positive_eq_ok_iff.mp hPositive) (h n)
  | error e =>
      unfold positive at hPositive
      split at hPositive
      · split at hPositive <;> cases hPositive
        rfl
      · cases hPositive
        rfl

end Numbers

end AuditDesk.Config

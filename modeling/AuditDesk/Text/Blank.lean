/-!
White space in the sense of Unicode's `White_Space` property, and the text that remains after
removing it from both ends. A zero-width space (U+200B) or a byte order mark (U+FEFF) is not blank.
-/
namespace AuditDesk.Text

/-- The characters with the Unicode property `White_Space`, and no others. -/
def isBlank (c : Char) : Bool :=
  let v := c.val
  (0x9 ≤ v && v ≤ 0xD) || v == 0x20 || v == 0x85 || v == 0xA0 || v == 0x1680 ||
    (0x2000 ≤ v && v ≤ 0x200A) || v == 0x2028 || v == 0x2029 || v == 0x202F || v == 0x205F ||
    v == 0x3000

/-- Removes the longest run of characters satisfying `p` from the end. -/
def dropTrailing (p : Char → Bool) (cs : List Char) : List Char :=
  (cs.reverse.dropWhile p).reverse

def trimChars (cs : List Char) : List Char :=
  dropTrailing isBlank (cs.dropWhile isBlank)

/-- The text without the blank characters at its two ends. -/
def trim (s : String) : String :=
  String.ofList (trimChars s.toList)

/-- A text is blank when nothing remains of it after trimming: every character is white space. -/
def allBlank (s : String) : Bool :=
  s.toList.all isBlank

def asciiLower (s : String) : String :=
  String.ofList (s.toList.map Char.toLower)

def asciiUpper (s : String) : String :=
  String.ofList (s.toList.map Char.toUpper)

/-- Pads with spaces on the right up to `width` characters; a longer text is left alone. -/
def padRight (width : Nat) (s : String) : String :=
  s ++ String.ofList (List.replicate (width - s.length) ' ')

/-- Pads with spaces on the left up to `width` characters; a longer text is left alone. -/
def padLeft (width : Nat) (s : String) : String :=
  String.ofList (List.replicate (width - s.length) ' ') ++ s

def repeated (count : Nat) (c : Char) : String :=
  String.ofList (List.replicate count c)

@[simp]
theorem dropTrailing_nil (p : Char → Bool) : dropTrailing p [] = [] := rfl

theorem dropTrailing_append_of_not {p : Char → Bool} {last : Char} (front : List Char)
    (h : p last = false) : dropTrailing p (front ++ [last]) = front ++ [last] := by
  simp [dropTrailing, h]

theorem toList_trim (s : String) : (trim s).toList = trimChars s.toList := by
  simp [trim]

theorem dropWhile_of_head {p : Char → Bool} {cs : List Char} (h : ∀ c ∈ cs.head?, p c = false) :
    cs.dropWhile p = cs := by
  cases cs with
  | nil => rfl
  | cons c rest => rw [List.dropWhile_cons, h c rfl, if_neg Bool.false_ne_true]

/-- A text that neither begins nor ends with a blank stays as it is. -/
theorem trimChars_of_ends {cs : List Char} (hFirst : ∀ c ∈ cs.head?, isBlank c = false)
    (hLast : ∀ c ∈ cs.getLast?, isBlank c = false) : trimChars cs = cs := by
  rw [trimChars, dropWhile_of_head hFirst]
  rcases List.eq_nil_or_concat cs with rfl | ⟨front, last, rfl⟩
  · rfl
  · rw [List.concat_eq_append] at hLast ⊢
    exact dropTrailing_append_of_not front (hLast last List.getLast?_concat)

/-- What stands around a text is trimmed with it. -/
theorem trimChars_append {front back : List Char} (hFront : ∀ c ∈ front, isBlank c = true)
    (hBack : ∀ c ∈ back, isBlank c = true) (body : List Char) :
    trimChars (front ++ body ++ back) = trimChars body := by
  have hNone : (back ++ []).dropWhile isBlank = [] := List.dropWhile_append_of_pos hBack
  rw [List.append_nil] at hNone
  rw [trimChars, trimChars, List.append_assoc, List.dropWhile_append_of_pos hFront, List.dropWhile_append]
  split
  · rename_i hBlank
    rw [List.isEmpty_iff.mp hBlank, hNone]
  · rw [dropTrailing, List.reverse_append,
      List.dropWhile_append_of_pos fun c hMem => hBack c (List.mem_reverse.mp hMem), dropTrailing]

theorem isBlank_of_isDigit {c : Char} (h : c.isDigit = true) : isBlank c = false := by
  have hRange : 48 ≤ c.val.toNat ∧ c.val.toNat ≤ 57 := Char.isDigit_iff_toNat.mp h
  simp only [isBlank, Bool.or_eq_false_iff, Bool.and_eq_false_iff, beq_eq_false_iff_ne, ne_eq,
    decide_eq_false_iff_not, UInt32.le_iff_toNat_le, ← UInt32.toNat_inj, UInt32.reduceToNat]
  omega

theorem dropTrailing_dropWhile_eq_nil_iff (p : Char → Bool) (cs : List Char) :
    dropTrailing p (cs.dropWhile p) = [] ↔ ∀ c ∈ cs, p c = true := by
  induction cs with
  | nil => simp
  | cons c cs ih =>
      cases hHead : p c with
      | true => simp only [List.dropWhile_cons, hHead, ↓reduceIte, ih, List.forall_mem_cons, true_and]
      | false =>
          have hKept : dropTrailing p (c :: cs) ≠ [] := by
            rw [dropTrailing, List.reverse_cons, List.dropWhile_append]
            split <;> simp [hHead]
          simp [hHead, hKept]

theorem trim_eq_empty_iff (s : String) : trim s = "" ↔ allBlank s = true := by
  rw [trim, String.ofList_eq_empty_iff, trimChars, dropTrailing_dropWhile_eq_nil_iff, allBlank,
    List.all_eq_true]

end AuditDesk.Text

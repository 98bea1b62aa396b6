import AuditDesk.Csv

/-! Single fields of comma-separated values. Reading a field undoes writing it, and a field changes when it is
written exactly if one of four characters is in it. Between the enclosing quotes a written field has all its
quotes in pairs, so that taking the pairs from the left finds just those that were made. -/
namespace AuditDesk.Csv

theorem needsQuotes_iff {c : Char} : needsQuotes c = true ↔ c = '"' ∨ c = ',' ∨ c = '\n' ∨ c = '\r' := by
  simp only [needsQuotes, Bool.or_eq_true, decide_eq_true_eq, or_assoc]

theorem any_needsQuotes_iff {cs : List Char} :
    cs.any needsQuotes = false ↔ ∀ c ∈ cs, c ≠ '"' ∧ c ≠ ',' ∧ c ≠ '\n' ∧ c ≠ '\r' := by
  simp only [List.any_eq_false, needsQuotes_iff, not_or, ne_eq]

section Pairs

/-- All quotes stand in pairs. -/
inductive Paired : List Char → Prop
  | nil : Paired []
  | quotes {cs : List Char} (h : Paired cs) : Paired ('"' :: '"' :: cs)
  | other {c : Char} {cs : List Char} (hOther : c ≠ '"') (h : Paired cs) : Paired (c :: cs)

theorem undoubled_other {c : Char} (h : c ≠ '"') (cs : List Char) : undoubled (c :: cs) = c :: undoubled cs := by
  rw [undoubled]
  rintro rest rfl
  exact absurd rfl h

theorem undoubled_doubled (cs : List Char) : undoubled (doubled cs) = cs := by
  induction cs with
  | nil => rfl
  | cons c cs ih =>
      by_cases hQuote : c = '"'
      · subst hQuote
        rw [doubled, if_pos rfl, undoubled, ih]
      · rw [doubled, if_neg hQuote, undoubled_other hQuote, ih]

theorem paired_doubled (cs : List Char) : Paired (doubled cs) := by
  induction cs with
  | nil => exact .nil
  | cons c cs ih =>
      rw [doubled]
      split
      · exact .quotes ih
      · rename_i hOther
        exact .other hOther ih

/-- Where quotes stand in pairs, each pair is one that was made. -/
theorem Paired.doubled_undoubled {cs : List Char} (h : Paired cs) : doubled (undoubled cs) = cs := by
  induction h with
  | nil => rfl
  | quotes _ ih => rw [undoubled, doubled, if_pos rfl, ih]
  | other hOther _ ih => rw [undoubled_other hOther, doubled, if_neg hOther, ih]

theorem mem_doubled {c : Char} {cs : List Char} : c ∈ doubled cs ↔ c ∈ cs := by
  induction cs with
  | nil => rfl
  | cons d cs ih =>
      rw [doubled]
      split
      · rename_i hQuote
        rw [List.mem_cons, List.mem_cons, ih, List.mem_cons, hQuote, ← or_assoc, or_self]
      · rw [List.mem_cons, ih, List.mem_cons]

theorem any_doubled (cs : List Char) : (doubled cs).any needsQuotes = cs.any needsQuotes := by
  rw [Bool.eq_iff_iff, List.any_eq_true, List.any_eq_true]
  simp only [mem_doubled]

theorem length_le_doubled (cs : List Char) : cs.length ≤ (doubled cs).length := by
  induction cs with
  | nil => exact Nat.le_refl _
  | cons c cs ih =>
      rw [doubled]
      split <;> simp only [List.length_cons] <;> omega

end Pairs

section Fields

variable {cs : List Char}

theorem escapeChars_bare (h : cs.any needsQuotes = false) : escapeChars cs = cs := by
  rw [escapeChars, h, if_neg Bool.false_ne_true]

theorem escapeChars_quoted (h : cs.any needsQuotes = true) : escapeChars cs = '"' :: (doubled cs ++ ['"']) := by
  rw [escapeChars, if_pos h]

theorem unescapeChars_bare (h : cs.any needsQuotes = false) : unescapeChars cs = cs := by
  have hOpen : enclosed? cs = none := by
    cases cs with
    | nil => rfl
    | cons c cs =>
        have hNotQuote : c ≠ '"' := (any_needsQuotes_iff.mp h c List.mem_cons_self).1
        rw [enclosed?]
        rintro rest hSame
        exact absurd (List.cons.inj hSame).1 hNotQuote
  rw [unescapeChars, hOpen]

theorem unescapeChars_quoted (body : List Char) : unescapeChars ('"' :: (body ++ ['"'])) = undoubled body := by
  rw [unescapeChars, enclosed?, if_pos List.getLast?_concat, List.dropLast_concat]

/-- A written field is longer as soon as it is quoted. -/
theorem escapeChars_eq_self_iff : escapeChars cs = cs ↔ cs.any needsQuotes = false := by
  refine ⟨fun hSame => Bool.eq_false_iff.mpr fun hQuoted => ?_, escapeChars_bare⟩
  have hLength := congrArg List.length hSame
  have hLonger := length_le_doubled cs
  rw [escapeChars_quoted hQuoted, List.length_cons, List.length_append, List.length_singleton] at hLength
  omega

theorem unescapeChars_escapeChars (cs : List Char) : unescapeChars (escapeChars cs) = cs := by
  cases hQuotes : cs.any needsQuotes with
  | true => rw [escapeChars_quoted hQuotes, unescapeChars_quoted, undoubled_doubled]
  | false => rw [escapeChars_bare hQuotes, unescapeChars_bare hQuotes]

/-- How a field may be written: as it is, or between quotes when it has to be. -/
inductive Written : List Char → Prop
  | bare {cs : List Char} (h : cs.any needsQuotes = false) : Written cs
  | quoted {body : List Char} (h : Paired body) (hNeeded : body.any needsQuotes = true) :
      Written ('"' :: (body ++ ['"']))

theorem written_escapeChars (cs : List Char) : Written (escapeChars cs) := by
  cases hQuotes : cs.any needsQuotes with
  | true =>
      rw [escapeChars_quoted hQuotes]
      exact .quoted (paired_doubled cs) ((any_doubled cs).trans hQuotes)
  | false =>
      rw [escapeChars_bare hQuotes]
      exact .bare hQuotes

theorem Written.escapeChars_unescapeChars (h : Written cs) : escapeChars (unescapeChars cs) = cs := by
  cases h with
  | bare hBare => rw [unescapeChars_bare hBare, escapeChars_bare hBare]
  | @quoted body hPaired hNeeded =>
      have hInner : (undoubled body).any needsQuotes = true := by
        rw [← any_doubled, hPaired.doubled_undoubled, hNeeded]
      rw [unescapeChars_quoted, escapeChars_quoted hInner, hPaired.doubled_undoubled]

end Fields

theorem unescape_escape (s : String) : unescape (escape s) = s := by
  rw [unescape, escape, String.toList_ofList, unescapeChars_escapeChars, String.ofList_toList]

theorem escape_unescape_of_written {f : String} (h : Written f.toList) : escape (unescape f) = f := by
  rw [escape, unescape, String.toList_ofList, h.escapeChars_unescapeChars, String.ofList_toList]

theorem exists_escape_iff (f : String) : (∃ s, escape s = f) ↔ Written f.toList := by
  constructor
  · rintro ⟨s, rfl⟩
    rw [escape, String.toList_ofList]
    exact written_escapeChars s.toList
  · exact fun hWritten => ⟨_, escape_unescape_of_written hWritten⟩

/-- Reading a field undoes writing it. Writing leaves a field alone exactly if it holds no quote, comma or line
break. Writing undoes reading on all that writing produces, which is what is bare without need of quotes, or
stands between needed quotes with all other quotes in pairs, and on nothing else. -/
theorem field_codec :
    (∀ s, unescape (escape s) = s) ∧
    (∀ s, escape s = s ↔ ∀ c ∈ s.toList, c ≠ '"' ∧ c ≠ ',' ∧ c ≠ '\n' ∧ c ≠ '\r') ∧
    (∀ f, escape (unescape f) = f ↔ ∃ s, escape s = f) ∧
    ∀ f, (∃ s, escape s = f) ↔ Written f.toList := by
  refine ⟨unescape_escape, fun s => ?_, fun f => ⟨fun hSame => ⟨_, hSame⟩, ?_⟩, exists_escape_iff⟩
  · rw [← any_needsQuotes_iff, ← escapeChars_eq_self_iff, escape, ← String.toList_inj, String.toList_ofList]
  · rintro ⟨s, rfl⟩
    rw [unescape_escape]

/-- A field of two quotes is written with six, and what is no written form may be read as well. -/
example : escape "\"\"" = "\"\"\"\"\"\"" ∧ unescape "\"\"\"" = "\"" ∧ escape "\"" = "\"\"\"\"" := by decide

end AuditDesk.Csv

import AuditDesk.Csv

/-! Reading comma-separated values, one character after the other. A comma outside quotes ends a field, and
a line feed, a carriage return or both in this order end a record; between quotes everything belongs to
the field, and two quotes stand for one. The reader takes what it is given without trimming. It gets the
findings of a report back from the written form, each as a record of its own. -/
namespace AuditDesk.Csv

/-- Where in a field the next character stands. -/
inductive Place where
  | opening
  /-- Behind a carriage return that has ended a record; a line feed still belongs to it. -/
  | returned
  /-- In a field without quotes. -/
  | plain
  | quoted
  /-- Behind a quote that closes the field, unless it is the first of two. -/
  | closing
deriving DecidableEq

/-- Whether the text of a field can be over here. -/
def Place.mayEnd : Place → Bool
  | .opening | .plain | .closing => true
  | .returned | .quoted => false

/-- What has been read so far, the latest always first. -/
structure Reader where
  place : Place
  field : List Char
  record : List String
  records : List (List String)

namespace Reader

def start : Reader := ⟨.opening, [], [], []⟩

def put (r : Reader) (place : Place) (c : Char) : Reader := { r with place := place, field := c :: r.field }

def endField (r : Reader) : Reader :=
  { r with place := .opening, field := [], record := String.ofList r.field.reverse :: r.record }

def endRecord (r : Reader) (place : Place) : Reader :=
  ⟨place, [], [], r.endField.record.reverse :: r.records⟩

/-- Takes a character outside quotes. A quote may only open a field. -/
def bare (r : Reader) (c : Char) : Option Reader :=
  if c = ',' then some r.endField
  else if c = '\n' then some (r.endRecord .opening)
  else if c = '\r' then some (r.endRecord .returned)
  else if c = '"' then none
  else some (r.put .plain c)

def first (r : Reader) (c : Char) : Option Reader :=
  if c = '"' then some { r with place := .quoted } else r.bare c

def step (r : Reader) (c : Char) : Option Reader :=
  match r.place with
  | .opening => r.first c
  | .returned => if c = '\n' then some { r with place := .opening } else r.first c
  | .plain => r.bare c
  | .quoted => some (if c = '"' then { r with place := .closing } else r.put .quoted c)
  | .closing =>
      if c = '"' then some (r.put .quoted c) else if needsQuotes c then r.bare c else none

/-- The records once the text is over. A line break at the very end begins no record, and a field must
not be left open. -/
def finish? (r : Reader) : Option (List (List String)) :=
  if r.place = .quoted then none
  else if r.record.isEmpty && (r.place = .opening || r.place = .returned) then some r.records.reverse
  else some (r.endRecord .opening).records.reverse

end Reader

/-- The records of a text, or nothing when its quotes are out of place. -/
def records? (text : String) : Option (List (List String)) :=
  (text.toList.foldlM Reader.step .start).bind Reader.finish?

namespace Reader

section Fields

theorem bare_of_plain (r : Reader) {c : Char} (h : needsQuotes c = false) :
    r.bare c = some (r.put .plain c) := by
  simp only [needsQuotes, Bool.or_eq_false_iff, decide_eq_false_iff_not] at h
  obtain ⟨⟨⟨hQuote, hComma⟩, hFeed⟩, hReturn⟩ := h
  simp only [bare, hQuote, hComma, hFeed, hReturn, ↓reduceIte]

theorem foldlM_plain {cs : List Char} (h : ∀ c ∈ cs, needsQuotes c = false) (field : List Char)
    (record : List String) (records : List (List String)) :
    cs.foldlM step ⟨.plain, field, record, records⟩ =
      some ⟨.plain, cs.reverse ++ field, record, records⟩ := by
  induction cs generalizing field with
  | nil => rfl
  | cons c cs ih =>
      have hStep : step ⟨.plain, field, record, records⟩ c = some ⟨.plain, c :: field, record, records⟩ :=
        bare_of_plain _ (h c List.mem_cons_self)
      have hMore := ih (fun d hd => h d (List.mem_cons_of_mem _ hd)) (c :: field)
      rw [List.foldlM_cons, hStep, List.reverse_cons, List.append_assoc]
      exact hMore

/-- Between quotes only the quotes change anything. -/
theorem foldlM_doubled (cs field : List Char) (record : List String) (records : List (List String)) :
    (doubled cs).foldlM step ⟨.quoted, field, record, records⟩ =
      some ⟨.quoted, cs.reverse ++ field, record, records⟩ := by
  induction cs generalizing field with
  | nil => rfl
  | cons c cs ih =>
      rw [List.reverse_cons, List.append_assoc]
      by_cases hQuote : c = '"'
      · subst hQuote
        exact ih ('"' :: field)
      · have hStep : step ⟨.quoted, field, record, records⟩ c =
            some ⟨.quoted, c :: field, record, records⟩ := by
          simp only [step, put, hQuote, ↓reduceIte]
        rw [doubled, if_neg hQuote, List.foldlM_cons, hStep]
        exact ih (c :: field)

end Fields

section Written

variable {place : Place} (field : List Char) (record : List String) (records : List (List String))

theorem step_comma (h : place.mayEnd = true) : step ⟨place, field, record, records⟩ ',' =
    some ⟨.opening, [], String.ofList field.reverse :: record, records⟩ := by
  cases place <;> first | rfl | cases h

theorem step_lineFeed (h : place.mayEnd = true) : step ⟨place, field, record, records⟩ '\n' =
    some ⟨.opening, [], [], (String.ofList field.reverse :: record).reverse :: records⟩ := by
  cases place <;> first | rfl | cases h

/-- However a field is written, the reader has collected it as it was when its text is over. -/
theorem foldlM_escape (text : String) (record : List String) (records : List (List String)) :
    ∃ place, place.mayEnd = true ∧ (escape text).toList.foldlM step ⟨.opening, [], record, records⟩ =
      some ⟨place, text.toList.reverse, record, records⟩ := by
  rw [escape, String.toList_ofList]
  generalize text.toList = cs
  cases hQuotes : cs.any needsQuotes with
  | true =>
      refine ⟨.closing, rfl, ?_⟩
      have hOpen : step ⟨.opening, [], record, records⟩ '"' = some ⟨.quoted, [], record, records⟩ := rfl
      rw [escapeChars, if_pos hQuotes, List.foldlM_cons, hOpen]
      change (doubled cs ++ ['"']).foldlM step ⟨.quoted, [], record, records⟩ = _
      rw [List.foldlM_append, foldlM_doubled, List.append_nil]
      rfl
  | false =>
      have hPlain : ∀ c ∈ cs, needsQuotes c = false := by simpa using hQuotes
      rw [escapeChars, hQuotes, if_neg Bool.false_ne_true]
      cases cs with
      | nil => exact ⟨.opening, rfl, rfl⟩
      | cons c cs =>
          refine ⟨.plain, rfl, ?_⟩
          have hFirst := hPlain c List.mem_cons_self
          have hNotQuote : c ≠ '"' := by
            rintro rfl
            cases hFirst
          have hStep : step ⟨.opening, [], record, records⟩ c = some ⟨.plain, [c], record, records⟩ := by
            rw [step, first, if_neg hNotQuote, bare_of_plain _ hFirst]
            rfl
          rw [List.foldlM_cons, hStep, List.reverse_cons]
          exact foldlM_plain (fun d hd => hPlain d (List.mem_cons_of_mem _ hd)) [c] record records

theorem foldlM_record (f : Finding) (records : List (List String)) :
    ∃ place, place.mayEnd = true ∧
      (Csv.record f).toList.foldlM step ⟨.opening, [], [], records⟩ =
        some ⟨place, f.description.toList.reverse, [f.name], records⟩ := by
  obtain ⟨middle, hMiddle, hName⟩ := foldlM_escape f.name [] records
  obtain ⟨place, hPlace, hDescription⟩ := foldlM_escape f.description [f.name] records
  refine ⟨place, hPlace, ?_⟩
  have hComma : ",".toList.foldlM step ⟨middle, f.name.toList.reverse, [], records⟩ =
      some ⟨.opening, [], [f.name], records⟩ := by
    have hStep := step_comma f.name.toList.reverse [] records hMiddle
    rw [List.reverse_reverse, String.ofList_toList] at hStep
    exact (Option.bind_fun_some _).trans hStep
  rw [Csv.record, String.toList_append, String.toList_append, List.foldlM_append, List.foldlM_append, hName]
  exact (congrArg (Option.bind · _) hComma).trans hDescription

theorem finish?_of_mayEnd (h : place.mayEnd = true) (hRecord : record ≠ []) :
    finish? ⟨place, field, record, records⟩ =
      some (records.reverse ++ [record.reverse ++ [String.ofList field.reverse]]) := by
  have hPlace : place ≠ .quoted := by
    rintro rfl
    cases h
  have hSome : record.isEmpty = false := by simpa using hRecord
  simp [finish?, endRecord, endField, hPlace, hSome]

/-- Every finding adds the record that its line holds. -/
theorem finish?_foldlM_lines (findings : List Finding) {place : Place} (hPlace : place.mayEnd = true)
    (field : List Char) {record : List String} (hRecord : record ≠ []) (records : List (List String)) :
    ((findings.flatMap fun f => '\n' :: (Csv.record f).toList).foldlM step
        ⟨place, field, record, records⟩).bind finish? =
      some (records.reverse ++ (record.reverse ++ [String.ofList field.reverse]) ::
        findings.map fun f => [f.name, f.description]) := by
  induction findings generalizing place field record records with
  | nil => exact finish?_of_mayEnd field record records hPlace hRecord
  | cons f findings ih =>
      obtain ⟨next, hNext, hLine⟩ :=
        foldlM_record f ((String.ofList field.reverse :: record).reverse :: records)
      rw [List.flatMap_cons, List.foldlM_append, List.foldlM_cons, step_lineFeed _ _ _ hPlace]
      simp only [Option.bind_eq_bind, Option.bind_some, hLine]
      refine (ih hNext _ (List.cons_ne_nil _ _) _).trans ?_
      simp

end Written

end Reader

/-- The header stands on the first line, and every finding begins a new one. -/
theorem toList_ofReport (r : Report) : (ofReport r).toList =
    header.toList ++ r.findings.flatMap fun f => '\n' :: (record f).toList := by
  have hLines : ∀ (line : List Char) (lines : List (List Char)),
      ['\n'].intercalate (line :: lines) = line ++ lines.flatMap ('\n' :: ·) := by
    intro line lines
    induction lines generalizing line with
    | nil => simp
    | cons next lines ih => rw [List.intercalate_cons_cons, ih]; simp
  have hFeed : "\n".toList = ['\n'] := rfl
  rw [ofReport, String.toList_intercalate, hFeed, List.map_cons, hLines, List.map_map, List.flatMap_map]
  rfl

/-- The written form of a report reads as a header and one record for each finding, with its exact name
and description. So two reports are written alike only if they have the same findings. -/
theorem records_ofReport (r : Report) :
    records? (ofReport r) =
      some (["Vulnerability", "Description"] :: r.findings.map fun f => [f.name, f.description]) ∧
    ∀ other : Report, ofReport r = ofReport other ↔ r.findings = other.findings := by
  have hRead : ∀ r : Report, records? (ofReport r) =
      some (["Vulnerability", "Description"] :: r.findings.map fun f => [f.name, f.description]) := by
    intro r
    have hHeader : header.toList.foldlM Reader.step .start =
        some ⟨.plain, "Description".toList.reverse, ["Vulnerability"], []⟩ := by rfl
    rw [records?, toList_ofReport, List.foldlM_append, hHeader]
    exact Reader.finish?_foldlM_lines r.findings rfl _ (List.cons_ne_nil _ _) []
  refine ⟨hRead r, fun other => ⟨fun hSame => ?_, fun hSame => ?_⟩⟩
  · have hRecords := hRead r
    rw [hSame, hRead other] at hRecords
    have hFields : ∀ f g : Finding, [f.name, f.description] = [g.name, g.description] → f = g := by
      rintro ⟨name, description⟩ ⟨_, _⟩ hFields
      cases hFields
      rfl
    exact ((List.map_inj_right hFields).mp (List.cons.inj (Option.some.inj hRecords)).2).symm
  · rw [ofReport, ofReport, hSame]

/-- Every kind of line break ends a record, and between quotes none does. -/
example : records? "a,\"b\"\"\n\"\r\n,\rc" = some [["a", "b\"\n"], ["", ""], ["c"]] := by decide

end AuditDesk.Csv

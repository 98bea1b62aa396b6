import AuditDesk.Comparison
import Mathlib.Algebra.GroupWithZero.Nat
import Mathlib.Data.List.Forall2

/-! The layout of a comparison on the page. A table is told by the widths of its columns alone: they fix where
each cell begins in every line, whatever stands in the cells. The rule below the heading has a plus sign in front
of each column but the first, so the widths, and with them the marks, can be found on the page again. -/
namespace AuditDesk.Comparison

section Cells

/-- Where a column begins, counted in characters: behind the earlier columns and the three characters that
follow each of them. -/
def start (widths : List Nat) (column : Nat) : Nat := (widths.take column).sum + 3 * column

/-- A line in columns. A cell is followed by spaces only, as many as its column is wide, and the same three
characters stand between any two columns. -/
structure LaidOut (widths : List Nat) (between : String) (cells : List String) (line : List Char) : Prop where
  length : line.length = widths.sum + 3 * (widths.length - 1)
  cell : ∀ column width, widths[column]? = some width → ∃ cell spaces, cells[column]? = some cell ∧
    (line.drop (start widths column)).take width = cell.toList ++ List.replicate spaces ' '
  between : ∀ column width, widths[column]? = some width → column + 1 < widths.length →
    (line.drop (start widths column + width)).take 3 = between.toList

/-- Every cell has room in its column. -/
abbrev Fits (widths : List Nat) (cells : List String) : Prop :=
  List.Forall₂ (fun width (cell : String) => cell.length ≤ width) widths cells

theorem start_succ (width : Nat) (widths : List Nat) (column : Nat) :
    start (width :: widths) (column + 1) = width + 3 + start widths column := by
  simp only [start, List.take_succ_cons, List.sum_cons]
  omega

variable {between : List Char} {parts : List (List Char)}

theorem length_intercalate (hBetween : between.length = 3) (part : List Char) (parts : List (List Char)) :
    (between.intercalate (part :: parts)).length =
      ((part :: parts).map List.length).sum + 3 * parts.length := by
  induction parts generalizing part with
  | nil => simp
  | cons next parts ih =>
      rw [List.intercalate_cons_cons, List.length_append, List.length_append, ih, hBetween]
      simp only [List.map_cons, List.sum_cons, List.length_cons]
      omega

/-- The rest of a line from a column on is the line of the columns from there on. -/
theorem drop_start (hBetween : between.length = 3) {column : Nat} (hColumn : column < parts.length) :
    (between.intercalate parts).drop (start (parts.map List.length) column) =
      between.intercalate (parts.drop column) := by
  induction column generalizing parts with
  | zero => simp [start]
  | succ column ih =>
      match parts, hColumn with
      | part :: next :: parts, hColumn =>
          have hFront : (part ++ between).length = part.length + 3 := by rw [List.length_append, hBetween]
          rw [List.map_cons, start_succ, List.intercalate_cons_cons, ← hFront, List.drop_length_add_append,
            ih (Nat.lt_of_succ_lt_succ hColumn), List.drop_succ_cons]

theorem take_intercalate (between part : List Char) (parts : List (List Char)) :
    (between.intercalate (part :: parts)).take part.length = part := by
  cases parts with
  | nil => rw [List.intercalate_singleton, List.take_length]
  | cons next parts => rw [List.intercalate_cons_cons, List.append_assoc, List.take_left]

theorem take_between (hBetween : between.length = 3) (part next : List Char) (parts : List (List Char)) :
    ((between.intercalate (part :: next :: parts)).drop part.length).take 3 = between := by
  rw [List.intercalate_cons_cons, List.append_assoc, List.drop_left, List.take_left' hBetween]

end Cells

section Lines

variable {widths : List Nat} {cells : List String}

theorem toList_padRight (width : Nat) (s : String) :
    (Text.padRight width s).toList = s.toList ++ List.replicate (width - s.length) ' ' := by
  rw [Text.padRight, String.toList_append, String.toList_ofList]

theorem length_padRight {width : Nat} {s : String} (h : s.length ≤ width) :
    (Text.padRight width s).toList.length = width := by
  rw [toList_padRight, List.length_append, List.length_replicate, String.length_toList]
  omega

/-- The cells of a line as they are written. -/
def padded (widths : List Nat) (cells : List String) : List (List Char) :=
  (List.zipWith Text.padRight widths cells).map String.toList

theorem padded_cons (width : Nat) (widths : List Nat) (cell : String) (cells : List String) :
    padded (width :: widths) (cell :: cells) = (Text.padRight width cell).toList :: padded widths cells := rfl

theorem lengths_padded (h : Fits widths cells) : (padded widths cells).map List.length = widths := by
  induction h with
  | nil => rfl
  | cons hFirst _ ih => rw [padded_cons, List.map_cons, length_padRight hFirst, ih]

theorem length_padded (h : Fits widths cells) : (padded widths cells).length = widths.length := by
  rw [← List.length_map, lengths_padded h]

/-- At its column stands a cell as it is written, and behind it those of the later columns. -/
theorem drop_padded (h : Fits widths cells) {column width : Nat} (hWidth : widths[column]? = some width) :
    ∃ cell, cells[column]? = some cell ∧ cell.length ≤ width ∧
      (padded widths cells).drop column =
        (Text.padRight width cell).toList :: (padded widths cells).drop (column + 1) := by
  induction h generalizing column with
  | nil => cases hWidth
  | @cons first cell widths cells hFirst _ ih =>
      cases column with
      | zero =>
          obtain rfl : first = width := Option.some.inj hWidth
          exact ⟨cell, rfl, hFirst, rfl⟩
      | succ column => exact ih hWidth

/-- The cells of a line as they stand in it. -/
theorem toList_intercalate_padded (between : String) (widths : List Nat) (cells : List String) :
    (between.intercalate (List.zipWith Text.padRight widths cells)).toList =
      between.toList.intercalate (padded widths cells) := String.toList_intercalate

/-- Where a column begins, its cell stands with those of the later columns behind it. -/
theorem drop_start_padded (h : Fits widths cells) {between : List Char} (hBetween : between.length = 3)
    {column width : Nat} (hWidth : widths[column]? = some width) :
    ∃ cell, cells[column]? = some cell ∧ (Text.padRight width cell).toList.length = width ∧
      (between.intercalate (padded widths cells)).drop (start widths column) =
        between.intercalate ((Text.padRight width cell).toList :: (padded widths cells).drop (column + 1)) := by
  obtain ⟨cell, hCell, hRoom, hDrop⟩ := drop_padded h hWidth
  have hColumn : column < (padded widths cells).length := by
    rw [length_padded h]
    exact (List.getElem?_eq_some_iff.mp hWidth).1
  have hStart := drop_start hBetween hColumn
  rw [lengths_padded h, hDrop] at hStart
  exact ⟨cell, hCell, length_padRight hRoom, hStart⟩

/-- Cells that have room make a line in columns. -/
theorem laidOut (h : Fits widths cells) (hSome : widths ≠ []) {between : String}
    (hBetween : between.toList.length = 3) :
    LaidOut widths between cells (between.intercalate (List.zipWith Text.padRight widths cells)).toList := by
  rw [toList_intercalate_padded]
  refine ⟨?_, fun column width hWidth => ?_, fun column width hWidth hNext => ?_⟩
  · cases hParts : padded widths cells with
    | nil =>
        have hLength := length_padded h
        rw [hParts] at hLength
        exact absurd (List.length_eq_zero_iff.mp hLength.symm) hSome
    | cons part parts =>
        rw [length_intercalate hBetween, ← hParts, lengths_padded h, ← length_padded h, hParts, List.length_cons,
          Nat.add_sub_cancel]
  · obtain ⟨cell, hCell, hLength, hRest⟩ := drop_start_padded h hBetween hWidth
    have hTake := take_intercalate between.toList (Text.padRight width cell).toList
      ((padded widths cells).drop (column + 1))
    rw [hLength] at hTake
    exact ⟨cell, _, hCell, by rw [hRest, hTake, toList_padRight]⟩
  · obtain ⟨cell, _, hLength, hRest⟩ := drop_start_padded h hBetween hWidth
    obtain ⟨next, parts, hMore⟩ : ∃ next parts, (padded widths cells).drop (column + 1) = next :: parts := by
      refine List.exists_cons_of_ne_nil (mt List.drop_eq_nil_iff.mp ?_)
      rw [length_padded h]
      omega
    have hBehind := take_between hBetween (Text.padRight width cell).toList next parts
    rw [hLength] at hBehind
    rw [← List.drop_drop, hRest, hMore, hBehind]

theorem mem_intercalate {between : List Char} {parts : List (List Char)} {c : Char}
    (h : c ∈ between.intercalate parts) : c ∈ between ∨ ∃ part ∈ parts, c ∈ part := by
  induction parts with
  | nil => cases h
  | cons part parts ih =>
      cases parts with
      | nil =>
          rw [List.intercalate_singleton] at h
          exact .inr ⟨part, List.mem_cons_self, h⟩
      | cons next parts =>
          rw [List.intercalate_cons_cons, List.append_assoc, List.mem_append, List.mem_append] at h
          rcases h with hPart | hBetween | hRest
          · exact .inr ⟨part, List.mem_cons_self, hPart⟩
          · exact .inl hBetween
          · obtain hBetween | ⟨other, hOther, hMem⟩ := ih hRest
            · exact .inl hBetween
            · exact .inr ⟨other, List.mem_cons_of_mem _ hOther, hMem⟩

/-- Whatever stands in a line stands in a cell or between two, or fills a cell up. -/
theorem mem_laidOut {between : String} {c : Char}
    (h : c ∈ (between.intercalate (List.zipWith Text.padRight widths cells)).toList) :
    c ∈ between.toList ∨ c = ' ' ∨ ∃ cell ∈ cells, c ∈ cell.toList := by
  rw [toList_intercalate_padded] at h
  obtain hBetween | ⟨part, hPart, hMem⟩ := mem_intercalate h
  · exact .inl hBetween
  · have hCells : List.zipWith Text.padRight widths cells =
        (widths.zip cells).map fun pair => Text.padRight pair.1 pair.2 := by
      rw [List.zip_eq_zipWith, List.map_zipWith]
    rw [padded, hCells, List.map_map] at hPart
    obtain ⟨⟨width, cell⟩, hCell, rfl⟩ := List.mem_map.mp hPart
    change c ∈ (Text.padRight width cell).toList at hMem
    rw [toList_padRight, List.mem_append] at hMem
    rcases hMem with hMem | hSpace
    · exact .inr (.inr ⟨cell, (List.of_mem_zip hCell).2, hMem⟩)
    · exact .inr (.inl (List.eq_of_mem_replicate hSpace))

end Lines

section Widths

theorem le_foldl_max (rows : List ComparisonRow) (width : Nat) :
    width ≤ rows.foldl (fun width r => max width r.finding.length) width ∧
      ∀ r ∈ rows, r.finding.length ≤ rows.foldl (fun width r => max width r.finding.length) width := by
  induction rows generalizing width with
  | nil => exact ⟨Nat.le_refl _, List.forall_mem_nil _⟩
  | cons r rows ih =>
      obtain ⟨hBase, hRows⟩ := ih (max width r.finding.length)
      exact ⟨Nat.le_trans (Nat.le_max_left _ _) hBase,
        List.forall_mem_cons.mpr ⟨Nat.le_trans (Nat.le_max_right _ _) hBase, hRows⟩⟩

theorem heading_le_nameWidth (c : Comparison) : heading.length ≤ c.nameWidth := (le_foldl_max c.rows _).1

theorem finding_le_nameWidth {c : Comparison} {r : ComparisonRow} (h : r ∈ c.rows) :
    r.finding.length ≤ c.nameWidth := (le_foldl_max c.rows _).2 r h

/-- The widths of all columns, that of the names first. -/
def widths (c : Comparison) : List Nat := c.nameWidth :: c.columnWidths

theorem length_widths (c : Comparison) : c.widths.length = c.columns.length + 1 := by
  rw [widths, List.length_cons, columnWidths, List.length_map]

theorem fits_heading (c : Comparison) : Fits c.widths (heading :: c.columns) := by
  refine .cons c.heading_le_nameWidth ?_
  rw [columnWidths]
  induction c.columns with
  | nil => exact .nil
  | cons label labels ih => exact .cons (Nat.le_max_left _ _) ih

theorem length_mark (present : Bool) : (mark present).length = 1 := by cases present <;> rfl

theorem fits_marks (labels : List String) {presence : List Bool} (h : presence.length = labels.length) :
    Fits (labels.map fun label => max label.length 1) (presence.map mark) := by
  induction labels generalizing presence with
  | nil =>
      rw [List.length_eq_zero_iff.mp h]
      exact .nil
  | cons label labels ih =>
      cases presence with
      | nil => cases h
      | cons present presence =>
          refine .cons ?_ (ih (Nat.succ.inj h))
          rw [length_mark]
          exact Nat.le_max_right _ _

theorem fits_row {c : Comparison} {r : ComparisonRow} (hMem : r ∈ c.rows)
    (hPresence : r.presence.length = c.columns.length) : Fits c.widths (r.finding :: r.presence.map mark) :=
  .cons (finding_le_nameWidth hMem) (fits_marks c.columns hPresence)

/-- The cells of the rule below the heading. -/
def dashes (widths : List Nat) : List String := widths.map fun width => Text.repeated width '-'

theorem length_repeated (width : Nat) (sign : Char) : (Text.repeated width sign).length = width := by
  rw [Text.repeated, String.length_ofList, List.length_replicate]

theorem fits_dashes (widths : List Nat) : Fits widths (dashes widths) := by
  induction widths with
  | nil => exact .nil
  | cons width widths ih => exact .cons (Nat.le_of_eq (length_repeated width '-')) ih

/-- Dashes fill their columns, so none is padded. -/
theorem rule_eq (widths : List Nat) :
    rule widths = "-+-".intercalate (List.zipWith Text.padRight widths (dashes widths)) := by
  rw [rule, dashes, List.zipWith_map_right, List.zipWith_self]
  congr 1
  refine List.map_congr_left fun width _ => ?_
  rw [Text.padRight, length_repeated, Nat.sub_self, List.replicate_zero, String.ofList_nil, String.append_empty]

end Widths

section Marks

/-- The marks of a line that stands under a rule: each is two characters behind a plus sign. -/
def marksUnder : List Char → List Char → List Bool
  | sign :: rule, _ :: row =>
      if sign = '+' then (row[1]? == some '✓') :: marksUnder rule row else marksUnder rule row
  | _, _ => []

/-- A line feed at the very end leaves an empty line behind it. -/
def lines (text : String) : List (List Char) := text.toList.splitOn '\n'

/-- The marks of all rows of a table, which stand under its second line. -/
def marks (text : String) : List (List Bool) :=
  match lines text with
  | _ :: rule :: rows => rows.map (marksUnder rule)
  | _ => []

theorem marksUnder_dashes {cell : List Char} {width : Nat} (h : cell.length = width) (rule row : List Char) :
    marksUnder (List.replicate width '-' ++ rule) (cell ++ row) = marksUnder rule row := by
  induction cell generalizing width with
  | nil =>
      subst h
      rfl
  | cons c cell ih =>
      subst h
      rw [List.length_cons, List.replicate_succ, List.cons_append, List.cons_append, marksUnder,
        if_neg (by decide), ih rfl]

/-- Behind a cell comes the mark of the next column. -/
theorem marksUnder_column {cell : List Char} {width : Nat} (h : cell.length = width) (rule row : List Char) :
    marksUnder (List.replicate width '-' ++ "-+-".toList ++ rule) (cell ++ " | ".toList ++ row) =
      (row[0]? == some '✓') :: marksUnder rule row := by
  rw [List.append_assoc, List.append_assoc, marksUnder_dashes h]
  rfl

theorem getElem?_zero_intercalate {between part : List Char} {c : Char} (parts : List (List Char))
    (h : part[0]? = some c) : (between.intercalate (part :: parts))[0]? = some c := by
  have hFront := take_intercalate between part parts
  have hSome : 0 < part.length := (List.getElem?_eq_some_iff.mp h).1
  rw [← List.getElem?_take_of_lt hSome, hFront, h]

theorem marksUnder_row {width : Nat} {widths : List Nat} {cell : String} {presence : List Bool}
    (hCell : cell.length ≤ width) (h : Fits widths (presence.map mark)) :
    marksUnder (rule (width :: widths)).toList (line (width :: widths) (cell :: presence.map mark)).toList =
      presence := by
  rw [rule, line, String.toList_intercalate, String.toList_intercalate]
  induction presence generalizing width widths cell with
  | nil =>
      cases h
      have hDashes := marksUnder_dashes (length_padRight hCell) [] []
      rw [List.append_nil, List.append_nil] at hDashes
      simp only [List.map_cons, List.map_nil, List.zipWith_cons_cons, List.zipWith_nil_left,
        List.intercalate_singleton, Text.repeated, String.toList_ofList, hDashes, marksUnder]
  | cons present presence ih =>
      cases h with
      | @cons next _ widths _ hMark hMarks =>
          have hSign : (Text.padRight next (mark present)).toList[0]? = some (if present then '✓' else '-') := by
            rw [toList_padRight]
            cases present <;> rfl
          have hRest := ih hMark hMarks
          simp only [List.map_cons, List.zipWith_cons_cons, List.intercalate_cons_cons] at hRest ⊢
          rw [Text.repeated, String.toList_ofList, marksUnder_column (length_padRight hCell)]
          rw [hRest, getElem?_zero_intercalate _ hSign]
          cases present <;> rfl

end Marks

section Table

variable {c : Comparison}

theorem not_mem_laidOut {widths : List Nat} {cells : List String} {between : String}
    (hBetween : '\n' ∉ between.toList) (hCells : ∀ cell ∈ cells, '\n' ∉ cell.toList) :
    '\n' ∉ (between.intercalate (List.zipWith Text.padRight widths cells)).toList := by
  intro hMem
  obtain hBad | hBad | ⟨cell, hCell, hBad⟩ := mem_laidOut hMem
  · exact hBetween hBad
  · exact absurd hBad (by decide)
  · exact hCells cell hCell hBad

theorem not_mem_dashes (widths : List Nat) : ∀ cell ∈ dashes widths, '\n' ∉ cell.toList := by
  intro cell hCell hMem
  obtain ⟨width, _, rfl⟩ := List.mem_map.mp hCell
  rw [Text.repeated, String.toList_ofList] at hMem
  exact absurd (List.eq_of_mem_replicate hMem) (by decide)

theorem not_mem_marks (presence : List Bool) : ∀ cell ∈ presence.map mark, '\n' ∉ cell.toList := by
  intro cell hCell
  obtain ⟨present, _, rfl⟩ := List.mem_map.mp hCell
  cases present <;> decide

/-- Without line feeds in its texts a table is read line by line. -/
theorem lines_table (hNames : ∀ r ∈ c.rows, '\n' ∉ r.finding.toList)
    (hLabels : ∀ label ∈ c.columns, '\n' ∉ label.toList) :
    lines c.table = (line c.widths (heading :: c.columns)).toList :: (rule c.widths).toList ::
      c.rows.map fun r => (line c.widths (r.finding :: r.presence.map mark)).toList := by
  have hTable : c.table.toList = ['\n'].intercalate ((line c.widths (heading :: c.columns)).toList ::
      (rule c.widths).toList :: c.rows.map fun r => (line c.widths (r.finding :: r.presence.map mark)).toList) := by
    rw [table, String.toList_intercalate, List.map_cons, List.map_cons, List.map_map]
    rfl
  rw [lines, hTable]
  refine List.splitOn_intercalate '\n' ?_ (List.cons_ne_nil _ _)
  have hSpaced : '\n' ∉ " | ".toList := by decide
  refine List.forall_mem_cons.mpr ⟨?_, List.forall_mem_cons.mpr ⟨?_, List.forall_mem_map.mpr fun r hr => ?_⟩⟩
  · exact not_mem_laidOut hSpaced (List.forall_mem_cons.mpr ⟨by decide, hLabels⟩)
  · rw [rule_eq]
    exact not_mem_laidOut (by decide) (not_mem_dashes c.widths)
  · exact not_mem_laidOut hSpaced (List.forall_mem_cons.mpr ⟨hNames r hr, not_mem_marks r.presence⟩)

end Table

/-- A table of a comparison without line feeds in its texts is as many lines as there are rows and two more, all
of one length. The lines have their columns at the same places: those of the headings, of a rule of dashes, and
of each row with its name and marks. What is marked can be told from the table alone. -/
theorem table_laidOut {c : Comparison} (hPresence : ∀ r ∈ c.rows, r.presence.length = c.columns.length)
    (hNames : ∀ r ∈ c.rows, '\n' ∉ r.finding.toList) (hLabels : ∀ label ∈ c.columns, '\n' ∉ label.toList) :
    (∃ (widths : List Nat) (top under : List Char) (rows : List (List Char)),
      lines c.table = top :: under :: rows ∧ rows.length = c.rows.length ∧
      (∃ length, 0 < length ∧ ∀ l ∈ lines c.table, l.length = length) ∧
      widths.length = c.columns.length + 1 ∧
      LaidOut widths " | " (heading :: c.columns) top ∧
      LaidOut widths "-+-" (dashes widths) under ∧
      List.Forall₂ (fun r l => LaidOut widths " | " (r.finding :: r.presence.map mark) l) c.rows rows) ∧
    marks c.table = c.rows.map ComparisonRow.presence := by
  have hLines := lines_table hNames hLabels
  have hSome : c.widths ≠ [] := List.cons_ne_nil _ _
  have hTop : LaidOut c.widths " | " (heading :: c.columns) (line c.widths (heading :: c.columns)).toList :=
    laidOut (fits_heading c) hSome rfl
  have hUnder : LaidOut c.widths "-+-" (dashes c.widths) (rule c.widths).toList := by
    rw [rule_eq]
    exact laidOut (fits_dashes c.widths) hSome rfl
  have hRow : ∀ r ∈ c.rows, LaidOut c.widths " | " (r.finding :: r.presence.map mark)
      (line c.widths (r.finding :: r.presence.map mark)).toList :=
    fun r hr => laidOut (fits_row hr (hPresence r hr)) hSome rfl
  have hLength : ∀ l ∈ lines c.table, l.length = c.widths.sum + 3 * (c.widths.length - 1) := by
    rw [hLines]
    exact List.forall_mem_cons.mpr ⟨hTop.length, List.forall_mem_cons.mpr ⟨hUnder.length,
      List.forall_mem_map.mpr fun r hr => (hRow r hr).length⟩⟩
  have hWide : 0 < c.widths.sum + 3 * (c.widths.length - 1) := by
    have hHeading := heading_le_nameWidth c
    have hLetters : heading.length = 13 := by decide
    rw [widths, List.sum_cons]
    omega
  refine ⟨⟨c.widths, _, _, _, hLines, List.length_map _, ⟨_, hWide, hLength⟩, length_widths c, hTop, hUnder, ?_⟩, ?_⟩
  · rw [List.forall₂_map_right_iff, List.forall₂_same]
    exact hRow
  · rw [marks, hLines]
    refine (List.map_map ..).trans (List.map_congr_left fun r hr => ?_)
    exact marksUnder_row (finding_le_nameWidth hr) (fits_marks c.columns (hPresence r hr))

/-- A comparison whose names and labels are wider and narrower than the heading, in several scripts, and look
like columns themselves. -/
def motley : Comparison :=
  ⟨["", "a | b", "β"], [⟨"✓ | - | ✓ | -", [true, false, true]⟩, ⟨"", [false, false, true]⟩]⟩

theorem table_laidOut_motley :
    (∀ r ∈ motley.rows, r.presence.length = motley.columns.length) ∧
    (∀ r ∈ motley.rows, '\n' ∉ r.finding.toList) ∧ (∀ label ∈ motley.columns, '\n' ∉ label.toList) ∧
    (lines motley.table).length = 4 ∧ marks motley.table = [[true, false, true], [false, false, true]] := by
  have hPresence : ∀ r ∈ motley.rows, r.presence.length = motley.columns.length := by decide
  have hNames : ∀ r ∈ motley.rows, '\n' ∉ r.finding.toList := by decide
  have hLabels : ∀ label ∈ motley.columns, '\n' ∉ label.toList := by decide
  obtain ⟨⟨_, _, _, _, hLines, hRows, _⟩, hMarks⟩ := table_laidOut hPresence hNames hLabels
  refine ⟨hPresence, hNames, hLabels, ?_, hMarks⟩
  rw [hLines, List.length_cons, List.length_cons, hRows]
  rfl

end AuditDesk.Comparison

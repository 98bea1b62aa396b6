import AuditDesk.Comparison
import Mathlib.Data.List.Basic

/-! What a comparison holds, told from the reports alone: one row for each name, in the order in which the
names first come up when the reports are read one after the other, and in it one entry for each report.
The names are collected with those already known set aside; the order is carried through that collection
on the flat list of names, and only then seen on the reports. -/
namespace AuditDesk

namespace Report

theorem mentions_iff (r : Report) (name : String) :
    r.mentions name = true ↔ ∃ finding ∈ r.findings, finding.name = name := by
  simp only [mentions, List.any_eq_true, beq_iff_eq]

end Report

namespace Comparison

theorem idxOf_le_of_getElem? {α : Type} [DecidableEq α] {items : List α} {item : α} {place : Nat}
    (h : items[place]? = some item) : items.idxOf item ≤ place := by
  induction items generalizing place with
  | nil => cases h
  | cons first items ih =>
      by_cases hFirst : first = item
      · rw [List.idxOf_cons_eq _ hFirst]
        exact Nat.zero_le _
      · cases place with
        | zero => exact absurd (Option.some.inj h) hFirst
        | succ place =>
            rw [List.idxOf_cons_ne _ hFirst]
            exact Nat.succ_le_succ (ih h)

section Names

/-- What a list adds to the names that are known: its new names, in the order in which they first come up. -/
structure Adds (known names fresh : List String) : Prop where
  mem_iff : ∀ name, name ∈ fresh ↔ name ∈ names ∧ name ∉ known
  ordered : fresh.Pairwise fun name other => names.idxOf name < names.idxOf other

variable {known names fresh : List String} {name : String}

theorem Adds.nodup (h : Adds known names fresh) : fresh.Nodup :=
  h.ordered.imp fun hBefore hSame => absurd (congrArg names.idxOf hSame) (Nat.ne_of_lt hBefore)

theorem Adds.nothing (known : List String) : Adds known [] [] where
  mem_iff _ := by simp
  ordered := .nil

/-- A name in front of all others leaves their order alone. -/
theorem Adds.ordered_cons (h : Adds known names fresh) (hOther : name ∉ fresh) :
    fresh.Pairwise fun first second => (name :: names).idxOf first < (name :: names).idxOf second := by
  refine h.ordered.imp_of_mem fun {first second} hFirst hSecond hBefore => ?_
  rw [List.idxOf_cons_ne _ (ne_of_mem_of_not_mem hFirst hOther).symm,
    List.idxOf_cons_ne _ (ne_of_mem_of_not_mem hSecond hOther).symm]
  exact Nat.succ_lt_succ hBefore

theorem Adds.skip (h : Adds known names fresh) (hKnown : name ∈ known) : Adds known (name :: names) fresh where
  mem_iff other := by
    rw [h.mem_iff, List.mem_cons]
    refine ⟨fun ⟨hMem, hNew⟩ => ⟨.inr hMem, hNew⟩, fun ⟨hMem, hNew⟩ => ⟨hMem.resolve_left ?_, hNew⟩⟩
    rintro rfl
    exact hNew hKnown
  ordered := h.ordered_cons fun hMem => ((h.mem_iff name).mp hMem).2 hKnown

theorem Adds.take (h : Adds (name :: known) names fresh) (hNew : name ∉ known) :
    Adds known (name :: names) (name :: fresh) := by
  have hOther : name ∉ fresh := fun hMem => ((h.mem_iff name).mp hMem).2 List.mem_cons_self
  refine ⟨fun other => ?_, List.pairwise_cons.mpr ⟨fun other hMem => ?_, h.ordered_cons hOther⟩⟩
  · rw [List.mem_cons, h.mem_iff, List.mem_cons, List.mem_cons]
    by_cases hSame : other = name
    · subst hSame
      exact iff_of_true (.inl rfl) ⟨.inl rfl, hNew⟩
    · simp only [hSame, false_or]
  · rw [List.idxOf_cons_eq _ rfl, List.idxOf_cons_ne _ (ne_of_mem_of_not_mem hMem hOther).symm]
    exact Nat.succ_pos _

theorem exists_distinctNames (known names : List String) :
    ∃ fresh, distinctNames known names = known.reverse ++ fresh ∧ Adds known names fresh := by
  induction names generalizing known with
  | nil => exact ⟨[], (List.append_nil _).symm, .nothing known⟩
  | cons name names ih =>
      rw [distinctNames]
      split
      · rename_i hKnown
        obtain ⟨fresh, hNames, hAdds⟩ := ih known
        exact ⟨fresh, hNames, hAdds.skip (List.contains_iff_mem.mp hKnown)⟩
      · rename_i hNew
        obtain ⟨fresh, hNames, hAdds⟩ := ih (name :: known)
        refine ⟨name :: fresh, ?_, hAdds.take (mt List.contains_iff_mem.mpr hNew)⟩
        rw [hNames, List.reverse_cons, List.append_assoc, List.singleton_append]

theorem distinctNames_adds (names : List String) : Adds [] names (distinctNames [] names) := by
  obtain ⟨fresh, hNames, hAdds⟩ := exists_distinctNames [] names
  rw [hNames]
  exact hAdds

end Names

section Places

/-- A finding of this name is at this line of the report that is to fill this column. -/
def StandsAt (reports : List Report) (name : String) (column line : Nat) : Prop :=
  ∃ report finding, reports[column]? = some report ∧ report.findings[line]? = some finding ∧
    finding.name = name

/-- When the reports are read from left to right, and each from top to bottom, the one name comes up before
the other ever does. -/
def AppearsBefore (reports : List Report) (name other : String) : Prop :=
  ∃ column line, StandsAt reports name column line ∧ ∀ column' line', StandsAt reports other column' line' →
    column < column' ∨ column = column' ∧ line < line'

variable {reports : List Report} {r : Report} {name other : String}

theorem standsAt_zero {line : Nat} :
    StandsAt (r :: reports) name 0 line ↔ (r.findings.map Finding.name)[line]? = some name := by
  simp [StandsAt, List.getElem?_map, Option.map_eq_some_iff]

theorem standsAt_succ {column line : Nat} :
    StandsAt (r :: reports) name (column + 1) line ↔ StandsAt reports name column line := by
  simp only [StandsAt, List.getElem?_cons_succ]

theorem findingNames_cons (r : Report) (reports : List Report) :
    findingNames (r :: reports) = r.findings.map Finding.name ++ findingNames reports := rfl

theorem mem_findingNames :
    name ∈ findingNames reports ↔ ∃ report ∈ reports, ∃ finding ∈ report.findings, finding.name = name := by
  simp only [findingNames, List.mem_flatMap, List.mem_map]

/-- The entry of a report says whether the name stands anywhere in it. -/
theorem presence_iff {column : Nat} :
    (row reports name).presence[column]? = some true ↔ ∃ line, StandsAt reports name column line := by
  simp only [row, List.getElem?_map, Option.map_eq_some_iff, Report.mentions_iff, StandsAt]
  constructor
  · rintro ⟨report, hReport, finding, hMem, hName⟩
    obtain ⟨line, hLine⟩ := List.mem_iff_getElem?.mp hMem
    exact ⟨line, report, finding, hReport, hLine, hName⟩
  · rintro ⟨line, report, finding, hReport, hLine, hName⟩
    exact ⟨report, hReport, finding, List.mem_of_getElem? hLine, hName⟩

/-- What comes first in the flat list of names comes up first in the reports. -/
theorem appearsBefore_of_idxOf_lt
    (h : (findingNames reports).idxOf name < (findingNames reports).idxOf other) :
    AppearsBefore reports name other := by
  induction reports with
  | nil => cases h
  | cons r reports ih =>
      rw [findingNames_cons] at h
      by_cases hHere : name ∈ r.findings.map Finding.name
      · -- It stands in the first report, where the other can only stand further down.
        rw [List.idxOf_append_of_mem hHere] at h
        refine ⟨0, _, standsAt_zero.mpr (List.getElem?_idxOf hHere), fun column line hOther => ?_⟩
        cases column with
        | zero =>
            have hLine := standsAt_zero.mp hOther
            rw [List.idxOf_append_of_mem (List.mem_of_getElem? hLine)] at h
            exact .inr ⟨rfl, Nat.lt_of_lt_of_le h (idxOf_le_of_getElem? hLine)⟩
        | succ column => exact .inl (Nat.succ_pos column)
      · -- Neither stands in the first report.
        rw [List.idxOf_append_of_notMem hHere] at h
        have hOtherLater : other ∉ r.findings.map Finding.name := fun hOther => by
          rw [List.idxOf_append_of_mem hOther] at h
          have hWithin := List.idxOf_lt_length_of_mem hOther
          omega
        rw [List.idxOf_append_of_notMem hOtherLater] at h
        obtain ⟨column, line, hName, hBefore⟩ := ih (Nat.lt_of_add_lt_add_left h)
        refine ⟨column + 1, line, standsAt_succ.mpr hName, fun column' line' hOther => ?_⟩
        cases column' with
        | zero => exact absurd (List.mem_of_getElem? (standsAt_zero.mp hOther)) hOtherLater
        | succ column' =>
            have hPlaces := hBefore column' line' (standsAt_succ.mp hOther)
            omega

end Places

section Matrix

variable {reports : List Report}

/-- What a comparison of these reports has to hold. -/
structure Tabulates (reports : List Report) (c : Comparison) : Prop where
  names_nodup : (c.rows.map ComparisonRow.finding).Nodup
  mem_names : ∀ name, name ∈ c.rows.map ComparisonRow.finding ↔
    ∃ report ∈ reports, ∃ finding ∈ report.findings, finding.name = name
  names_ordered : (c.rows.map ComparisonRow.finding).Pairwise (AppearsBefore reports)
  length_presence : ∀ row ∈ c.rows, row.presence.length = reports.length
  presence_iff : ∀ row ∈ c.rows, ∀ (column : Nat) (report : Report), reports[column]? = some report →
    (row.presence[column]? = some true ↔ ∃ finding ∈ report.findings, finding.name = row.finding)
  some_present : ∀ row ∈ c.rows, true ∈ row.presence
  firsts_ordered : c.rows.Pairwise fun row later => row.presence.idxOf true ≤ later.presence.idxOf true
  length_columns : c.columns.length = reports.length
  columns : ∀ (column : Nat) (report : Report), reports[column]? = some report →
    c.columns[column]? = some ((report.id.map ReportId.display).getD ("#" ++ toString column))

/-- A name that comes up first in one column is there, and not in an earlier one. -/
theorem standsAt_idxOf {name : String} (h : true ∈ (row reports name).presence) :
    ∃ line, StandsAt reports name ((row reports name).presence.idxOf true) line :=
  presence_iff.mp (List.getElem?_idxOf h)

theorem idxOf_le_of_appearsBefore {name other : String} (hBefore : AppearsBefore reports name other)
    (hOther : true ∈ (row reports other).presence) :
    (row reports name).presence.idxOf true ≤ (row reports other).presence.idxOf true := by
  obtain ⟨column, line, hName, hFirst⟩ := hBefore
  obtain ⟨line', hPlace⟩ := standsAt_idxOf hOther
  have hColumn : (row reports name).presence.idxOf true ≤ column :=
    idxOf_le_of_getElem? (presence_iff.mpr ⟨line, hName⟩)
  have hPlaces := hFirst _ line' hPlace
  omega

theorem present_of_mem {name : String} (h : name ∈ findingNames reports) : true ∈ (row reports name).presence := by
  obtain ⟨report, hReport, hFinding⟩ := mem_findingNames.mp h
  exact List.mem_map.mpr ⟨report, hReport, (Report.mentions_iff report name).mpr hFinding⟩

theorem getElem?_labels {column : Nat} {report : Report} (h : reports[column]? = some report) :
    (labels reports)[column]? = some ((report.id.map ReportId.display).getD ("#" ++ toString column)) := by
  rw [labels, List.getElem?_mapIdx, h, Option.map_some, Report.label]
  cases report.id <;> rfl

theorem tabulates (reports : List Report) :
    Tabulates reports ⟨labels reports, (distinctNames [] (findingNames reports)).map (row reports)⟩ := by
  have hAdds := distinctNames_adds (findingNames reports)
  have hNames : ((distinctNames [] (findingNames reports)).map (row reports)).map ComparisonRow.finding =
      distinctNames [] (findingNames reports) := by
    rw [List.map_map]
    exact List.map_id _
  have hMem : ∀ name, name ∈ distinctNames [] (findingNames reports) ↔ name ∈ findingNames reports :=
    fun name => by simp [hAdds.mem_iff]
  have hBefore : (distinctNames [] (findingNames reports)).Pairwise (AppearsBefore reports) :=
    hAdds.ordered.imp appearsBefore_of_idxOf_lt
  exact {
    names_nodup := by
      rw [hNames]
      exact hAdds.nodup
    mem_names := fun name => by rw [hNames, hMem, mem_findingNames]
    names_ordered := by
      rw [hNames]
      exact hBefore
    length_presence := List.forall_mem_map.mpr fun name _ => List.length_map _
    presence_iff := List.forall_mem_map.mpr fun name _ column report hReport => by
      rw [row, List.getElem?_map, hReport, Option.map_some, Option.some_inj, Report.mentions_iff]
    some_present := List.forall_mem_map.mpr fun name hName => present_of_mem ((hMem name).mp hName)
    firsts_ordered := by
      refine List.pairwise_map.mpr (hBefore.imp_of_mem fun _ hOther hEarlier => ?_)
      exact idxOf_le_of_appearsBefore hEarlier (present_of_mem ((hMem _).mp hOther))
    length_columns := List.length_mapIdx
    columns := fun _ _ => getElem?_labels }

end Matrix

/-- Too few reports are refused with their number, and any others are tabulated. -/
theorem ofReports_tabulates (reports : List Report) (leastCount : Nat) :
    (∀ e, ofReports reports leastCount = .error e ↔
      reports.length < leastCount ∧ e = ⟨leastCount, reports.length⟩) ∧
    (leastCount ≤ reports.length → ∃ c, ofReports reports leastCount = .ok c ∧ Tabulates reports c) := by
  by_cases hFew : reports.length < leastCount
  · rw [ofReports, if_pos hFew]
    exact ⟨fun e => ⟨fun h => ⟨hFew, (Except.error.inj h).symm⟩, fun h => by rw [h.2]⟩,
      fun hEnough => absurd hFew (Nat.not_lt_of_le hEnough)⟩
  · rw [ofReports, if_neg hFew]
    exact ⟨fun e => ⟨(nomatch ·), fun h => absurd h.1 hFew⟩,
      fun _ => ⟨_, rfl, tabulates reports⟩⟩

/-- A report that names one finding twice, one with an identifier of its own, and one without findings. -/
def repeating : List Report :=
  [⟨none, none, none, [⟨"C", "c"⟩, ⟨"A", "a"⟩, ⟨"C", "d"⟩]⟩,
    ⟨some (.number 12), none, none, [⟨"B", "b"⟩, ⟨"A", "a"⟩]⟩, ⟨none, none, none, []⟩]

theorem ofReports_tabulates_repeating :
    leastCount ≤ repeating.length ∧ ∃ c, ofReports repeating leastCount = .ok c ∧ Tabulates repeating c ∧
      c.columns = ["#0", "12", "#2"] ∧ c.rows = [⟨"C", [true, false, false]⟩, ⟨"A", [true, true, false]⟩,
        ⟨"B", [false, true, false]⟩] := by
  have hEnough : leastCount ≤ repeating.length := by decide
  obtain ⟨c, hOk, hTabulates⟩ := (ofReports_tabulates repeating leastCount).2 hEnough
  refine ⟨hEnough, c, hOk, hTabulates, ?_⟩
  cases hOk
  decide

end Comparison

end AuditDesk

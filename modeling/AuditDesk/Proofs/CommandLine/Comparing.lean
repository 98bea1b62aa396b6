import AuditDesk.CommandLine.Run
import AuditDesk.Proofs.Desk.Compared
import Mathlib.Data.Finset.Card
import Mathlib.Data.List.Sort

/-! Comparing reports with a command. The positions that are given are selected one after the other, each only
once; what is selected in the end is told by the set of positions alone, and so is all that the command does. At
the desk the same set may be selected by other toggles, and gives the same comparison. -/
namespace AuditDesk.CommandLine

section Selecting

/-- Of these reports just those at these positions are selected. -/
structure Selects (reports : List Report) (positions : List Nat) (h : History) : Prop where
  ranged : h.Ranged
  reports : h.reports = reports
  selected : ∀ position, position ∈ h.selected ↔ position ∈ positions

variable {reports : List Report} {positions others : List Nat} {h : History}

theorem selects_none (reports : List Report) : Selects reports [] (.ofReports reports) :=
  ⟨History.ranged_ofReports reports, rfl, fun _ => Iff.rfl⟩

theorem Selects.of_same (hSelects : Selects reports positions h)
    (hSame : ∀ position, position ∈ positions ↔ position ∈ others) : Selects reports others h :=
  ⟨hSelects.ranged, hSelects.reports, fun position => (hSelects.selected position).trans (hSame position)⟩

/-- The positions are in order, so the set of them tells the selection. -/
theorem Selects.unique (hSelects : Selects reports positions h) {other : History}
    (hOther : Selects reports positions other) : h = other := by
  have hSelected : h.selected = other.selected :=
    hSelects.ranged.ascending.eq_of_mem_iff hOther.ranged.ascending fun position =>
      (hSelects.selected position).trans (hOther.selected position).symm
  cases h
  cases other
  cases hSelects.reports.trans hOther.reports.symm
  cases hSelected
  rfl

theorem Selects.length_selected (hSelects : Selects reports positions h) :
    h.selected.length = positions.toFinset.card := by
  have hSet : h.selected.toFinset = positions.toFinset := by
    ext position
    rw [List.mem_toFinset, List.mem_toFinset, hSelects.selected]
  have hNodup : h.selected.Nodup := hSelects.ranged.ascending.imp fun hLess => Nat.ne_of_lt hLess
  rw [← List.toFinset_card_of_nodup hNodup, hSet]

theorem select_outside {position : Nat} (hOutside : h.size ≤ position) :
    select h position = .error (.noEntry position h.size) := if_pos hOutside

/-- A position of the list is selected from then on, whether it was before or not. -/
theorem Selects.select (hSelects : Selects reports positions h) {position : Nat}
    (hWithin : position < reports.length) :
    ∃ after, select h position = .ok after ∧ Selects reports (position :: positions) after := by
  have hSize : position < h.size := by rwa [History.size, hSelects.reports]
  rw [CommandLine.select, if_neg (Nat.not_le_of_lt hSize)]
  refine ⟨_, rfl, ?_⟩
  split
  · rename_i hSelected
    refine hSelects.of_same fun other => ?_
    have hMem : position ∈ positions := (hSelects.selected position).mp (List.contains_iff_mem.mp hSelected)
    rw [List.mem_cons, or_iff_right_of_imp]
    rintro rfl
    exact hMem
  · rename_i hNew
    refine ⟨hSelects.ranged.toggle position, (h.toggle_reports position).trans hSelects.reports, fun other => ?_⟩
    rw [← List.contains_iff_mem, ← History.isSelected, (h.toggle_within hSize).2 other, List.mem_cons,
      ← hSelects.selected, ← List.contains_iff_mem, ← History.isSelected]
    by_cases hSame : other = position <;> simp [hSame, hNew]

theorem Selects.foldlM_select (hSelects : Selects reports positions h)
    (hWithin : ∀ position ∈ others, position < reports.length) :
    ∃ after, others.foldlM CommandLine.select h = .ok after ∧ Selects reports (others ++ positions) after := by
  induction others generalizing h positions with
  | nil => exact ⟨h, rfl, hSelects⟩
  | cons position others ih =>
      obtain ⟨next, hNext, hSelected⟩ := hSelects.select (hWithin position List.mem_cons_self)
      obtain ⟨after, hAfter, hAll⟩ := ih hSelected fun other hOther => hWithin other (List.mem_cons_of_mem _ hOther)
      refine ⟨after, ?_, hAll.of_same fun other => List.perm_middle.mem_iff⟩
      rw [List.foldlM_cons, hNext]
      exact hAfter

theorem exists_selects (hWithin : ∀ position ∈ positions, position < reports.length) :
    ∃ h, Selects reports positions h := by
  obtain ⟨h, _, hSelects⟩ := (selects_none reports).foldlM_select hWithin
  exact ⟨h, List.append_nil positions ▸ hSelects⟩

/-- A desk with these reports, at which just these positions are selected. -/
theorem Selects.ofDesk {d : Desk} (hVisited : d.Visited) (hReports : d.history.reports = reports)
    (hSelected : ∀ position, d.history.isSelected position = true ↔ position ∈ positions) :
    Selects reports positions d.history where
  ranged := hVisited.matched.ranged
  reports := hReports
  selected position := by rw [← hSelected, History.isSelected, List.contains_iff_mem]

end Selecting

section Comparing

variable {reports : List Report} {positions : List Nat}

/-- The first position outside the list ends the selection. -/
theorem compareAt_outside {position : Nat}
    (hFirst : positions.find? (reports.length ≤ ·) = some position) :
    compareAt (.ofReports reports) positions = .error (.noEntry position reports.length) := by
  obtain ⟨hOutside, front, back, rfl, hFront⟩ := List.find?_eq_some_iff_append.mp hFirst
  have hWithin : ∀ other ∈ front, other < reports.length := by simpa using hFront
  obtain ⟨h, hSelected, hSelects⟩ := (selects_none reports).foldlM_select hWithin
  have hSize : h.size = reports.length := congrArg List.length hSelects.reports
  have hRefused : select h position = .error (.noEntry position reports.length) := by
    rw [select_outside (hSize ▸ of_decide_eq_true hOutside), hSize]
  rw [compareAt, List.foldlM_append, hSelected]
  change (List.foldlM select h (position :: back) >>= _) = _
  rw [List.foldlM_cons, hRefused]
  rfl

/-- However the positions came to be selected, the comparison is that of the command. -/
theorem Selects.compareAt {h : History} (hSelects : Selects reports positions h) :
    compareAt (.ofReports reports) positions = h.compareSelected.mapError .tooFew := by
  have hWithin : ∀ position ∈ positions, position < reports.length := fun position hMem => by
    have hPosition := hSelects.ranged.within position ((hSelects.selected position).mpr hMem)
    rwa [History.size, hSelects.reports] at hPosition
  obtain ⟨after, hAfter, hAll⟩ := (selects_none reports).foldlM_select hWithin
  rw [List.append_nil] at hAll
  rw [CommandLine.compareAt, hAfter, hSelects.unique hAll]
  rfl

end Comparing

namespace Step

variable {α β : Type} {x : Step α} {w after : Workspace}

theorem run_bind_ok {a : α} (h : x.run.run w = (.ok a, after)) (f : α → Step β) :
    (x >>= f).run.run w = (f a).run.run after := by
  rw [ExceptT.run_bind, StateT.run_bind, h]
  rfl

theorem run_ask {question : Service.Client → Option α × Service.Client} {a : α} {client : Service.Client}
    (h : question w.client = (some a, client)) :
    (ask question).run.run w = (.ok a, { w with client := client }) := by
  have hGet : (get : Step Workspace).run.run w = (.ok w, w) := rfl
  rw [ask, run_bind_ok hGet, h]
  rfl

end Step

/-- The workspace of a command to which the history has been told: the warnings of the start are printed. -/
def Workspace.told (w : Workspace) (input : List UInt8) (client : Service.Client) : Workspace :=
  { w with input := input, client := client, output := w.setup.warnings.foldl Output.warning .empty }

theorem run_compare {w : Workspace} {reports : List Report} {client : Service.Client}
    (hHistory : w.client.history = (some (.ok reports), client)) (input : List UInt8) (positions : List Nat) :
    (Command.compare positions).run input w =
      match compareAt (.ofReports reports) positions with
      | .error e => (.error (.failed (.compare e)), w.told input client)
      | .ok c => (.ok (), { w.told input client with output := (w.told input client).output.line c.table }) := by
  let warned : Workspace := { w with input := input, output := w.setup.warnings.foldl Output.warning .empty }
  have hFetched : fetchHistory.run.run warned = (.ok (.ofReports reports), w.told input client) := by
    have hAsked : warned.client.history = (some (.ok reports), client) := hHistory
    rw [fetchHistory, Step.run_bind_ok (Step.run_ask hAsked)]
    rfl
  change (compare positions).run.run warned = _
  rw [compare, Step.run_bind_ok hFetched]
  cases compareAt (.ofReports reports) positions <;> rfl

section Running

variable {w : Workspace} {reports : List Report} {client : Service.Client}
  (hHistory : w.client.history = (some (.ok reports), client)) (input : List UInt8) {positions : List Nat}
  {h : History} (hSelects : Selects reports positions h)
include hHistory hSelects

theorem run_compare_few (hFew : positions.toFinset.card < 2) : (Command.compare positions).run input w =
    (.error (.failed (.compare (.tooFew ⟨2, positions.toFinset.card⟩))), w.told input client) := by
  have hCount := hSelects.length_selected
  rw [run_compare hHistory, hSelects.compareAt, hSelects.ranged.compareSelected_few (hCount ▸ hFew), hCount]
  rfl

theorem run_compare_enough (hEnough : 2 ≤ positions.toFinset.card) : ∃ c, h.compareSelected = .ok c ∧
    (Command.compare positions).run input w =
      (.ok (), { w.told input client with output := (w.told input client).output.line c.table }) := by
  obtain ⟨c, hCompared, _⟩ := hSelects.ranged.compareSelected_enough (hSelects.length_selected ▸ hEnough)
  refine ⟨c, hCompared, ?_⟩
  rw [run_compare hHistory, hSelects.compareAt, hCompared]
  rfl

end Running

/-- With a history at hand the command refuses the first position that is not in it. Otherwise it goes by the set
of positions alone: it refuses less than two, and else prints the table of the comparison that comes up at any
desk where this history is on show and just these positions are selected. -/
theorem compare_by_set {w : Workspace} {reports : List Report} {client : Service.Client}
    (hHistory : w.client.history = (some (.ok reports), client)) (input : List UInt8) (positions : List Nat) :
    let run := fun positions => (Command.compare positions).run input w
    let told := w.told input client
    let count := positions.toFinset.card
    (∀ position, positions.find? (reports.length ≤ ·) = some position →
      run positions = (.error (.failed (.compare (.noEntry position reports.length))), told)) ∧
    ((∀ position ∈ positions, position < reports.length) →
      (∀ others, (∀ position, position ∈ others ↔ position ∈ positions) → run others = run positions) ∧
      (∀ e after, run positions = (.error e, after) ↔
        count < 2 ∧ e = .failed (.compare (.tooFew ⟨2, count⟩)) ∧ after = told) ∧
      (2 ≤ count → ∃ c, run positions = (.ok (), { told with output := told.output.line c.table }) ∧
        ∀ d : Desk, d.Visited → d.history.reports = reports →
          (∀ position, d.history.isSelected position = true ↔ position ∈ positions) →
          d.compareSelection.comparison = some c)) := by
  intro run told count
  refine ⟨fun position hFirst => ?_, fun hWithin => ?_⟩
  · change (Command.compare positions).run input w = _
    rw [run_compare hHistory, compareAt_outside hFirst]
  obtain ⟨h, hSelects⟩ := exists_selects hWithin
  have hFew : count < 2 → run positions = (.error (.failed (.compare (.tooFew ⟨2, count⟩))), told) :=
    run_compare_few hHistory input hSelects
  have hEnough : 2 ≤ count → ∃ c, h.compareSelected = .ok c ∧
      run positions = (.ok (), { told with output := told.output.line c.table }) :=
    run_compare_enough hHistory input hSelects
  refine ⟨fun others hSame => ?_, fun e after => ⟨fun hFailed => ?_, ?_⟩, fun hAsked => ?_⟩
  · have hOthers : Selects reports others h := hSelects.of_same fun position => (hSame position).symm
    change (Command.compare others).run input w = (Command.compare positions).run input w
    rw [run_compare hHistory, run_compare hHistory, hOthers.compareAt, hSelects.compareAt]
  · rcases Nat.lt_or_ge count 2 with hLess | hMore
    · rw [hFew hLess] at hFailed
      cases hFailed
      exact ⟨hLess, rfl, rfl⟩
    · obtain ⟨c, _, hPrinted⟩ := hEnough hMore
      rw [hPrinted] at hFailed
      cases hFailed
  · rintro ⟨hLess, rfl, rfl⟩
    exact hFew hLess
  · obtain ⟨c, hCompared, hPrinted⟩ := hEnough hAsked
    refine ⟨c, hPrinted, fun d hVisited hReports hSelected => ?_⟩
    rw [Desk.compareSelection, ← hSelects.unique (.ofDesk hVisited hReports hSelected), hCompared]

/-- Three reports, of which the last has an identifier of its own. -/
def recent : List Report :=
  [⟨none, none, none, [⟨"A", "a"⟩]⟩, ⟨none, none, none, []⟩, ⟨some (.number 9), none, none, [⟨"B", "b"⟩, ⟨"A", "a"⟩]⟩]

/-- A workspace before a service that has made these reports. -/
def beforeRecent : Workspace :=
  let service := { Service.Simulation.start 0 none with history := recent }
  let config : Config := ⟨"", none, .standard, none, none, ".", true, true⟩
  .start (.ofParts config .memory .empty (.simulated service)) .empty (.started (.ofDate (.newYear 2024)))

/-- A desk at which the last report and the first have been selected, and the second selected and given up. -/
def ofRecent : Desk :=
  let listed := (Desk.start .standard "" .empty .empty ⟨[]⟩ []).apply (.historyLoaded recent)
  let keys : List KeyEvent := [.ofCode .tab, .ofCode .tab, .ofChar 'j', .ofCode .enter, .ofChar 'j', .ofCode .enter,
    .ofChar 'k', .ofCode .enter, .ofChar 'k', .ofCode .enter]
  keys.foldl Desk.press listed

theorem visited_ofRecent : ofRecent.Visited := ((Desk.Visited.start ..).command _).foldl_press _

theorem compare_by_set_recent :
    (beforeRecent.client.history).1 = some (.ok recent) ∧
    (∀ position ∈ [2, 0, 2, 2], position < recent.length) ∧
    (Command.compare [2, 0, 2, 2]).run [] beforeRecent = (Command.compare [0, 2]).run [] beforeRecent ∧
    ∃ c after, (Command.compare [2, 0, 2, 2]).run [] beforeRecent = (.ok (), after) ∧
      after.output.standard = c.table ++ "\n" ∧ ofRecent.compareSelection.comparison = some c := by
  have hHistory : beforeRecent.client.history = (some (.ok recent), (beforeRecent.client.history).2) := rfl
  have hWithin : ∀ position ∈ [2, 0, 2, 2], position < recent.length := by decide
  obtain ⟨hSame, _, hEnough⟩ := (compare_by_set hHistory [] [2, 0, 2, 2]).2 hWithin
  obtain ⟨c, hPrinted, hDesk⟩ := hEnough (by decide)
  have hSelected : ofRecent.history.selected = [0, 2] := by decide
  refine ⟨rfl, hWithin, (hSame [0, 2] (by simp)).symm, c, _, hPrinted, ?_, hDesk ofRecent visited_ofRecent ?_ ?_⟩
  · change Output.empty.standard ++ c.table ++ "\n" = _
    rw [Output.empty, String.empty_append]
  · decide
  · intro position
    rw [History.isSelected, List.contains_iff_mem, hSelected]
    simp only [List.mem_cons, List.not_mem_nil, or_false]
    omega

end AuditDesk.CommandLine

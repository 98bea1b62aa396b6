import AuditDesk.History
import Mathlib.Algebra.Ring.Parity
import Mathlib.Data.List.DropRight
import Mathlib.Data.List.Induction

/-! Selecting reports for a comparison, through any lists that replace one another and any toggles. The
selected positions are those toggled an odd number of times since the list was last replaced; they stay in
order and within the list, so every one of them finds its report, and the comparison is that of just these
reports under the labels that the list gives them. -/
namespace AuditDesk

/-- The comparison of the reports at these positions of a list, in this order, each under the label that it
has in the list. -/
def Comparison.ComparesAt (c : Comparison) (reports : List Report) (positions : List Nat) : Prop :=
  ∃ chosen plain, chosen.map some = positions.map (fun position => reports[position]?) ∧
    Comparison.ofReports chosen Comparison.leastCount = .ok plain ∧ c.rows = plain.rows ∧
    c.columns.map some = positions.map fun position => (Comparison.labels reports)[position]?

namespace History

section Toggling

theorem mem_insertAscending {position other : Nat} {ascending : List Nat} :
    other ∈ insertAscending position ascending ↔ other = position ∨ other ∈ ascending := by
  induction ascending with
  | nil => simp [insertAscending]
  | cons p rest ih =>
      rw [insertAscending]
      split
      · simp
      · rw [List.mem_cons, ih, List.mem_cons]
        exact or_left_comm

theorem pairwise_insertAscending {position : Nat} {ascending : List Nat} (h : ascending.Pairwise (· < ·))
    (hNew : position ∉ ascending) : (insertAscending position ascending).Pairwise (· < ·) := by
  induction ascending with
  | nil => exact List.pairwise_singleton _ _
  | cons p rest ih =>
      obtain ⟨hFirst, hRest⟩ := List.pairwise_cons.mp h
      rw [insertAscending]
      split
      · rename_i hBefore
        refine List.pairwise_cons.mpr ⟨fun other hOther => ?_, h⟩
        rcases List.mem_cons.mp hOther with rfl | hLater
        · exact hBefore
        · exact Nat.lt_trans hBefore (hFirst other hLater)
      · rename_i hNotBefore
        have hAfter : p < position :=
          Nat.lt_of_le_of_ne (Nat.le_of_not_lt hNotBefore) fun hSame => hNew (hSame ▸ List.mem_cons_self)
        refine List.pairwise_cons.mpr
          ⟨fun other hOther => ?_, ih hRest fun hMem => hNew (List.mem_cons_of_mem p hMem)⟩
        rcases mem_insertAscending.mp hOther with rfl | hLater
        · exact hAfter
        · exact hFirst other hLater

theorem toggle_reports (h : History) (position : Nat) : (h.toggle position).2.reports = h.reports := by
  unfold toggle
  split
  · rfl
  · split <;> rfl

theorem toggle_outside (h : History) {position : Nat} (hOutside : h.size ≤ position) :
    h.toggle position = (none, h) := by
  rw [toggle, if_pos hOutside]

/-- Within the list a toggle turns the one position over. -/
theorem toggle_within (h : History) {position : Nat} (hWithin : position < h.size) :
    (h.toggle position).1 = some (!h.isSelected position) ∧
      ∀ other, (h.toggle position).2.isSelected other =
        if other = position then !h.isSelected position else h.isSelected other := by
  unfold toggle
  rw [if_neg (by omega)]
  cases hSelected : h.isSelected position with
  | true =>
      refine ⟨rfl, fun other => ?_⟩
      by_cases hOther : other = position <;> simp [isSelected, hOther]
  | false =>
      refine ⟨rfl, fun other => ?_⟩
      by_cases hOther : other = position <;> simp [isSelected, mem_insertAscending, hOther]

theorem toggle_eq_none_iff (h : History) (position : Nat) : (h.toggle position).1 = none ↔ h.size ≤ position := by
  refine ⟨fun hNone => Nat.le_of_not_lt fun hWithin => ?_, fun hOutside => by rw [h.toggle_outside hOutside]⟩
  rw [(h.toggle_within hWithin).1] at hNone
  cases hNone

end Toggling

/-- The selected positions are in order, and there is a report at each. -/
structure Ranged (h : History) : Prop where
  ascending : h.selected.Pairwise (· < ·)
  within : ∀ position ∈ h.selected, position < h.size

section Invariant

variable {h : History}

theorem ranged_ofReports (reports : List Report) : (ofReports reports).Ranged where
  ascending := .nil
  within _ hMem := nomatch hMem

theorem Ranged.toggle (hRanged : h.Ranged) (position : Nat) : (h.toggle position).2.Ranged := by
  unfold History.toggle
  split
  · exact hRanged
  · rename_i hWithin
    split
    · exact ⟨hRanged.ascending.filter _, fun other hOther => hRanged.within other (List.mem_filter.mp hOther).1⟩
    · rename_i hNew
      refine ⟨pairwise_insertAscending hRanged.ascending (mt List.contains_iff_mem.mpr hNew), fun other hOther => ?_⟩
      rcases mem_insertAscending.mp hOther with rfl | hOld
      · exact Nat.lt_of_not_le hWithin
      · exact hRanged.within other hOld

/-- Each selected position finds its report. -/
theorem Ranged.get? (hRanged : h.Ranged) {position : Nat} (hMem : position ∈ h.selected) :
    ∃ report, h.get? position = some report :=
  ⟨_, List.getElem?_eq_getElem (hRanged.within position hMem)⟩

/-- Whatever is told of the chosen reports is told of all selected positions, one after the other. -/
theorem Ranged.map_chosen {α : Type} (hRanged : h.Ranged) {told : Nat × Report → α} {place : Nat → α}
    (hTold : ∀ position ∈ h.selected, ∀ report, h.get? position = some report → told (position, report) = place position) :
    h.chosen.map told = h.selected.map place := by
  rw [chosen, List.map_filterMap, ← List.filterMap_eq_map]
  refine List.filterMap_congr fun position hMem => ?_
  obtain ⟨report, hReport⟩ := hRanged.get? hMem
  rw [hReport, Option.map_some, Option.map_some, hTold position hMem report hReport]
  rfl

theorem Ranged.length_chosen (hRanged : h.Ranged) : h.chosen.length = h.selected.length := by
  have hPositions : h.chosen.map Prod.fst = h.selected.map id := hRanged.map_chosen fun _ _ _ _ => rfl
  simpa using congrArg List.length hPositions

theorem Ranged.compareSelected_few (hRanged : h.Ranged) (hFew : h.selected.length < Comparison.leastCount) :
    h.compareSelected = .error ⟨Comparison.leastCount, h.selected.length⟩ := by
  have hLength : (h.chosen.map Prod.snd).length = h.selected.length := by
    rw [List.length_map, hRanged.length_chosen]
  rw [compareSelected, Comparison.ofReports, hLength, if_pos hFew]
  rfl

theorem Ranged.compareSelected_enough (hRanged : h.Ranged)
    (hEnough : Comparison.leastCount ≤ h.selected.length) :
    ∃ c, h.compareSelected = .ok c ∧ c.ComparesAt h.reports h.selected := by
  have hLength : (h.chosen.map Prod.snd).length = h.selected.length := by
    rw [List.length_map, hRanged.length_chosen]
  obtain ⟨plain, hPlain⟩ : ∃ plain, Comparison.ofReports (h.chosen.map Prod.snd) Comparison.leastCount = .ok plain := by
    rw [Comparison.ofReports, hLength, if_neg (Nat.not_lt_of_le hEnough)]
    exact ⟨_, rfl⟩
  have hOk : h.compareSelected =
      .ok { plain with columns := h.chosen.map fun entry => entry.2.label entry.1 } := by
    rw [compareSelected, hPlain]
    rfl
  refine ⟨_, hOk, h.chosen.map Prod.snd, plain, ?_, hPlain, rfl, ?_⟩
  · rw [List.map_map]
    exact hRanged.map_chosen fun position _ report hReport => hReport.symm
  · rw [List.map_map]
    refine hRanged.map_chosen fun position _ report hReport => ?_
    rw [Comparison.labels, List.getElem?_mapIdx, show h.reports[position]? = some report from hReport]
    rfl

end Invariant

/-- What can be done to a list of reports. -/
inductive Act where
  | replace (reports : List Report)
  | toggle (position : Nat)
deriving DecidableEq

def Act.isToggle : Act → Bool
  | .replace _ => false
  | .toggle _ => true

def act (h : History) : Act → History
  | .replace reports => .ofReports reports
  | .toggle position => (h.toggle position).2

def after (h : History) (acts : List Act) : History := acts.foldl act h

/-- How often a position has been toggled since the list was last replaced. -/
def turns (position : Nat) (acts : List Act) : Nat := (acts.rtakeWhile Act.isToggle).count (.toggle position)

section Acts

variable {reports : List Report} {acts : List Act}

theorem after_concat (h : History) (acts : List Act) (last : Act) : h.after (acts ++ [last]) = (h.after acts).act last := by
  simp [after]

theorem turns_replace (position : Nat) (acts : List Act) (reports : List Report) :
    turns position (acts ++ [.replace reports]) = 0 := by
  rw [turns, List.rtakeWhile_concat_neg _ _ _ Bool.false_ne_true]
  rfl

theorem turns_toggle (position other : Nat) (acts : List Act) :
    turns position (acts ++ [.toggle other]) = turns position acts + if other = position then 1 else 0 := by
  rw [turns, List.rtakeWhile_concat_pos _ _ _ rfl, List.count_append, List.count_singleton, turns]
  simp

theorem ranged_after (reports : List Report) (acts : List Act) : ((ofReports reports).after acts).Ranged := by
  induction acts using List.reverseRecOn with
  | nil => exact ranged_ofReports reports
  | append_singleton acts last ih =>
      rw [after_concat]
      cases last with
      | replace reports => exact ranged_ofReports reports
      | toggle position => exact ih.toggle position

theorem isSelected_after_iff (reports : List Report) (acts : List Act) (position : Nat) :
    ((ofReports reports).after acts).isSelected position = true ↔
      position < ((ofReports reports).after acts).size ∧ Odd (turns position acts) := by
  induction acts using List.reverseRecOn with
  | nil => simp [after, ofReports, isSelected, turns]
  | append_singleton acts last ih =>
      rw [after_concat]
      cases last with
      | replace reports => simp [act, ofReports, isSelected, turns_replace]
      | toggle other =>
          rw [act, turns_toggle]
          have hSize : (((ofReports reports).after acts).toggle other).2.size = ((ofReports reports).after acts).size :=
            congrArg List.length (toggle_reports _ other)
          rw [hSize]
          by_cases hWithin : other < ((ofReports reports).after acts).size
          · rw [(toggle_within _ hWithin).2]
            by_cases hOther : position = other
            · subst hOther
              rw [if_pos rfl, if_pos rfl, Nat.odd_add_one, Bool.not_eq_true', ← Bool.not_eq_true, ih]
              simp [hWithin]
            · rw [if_neg hOther, if_neg (Ne.symm hOther), ih, Nat.add_zero]
          · rw [toggle_outside _ (Nat.le_of_not_lt hWithin), ih]
            by_cases hOther : other = position
            · subst hOther
              simp [hWithin]
            · rw [if_neg hOther, Nat.add_zero]

end Acts

/-- What is selected after any replacements and toggles, what a further toggle answers, and what comes of a
comparison. -/
theorem selected_after (reports : List Report) (acts : List Act) :
    let h := (ofReports reports).after acts
    h.selected.Pairwise (· < ·) ∧ (∀ position ∈ h.selected, position < h.size) ∧
    (∀ position, position ∈ h.selected ↔ position < h.size ∧ Odd (turns position acts)) ∧
    (∀ position, ((h.toggle position).1 = none ↔ h.size ≤ position) ∧
      ((h.toggle position).1 = none → (h.toggle position).2 = h)) ∧
    (∀ position ∈ h.selected, ∃ report, h.get? position = some report) ∧
    (∀ e, h.compareSelected = .error e ↔ h.selected.length < 2 ∧ e = ⟨2, h.selected.length⟩) ∧
    (2 ≤ h.selected.length → ∃ c, h.compareSelected = .ok c ∧ c.ComparesAt h.reports h.selected) := by
  intro h
  have hRanged : h.Ranged := ranged_after reports acts
  refine ⟨hRanged.ascending, hRanged.within, fun position => ?_, fun position => ⟨h.toggle_eq_none_iff position, ?_⟩,
    fun _ => hRanged.get?, fun e => ⟨fun hError => ?_, ?_⟩, hRanged.compareSelected_enough⟩
  · rw [← isSelected_after_iff, isSelected, List.contains_iff_mem]
  · intro hNone
    rw [h.toggle_outside ((h.toggle_eq_none_iff position).mp hNone)]
  · rcases Nat.lt_or_ge h.selected.length 2 with hFew | hEnough
    · rw [hRanged.compareSelected_few hFew] at hError
      exact ⟨hFew, (Except.error.inj hError).symm⟩
    · obtain ⟨c, hOk, _⟩ := hRanged.compareSelected_enough hEnough
      rw [hOk] at hError
      cases hError
  · rintro ⟨hFew, rfl⟩
    exact hRanged.compareSelected_few hFew

/-- Two positions are left: one was turned twice, and one is outside the list. -/
example : ((ofReports (List.replicate 3 ⟨none, none, none, []⟩)).after
    [.toggle 2, .toggle 0, .toggle 7, .toggle 1, .toggle 1]).selected = [0, 2] := by decide

end History

end AuditDesk

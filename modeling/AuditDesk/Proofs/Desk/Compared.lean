import AuditDesk.Proofs.Desk.Cursors
import AuditDesk.Proofs.Desk.Display

/-! A comparison stays on show while the selection it was made from changes and fetches fail. It still belongs
to the list on show: it is the comparison of the reports at some positions of that list, which need not be
selected any more. Only a new list would part the two, and a new list takes the comparison away. -/
namespace AuditDesk

/-- The comparison is that of two or more of these reports, taken in order, under the labels of this list. -/
def Comparison.BelongsTo (c : Comparison) (reports : List Report) : Prop :=
  ∃ positions : List Nat, 2 ≤ positions.length ∧ positions.Pairwise (· < ·) ∧
    (∀ position ∈ positions, position < reports.length) ∧ c.ComparesAt reports positions

/-- The comparison of a selection belongs to its list. -/
theorem History.Ranged.belongsTo {h : History} (hRanged : h.Ranged) {c : Comparison}
    (hCompared : h.compareSelected = .ok c) : c.BelongsTo h.reports := by
  rcases Nat.lt_or_ge h.selected.length Comparison.leastCount with hFew | hEnough
  · rw [hRanged.compareSelected_few hFew] at hCompared
    cases hCompared
  · obtain ⟨made, hMade, hCompares⟩ := hRanged.compareSelected_enough hEnough
    rw [hMade] at hCompared
    cases hCompared
    exact ⟨h.selected, hEnough, hRanged.ascending, hRanged.within, hCompares⟩

/-- What is on show fits together. The selection counts too, since the next comparison is made from it. -/
structure Display.Matched (s : Display) : Prop where
  ranged : s.history.Ranged
  belongs : ∀ c, s.comparison = some c → c.BelongsTo s.history.reports

namespace Display

variable {s after : Display}

theorem Matched.of_same (h : s.Matched) (hHistory : after.history = s.history)
    (hComparison : after.comparison = s.comparison) : after.Matched := by
  refine ⟨hHistory ▸ h.ranged, fun c hShown => ?_⟩
  rw [hHistory]
  exact h.belongs c (hComparison ▸ hShown)

theorem Matched.toggle (h : s.Matched) (position : Nat) :
    Matched { s with history := (s.history.toggle position).2 } where
  ranged := h.ranged.toggle position
  belongs c hShown := s.history.toggle_reports position ▸ h.belongs c hShown

theorem Matched.apply (h : s.Matched) (command : Command) : (s.apply command).Matched := by
  cases command with
  | historyLoaded reports => exact ⟨History.ranged_ofReports reports, fun c hShown => nomatch hShown⟩
  | _ => exact h

end Display

namespace Desk

variable {d : Desk}

theorem matched_compareSelection (h : d.display.Matched) : d.compareSelection.display.Matched := by
  unfold compareSelection
  split
  · rename_i made hMade
    exact ⟨h.ranged, fun c hShown => Option.some.inj hShown ▸ h.ranged.belongsTo hMade⟩
  · exact h

theorem matched_activate (h : d.display.Matched) : d.activate.display.Matched := by
  unfold activate
  split
  · unfold openInfo
    split
    · exact h.of_same rfl rfl
    · exact h
  · unfold loadSnippet
    split
    · exact h
    · exact h.of_same rfl rfl
  · rw [display_toggleSelection]
    exact h.toggle d.historyCursor
  · exact h

theorem matched_pressInView (h : d.display.Matched) (code : KeyCode) : (d.pressInView code).display.Matched := by
  rw [display_pressInView]
  split
  · exact matched_activate h
  split
  · unfold openSave
    split
    · exact h
    · exact h.of_same rfl rfl
  split
  · exact matched_compareSelection h
  · exact h

theorem matched_press (h : d.display.Matched) (key : KeyEvent) : (d.press key).display.Matched := by
  unfold press
  split
  · exact h
  split
  · exact h
  split
  · rw [display_pressInSave]
    exact h.of_same rfl rfl
  · rw [display_pressInInfo]
    exact h.of_same rfl rfl
  · exact matched_pressInView h key.code

theorem matched_move (h : d.display.Matched) (m : Move) : (d.move m).display.Matched := by
  cases m with
  | press key => exact matched_press h key
  | setSource code language label => exact h.of_same rfl rfl
  | deliver =>
      simp only [move, deliver]
      split
      · exact h
      · rename_i command rest _
        rw [display_apply]
        exact Display.Matched.apply h command
  | _ =>
      rw [display_move d rfl (fun _ => Move.noConfusion) Move.noConfusion]
      exact h

theorem Visited.matched (h : d.Visited) : d.display.Matched := by
  induction h with
  | start =>
      rw [display_start]
      exact ⟨History.ranged_ofReports [], fun c hShown => nomatch hShown⟩
  | move _ m ih => exact matched_move ih m
  | command _ command ih =>
      rw [display_apply]
      exact ih.apply command

/-- Whatever the user does and whatever arrives, a comparison on show belongs to the list on show. -/
theorem comparison_belongs (h : d.Visited) {c : Comparison} (hShown : d.comparison = some c) :
    ∃ positions : List Nat, 2 ≤ positions.length ∧ positions.Pairwise (· < ·) ∧
      (∀ position ∈ positions, position < d.history.size) ∧ c.ComparesAt d.history.reports positions :=
  h.matched.belongs c hShown

/-- A desk at which one of two compared reports has been given up since, and a fetch has failed. -/
def givenUp : Desk :=
  let first : Report := ⟨none, none, none, [⟨"A", "a"⟩]⟩
  let second : Report := ⟨some (.number 9), none, none, [⟨"B", "b"⟩, ⟨"A", "a"⟩]⟩
  let listed := (start .standard "" .empty .empty ⟨[]⟩ []).apply (.historyLoaded [first, first, second])
  let keys : List KeyEvent := [.ofCode .tab, .ofCode .tab, .ofCode .enter, .ofChar 'j', .ofChar 'j', .ofCode .enter,
    .ofChar 'c', .ofCode .backTab, .ofCode .enter]
  (keys.foldl press listed).apply (.historyFailed "refused")

theorem Visited.foldl_press (h : d.Visited) (keys : List KeyEvent) : (keys.foldl press d).Visited :=
  List.foldlRecOn keys press h fun _ hBefore key _ => hBefore.move (.press key)

theorem visited_givenUp : givenUp.Visited := by
  unfold givenUp
  exact ((Visited.start ..).command _).foldl_press _ |>.command _

theorem comparison_belongs_givenUp :
    givenUp.Visited ∧ givenUp.history.selected = [0] ∧
      ∃ c, givenUp.comparison = some c ∧ c.columns = ["#0", "9"] ∧ c.BelongsTo givenUp.history.reports := by
  have hShown : givenUp.comparison = some ⟨["#0", "9"], [⟨"A", [true, true]⟩, ⟨"B", [false, true]⟩]⟩ := by decide
  exact ⟨visited_givenUp, by decide, _, hShown, rfl, comparison_belongs visited_givenUp hShown⟩

end Desk

end AuditDesk

import AuditDesk.Proofs.Desk.Cursors
import AuditDesk.Screen.Frame
import Mathlib.Data.List.Basic

/-! The entry under the cursor is among those drawn, and it alone is marked. A list is left blank below only where
it ends: as long as entries are hidden, as many are drawn as there is room for, each of them whole. -/
namespace AuditDesk

namespace Screen

section Window

variable {α : Type}

/-- A stretch of a list is shown: so many entries in their order, among them that under the cursor, which
alone is marked. -/
structure Follows (xs : List α) (cursor room : Nat) (shown : List (Shown α)) : Prop where
  entries : ∀ i, shown[i]? = if i < room then
      xs[scrollOffset cursor room + i]?.map fun entry =>
        ⟨scrollOffset cursor room + i, entry, scrollOffset cursor room + i = cursor⟩
    else none
  size : shown.length = min room xs.length
  cursor : xs ≠ [] → ∃ entry, xs[cursor]? = some entry ∧
    ∀ s, s ∈ shown ∧ s.marked = true ↔ s = ⟨cursor, entry, true⟩

theorem getElem?_window (xs : List α) (cursor room i : Nat) :
    (window xs cursor room)[i]? = if i < max room 1 then
      xs[scrollOffset cursor room + i]?.map fun entry =>
        ⟨scrollOffset cursor room + i, entry, scrollOffset cursor room + i = cursor⟩
    else none := by
  simp [window, List.getElem?_take]

/-- Where there is room for an entry, no case is left: less is subtracted than is there only if nothing is
hidden in front. -/
theorem scrollOffset_eq (cursor : Nat) {room : Nat} (hRoom : 1 ≤ room) :
    scrollOffset cursor room = cursor + 1 - room := by
  have hSome : room ≠ 0 := Nat.ne_of_gt hRoom
  simp only [scrollOffset, hSome, decide_false, Bool.false_or, decide_eq_true_eq]
  split
  · omega
  · rfl

theorem window_follows {xs : List α} {cursor room : Nat} (hRoom : 1 ≤ room) (hCursor : Points cursor xs.length) :
    Follows xs cursor room (window xs cursor room) := by
  have hMax : max room 1 = room := Nat.max_eq_left hRoom
  have hEntries := getElem?_window xs cursor room
  rw [hMax] at hEntries
  have hOffset := scrollOffset_eq cursor hRoom
  refine ⟨hEntries, ?_, fun hSome => ?_⟩
  -- The cursor is within the list, so what is left out in front leaves enough entries to fill the room.
  · rw [length_window, hMax, hOffset]
    unfold Points at hCursor
    omega
  have hWithin : cursor < xs.length := hCursor.lt (List.length_pos_iff.mpr hSome)
  refine ⟨xs[cursor], List.getElem?_eq_getElem hWithin, fun s => ?_⟩
  constructor
  · rintro ⟨hMem, hMarked⟩
    obtain ⟨i, hShown⟩ := List.mem_iff_getElem?.mp hMem
    rw [hEntries] at hShown
    split at hShown
    · obtain ⟨entry, hEntry, rfl⟩ := Option.map_eq_some_iff.mp hShown
      have hPosition : scrollOffset cursor room + i = cursor := of_decide_eq_true hMarked
      rw [hPosition, List.getElem?_eq_getElem hWithin] at hEntry
      cases hEntry
      simp [hPosition]
    · cases hShown
  · rintro rfl
    refine ⟨List.mem_iff_getElem?.mpr ⟨cursor - scrollOffset cursor room, ?_⟩, rfl⟩
    have hPosition : scrollOffset cursor room + (cursor - scrollOffset cursor room) = cursor := by omega
    rw [hEntries, if_pos (by omega), hPosition, List.getElem?_eq_getElem hWithin]
    simp

end Window

namespace Canvas

section Entries

/-- Draws entries of so many lines each, one right below the other. -/
def stack (c : Canvas) (area : Rect) (height : Nat) (entries : List (List Line)) : Canvas :=
  entries.zipIdx.foldl (fun c entry => c.drawLines (area.row (height * entry.2) height) entry.1) c

variable {c : Canvas} {area : Rect} {height : Nat}

theorem stack_cons (entry : List Line) (entries : List (List Line)) :
    c.stack area height (entry :: entries) =
      (c.drawLines (area.row 0 height) entry).stack (area.row height (area.height - height)) height entries := by
  simp only [stack, List.zipIdx_cons, List.foldl_cons, Nat.mul_zero, Nat.zero_add]
  rw [List.zipIdx_succ, List.foldl_map]
  simp only [Rect.row, Nat.mul_succ, Nat.add_assoc, Nat.add_comm height]

/-- Lines that fit an area do not reach below their own number of rows. -/
theorem drawLines_row {lines : List Line} (h : lines.length ≤ area.height) :
    c.drawLines (area.row 0 lines.length) lines = c.drawLines area lines := by
  simp only [drawLines, Rect.row, List.take_of_length_le h, List.take_length]
  rfl

/-- All of the entries are drawn if there are rows for all of their lines. -/
theorem entries_eq_stack {entries : List (List Line)} (hHeight : ∀ entry ∈ entries, entry.length = height)
    (hFits : height * entries.length ≤ area.height) : c.entries area entries = c.stack area height entries := by
  induction entries generalizing c area with
  | nil => rfl
  | cons entry entries ih =>
      obtain rfl : entry.length = height := hHeight entry List.mem_cons_self
      rw [List.length_cons, Nat.mul_succ] at hFits
      have hLines : entry.length ≤ area.height := by omega
      rw [Canvas.entries, if_neg (Nat.not_lt_of_le hLines), stack_cons, drawLines_row hLines]
      refine ih (fun other hMem => hHeight other (List.mem_cons_of_mem _ hMem)) ?_
      simp only [Rect.row]
      omega

/-- Nothing is drawn into an area without columns. -/
theorem drawLine_of_no_width (hWidth : area.width = 0) (line : Line) : c.drawLine area line = c := by
  have hRight : min area.right c.width ≤ area.x := by
    simp only [Rect.right, hWidth]
    omega
  unfold drawLine
  dsimp only
  split
  · rfl
  · rw [List.foldl_fixed' fun run => ?_]
    rw [if_pos (by simp [hRight])]

theorem drawLines_of_no_width (hWidth : area.width = 0) (lines : List Line) : c.drawLines area lines = c := by
  have hRows : ∀ (lines : List Line) (start : Nat), (lines.foldl (fun (state : Canvas × Nat) line =>
      (state.1.drawLine (area.row state.2 1) line, state.2 + 1)) (c, start)).1 = c := by
    intro lines
    induction lines with
    | nil => exact fun _ => rfl
    | cons line lines ih =>
        intro start
        rw [List.foldl_cons, @drawLine_of_no_width c (area.row start 1) hWidth]
        exact ih (start + 1)
  exact hRows _ _

theorem stack_of_no_width (hWidth : area.width = 0) (entries : List (List Line)) :
    c.stack area height entries = c :=
  List.foldl_fixed' (fun entry => @drawLines_of_no_width c (area.row _ _) hWidth entry.1) _

/-- A panel with rows for all lines of its entries shows them all, one right below the other. -/
theorem listPanel_eq_stack (p : Panel) {entries : List (List Line)} (hHigh : 2 < area.height)
    (hHeight : ∀ entry ∈ entries, entry.length = height) (hFits : height * entries.length ≤ area.height - 2) :
    c.listPanel area p entries = (c.panel area p).stack area.inner height entries := by
  by_cases hWidth : area.inner.width = 0
  · rw [stack_of_no_width hWidth, listPanel]
    simp [hWidth]
  · have hInner : area.inner.height = area.height - 2 := by
      unfold Rect.inner at hWidth ⊢
      split
      · rename_i hSmall
        rw [if_pos hSmall] at hWidth
        exact absurd rfl hWidth
      · rfl
    have hRows : area.inner.height ≠ 0 := by omega
    rw [listPanel]
    simp only [hWidth, hRows, decide_false, Bool.or_self, Bool.false_eq_true, if_false]
    exact entries_eq_stack hHeight (hInner ▸ hFits)

end Entries

end Canvas

end Screen

namespace Desk

open Screen

/-- So many lines show an entry, and the first of them begins with the mark of the cursor or with blanks. -/
structure ShowsMark {α : Type} (height : Nat) (lines : Shown α → List Line) : Prop where
  length : ∀ s, (lines s).length = height
  mark : ∀ s, ∃ rest more, lines s = (⟨if s.marked then "▶ " else "  ", .plain⟩ :: rest) :: more

theorem findingEntry_showsMark : ShowsMark 2 findingEntry := ⟨fun _ => rfl, fun _ => ⟨_, _, rfl⟩⟩

theorem snippetEntry_showsMark : ShowsMark 1 snippetEntry := ⟨fun _ => rfl, fun _ => ⟨_, _, rfl⟩⟩

theorem historyEntry_showsMark (h : History) : ShowsMark 1 (historyEntry h) :=
  ⟨fun _ => rfl, fun _ => ⟨_, _, rfl⟩⟩

/-- What a panel shows of a list: a stretch of it around the cursor, each entry whole and below the one before it. -/
def Lists {α : Type} (xs : List α) (cursor room height : Nat) (lines : Shown α → List Line) (area : Rect)
    (p : Panel) (before after : Canvas) : Prop :=
  ShowsMark height lines ∧ ∃ shown, Follows xs cursor room shown ∧ height * shown.length ≤ area.height - 2 ∧
    after = (before.panel area p).stack area.inner height (shown.map lines)

theorem listPanel_lists {α : Type} {xs : List α} {cursor room height : Nat} {lines : Shown α → List Line}
    (hLines : ShowsMark height lines) (area : Rect) (p : Panel) (before : Canvas) (hRoom : 1 ≤ room)
    (hFits : height * room ≤ area.height - 2) (hHeight : 1 ≤ height) (hCursor : Points cursor xs.length) :
    Lists xs cursor room height lines area p before
      (before.listPanel area p ((window xs cursor room).map lines)) := by
  have hFollows := window_follows hRoom hCursor
  have hShown : height * (window xs cursor room).length ≤ area.height - 2 := by
    refine Nat.le_trans (Nat.mul_le_mul_left height ?_) hFits
    rw [hFollows.size]
    exact Nat.min_le_left _ _
  refine ⟨hLines, _, hFollows, hShown, Canvas.listPanel_eq_stack p ?_ ?_ (by rwa [List.length_map])⟩
  · have := Nat.mul_le_mul hHeight hRoom
    omega
  · intro entry hMem
    obtain ⟨s, -, rfl⟩ := List.mem_map.mp hMem
    exact hLines.length s

/-- In each view with a list, and in every area with room for an entry of it, the list is drawn around its cursor. -/
structure CursorDrawn (d : Desk) (area : Rect) (c : Canvas) : Prop where
  results : ∀ report, d.report = some report → report.findings ≠ [] → 1 ≤ findingRoom (area.splitPercent 45).2 →
    Lists report.findings d.reportCursor (findingRoom (area.splitPercent 45).2) 2 findingEntry
      (area.splitPercent 45).2 (.titled (" Vulnerabilities (" ++ toString report.findings.length ++ ") "))
      (d.drawSource (area.splitPercent 45).1 c) (d.drawResults area c)
  snippets : d.store.snippets ≠ [] → 1 ≤ listRoom (area.splitPercent 35).1 →
    ∃ listed snippet, Lists d.store.snippets d.snippetCursor (listRoom (area.splitPercent 35).1) 1 snippetEntry
        (area.splitPercent 35).1 (.titled (" Saved Snippets (" ++ toString d.store.size ++ ") ")) c listed ∧
      d.store.get? d.snippetCursor = some snippet ∧
      d.drawSnippets area c = listed.textPanel (area.splitPercent 35).2 (.titled (" " ++ snippet.name ++ " "))
        .plain .cut ((Text.lines snippet.code).map Line.plain)
  history : d.history.reports ≠ [] → 1 ≤ listRoom area →
    Lists d.history.reports d.historyCursor (listRoom area) 1 (historyEntry d.history) area (.titled d.historyTitle)
      c (d.drawHistory area c)

variable {d : Desk}

theorem cursor_drawn (h : d.Visited) (area : Rect) (c : Canvas) : d.CursorDrawn area c := by
  refine ⟨fun report hReport hSome hRoom => ?_, fun hSome hRoom => ?_, fun hSome hRoom => ?_⟩
  · have hCursor := h.pointing .results
    simp only [Desk.cursor, rows, hReport, Option.map_some, Option.getD_some] at hCursor
    have hMore : report.findings.isEmpty = false := List.isEmpty_eq_false_iff.mpr hSome
    simp only [drawResults, drawFindings, hReport, hMore]
    refine listPanel_lists findingEntry_showsMark _ _ _ hRoom ?_ (by decide) hCursor
    simp only [findingRoom, listRoom]
    omega
  · have hCursor : Points d.snippetCursor d.store.snippets.length := h.pointing .snippets
    have hWithin := hCursor.lt (List.length_pos_iff.mpr hSome)
    have hSnippet : d.store.get? d.snippetCursor = some d.store.snippets[d.snippetCursor] :=
      List.getElem?_eq_getElem hWithin
    have hMore : d.store.snippets.isEmpty = false := List.isEmpty_eq_false_iff.mpr hSome
    refine ⟨_, _, listPanel_lists snippetEntry_showsMark _ _ c hRoom ?_ (by decide) hCursor, hSnippet, ?_⟩
    · simp only [listRoom]
      omega
    · simp only [drawSnippets, hMore, hSnippet, Bool.false_eq_true, if_false]
  · have hCursor : Points d.historyCursor d.history.reports.length := h.pointing .history
    have hMore : d.history.size ≠ 0 := fun hNone => hSome (List.length_eq_zero_iff.mp hNone)
    simp only [drawHistory, if_neg hMore]
    refine listPanel_lists (historyEntry_showsMark _) _ _ _ hRoom ?_ (by decide) hCursor
    simp only [listRoom]
    omega

/-- A desk with three reports in its history, of which the last one is under the cursor. -/
def scrolled : Desk :=
  let empty : Report := ⟨none, none, none, []⟩
  let opened := (start .standard "" .empty .empty ⟨[]⟩ []).apply (.historyLoaded [empty, empty, empty])
  let shown := (opened.move (.press (.ofCode .tab))).move (.press (.ofCode .tab))
  (shown.move (.press (.ofChar 'j'))).move (.press (.ofChar 'j'))

theorem visited_scrolled : scrolled.Visited := by
  unfold scrolled
  exact .move (.move (.move (.move (.command (.start ..) _) _) _) _) _

/-- Two of three entries fit, and the first one is left out. -/
theorem cursor_drawn_scrolled :
    scrolled.Visited ∧ scrolled.historyCursor = 2 ∧ scrolled.rows .history = 3 ∧
      listRoom ⟨0, 0, 40, 4⟩ = 2 ∧ scrollOffset 2 2 = 1 ∧
      Lists scrolled.history.reports 2 2 1 (historyEntry scrolled.history) ⟨0, 0, 40, 4⟩
        (.titled scrolled.historyTitle) (.blank 40 4) (scrolled.drawHistory ⟨0, 0, 40, 4⟩ (.blank 40 4)) := by
  refine ⟨visited_scrolled, rfl, rfl, rfl, rfl, ?_⟩
  exact (cursor_drawn visited_scrolled ⟨0, 0, 40, 4⟩ (.blank 40 4)).history (by decide) (by decide)

end Desk

end AuditDesk

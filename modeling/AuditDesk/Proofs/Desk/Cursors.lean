import AuditDesk.Proofs.Desk.Notified
import AuditDesk.Proofs.Desk.Told
import AuditDesk.Proofs.Snippets.Refinement

/-! A cursor is at a row of its list, or at the top of a list without rows, whatever becomes of the list:
reports replace one another, the history is fetched anew, and snippets are saved, deleted, or not deleted
because the storage fails. The rows are counted and the cursors placed view by view, so that most of what
happens is seen to touch neither. -/
namespace AuditDesk

/-- A place in a list: at one of its rows, or at the top. -/
def Points (cursor rows : Nat) : Prop := cursor = 0 ∨ cursor < rows

namespace Points

variable {cursor rows more : Nat}

theorem clamped (cursor rows : Nat) : Points (min cursor (rows - 1)) rows := by
  unfold Points
  omega

theorem up (h : Points cursor rows) : Points (cursor - 1) rows := by
  unfold Points at *
  omega

theorem mono (h : Points cursor rows) (hMore : rows ≤ more) : Points cursor more := by
  unfold Points at *
  omega

theorem lt (h : Points cursor rows) (hRows : 0 < rows) : cursor < rows := by
  unfold Points at h
  omega

end Points

/-- Saving takes no snippet away. -/
theorem SnippetStore.size_le_save {σ : Type} [TextStorage σ] (store : SnippetStore) (s : σ)
    (name code : String) (language : Language) : store.size ≤ (store.save s name code language).store.size := by
  have hRules := store.save_rules s name code language
  by_cases hAdded : (store.save s name code language).answer = .ok true
  · rw [hRules.added hAdded]
    simp [size]
  · exact Nat.le_of_eq (congrArg size (hRules.untouched hAdded).2).symm

namespace Desk

/-- Where the cursor of a view is. -/
def cursor (d : Desk) : View → Nat
  | .results => d.reportCursor
  | .snippets => d.snippetCursor
  | .history => d.historyCursor
  | .compare => 0

/-- How many rows a view lists. -/
def rows (d : Desk) : View → Nat
  | .results => (d.report.map fun r => r.findings.length).getD 0
  | .snippets => d.store.size
  | .history => d.history.size
  | .compare => 0

def Pointing (d : Desk) : Prop := ∀ v, Points (d.cursor v) (d.rows v)

/-- The desks that come about by any turns of the user, the workers and the surroundings, and by commands
that may come from anywhere. -/
inductive Visited : Desk → Prop
  | start (policy : PollPolicy) (exportDir : String) (files : FileTree) (storage : Storage)
      (store : SnippetStore) (warnings : List String) :
      Visited (.start policy exportDir files storage store warnings)
  | move {d : Desk} (hBefore : Visited d) (m : Move) : Visited (d.move m)
  | command {d : Desk} (hBefore : Visited d) (command : Command) : Visited (d.apply command)

variable {d after : Desk}

/-- Nothing but the cursors and the numbers of rows counts. -/
theorem Pointing.of_same (h : d.Pointing) (hCursor : after.cursor = d.cursor) (hRows : after.rows = d.rows) :
    after.Pointing := by
  intro v
  rw [hCursor, hRows]
  exact h v

theorem rowCount_eq (d : Desk) : d.rowCount = d.rows d.view := by
  cases hView : d.view <;> simp only [rowCount, hView] <;> rfl

theorem rows_moveCursor (d : Desk) (move : Nat → Nat) : (d.moveCursor move).rows = d.rows := by
  cases hView : d.view <;> simp only [moveCursor, hView] <;> rfl

/-- Only the cursor of the present view moves. -/
theorem Pointing.moveCursor (h : d.Pointing) {move : Nat → Nat}
    (hMove : Points (move (d.cursor d.view)) (d.rows d.view)) : (d.moveCursor move).Pointing := by
  intro v
  rw [rows_moveCursor]
  have hThere := h v
  cases hView : d.view with
  | compare =>
      rw [Desk.moveCursor, hView]
      exact hThere
  | _ =>
      rw [hView] at hMove
      rw [Desk.moveCursor, hView]
      cases v <;> first | exact hMove | exact hThere

theorem Pointing.up (h : d.Pointing) : d.up.Pointing := h.moveCursor (h d.view).up

theorem Pointing.down (h : d.Pointing) : d.down.Pointing := by
  unfold Desk.down
  dsimp only
  split
  · exact h
  · rw [rowCount_eq]
    exact h.moveCursor (.clamped _ _)

theorem Pointing.startAnalysis (h : d.Pointing) : d.startAnalysis.Pointing := by
  refine h.of_same ?_ ?_ <;> unfold Desk.startAnalysis <;> repeat' split
  all_goals rfl

theorem Pointing.cancelAnalysis (h : d.Pointing) : d.cancelAnalysis.2.Pointing := by
  refine h.of_same ?_ ?_ <;> unfold Desk.cancelAnalysis <;> dsimp only <;> repeat' split
  all_goals rfl

theorem Pointing.refreshHistory (h : d.Pointing) : d.refreshHistory.Pointing := by
  refine h.of_same ?_ ?_ <;> unfold Desk.refreshHistory <;> split <;> rfl

theorem Pointing.exportReport (h : d.Pointing) (format : ExportFormat) : (d.exportReport format).2.Pointing := by
  refine h.of_same ?_ ?_ <;> unfold Desk.exportReport <;> repeat' split
  all_goals rfl

/-- A selection has no rows of its own. -/
theorem Pointing.toggleSelection (h : d.Pointing) : d.toggleSelection.Pointing := by
  unfold Desk.toggleSelection
  split
  · exact h
  · rename_i history hToggle
    have hReports := d.history.toggle_reports d.historyCursor
    rw [hToggle] at hReports
    intro v
    cases v with
    | history => exact (h .history).mono (Nat.le_of_eq (congrArg List.length hReports).symm)
    | results => exact h .results
    | snippets => exact h .snippets
    | compare => exact h .compare

theorem Pointing.compareSelection (h : d.Pointing) : d.compareSelection.Pointing := by
  refine h.of_same ?_ ?_ <;> unfold Desk.compareSelection <;> split <;> rfl

theorem Pointing.openSave (h : d.Pointing) : d.openSave.Pointing := by
  refine h.of_same ?_ ?_ <;> unfold Desk.openSave <;> split <;> rfl

theorem Pointing.loadSnippet (h : d.Pointing) : d.loadSnippet.Pointing := by
  refine h.of_same ?_ ?_ <;> unfold Desk.loadSnippet <;> split <;> rfl

theorem Pointing.openInfo (h : d.Pointing) : d.openInfo.Pointing := by
  refine h.of_same ?_ ?_ <;> unfold Desk.openInfo <;> split <;> rfl

theorem Pointing.activate (h : d.Pointing) : d.activate.Pointing := by
  unfold Desk.activate
  split
  · exact h.openInfo
  · exact h.loadSnippet
  · exact h.toggleSelection
  · exact h

/-- With snippets added the cursor stays where it is. -/
theorem Pointing.confirmSave (h : d.Pointing) : d.confirmSave.Pointing := by
  unfold Desk.confirmSave
  split
  · exact h
  · rename_i name hName
    have hSize := d.store.size_le_save d.storage name d.code d.language
    dsimp only
    split <;>
    · intro v
      cases v with
      | snippets => exact (h .snippets).mono hSize
      | results => exact h .results
      | history => exact h .history
      | compare => exact h .compare

/-- Where nothing was removed the list is as it was, and otherwise the cursor is kept within it. -/
theorem Pointing.deleteSnippet (h : d.Pointing) : d.deleteSnippet.Pointing := by
  have hRules := d.store.delete_rules d.storage d.snippetCursor
  unfold Desk.deleteSnippet
  dsimp only
  split
  · intro v
    cases v with
    | snippets => exact .clamped _ _
    | results => exact h .results
    | history => exact h .history
    | compare => exact h .compare
  · rename_i hAnswer
    have hStore := (hRules.untouched (by simp [hAnswer])).2
    exact h.of_same rfl (by rw [hStore]; rfl)
  · rename_i e hAnswer
    have hStore := (hRules.untouched (by simp [hAnswer])).2
    exact h.of_same rfl (by rw [hStore]; rfl)

theorem Pointing.pressInView (h : d.Pointing) (code : KeyCode) : (d.pressInView code).Pointing := by
  unfold Desk.pressInView
  split
  · exact h
  · exact h
  · exact h.down
  · exact h.up
  · exact h.activate
  · exact h.cancelAnalysis
  · exact h
  · exact h.down
  · exact h.up
  · exact h.startAnalysis
  · exact h.openSave
  · exact h.refreshHistory
  · exact h.compareSelection
  · exact h.exportReport _
  · exact h.exportReport _
  · exact h
  · split
    · exact h.deleteSnippet
    · exact h
  · exact h

theorem Pointing.pressInSave (h : d.Pointing) (code : KeyCode) : (d.pressInSave code).Pointing := by
  cases code with
  | enter => exact h.confirmSave
  | _ => exact h

theorem Pointing.pressInInfo (h : d.Pointing) (code : KeyCode) : (d.pressInInfo code).Pointing := by
  unfold Desk.pressInInfo
  split <;> exact h

theorem Pointing.press (h : d.Pointing) (key : KeyEvent) : (d.press key).Pointing := by
  unfold Desk.press
  split
  · exact h
  split
  · exact h
  split
  · exact h.pressInSave _
  · exact h.pressInInfo _
  · exact h.pressInView _

theorem Pointing.finishAnalysis (h : d.Pointing) (report : Report) : (d.finishAnalysis report).Pointing := by
  unfold Desk.finishAnalysis
  dsimp only
  split <;>
  · intro v
    cases v with
    | results => exact .inl rfl
    | snippets => exact h .snippets
    | history => exact h .history
    | compare => exact h .compare

theorem Pointing.showHistory (h : d.Pointing) (reports : List Report) : (d.showHistory reports).Pointing := by
  intro v
  cases v with
  | history => exact .clamped _ _
  | results => exact h .results
  | snippets => exact h .snippets
  | compare => exact h .compare

theorem Pointing.apply (h : d.Pointing) (command : Command) : (d.apply command).Pointing := by
  cases command with
  | analysisFinished report => exact h.finishAnalysis report
  | historyLoaded reports => exact h.showHistory reports
  | analysisFailed => exact h
  | historyFailed => exact h
  | notify => exact h

theorem Pointing.send (h : d.Pointing) (id : Nat) : (d.send id).Pointing := by
  unfold Desk.send
  split <;> exact h

theorem Pointing.deliver (h : d.Pointing) : d.deliver.2.Pointing := by
  unfold Desk.deliver
  split
  · exact h
  · rename_i command rest _
    have hTaken : ({ d with queue := rest } : Desk).Pointing := h
    exact hTaken.apply command

theorem Pointing.move (h : d.Pointing) (m : Move) : (d.move m).Pointing := by
  cases m with
  | press key => exact h.press key
  | refresh => exact h.refreshHistory
  | cancel => exact h.cancelAnalysis
  | send id => exact h.send id
  | deliver => exact h.deliver
  | _ => exact h

theorem pointing_foldl_notify (warnings : List String) (h : d.Pointing) :
    (warnings.foldl (fun d warning => d.notify .warning "Startup" warning) d).Pointing := by
  induction warnings generalizing d with
  | nil => exact h
  | cons warning warnings ih => exact ih h

theorem Visited.pointing (h : d.Visited) : d.Pointing := by
  induction h with
  | start =>
      refine pointing_foldl_notify _ fun v => ?_
      cases v <;> exact .inl rfl
  | move _ m ih => exact ih.move m
  | command _ command ih => exact ih.apply command

section Enter

theorem press_enter (hClosed : d.dialog = .closed) (control : Bool) :
    d.press ⟨.enter, control, .press⟩ = d.activate := by
  unfold press
  rw [hClosed]
  cases control <;> rfl

/-- What the enter key does in a view whose list has rows: it shows guidance on the finding, loads the
snippet, or selects the report or gives it up. -/
def Enters (d after : Desk) : View → Prop
  | .results => ∃ report finding, d.report = some report ∧ report.findings[d.reportCursor]? = some finding ∧
      after = { d with dialog := .info finding.name }
  | .snippets => ∃ snippet, d.store.get? d.snippetCursor = some snippet ∧
      after = (d.setSource snippet.code snippet.language (some snippet.name)).notify .info "Snippet Loaded"
        (snippet.name ++ " (" ++ snippet.language.name ++ ")")
  | .history => ∃ history, after = { d with history := history } ∧ history.reports = d.history.reports ∧
      ∀ position, history.isSelected position =
        if position = d.historyCursor then !d.history.isSelected position else d.history.isSelected position
  | .compare => True

theorem openInfo_enters (hCursor : d.reportCursor < d.rows .results) : d.Enters d.openInfo .results := by
  cases hReport : d.report with
  | none => simp [rows, hReport] at hCursor
  | some report =>
      have hWithin : d.reportCursor < report.findings.length := by
        simpa [rows, hReport] using hCursor
      have hFinding := List.getElem?_eq_getElem hWithin
      refine ⟨report, report.findings[d.reportCursor], hReport, hFinding, ?_⟩
      unfold openInfo
      rw [hReport, Option.bind_some, hFinding]

theorem loadSnippet_enters (hCursor : d.snippetCursor < d.rows .snippets) : d.Enters d.loadSnippet .snippets := by
  have hFound : d.store.get? d.snippetCursor = some (d.store.snippets.get ⟨d.snippetCursor, hCursor⟩) :=
    List.getElem?_eq_getElem hCursor
  refine ⟨_, hFound, ?_⟩
  unfold loadSnippet
  rw [hFound]

theorem toggleSelection_enters (hCursor : d.historyCursor < d.rows .history) :
    d.Enters d.toggleSelection .history := by
  obtain ⟨hAnswer, hSelected⟩ := d.history.toggle_within hCursor
  refine ⟨(d.history.toggle d.historyCursor).2, ?_, d.history.toggle_reports _, fun position => ?_⟩
  · unfold toggleSelection
    split
    · rename_i hNone
      rw [hNone] at hAnswer
      cases hAnswer
    · rename_i hSome
      rw [hSome]
  · rw [hSelected position]
    split <;> simp_all

theorem Pointing.enters (h : d.Pointing) (hRows : 0 < d.rows d.view) : d.Enters d.activate d.view := by
  have hCursor := (h d.view).lt hRows
  unfold Desk.activate
  split
  · rename_i hView
    rw [hView] at hCursor ⊢
    exact openInfo_enters hCursor
  · rename_i hView
    rw [hView] at hCursor ⊢
    exact loadSnippet_enters hCursor
  · rename_i hView
    rw [hView] at hCursor ⊢
    exact toggleSelection_enters hCursor
  · rename_i hView
    rw [hView]
    trivial

end Enter

section Told

/-- Between two desks the user is told at most one thing, and that the history is empty only when it is. -/
def Tells (d after : Desk) : Prop :=
  after.notices = d.notices ∨ ∃ level title message,
    after.notices = d.notices.push d.now level title message ∧
      (title = "History Empty" → d.history.size = 0)

/-- A cursor that is at a row finds it, so only an empty history is called empty. -/
theorem Pointing.tells_press (h : d.Pointing) (key : KeyEvent) : d.Tells (d.press key) := by
  refine (Desk.tells_press d key).imp_right fun ⟨level, title, message, hPush, hTitle⟩ => ?_
  refine ⟨level, title, message, hPush, fun hEmpty => Nat.eq_zero_of_not_pos fun hRows => ?_⟩
  subst hEmpty
  rcases hTitle with hPlain | ⟨_, hNone⟩ | ⟨hOther, _⟩
  · exact absurd hPlain (by decide)
  · have hAnswer := (d.history.toggle_within ((h .history).lt hRows)).1
    rw [show d.cursor .history = d.historyCursor from rfl, hNone] at hAnswer
    cases hAnswer
  · exact absurd hOther (by decide)

end Told

/-- Whatever the user does and whatever lists arrive, each cursor is at a row or at the top of its list. So
the enter key finds what it is pressed on as long as there is anything, and the history is called empty
only when it is. -/
theorem cursors_point (h : d.Visited) :
    (∀ v, d.cursor v = 0 ∨ d.cursor v < d.rows v) ∧
    (∀ control, d.dialog = .closed → 0 < d.rows d.view →
      d.Enters (d.press ⟨.enter, control, .press⟩) d.view) ∧
    ∀ key, d.Tells (d.press key) := by
  refine ⟨h.pointing, fun control hClosed hRows => ?_, h.pointing.tells_press⟩
  rw [press_enter hClosed]
  exact h.pointing.enters hRows

/-- A desk at which the second of two snippets could not be deleted, and the history has become shorter
while the cursor was at its end. -/
def shortened : Desk :=
  let empty : Report := ⟨none, none, none, []⟩
  let opened := start .standard "" .empty .empty ⟨[⟨"a", "x", .solidity⟩, ⟨"b", "y", .vyper⟩]⟩ []
  let second := (opened.move (.press (.ofCode .tab))).move (.press (.ofChar 'j'))
  let undeleted := (second.move (.disturb .empty [.set])).move (.press (.ofChar 'd'))
  let listed := (undeleted.move (.press (.ofCode .tab))).apply (.historyLoaded [empty, empty])
  (listed.move (.press (.ofChar 'j'))).apply (.historyLoaded [empty])

theorem visited_shortened : shortened.Visited := by
  unfold shortened
  exact .command (.move (.command (.move (.move (.move (.move (.move (.start ..) _) _) _) _) _) _) _) _

theorem cursors_point_shortened :
    shortened.Visited ∧ shortened.dialog = .closed ∧ shortened.view = .history ∧ 0 < shortened.rows .history ∧
      shortened.snippetCursor = 1 ∧ shortened.rows .snippets = 2 ∧ shortened.historyCursor = 0 ∧
      shortened.Enters (shortened.press (.ofCode .enter)) .history := by
  have hClosed : shortened.dialog = .closed := rfl
  have hRows : 0 < shortened.rows shortened.view := by decide
  exact ⟨visited_shortened, hClosed, rfl, hRows, rfl, rfl, rfl,
    (cursors_point visited_shortened).2.1 false hClosed hRows⟩

end Desk

end AuditDesk

import AuditDesk.Desk.Basic
import AuditDesk.Screen.Panel
import AuditDesk.Screen.Window
import AuditDesk.Text.Lines

/-!
The desk as it is drawn: tabs and the state of the analysis above, the present view in the middle,
hints on keys below; over all of it an open dialog, and over the view the newest notices.
-/
namespace AuditDesk.Desk

open Screen

section Header

/-- The width of the box that shows how the analysis stands. -/
def statusWidth : Nat := 44

def selectedStyle : Style := (Style.ofColor .yellow).bolder

def tabs (d : Desk) : Line :=
  List.intercalate [⟨"│", .plain⟩] (View.all.map fun v =>
    [⟨" ", .plain⟩, ⟨v.title, if v = d.view then selectedStyle else .plain⟩, ⟨" ", .plain⟩])

def statusLine (d : Desk) : Line :=
  let status : Run := match d.analysis with
    | .idle => ⟨"Idle", .ofColor .gray⟩
    | .running => ⟨"Analyzing... 0s", .ofColor .yellow⟩
    | .finished count => ⟨"Done: " ++ toString count ++ " found", .ofColor .green⟩
    | .failed _ => ⟨"Failed", (Style.ofColor .red).bolder⟩
  [⟨"[" ++ d.language.name ++ "] ", .ofColor .cyan⟩, status]

def drawHeader (d : Desk) (area : Rect) (c : Canvas) : Canvas :=
  let (left, right) := area.splitRight statusWidth
  ((c.panel left (.titled " Contract Auditor ")).drawLine left.inner d.tabs).textPanel right
    .untitled .plain .cut [d.statusLine]

end Header

section Footer

/-- The keys of a view and what they do. -/
def keyHints (d : Desk) : List (String × String) :=
  [("[Tab]", "View"), ("[↑↓/jk]", "Move")] ++
    (match d.view with
      | .results =>
          [("[Enter]", "Info"), ("[a]", "Analyze"), ("[l]", "Language"), ("[s]", "Save"),
            ("[x]", "CSV"), ("[J]", "JSON")]
      | .snippets => [("[Enter]", "Load"), ("[d]", "Delete")]
      | .history =>
          [("[Enter]", "Select"), ("[c]", "Compare"), ("[r]", "Refresh"), ("[x]", "CSV"),
            ("[J]", "JSON")]
      | .compare => [("[r]", "Refresh history")]) ++
    (if d.isRunning then [("[Esc]", "Cancel")] else []) ++ [("[q]", "Quit")]

def footerLine (d : Desk) : Line :=
  let key (name : String) : Run := ⟨name, .emphasis⟩
  let text (s : String) : Run := ⟨s, .plain⟩
  match d.dialog with
  | .save _ =>
      [⟨"TYPE", (Style.ofColor .white).bolder⟩, text " snippet name  ", key "[Enter]", text " Save  ",
        key "[Esc]", text " Cancel"]
  | .info _ => [key "[Esc/Enter]", text " Close"]
  | .closed => d.keyHints.flatMap fun hint => [key hint.1, text (" " ++ hint.2 ++ "  ")]

def drawFooter (d : Desk) (area : Rect) (c : Canvas) : Canvas :=
  c.textPanel area .untitled .plain .cut [d.footerLine]

end Footer

section Lists

/-- The entries of one line for which a list in this area has room. -/
def listRoom (area : Rect) : Nat := area.height - 2

def marker (marked : Bool) : Run := ⟨if marked then "▶ " else "  ", .plain⟩

/-- What stands in place of a list that is empty. -/
def drawEmpty (area : Rect) (title : String) (line : Line) (c : Canvas) : Canvas :=
  c.textPanel area (.titled title) (.ofColor .gray) .wrap [line]

end Lists

section Results

/-- A finding takes two lines. -/
def findingRoom (area : Rect) : Nat := listRoom area / 2

def findingEntry (shown : Shown Finding) : List Line :=
  [ [marker shown.marked,
      ⟨shown.entry.name, if shown.marked then selectedStyle else .ofColor .red⟩],
    [⟨"    ", .plain⟩, ⟨shown.entry.description, .ofColor .gray⟩] ]

def drawSource (d : Desk) (area : Rect) (c : Canvas) : Canvas :=
  let title := match d.label with
    | some label => " Source: " ++ label ++ " "
    | none => " Source "
  if d.code.isEmpty then
    c.textPanel area (.titled title) (.ofColor .gray) .cut
      [.plain "No contract loaded.", [],
        .plain "Start with --file PATH or load a snippet from the Snippets view."]
  else c.textPanel area (.titled title) .plain .cut ((Text.lines d.code).map Line.plain)

def drawFindings (d : Desk) (area : Rect) (c : Canvas) : Canvas :=
  match d.report with
  | none =>
      drawEmpty area " Vulnerabilities " (.plain "Press a to analyze the loaded contract.") c
  | some report =>
      if report.findings.isEmpty then
        drawEmpty area " Vulnerabilities "
          (.styled "No vulnerabilities reported." (.ofColor .green)) c
      else
        c.listPanel area
          (.titled (" Vulnerabilities (" ++ toString report.findings.length ++ ") "))
          ((window report.findings d.reportCursor (findingRoom area)).map findingEntry)

def drawResults (d : Desk) (area : Rect) (c : Canvas) : Canvas :=
  let (left, right) := area.splitPercent 45
  d.drawFindings right (d.drawSource left c)

end Results

section Snippets

def snippetEntry (shown : Shown Snippet) : List Line :=
  [[marker shown.marked,
    ⟨shown.entry.name, if shown.marked then selectedStyle else .ofColor .white⟩,
    ⟨"  [" ++ shown.entry.language.name ++ "]", .ofColor .cyan⟩]]

def drawSnippets (d : Desk) (area : Rect) (c : Canvas) : Canvas :=
  if d.store.snippets.isEmpty then
    drawEmpty area " Saved Snippets "
      (.plain
        "No saved snippets. Press s in the Results view to save the loaded contract.") c
  else
    let (left, right) := area.splitPercent 35
    let c := c.listPanel left (.titled (" Saved Snippets (" ++ toString d.store.size ++ ") "))
      ((window d.store.snippets d.snippetCursor (listRoom left)).map snippetEntry)
    match d.store.get? d.snippetCursor with
    | some snippet =>
        c.textPanel right (.titled (" " ++ snippet.name ++ " ")) .plain .cut
          ((Text.lines snippet.code).map Line.plain)
    | none => c

end Snippets

section Histories

def createdText (r : Report) : String := (r.createdAt.map Timestamp.short).getD "-"

def historyEntry (h : History) (shown : Shown Report) : List Line :=
  [[marker shown.marked,
    ⟨if h.isSelected shown.position then "[x] " else "[ ] ", .ofColor .green⟩,
    ⟨Text.padRight 10 (shown.entry.label shown.position),
      if shown.marked then selectedStyle else .ofColor .white⟩,
    ⟨"  " ++ createdText shown.entry ++ "  ", .ofColor .gray⟩,
    ⟨toString shown.entry.findings.length ++ " vulnerabilities", .plain⟩]]

def historyTitle (d : Desk) : String :=
  " History (" ++ toString d.history.size ++ " entries, " ++ toString d.history.selected.length ++
    " selected)" ++ (if d.loading then " refreshing..." else "") ++ " "

def drawHistory (d : Desk) (area : Rect) (c : Canvas) : Canvas :=
  if d.history.size = 0 then
    drawEmpty area " History "
      (.plain (if d.loading then "Loading history..." else "No history yet. Press r to refresh.")) c
  else
    c.listPanel area (.titled d.historyTitle)
      ((window d.history.reports d.historyCursor (listRoom area)).map (historyEntry d.history))

end Histories

section Comparisons

/-- The least width of the column of names, and the width of the others. -/
def nameColumnWidth : Nat := 30
def reportColumnWidth : Nat := 10

/-- A cell of a table shows the first line of its text. -/
def tableCell (text : String) (style : Style) : Line := .styled ((Text.lines text).headD "") style

def comparisonRow (r : ComparisonRow) : List Line :=
  tableCell r.finding .plain :: r.presence.map fun present =>
    .styled (Comparison.mark present) (.ofColor (if present then .red else .gray))

/-- Draws the cells of a row, each in its column. -/
def drawCells (area : Rect) (spans : List Span) (cells : List Line) (c : Canvas) : Canvas :=
  (spans.zip cells).foldl (fun c cell =>
    let area := area.columns cell.1
    let style := (cell.2.head?.map Run.style).getD .plain
    (c.paint area style).drawLine area cell.2) c

def drawTable (comparison : Comparison) (area : Rect) (c : Canvas) : Canvas :=
  let spans := tableSpans area.width nameColumnWidth reportColumnWidth comparison.columns.length
  let headings := Comparison.heading :: comparison.columns
  let c := (c.paint (area.row 0 (min 1 area.height)) .emphasis)
  let rows := headings.map (tableCell · .plain) :: comparison.rows.map comparisonRow
  ((rows.take area.height).foldl (fun (state : Canvas × Nat) cells =>
    (drawCells (area.row state.2 1) spans cells state.1, state.2 + 1)) (c, 0)).1

def drawComparison (d : Desk) (area : Rect) (c : Canvas) : Canvas :=
  match d.comparison with
  | none =>
      drawEmpty area " Compare "
        (.plain "Select at least two entries in the History view (Enter), then press c.") c
  | some comparison =>
      let title := " Compare (" ++ toString comparison.columns.length ++ " results) "
      drawTable comparison area.inner (c.panel area (.titled title))

end Comparisons

section Dialogs

def guidanceLines (finding : String) : List Line :=
  let heading (s : String) : Line := .styled s selectedStyle
  let title (s : String) : Line := .styled s (Style.ofColor .white).bolder
  match Guidance.lookup finding with
  | some g =>
      [title g.title, [], heading "Description", .plain g.description, [], heading "Mitigation",
        .plain g.mitigation, [], heading "Reference", .styled g.reference (.ofColor .cyan)]
  | none =>
      [title finding, [],
        .plain "No additional information available for this vulnerability."]

def drawDialog (d : Desk) (area : Rect) (c : Canvas) : Canvas :=
  match d.dialog with
  | .closed => c
  | .info finding =>
      let area := area.centered 70 70
      (c.clear area).textPanel area
        ⟨.plain " Vulnerability Info ", .ofColor .yellow, .onBlack⟩ .plain .wrap
        (guidanceLines finding)
  | .save buffer =>
      let area := area.centered 50 20
      (c.clear area).textPanel area ⟨.plain " Save Snippet ", .ofColor .green, .onBlack⟩ .plain .cut
        [.plain "Snippet name:", [⟨buffer, .ofColor .white⟩, ⟨"_", .blink⟩]]

end Dialogs

section Notices

/-- The notices that are shown at most, and the rows that each takes. -/
def noticesShown : Nat := 3
def noticeHeight : Nat := 3

def noticeLook : NoticeLevel → Color × String
  | .info => (.blue, "ℹ")
  | .success => (.green, "✓")
  | .warning => (.yellow, "⚠")
  | .error => (.red, "✗")

def drawNotice (n : Notice) (area : Rect) (c : Canvas) : Canvas :=
  let (color, icon) := noticeLook n.level
  let style := Style.ofColor color
  (c.clear area).textPanel area
    ⟨.styled (" " ++ icon ++ " " ++ n.title ++ " ") style.bolder, style, .plain⟩ .plain .wrap
    [.plain n.message]

/-- The newest notices, one above the other in the lower right corner. -/
def drawNotices (d : Desk) (area : Rect) (c : Canvas) : Canvas :=
  let live := d.notices.live d.now
  let shown := live.drop (live.length - noticesShown)
  let corner := ((area.splitPercent 50).2.splitBottom (shown.length * noticeHeight)).2
  ((equalSpans corner.height noticeHeight shown.length).zip shown).foldl
    (fun c slot => drawNotice slot.2 (corner.rows slot.1) c) c

end Notices

/-- The rows of the header and of the footer. -/
def barHeight : Nat := 3

/-- What a blank screen of the given size shows when the desk is drawn on it. -/
def frame (d : Desk) (width height : Nat) : Canvas :=
  let c := Canvas.blank width height
  let (rest, footer) := c.area.splitBottom barHeight
  let header := rest.row 0 (min barHeight rest.height)
  let middle := rest.row header.height (rest.height - header.height)
  let draw := match d.view with
    | .results => d.drawResults
    | .snippets => d.drawSnippets
    | .history => d.drawHistory
    | .compare => d.drawComparison
  (d.drawNotices middle
    (d.drawDialog c.area (d.drawFooter footer (draw middle (d.drawHeader header c))))).shown

end AuditDesk.Desk

import AuditDesk.Desk.Basic
import AuditDesk.Export

/-!
What the user can do at the desk.
-/
namespace AuditDesk.Desk

section Source

def setSource (d : Desk) (code : String) (language : Language) (label : Option String) : Desk :=
  { d with code := code, language := language, label := label }

def toggleLanguage (d : Desk) : Desk := { d with language := d.language.other }

end Source

section Cursors

/-- The rows among which the cursor of the present view moves. -/
def rowCount (d : Desk) : Nat :=
  match d.view with
  | .results => (d.report.map fun r => r.findings.length).getD 0
  | .snippets => d.store.size
  | .history => d.history.size
  | .compare => 0

/-- Moves the cursor of the present view. -/
def moveCursor (d : Desk) (move : Nat → Nat) : Desk :=
  match d.view with
  | .results => { d with reportCursor := move d.reportCursor }
  | .snippets => { d with snippetCursor := move d.snippetCursor }
  | .history => { d with historyCursor := move d.historyCursor }
  | .compare => d

def down (d : Desk) : Desk :=
  let count := d.rowCount
  if count = 0 then d else d.moveCursor fun cursor => min (cursor + 1) (count - 1)

def up (d : Desk) : Desk := d.moveCursor fun cursor => cursor - 1

end Cursors

section Analyses

/-- Submits the source. Only one analysis runs at a time. -/
def startAnalysis (d : Desk) : Desk :=
  if d.isRunning then
    d.notify .warning "Analysis Running" "Wait for the current analysis to finish"
  else if Text.allBlank d.code then
    d.notify .warning "Nothing to Analyze" "Open a contract file or load a saved snippet first"
  else
    { d.employ (.analysis ⟨d.code, d.language⟩ .asking) with
      analysis := .running, cancellable := some d.nextWorker, loading := true }

/-- Cancels the running analysis, at most once; answers whether there was one to cancel. -/
def cancelAnalysis (d : Desk) : Bool × Desk :=
  match d.cancellable with
  | none => (false, d)
  | some id =>
      let d := { d with cancellable := none }
      if d.isRunning then
        (true, (d.changeWorker id fun w => { w with cancelled := true }).notify .info "Cancelling"
          "Stopping the running analysis")
      else (false, d)

end Analyses

section Exports

/-- The report that is exported: the one under the cursor in the history, the latest elsewhere. -/
def exportTarget (d : Desk) : Option Report :=
  if d.view = .history then d.history.get? d.historyCursor else d.report

/-- Writes the export file and answers its path. -/
def exportReport (d : Desk) (format : ExportFormat) : Option String × Desk :=
  match Artifact.ofReport? format d.exportTarget with
  | .error _ => (none, d.notify .warning "Nothing to Export" "Run an analysis first")
  | .ok artifact =>
      match artifact.writeTo d.files d.exportDir with
      | (.ok path, files) => (some path, { d with files := files }.notify .success "Exported" path)
      | (.error e, files) => (none, { d with files := files }.notify .error "Export Failed" e.message)

end Exports

section Histories

/-- Fetches the history, unless it is being fetched already. -/
def refreshHistory (d : Desk) : Desk :=
  if d.loading then d else { d.employ .listing with loading := true }

def toggleSelection (d : Desk) : Desk :=
  match d.history.toggle d.historyCursor with
  | (none, _) => d.notify .info "History Empty" "Press r to refresh"
  | (some _, history) => { d with history := history }

/-- Compares the selected reports and shows the comparison. -/
def compareSelection (d : Desk) : Desk :=
  match d.history.compareSelected with
  | .ok comparison => { d with comparison := some comparison, view := .compare }
  | .error e => d.notify .warning "Cannot Compare" e.message

end Histories

section Snippets

/-- Asks for a name under which to save the source. -/
def openSave (d : Desk) : Desk :=
  if Text.allBlank d.code then
    d.notify .warning "Nothing to Save" "There is no contract code loaded"
  else { d with dialog := .save (d.label.getD "") }

/-- Saves the source under the name typed; the dialog stays open until there is one. -/
def confirmSave (d : Desk) : Desk :=
  match d.dialog.buffer? with
  | none => d
  | some name =>
      let outcome := d.store.save d.storage name d.code d.language
      let d := { d with store := outcome.store, storage := outcome.storage }
      match outcome.answer with
      | .ok true => { d.notify .success "Snippet Saved" (Text.trim name) with dialog := .closed }
      | .ok false => d.notify .warning "Name Required" "Enter a name for the snippet"
      | .error e => { d.notify .error "Save Failed" e.message with dialog := .closed }

def loadSnippet (d : Desk) : Desk :=
  match d.store.get? d.snippetCursor with
  | none => d
  | some snippet =>
      (d.setSource snippet.code snippet.language (some snippet.name)).notify .info "Snippet Loaded"
        (snippet.name ++ " (" ++ snippet.language.name ++ ")")

def deleteSnippet (d : Desk) : Desk :=
  let outcome := d.store.delete d.storage d.snippetCursor
  let d := { d with store := outcome.store, storage := outcome.storage }
  match outcome.answer with
  | .ok (some removed) =>
      { d with snippetCursor := min d.snippetCursor (d.store.size - 1) }.notify .info
        "Snippet Deleted" removed.name
  | .ok none => d
  | .error e => d.notify .error "Delete Failed" e.message

end Snippets

section Dialogs

/-- Shows guidance on the finding under the cursor. -/
def openInfo (d : Desk) : Desk :=
  match d.report.bind fun r => r.findings[d.reportCursor]? with
  | some finding => { d with dialog := .info finding.name }
  | none => d

def closeDialog (d : Desk) : Desk := { d with dialog := .closed }

end Dialogs

/-- What the enter key does in the present view. -/
def activate (d : Desk) : Desk :=
  match d.view with
  | .results => d.openInfo
  | .snippets => d.loadSnippet
  | .history => d.toggleSelection
  | .compare => d

end AuditDesk.Desk

import AuditDesk.CommandLine.Command
import AuditDesk.CommandLine.Workspace
import AuditDesk.Guidance
import AuditDesk.History
import AuditDesk.Text.Lines

/-!
Carrying out the commands that need no screen.
-/
namespace AuditDesk.CommandLine

section Analysis

def printReport (r : Report) (o : Output) : Output :=
  r.findings.foldl (fun o f => (o.line ("  - " ++ f.name)).line ("      " ++ f.description))
    (o.found r.findings.length "vulnerabilities")

/-- Submits a source, then fetches the history once more; only the submission can fail. -/
def submit (request : Service.Request) :
    Step (Report × Except Service.NetworkError (List Report)) := do
  let report ← Step.ofExcept .analysis (← Step.ask (·.submit request))
  return (report, ← Step.ask (·.history))

def analyze (path : String) (options : AnalyzeOptions) : Step Unit := do
  let source ← Step.readSource path
  if Text.allBlank source.code then Step.fail (.emptySource path)
  let language := Language.resolve options.language source.language
  Step.print (·.info ("Submitting " ++ path ++ " as " ++ language.name ++ "..."))
  let (report, history) ← submit ⟨source.code, language⟩
  Step.print (if options.json then (·.line (Wire.ofReport report).pretty) else printReport report)
  match history with
  | .ok _ => pure ()
  | .error e => Step.print (·.warning ("History was not refreshed: " ++ e.message))
  match options.exportFormat with
  | some format => Step.write (.ofReport format report) options.out
  | none => pure ()

end Analysis

section Snippets

def snippetLine (index : Nat) (s : Snippet) : String :=
  "  " ++ Text.padLeft 3 (toString index) ++ "  " ++ s.name ++ "  [" ++ s.language.name ++ "]  " ++
    toString (Text.lines s.code).length ++ " lines"

def runSnippets : SnippetsCommand → Step Unit
  | .save name path asked => do
      let source ← Step.readSource path
      let language := Language.resolve asked source.language
      if ← Step.changeSnippets (fun store s => store.save s name source.code language) then
        Step.print (·.info ("Saved snippet '" ++ Text.trim name ++ "' (" ++ language.name ++ ")"))
      else Step.fail .blankSnippet
  | .list => do
      let snippets := (← get).setup.store.snippets
      Step.print fun o => (snippets.mapIdx snippetLine).foldl Output.line
        (o.found snippets.length "saved snippets")
  | .show index => do
      match (← get).setup.store.get? index with
      | none => Step.fail (.noSnippet index)
      | some s =>
          Step.print fun o =>
            (o.errorLine ("# " ++ s.name ++ " (" ++ s.language.name ++ ")")).line s.code
  | .delete index => do
      match ← Step.changeSnippets (fun store s => store.delete s index) with
      | some removed => Step.print (·.info ("Deleted snippet '" ++ removed.name ++ "'"))
      | none => Step.fail (.noSnippet index)

end Snippets

section History

def fetchHistory : Step History := do
  return .ofReports (← Step.ofExcept .history (← Step.ask (·.history)))

def historyLine (position : Nat) (r : Report) : String :=
  "  " ++ Text.padLeft 3 (toString position) ++ "  " ++ Text.padRight 12 (r.label position) ++ " " ++
    Text.padRight 16 ((r.createdAt.map Timestamp.short).getD "-") ++ "  " ++
    toString r.findings.length ++ " vulnerabilities"

def listHistory (json : Bool) : Step Unit := do
  let reports := (← fetchHistory).reports
  if json then Step.print (·.line (Wire.ofReports reports).pretty)
  else
    Step.print fun o => (reports.mapIdx historyLine).foldl Output.line
      (o.found reports.length "previous analyses")

/-- Selects the report at a position, if it is not selected already. -/
def select (h : History) (position : Nat) : Except CompareError History :=
  if h.size ≤ position then .error (.noEntry position h.size)
  else .ok (if h.isSelected position then h else (h.toggle position).2)

/-- Compares the reports at some positions; the first position without a report is told. -/
def compareAt (h : History) (positions : List Nat) : Except CompareError Comparison := do
  let h ← positions.foldlM select h
  h.compareSelected.mapError .tooFew

def compare (positions : List Nat) : Step Unit := do
  let comparison ← Step.ofExcept .compare (compareAt (← fetchHistory) positions)
  Step.print (·.line comparison.table)

/-- Writes the report at a position to a file, which the service makes if `remote`. -/
def exportEntry (position : Nat) (format : ExportFormat) (out : Option String) (remote : Bool) :
    Step Unit := do
  let history ← fetchHistory
  match history.get? position with
  | none => Step.fail (.compare (.noEntry position history.size))
  | some report =>
      if remote then
        let content ← Step.ofExcept (.exported ∘ .remote) (← Step.ask (·.render format report))
        Step.write (.ofContent format content) out
      else Step.write (.ofReport format report) out

end History

def info (name : String) : Step Unit :=
  Step.print fun o =>
    match Guidance.lookup name with
    | some g =>
        [g.title, "", "Description:\n  " ++ g.description, "", "Mitigation:\n  " ++ g.mitigation, "",
          "Reference: " ++ g.reference].foldl Output.line o
    | none => o.warning ("No additional information available for '" ++ name ++ "'")

def runAuth : AuthCommand → Step Unit
  | .setToken token => do
      if Text.allBlank token then Step.fail .blankToken
      let w ← get
      Step.store (← Step.ofExcept .token (Token.save w.setup.storage token))
      Step.print (·.info "Token stored")
      if w.setup.config.apiToken.isSome then
        Step.print
          (·.warning "AUDITOR_API_TOKEN is set and takes precedence over the stored token")
  | .clear => do
      Step.store (← Step.ofExcept .token (Token.clear (← get).setup.storage))
      Step.print (·.info "Stored token removed")
  | .status => do
      let setup := (← get).setup
      match ← Step.ofExcept .token (Token.effective setup.config.apiToken setup.storage) with
      | some (token, .environment) =>
          Step.print (·.info ("Using token " ++ Token.mask token ++ " from AUDITOR_API_TOKEN"))
      | some (token, .stored) =>
          Step.print (·.info ("Using stored token " ++ Token.mask token))
      | none =>
          Step.print (·.failure "No token configured; requests are sent without Authorization")

namespace Command

/-- Carries out a command, after the warnings of the start. -/
def steps (command : Command) : Step Unit := do
  let warnings := (← get).setup.warnings
  Step.print fun o => warnings.foldl Output.warning o
  match command with
  | .analyze path options => CommandLine.analyze path options
  | .snippets command => runSnippets command
  | .history json => listHistory json
  | .compare positions => CommandLine.compare positions
  | .exportEntry position format out remote => CommandLine.exportEntry position format out remote
  | .info name => CommandLine.info name
  | .auth command => runAuth command
  | .interactive _ _ => Step.fail .interactive

/-- Runs a command on what the standard input holds; the output starts anew. -/
def run (command : Command) (input : List UInt8) (w : Workspace) :
    Except Interruption Unit × Workspace :=
  (steps command).run.run { w with input := input, output := .empty }

end Command

end AuditDesk.CommandLine

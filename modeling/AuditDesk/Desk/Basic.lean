import AuditDesk.Desk.Dialog
import AuditDesk.Desk.View
import AuditDesk.Desk.Worker
import AuditDesk.Files
import AuditDesk.History
import AuditDesk.SnippetStore

/-!
The desk: what the user sees and works on, the workers that are busy, and the commands they have
queued. Everything that can change while the desk is in use is part of it.
-/
namespace AuditDesk

/-- How the latest analysis stands. -/
inductive AnalysisStatus where
  | idle
  | running
  | finished (findings : Nat)
  | failed (message : String)
deriving DecidableEq

structure Desk where
  view : View
  quit : Bool
  /-- The source that an analysis submits. -/
  code : String
  language : Language
  /-- The file or snippet that the source came from. -/
  label : Option String
  report : Option Report
  reportCursor : Nat
  analysis : AnalysisStatus
  /-- The worker whose analysis can be cancelled. -/
  cancellable : Option Nat
  snippetCursor : Nat
  history : History
  historyCursor : Nat
  /-- The history is being fetched. -/
  loading : Bool
  comparison : Option Comparison
  dialog : Dialog
  notices : Notices
  /-- Milliseconds on the clock by which notices grow old. -/
  now : Nat
  store : SnippetStore
  storage : Storage
  files : FileTree
  exportDir : String
  policy : PollPolicy
  workers : List Worker
  /-- The identifier of the next worker. -/
  nextWorker : Nat
  /-- The commands that have not been applied yet, oldest first. -/
  queue : List Command

namespace Desk

def isRunning (d : Desk) : Bool := d.analysis = .running

/-- Tells the user something. -/
def notify (d : Desk) (level : NoticeLevel) (title message : String) : Desk :=
  { d with notices := d.notices.push d.now level title message }

def dismiss (d : Desk) (id : Nat) : Desk := { d with notices := d.notices.dismiss id }

/-- A desk at the start. What went wrong before is told at once. -/
def start (policy : PollPolicy) (exportDir : String) (files : FileTree) (storage : Storage)
    (store : SnippetStore) (warnings : List String) : Desk :=
  let empty : Desk :=
    { view := .results, quit := false, code := "", language := .solidity, label := none
      report := none, reportCursor := 0, analysis := .idle, cancellable := none
      snippetCursor := 0, history := .empty, historyCursor := 0, loading := false
      comparison := none, dialog := .closed, notices := .empty, now := 0
      store := store, storage := storage, files := files, exportDir := exportDir
      policy := policy, workers := [], nextWorker := 0, queue := [] }
  warnings.foldl (fun d warning => d.notify .warning "Startup" warning) empty

section Workers

def worker? (d : Desk) (id : Nat) : Option Worker := d.workers.find? fun w => w.id = id

/-- Sends out a worker, which has not begun yet. -/
def employ (d : Desk) (errand : Errand) : Desk :=
  { d with
    workers := d.workers ++ [⟨d.nextWorker, errand, false, false⟩]
    nextWorker := d.nextWorker + 1 }

def changeWorker (d : Desk) (id : Nat) (change : Worker → Worker) : Desk :=
  { d with workers := d.workers.map fun w => if w.id = id then change w else w }

/-- A worker begins the action that its errand needs. -/
def commence (d : Desk) (id : Nat) : Desk := d.changeWorker id fun w => { w with begun := true }

/-- Something happens to a worker; what cannot happen changes nothing. -/
def happen (d : Desk) (id : Nat) (event : Service.Event) : Desk :=
  d.changeWorker id fun w => (w.after d.policy event).getD w

/-- Queues the next command of a worker; one without any left goes. -/
def send (d : Desk) (id : Nat) : Desk :=
  match (d.worker? id).map Worker.errand with
  | some (.sending (command :: rest)) =>
      { d.changeWorker id fun w => { w with errand := .sending rest } with
        queue := d.queue ++ [command] }
  | some (.sending []) => { d with workers := d.workers.filter fun w => w.id ≠ id }
  | _ => d

/-- Queues all that a worker has to say and lets it go. -/
def sendAll (d : Desk) (id : Nat) : Desk :=
  match (d.worker? id).map Worker.errand with
  | some (.sending commands) => (List.range (commands.length + 1)).foldl (fun d _ => d.send id) d
  | _ => d

end Workers

section Commands

/-- The number of findings as the user is told it. -/
def foundMessage (count : Nat) : String := toString count ++ " vulnerabilities reported"

def finishAnalysis (d : Desk) (report : Report) : Desk :=
  let count := report.findings.length
  let d :=
    { d with
      report := some report, reportCursor := 0, analysis := .finished count, cancellable := none }
  if count = 0 then d.notify .success "Analysis Complete" "No vulnerabilities reported"
  else d.notify .warning "Analysis Complete" (foundMessage count)

/-- The report of an earlier analysis stays. -/
def failAnalysis (d : Desk) (message : String) : Desk :=
  { d with analysis := .failed message, cancellable := none, loading := false }

/-- Shows a fetched list. Positions have changed, so an earlier comparison no longer belongs to it. -/
def showHistory (d : Desk) (reports : List Report) : Desk :=
  { d with
    history := .ofReports reports
    loading := false
    historyCursor := min d.historyCursor (reports.length - 1)
    comparison := none }

def apply (d : Desk) : Command → Desk
  | .analysisFinished report => d.finishAnalysis report
  | .analysisFailed message => d.failAnalysis message
  | .historyLoaded reports => d.showHistory reports
  | .historyFailed message => { d with loading := false }.notify .error "History Unavailable" message
  | .notify level title message => d.notify level title message

/-- Applies the oldest command that is queued, and answers it. -/
def deliver (d : Desk) : Option Command × Desk :=
  match d.queue with
  | [] => (none, d)
  | command :: rest => (some command, { d with queue := rest }.apply command)

/-- Applies all queued commands; answers how many there were. -/
def drain (d : Desk) : Nat × Desk :=
  (d.queue.length, d.queue.foldl apply { d with queue := [] })

end Commands

end Desk

end AuditDesk

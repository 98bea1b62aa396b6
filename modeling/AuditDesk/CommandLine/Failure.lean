import AuditDesk.Comparison
import AuditDesk.Export
import AuditDesk.Service.Failure
import AuditDesk.SnippetStore
import AuditDesk.Source

/-!
How a command fails.
-/
namespace AuditDesk.CommandLine

/-- Reports of the history cannot be compared as asked. -/
inductive CompareError where
  /-- There is no report at a position; the history has only so many. -/
  | noEntry (position size : Nat)
  | tooFew (e : TooFewReports)
deriving DecidableEq

inductive CommandError where
  | source (e : SourceError)
  | emptySource (path : String)
  | analysis (e : Service.AnalysisError)
  | history (e : Service.NetworkError)
  | compare (e : CompareError)
  | exported (e : ExportError)
  | snippets (e : StoreError)
  /-- The name or the code of a snippet is blank. -/
  | blankSnippet
  | noSnippet (index : Nat)
  | token (e : StorageError)
  | blankToken
  /-- The interactive program is not one of the commands that run here. -/
  | interactive

def CompareError.message : CompareError → String
  | .noEntry position size =>
      "No history entry at position " ++ toString position ++ " (" ++ toString size ++ " entries)"
  | .tooFew e => e.message

namespace CommandError

/-- The messages of the error and of what is behind it, outermost first. -/
def chain : CommandError → List String
  | .source e => e.chain
  | .emptySource path => [path ++ " is empty"]
  | .analysis e => "Analysis failed" :: e.chain
  | .history e => "Failed to fetch history" :: e.chain
  | .compare e => [e.message]
  | .exported e => e.chain
  | .snippets e => e.chain
  | .blankSnippet => ["Snippet name and code must not be empty"]
  | .noSnippet index => ["No snippet at index " ++ toString index]
  | .token e => e.chain
  | .blankToken => ["Token must not be empty"]
  | .interactive => ["The interactive UI is started from main"]

def message (e : CommandError) : String := ": ".intercalate e.chain

end CommandError

end AuditDesk.CommandLine

import AuditDesk.Json.Decoder
import AuditDesk.Json.Printer
import AuditDesk.Service.Message
import AuditDesk.Snippet
import AuditDesk.Time.Reading

/-!
How requests, reports and snippets are written as JSON, and how they are read back. Optional parts
that are absent are left out.
-/
namespace AuditDesk.Wire

open Json Service

section Names

def language : Decoder Language :=
  .choice [("solidity", .solidity), ("vyper", .vyper)]

def exportFormat : Decoder ExportFormat :=
  .choice [("csv", .csv), ("json", .json)]

def ofLanguage (l : Language) : Value := .string l.name

end Names

section Requests

structure RequestDraft where
  code : Option String
  language : Option Language

def requestForm : RecordForm RequestDraft Request where
  name := "AnalysisRequest"
  fields :=
    [ .of "code" [] false .string (·.code) fun code d => { d with code := some code },
      .of "language" [] false language (·.language) fun l d => { d with language := some l } ]
  empty := ⟨none, none⟩
  build d := do return ⟨← required "code" d.code, ← required "language" d.language⟩

def request : Decoder Request := requestForm.decoder

def ofRequest (r : Request) : Value :=
  .object [("code", .string r.code), ("language", ofLanguage r.language)]

end Requests

section Reports

structure FindingDraft where
  name : Option String
  description : Option String

def findingForm : RecordForm FindingDraft Finding where
  name := "Vulnerability"
  fields :=
    [ .of "name" [] false .string (·.name) fun name d => { d with name := some name },
      .of "description" [] false .string (·.description)
        fun description d => { d with description := some description } ]
  empty := ⟨none, none⟩
  build d := do return ⟨← required "name" d.name, ← required "description" d.description⟩

def finding : Decoder Finding := findingForm.decoder

def ofFinding (f : Finding) : Value :=
  .object [("name", .string f.name), ("description", .string f.description)]

/-- A 64-bit number or any text. -/
def chooseId : Value → Option ReportId
  | .number (.integer n) => if ReportId.inRange n then some (.number n) else none
  | .string s => some (.text s)
  | _ => none

def reportId : Decoder ReportId := .tried "ResultId" chooseId

def ofReportId : ReportId → Value
  | .number n => .ofInt n
  | .text s => .string s

/-- A text that is no timestamp counts as absent, and so does any value that is not a text. The value itself
has to be one that can be read. -/
def createdAt : Decoder (Option Timestamp) :=
  (Decoder.optional .any).map fun
    | some (.string s) => Timestamp.parse s
    | _ => none

structure ReportDraft where
  id : Option (Option ReportId)
  createdAt : Option (Option Timestamp)
  contractCode : Option (Option String)
  findings : Option (List Finding)

def reportForm : RecordForm ReportDraft Report where
  name := "AnalysisResult"
  fields :=
    [ .of "id" [] true (.optional reportId) (·.id) fun id d => { d with id := some id },
      .of "created_at" ["createdAt"] true createdAt (·.createdAt)
        fun t d => { d with createdAt := some t },
      .of "contract_code" [] true (.optional .string) (·.contractCode)
        fun code d => { d with contractCode := some code },
      .of "vulnerabilities" [] false (.list finding) (·.findings)
        fun findings d => { d with findings := some findings } ]
  empty := ⟨none, none, none, none⟩
  build d := do
    return ⟨d.id.join, d.createdAt.join, d.contractCode.join,
      ← required "vulnerabilities" d.findings⟩

def report : Decoder Report := reportForm.decoder

def reports : Decoder (List Report) := .list report

def optionalMember (key : String) : Option Value → List (String × Value)
  | some v => [(key, v)]
  | none => []

def ofReport (r : Report) : Value :=
  .object
    (optionalMember "id" (r.id.map ofReportId) ++
      optionalMember "created_at" (r.createdAt.map fun t => .string t.wire) ++
      optionalMember "contract_code" (r.contractCode.map .string) ++
      [("vulnerabilities", .array (r.findings.map ofFinding))])

def ofReports (rs : List Report) : Value := .array (rs.map ofReport)

end Reports

section Answers

/-- An object whose only `task_id` is a text names a task, whatever else it holds. -/
def chooseTask : Value → Option String
  | .object members =>
      match members.filter (·.1 = "task_id") with
      | [(_, .string id)] => some id
      | _ => none
  | _ => none

def chooseAnswer (v : Value) : Option AnalyzeAnswer :=
  match chooseTask v with
  | some id => some (.task id)
  | none => (report.buffered v).map .completed

def analyzeAnswer : Decoder AnalyzeAnswer := .tried "AnalyzeResponse" chooseAnswer

def ofAnalyzeAnswer : AnalyzeAnswer → Value
  | .task id => .object [("task_id", .string id)]
  | .completed r => ofReport r

structure StatusDraft where
  state : Option String
  payload : Option (Option Value)

def statusForm : RecordForm StatusDraft TaskStatus where
  name := "TaskStatusResponse"
  fields :=
    [ .of "state" [] false .string (·.state) fun state d => { d with state := some state },
      .of "result" [] true (.optional .any) (·.payload) fun v d => { d with payload := some v } ]
  empty := ⟨none, none⟩
  build d := do return ⟨← required "state" d.state, d.payload.join⟩

def taskStatus : Decoder TaskStatus := statusForm.decoder

def ofTaskStatus (s : TaskStatus) : Value :=
  .object (("state", .string s.state) :: optionalMember "result" s.payload)

end Answers

section Snippets

structure SnippetDraft where
  name : Option String
  code : Option String
  language : Option Language

def snippetForm : RecordForm SnippetDraft Snippet where
  name := "Snippet"
  fields :=
    [ .of "name" [] false .string (·.name) fun name d => { d with name := some name },
      .of "code" [] false .string (·.code) fun code d => { d with code := some code },
      .of "language" [] false language (·.language) fun l d => { d with language := some l } ]
  empty := ⟨none, none, none⟩
  build d := do
    return ⟨← required "name" d.name, ← required "code" d.code, ← required "language" d.language⟩

def snippet : Decoder Snippet := snippetForm.decoder

def snippets : Decoder (List Snippet) := .list snippet

def ofSnippet (s : Snippet) : Value :=
  .object [("name", .string s.name), ("code", .string s.code), ("language", ofLanguage s.language)]

def ofSnippets (snippets : List Snippet) : Value := .array (snippets.map ofSnippet)

end Snippets

end AuditDesk.Wire

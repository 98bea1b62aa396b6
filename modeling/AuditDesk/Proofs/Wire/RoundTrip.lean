import AuditDesk.Export
import AuditDesk.Proofs.Wire.Reports
import AuditDesk.Proofs.Wire.Snippets

/-! Whatever is sent comes back as it was: requests, answers, reports and snippets. -/
namespace AuditDesk.Wire

open Json Service

section Requests

theorem regular_ofRequest {depth : Nat} (r : Request) : (ofRequest r).Regular (depth + 1) := by
  apply Value.regular_object
  · simp
  · simp [ofLanguage, Value.regular_string]

theorem request_buffered (r : Request) : request.buffered (ofRequest r) = some r := by
  obtain ⟨code, language⟩ := r
  cases language <;> rfl

theorem request_recovers (r : Request) : request.Recovers (ofRequest r) r :=
  Decoder.recovers_of_buffered request_agrees (regular_ofRequest r) (request_buffered r)

end Requests

section Answers

theorem chooseTask_ofReport (r : Report) : chooseTask (ofReport r) = none := by
  obtain ⟨id, createdAt, code, findings⟩ := r
  cases id <;> cases createdAt <;> cases code <;> simp [ofReport, optionalMember, chooseTask]

theorem answer_recovers_task (id : String) :
    analyzeAnswer.Recovers (ofAnalyzeAnswer (.task id)) (.task id) := by
  apply Decoder.recovers_of_buffered analyzeAnswer_agrees
  · apply Value.regular_object
    · simp
    · simp [Value.regular_string]
  · rfl

/-- A report is not mistaken for a task. -/
theorem answer_recovers_completed {r : Report} (h : Sendable r) :
    analyzeAnswer.Recovers (ofAnalyzeAnswer (.completed r)) (.completed r) := by
  apply Decoder.recovers_of_buffered analyzeAnswer_agrees (regular_ofReport h.id)
  change chooseAnswer (ofReport r) = _
  simp only [chooseAnswer, chooseTask_ofReport, report_buffered h]
  rfl

end Answers

/-- Reports that can be sent, snippets, requests and answers all come back as they were, and so does a
report from the file that it was exported to. -/
theorem sent_recovers :
    (∀ r : Report, Sendable r → report.Recovers (ofReport r) r ∧
      report.ofBytes (Artifact.ofReport .json r).content = .ok r) ∧
    (∀ l : List Snippet, snippets.Recovers (ofSnippets l) l) ∧
    (∀ q : Request, request.Recovers (ofRequest q) q) ∧
    (∀ id : String, analyzeAnswer.Recovers (ofAnalyzeAnswer (.task id)) (.task id)) ∧
    ∀ r : Report, Sendable r → analyzeAnswer.Recovers (ofAnalyzeAnswer (.completed r)) (.completed r) :=
  ⟨fun _ h => ⟨report_recovers h, (report_recovers h).pretty⟩, snippets_recovers, request_recovers,
    answer_recovers_task, fun _ h => answer_recovers_completed h⟩

/-- A report made in a leap second, whose identifier is a text that could be a number. -/
def leapReport : Report where
  id := some (.text "007")
  createdAt := Timestamp.parse "2016-12-31T23:59:60.500000001Z"
  contractCode := some "a\"\\b"
  findings := [⟨"", "line\nbreak"⟩]

theorem sent_recovers_leap : leapReport.createdAt.map Timestamp.nano = some 1500000001 ∧
    Sendable leapReport ∧ report.Recovers (ofReport leapReport) leapReport ∧
    report.ofBytes (Artifact.ofReport .json leapReport).content = .ok leapReport ∧
    analyzeAnswer.Recovers (ofAnalyzeAnswer (.completed leapReport)) (.completed leapReport) := by
  have hSendable : Sendable leapReport := by
    refine ⟨nofun, ?_⟩
    rintro t ⟨⟩
    decide
  obtain ⟨hReport, -, -, -, hAnswer⟩ := sent_recovers
  obtain ⟨hRecovers, hFile⟩ := hReport leapReport hSendable
  exact ⟨by decide, hSendable, hRecovers, hFile, hAnswer leapReport hSendable⟩

end AuditDesk.Wire

import AuditDesk.Export
import AuditDesk.Proofs.Wire.Reports

/-! Which times are read back from what is written of them: alone, in a report, in an exported file and in a
list of reports. -/
namespace AuditDesk.Wire

open Json

/-- Of a list, the reports come back in order, each without its time if four digits do not show the year. -/
theorem reports_recovers_reread {rs : List Report} (h : ∀ r ∈ rs, Numbered r) :
    reports.Recovers (ofReports rs) (rs.map reread) := by
  apply Decoder.recovers_of_buffered reports_agrees
  · apply Value.regular_array
    intro v hv
    obtain ⟨r, hMem, rfl⟩ := List.mem_map.mp hv
    exact regular_ofReport (h r hMem)
  · exact Decoder.list_buffered_map ofReport reread fun r hMem => report_buffered_reread (h r hMem)

/-- Whatever text a time was read from, it is read again from its written form, as the same time, exactly
when four digits show its year. A time of another year is lost to reports, exported files and lists of
reports, which come back as they were in everything else. -/
theorem written_times_reread (text : String) {rs : List Report} (h : ∀ r ∈ rs, Numbered r) :
    ((Timestamp.parse text).bind fun t => Timestamp.parse t.wire) =
      (Timestamp.parse text).filter Timestamp.fourDigits ∧
    (∀ r ∈ rs, report.Recovers (ofReport r) (reread r) ∧
      report.ofBytes (Artifact.ofReport .json r).content = .ok (reread r)) ∧
    reports.Recovers (ofReports rs) (rs.map reread) := by
  refine ⟨bind_written (Timestamp.parse text), fun r hMem => ?_, reports_recovers_reread h⟩
  have hReport := report_recovers_reread (h r hMem)
  exact ⟨hReport, hReport.pretty⟩

/-- A report made in the last minute of the last year of four digits, an hour behind. -/
def lateReport : Report where
  id := some (.number 7)
  createdAt := Timestamp.parse "9999-12-31T23:59:59-01:00"
  contractCode := none
  findings := [⟨"", ""⟩]

theorem written_times_reread_late : (∀ r ∈ [lateReport], Numbered r) ∧
    report.Recovers (ofReport lateReport) { lateReport with createdAt := none } ∧
    reports.Recovers (ofReports [lateReport]) [{ lateReport with createdAt := none }] := by
  have hNumbered : ∀ r ∈ [lateReport], Numbered r := by
    refine List.forall_mem_singleton.mpr ?_
    rintro n ⟨⟩
    decide
  have hLost : reread lateReport = { lateReport with createdAt := none } := by decide
  obtain ⟨_, hReports, hList⟩ := written_times_reread "9999-12-31T23:59:59-01:00" hNumbered
  rw [List.map_singleton, hLost] at hList
  exact ⟨hNumbered, hLost ▸ (hReports lateReport (List.mem_singleton_self _)).1, hList⟩

/-- The hour moves the time into a year of five digits, whose written form is not read. -/
theorem time_lost_carried :
    (Timestamp.parse "9999-12-31T23:59:59-01:00").map Timestamp.wire = some "+10000-01-01T00:59:59Z" ∧
    Timestamp.parse "+10000-01-01T00:59:59Z" = none := by
  constructor <;> decide

end AuditDesk.Wire

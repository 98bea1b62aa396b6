import AuditDesk.Proofs.Json.Recovery
import AuditDesk.Proofs.Time.Reread
import AuditDesk.Proofs.Wire.Decoding

/-! A report is read back from what was made of it, as a text or as a value. Only a time whose year four
digits cannot show is lost on the way. -/
namespace AuditDesk.Wire

open Json

/-- A report that can be sent: its number fits into 64 bits, and four digits show the year. -/
structure Sendable (r : Report) : Prop where
  id : ∀ n, r.id = some (.number n) → ReportId.inRange n = true
  year : ∀ t, r.createdAt = some t → 0 ≤ t.date.year ∧ t.date.year ≤ 9999

/-- The number of a report, if that is what identifies it, fits into 64 bits. -/
def Numbered (r : Report) : Prop := ∀ n, r.id = some (.number n) → ReportId.inRange n = true

/-- What is read of a report that was written: the time is gone if four digits do not show its year. -/
def reread (r : Report) : Report := { r with createdAt := r.createdAt.filter Timestamp.fourDigits }

theorem Sendable.reread_eq {r : Report} (h : Sendable r) : reread r = r := by
  obtain ⟨id, createdAt, code, findings⟩ := r
  cases createdAt with
  | none => rfl
  | some t =>
      have hShown : (some t).filter Timestamp.fourDigits = some t :=
        if_pos (Timestamp.fourDigits_iff.mpr (h.year t rfl))
      rw [reread, hShown]

section Regular

variable {depth : Nat}

theorem regular_ofFinding (f : Finding) : (ofFinding f).Regular (depth + 1) := by
  apply Value.regular_object
  · simp
  · simp [Value.regular_string]

theorem regular_ofReportId {id : ReportId} (h : ∀ n, id = .number n → ReportId.inRange n = true) :
    (ofReportId id).Regular depth := by
  cases id with
  | text s => exact Value.regular_string s
  | number n =>
      have hRange : -9223372036854775808 ≤ n ∧ n ≤ 9223372036854775807 := by
        simpa [ReportId.inRange] using h n rfl
      exact Value.regular_integer hRange.1 (by omega)

theorem mem_optionalMember {key : String} {v? : Option Value} {m : String × Value}
    (h : m ∈ optionalMember key v?) : v? = some m.2 := by
  cases v? with
  | none => cases h
  | some v =>
      obtain rfl := List.mem_singleton.mp h
      rfl

theorem regular_ofReport {r : Report} (h : Numbered r) : (ofReport r).Regular (depth + 3) := by
  apply Value.regular_object
  · cases r.id <;> cases r.createdAt <;> cases r.contractCode <;> simp [optionalMember]
  · intro m hm
    simp only [List.mem_append, List.mem_singleton] at hm
    rcases hm with ((hm | hm) | hm) | rfl
    · obtain ⟨id, hId, hValue⟩ := Option.map_eq_some_iff.mp (mem_optionalMember hm)
      exact hValue ▸ regular_ofReportId fun n hn => h n (hn ▸ hId)
    · obtain ⟨t, _, hValue⟩ := Option.map_eq_some_iff.mp (mem_optionalMember hm)
      exact hValue ▸ Value.regular_string _
    · obtain ⟨code, _, hValue⟩ := Option.map_eq_some_iff.mp (mem_optionalMember hm)
      exact hValue ▸ Value.regular_string _
    · apply Value.regular_array
      intro v hv
      obtain ⟨f, _, rfl⟩ := List.mem_map.mp hv
      exact regular_ofFinding f

end Regular

section Members

/-- A member for a field that is still open fills it. -/
theorem foldlM_member {σ α β : Type} {form : RecordForm σ α} {key name : String} {aliases : List String}
    {mayEnd : Bool} {d : Decoder β} {get : σ → Option β} {put : β → σ → σ} {s : σ} {v : Value} {b : β}
    (hField : form.field? key = some (.of name aliases mayEnd d get put)) (hOpen : (get s).isSome = false)
    (hRead : d.buffered v = some b) : [(key, v)].foldlM form.bufferMember s = some (put b s) := by
  have hFilled : (d.map put).buffered v = some (put b) := congrArg (Option.map put) hRead
  rw [List.foldlM_cons]
  simp only [RecordForm.bufferMember, hField, Field.of, hOpen, hFilled]
  rfl

theorem foldlM_append_of {σ β : Type} {f : σ → β → Option σ} {front back : List β} {s middle last : σ}
    (hFront : front.foldlM f s = some middle) (hBack : back.foldlM f middle = some last) :
    (front ++ back).foldlM f s = some last := by
  rw [List.foldlM_append, hFront]
  exact hBack

variable (id? : Option (Option ReportId)) (time? : Option (Option Timestamp)) (code? : Option (Option String))

theorem foldlM_id {id : Option ReportId} (h : ∀ n, id = some (.number n) → ReportId.inRange n = true) :
    (optionalMember "id" (id.map ofReportId)).foldlM reportForm.bufferMember ⟨none, time?, code?, none⟩ =
      some ⟨id.map some, time?, code?, none⟩ := by
  cases id with
  | none => rfl
  | some id =>
      have hChosen : chooseId (ofReportId id) = some id := by
        cases id with
        | text s => rfl
        | number n => simp [ofReportId, Value.ofInt, chooseId, h n rfl]
      have hRead : (Decoder.optional reportId).buffered (ofReportId id) = some (some id) := by
        cases id <;> exact congrArg (Option.map some) hChosen
      exact (foldlM_member rfl rfl hRead).trans rfl

theorem foldlM_createdAt (createdAt : Option Timestamp) :
    (optionalMember "created_at" (createdAt.map fun t => .string t.wire)).foldlM reportForm.bufferMember
        ⟨id?, none, code?, none⟩ =
      some ⟨id?, createdAt.map fun t => Timestamp.parse t.wire, code?, none⟩ := by
  cases createdAt with
  | none => rfl
  | some t =>
      have hRead : Wire.createdAt.buffered (.string t.wire) = some (Timestamp.parse t.wire) := rfl
      exact (foldlM_member rfl rfl hRead).trans rfl

theorem foldlM_contractCode (code : Option String) :
    (optionalMember "contract_code" (code.map .string)).foldlM reportForm.bufferMember
        ⟨id?, time?, none, none⟩ = some ⟨id?, time?, code.map some, none⟩ := by
  cases code <;> rfl

theorem foldlM_findings (findings : List Finding) :
    [("vulnerabilities", .array (findings.map ofFinding))].foldlM reportForm.bufferMember
        ⟨id?, time?, code?, none⟩ = some ⟨id?, time?, code?, some findings⟩ := by
  have hRead : (Decoder.list finding).buffered (.array (findings.map ofFinding)) = some findings :=
    Decoder.list_buffered ofFinding fun _ _ => rfl
  exact (foldlM_member rfl rfl hRead).trans rfl

end Members

theorem build_written (id : Option ReportId) (time? : Option (Option Timestamp)) (code : Option String)
    (findings : List Finding) :
    (reportForm.build ⟨id.map some, time?, code.map some, some findings⟩).toOption =
      some ⟨id, time?.join, code, findings⟩ := by
  cases id <;> cases code <;> rfl

theorem bind_written (createdAt : Option Timestamp) :
    (createdAt.bind fun t => Timestamp.parse t.wire) = createdAt.filter Timestamp.fourDigits := by
  cases createdAt with
  | none => rfl
  | some t => simp [Timestamp.parse_wire_eq, Option.filter_some]

theorem report_buffered_reread {r : Report} (h : Numbered r) :
    report.buffered (ofReport r) = some (reread r) := by
  obtain ⟨id, createdAt, code, findings⟩ := r
  have hTime := foldlM_createdAt (id.map some) none createdAt
  have hJoined : (createdAt.map fun t => Timestamp.parse t.wire).join =
      createdAt.filter Timestamp.fourDigits := by
    rw [← bind_written]
    cases createdAt <;> simp
  generalize (createdAt.map fun t => Timestamp.parse t.wire) = time? at hTime hJoined
  have hId := foldlM_id none none h
  have hCode := foldlM_contractCode (id.map some) time? code
  have hFindings := foldlM_findings (id.map some) time? (code.map some) findings
  have hFilled := foldlM_append_of (foldlM_append_of (foldlM_append_of hId hTime) hCode) hFindings
  change (List.foldlM _ _ _ >>= fun s => (reportForm.build s).toOption) = _
  refine (congrArg (· >>= fun s => (reportForm.build s).toOption) hFilled).trans ?_
  refine (build_written id time? code findings).trans ?_
  rw [reread, hJoined]

theorem report_buffered {r : Report} (h : Sendable r) : report.buffered (ofReport r) = some r :=
  (report_buffered_reread h.id).trans (congrArg some h.reread_eq)

/-- A report comes back as it was, apart from a time that four digits cannot show the year of. -/
theorem report_recovers_reread {r : Report} (h : Numbered r) : report.Recovers (ofReport r) (reread r) :=
  Decoder.recovers_of_buffered report_agrees (regular_ofReport h) (report_buffered_reread h)

/-- A report that can be sent comes back as it was. -/
theorem report_recovers {r : Report} (h : Sendable r) : report.Recovers (ofReport r) r :=
  Decoder.recovers_of_buffered report_agrees (regular_ofReport h.id) (report_buffered h)

/-- What was made of a report reads as that report, before and after its members are put in order. -/
theorem report_ofValue {r : Report} (h : Sendable r) :
    report.ofValue (ofReport r) = .ok r ∧ report.ofValue (ofReport r).settle = .ok r := by
  have hRead := (report_recovers h).value
  rw [Decoder.ofValue_settle]
  exact ⟨hRead, hRead⟩

end AuditDesk.Wire

import AuditDesk.Proofs.Json.Locality
import AuditDesk.Proofs.Wire.Decoding

/-! What the time of one report can do to a list of reports. Any value may stand there that can be read at
all: a text counts as the time that it gives, anything else as no time. A value that cannot be read costs the
whole list. -/
namespace AuditDesk.Wire

open Json Service Reader Spelling

/-- A list of reports as a text. One of them is an object with a member for its time, whose value is left
open. There are ten places for white space, counted from the front. -/
structure Spot where
  gap : Fin 10 → Blanks
  earlier : List Item
  later : List Item
  front : List Member
  back : List Member
  key : List Piece
  items : ∀ i ∈ earlier ++ later, WellFormed i.body
  members : ∀ m ∈ front ++ back, WellFormed m.item.body
  named : ∃ cs, meaning key = some cs ∧ (String.ofList cs = "created_at" ∨ String.ofList cs = "createdAt")

namespace Spot

variable (spot : Spot) (new : List Char)

def member : Member := ⟨spot.gap 2, spot.key, spot.gap 3, ⟨spot.gap 4, new, spot.gap 5⟩⟩

def entry : Item :=
  ⟨spot.gap 1, objectChars (spot.front ++ spot.member new :: spot.back) (spot.gap 6), spot.gap 7⟩

/-- The text with this value. -/
def text : String := String.ofList ((spot.gap 0).chars ++
  (arrayChars (spot.earlier ++ spot.entry new :: spot.later) (spot.gap 8) ++ (spot.gap 9).chars))

end Spot

section Locality

theorem local_createdAt : createdAt.Local := Decoder.local_any.optional.map _

theorem local_findingForm : ∀ f ∈ findingForm.fields, f.filled.Local := by
  intro f hf
  simp only [findingForm, List.mem_cons, List.not_mem_nil, or_false] at hf
  rcases hf with rfl | rfl
  · exact Decoder.local_string.map _
  · exact Decoder.local_string.map _

theorem local_reportForm : ∀ f ∈ reportForm.fields, f.filled.Local := by
  intro f hf
  simp only [reportForm, List.mem_cons, List.not_mem_nil, or_false] at hf
  rcases hf with rfl | rfl | rfl | rfl
  · exact (Decoder.local_tried _ _).optional.map _
  · exact local_createdAt.map _
  · exact Decoder.local_string.optional.map _
  · exact (RecordForm.local_decoder local_findingForm).list.map _

theorem local_report : report.Local := RecordForm.local_decoder local_reportForm

end Locality

section Times

/-- What is made of the time, if the value that stands for it can be read at all. -/
theorem made_createdAt {new : List Char} (hNew : WellFormed new) (depth : Nat) :
    (createdAt.text depth).made new = ((value depth).made new).bind createdAt.buffered := by
  cases hMade : (value depth).made new with
  | some v => exact createdAt_agrees.streams.made_eq hMade
  | none =>
      have hNull : new ≠ "null".toList := by
        rintro rfl
        rw [(takes_null depth).made_eq] at hMade
        cases hMade
      have hAny : (Decoder.any.text depth).made new = none :=
        (made_map (value depth) new Value.settle).trans (congrArg (Option.map Value.settle) hMade)
      have hOptional := (Decoder.local_any.takes_optional hNew hNull depth).made_eq
      rw [hAny, Option.map_none] at hOptional
      exact (made_map _ new _).trans (congrArg _ hOptional)

/-- A text counts as the time that it gives. -/
theorem made_createdAt_quotation {pieces : List Piece} {cs : List Char} (h : meaning pieces = some cs)
    (depth : Nat) :
    (createdAt.text depth).made (quotation pieces) = some (Timestamp.parse (String.ofList cs)) := by
  have hValue : (value depth).made (quotation pieces) = some (.string (String.ofList cs)) := by
    rw [(takes_string depth pieces).made_eq, h]
    rfl
  exact createdAt_agrees.streams.made_eq hValue

/-- What is no text counts as no time. -/
theorem made_createdAt_other {new : List Char} {depth : Nat} (hNew : WellFormed new)
    (hReadable : Readable depth new) (hOther : new.head? ≠ some '"') :
    (createdAt.text depth).made new = some none := by
  obtain ⟨v, hMade⟩ := Option.isSome_iff_exists.mp (made_of_readable hReadable)
  have hValue : ∀ s, v ≠ .string s := by
    rintro s rfl
    obtain ⟨pieces, rfl, _⟩ := (made_eq_string_iff hNew depth s).mp hMade
    exact hOther rfl
  rw [createdAt_agrees.streams.made_eq hMade]
  cases v with
  | string s => exact absurd rfl (hValue s)
  | _ => rfl

end Times

section Drafts

/-- The draft of a report with this time. -/
def ReportDraft.timed (t : Option Timestamp) (d : ReportDraft) : ReportDraft := { d with createdAt := some t }

/-- Once there is a time, it makes no difference to any other member which one it is. -/
theorem takeMember_timed (t u : Option Timestamp) (depth : Nat) (key : String) (m : Member) (d : ReportDraft) :
    reportForm.takeMember depth key m (d.timed t) =
      (reportForm.takeMember depth key m (d.timed u)).map (·.timed t) := by
  cases hField : reportForm.field? key with
  | none =>
      simp only [RecordForm.takeMember, hField]
      rfl
  | some f =>
      have hMem : f ∈ reportForm.fields := List.mem_of_find?_eq_some hField
      simp only [reportForm, List.mem_cons, List.not_mem_nil, or_false] at hMem
      rcases hMem with rfl | rfl | rfl | rfl
      · exact RecordForm.takeMember_frame hField depth m rfl fun _ => rfl
      · rw [RecordForm.takeMember_of hField, RecordForm.takeMember_of hField]
        rfl
      · exact RecordForm.takeMember_frame hField depth m rfl fun _ => rfl
      · exact RecordForm.takeMember_frame hField depth m rfl fun _ => rfl

/-- What a member adds to a report that stands in a list. -/
def extend : ReportDraft → Member → Option ReportDraft := underKey (reportForm.takeMember (nestingLimit - 2))

theorem extend_timed (t u : Option Timestamp) (d : ReportDraft) (m : Member) :
    extend (d.timed t) m = (extend (d.timed u) m).map (·.timed t) := by
  rw [extend, underKey, underKey, Option.map_bind]
  exact Option.bind_congr fun key _ => takeMember_timed t u _ _ m d

theorem foldlM_timed (t u : Option Timestamp) (members : List Member) (d : ReportDraft) :
    members.foldlM extend (d.timed t) = (members.foldlM extend (d.timed u)).map (·.timed t) := by
  induction members generalizing d with
  | nil => rfl
  | cons m members ih =>
      rw [List.foldlM_cons, List.foldlM_cons, extend_timed t u d m]
      cases hTaken : extend (d.timed u) m with
      | none => rfl
      | some e =>
          -- Whatever else it takes, the draft keeps the time that it has.
          have hKept : e.timed u = e := by
            have hSame := extend_timed u u d m
            rw [hTaken] at hSame
            exact (Option.some.inj hSame).symm
          have hRest := ih e
          rw [hKept] at hRest
          exact hRest

theorem build_timed {d : ReportDraft} {r : Report} (h : (reportForm.build d).toOption = some r)
    (t : Option Timestamp) : (reportForm.build (d.timed t)).toOption = some { r with createdAt := t } := by
  obtain ⟨id, time?, code, findings?⟩ := d
  cases findings? with
  | none => cases h
  | some findings =>
      cases h
      rfl

end Drafts

namespace Spot

variable (spot : Spot) {old new : List Char}

theorem members_wellFormed (hNew : WellFormed new) :
    ∀ m ∈ spot.front ++ spot.member new :: spot.back, WellFormed m.item.body := by
  intro m hm
  rcases List.mem_append.mp hm with hm | hm
  · exact spot.members m (List.mem_append_left _ hm)
  · rcases List.mem_cons.mp hm with rfl | hm
    · exact hNew
    · exact spot.members m (List.mem_append_right _ hm)

theorem items_wellFormed (hNew : WellFormed new) :
    ∀ i ∈ spot.earlier ++ spot.entry new :: spot.later, WellFormed i.body := by
  intro i hi
  rcases List.mem_append.mp hi with hi | hi
  · exact spot.items i (List.mem_append_left _ hi)
  · rcases List.mem_cons.mp hi with rfl | hi
    · exact wellFormed_object (spot.members_wellFormed hNew) _
    · exact spot.items i (List.mem_append_right _ hi)

/-- The list is decoded report by report. -/
theorem toOption_text (hNew : WellFormed new) : (reports.ofText (spot.text new)).toOption =
    (spot.earlier ++ spot.entry new :: spot.later).mapM fun i => (report.text (nestingLimit - 1)).made i.body := by
  have hList := local_report.takes_list (spot.items_wellFormed hNew) (spot.gap 8) (nestingLimit - 1)
  rw [← hList.whole (spot.gap 0) (spot.gap 9), ← Text.bytes_ofList]
  rfl

theorem extend_member (d : ReportDraft) : extend d (spot.member new) =
    if d.createdAt.isSome then none
    else ((createdAt.text (nestingLimit - 2)).made new).map fun t => d.timed t := by
  obtain ⟨cs, hMeaning, hName⟩ := spot.named
  have hField : reportForm.field? (String.ofList cs) = some (.of "created_at" ["createdAt"] true createdAt
      (·.createdAt) fun t d => { d with createdAt := some t }) := by
    rcases hName with hName | hName
    · rw [hName]
      rfl
    · rw [hName]
      rfl
  have hKey : meaning (spot.member new).key = some cs := hMeaning
  rw [extend, underKey, hKey, Option.bind_some, RecordForm.takeMember_of hField]
  rfl

/-- Whatever time is read there is the time of the report, which is otherwise the same. -/
theorem made_entry (hOld : WellFormed old) {r : Report}
    (hRead : (report.text (nestingLimit - 1)).made (spot.entry old).body = some r) (hNew : WellFormed new) :
    (report.text (nestingLimit - 1)).made (spot.entry new).body =
      ((createdAt.text (nestingLimit - 2)).made new).map fun t => { r with createdAt := t } := by
  have hMade : ∀ {cs : List Char}, WellFormed cs → (report.text (nestingLimit - 1)).made (spot.entry cs).body =
      (spot.front.foldlM extend reportForm.empty).bind fun d => (extend d (spot.member cs)).bind fun e =>
        (spot.back.foldlM extend e).bind fun filled => (reportForm.build filled).toOption := by
    intro cs hSpelled
    have hObject := (RecordForm.takes_object local_reportForm (spot.members_wellFormed hSpelled) (spot.gap 6)
      (nestingLimit - 2)).made_eq
    refine hObject.trans ?_
    change Option.bind (List.foldlM extend _ _) _ = _
    rw [List.foldlM_append]
    cases spot.front.foldlM extend reportForm.empty with
    | none => rfl
    | some d =>
        change Option.bind (List.foldlM extend d _) _ = _
        rw [List.foldlM_cons]
        exact Option.bind_assoc _ _ _
  rw [hMade hOld] at hRead
  obtain ⟨d, hFront, hRead⟩ := Option.bind_eq_some_iff.mp hRead
  obtain ⟨e, hMember, hRead⟩ := Option.bind_eq_some_iff.mp hRead
  obtain ⟨filled, hBack, hBuilt⟩ := Option.bind_eq_some_iff.mp hRead
  rw [extend_member] at hMember
  split at hMember
  · cases hMember
  rename_i hOpen
  obtain ⟨u, _, rfl⟩ := Option.map_eq_some_iff.mp hMember
  rw [hMade hNew, hFront, Option.bind_some, extend_member, if_neg hOpen]
  cases (createdAt.text (nestingLimit - 2)).made new with
  | none => rfl
  | some t =>
      rw [Option.map_some, Option.bind_some, foldlM_timed t u, hBack, Option.map_some, Option.bind_some]
      exact build_timed hBuilt t

end Spot

/-- Where a list of reports is read from a text, another value may be put in the place of a time. If that can
be read, the list stays as it was apart from this one time, which is what a text says and is absent for
everything else. If it cannot be read, nothing of the list is: a number out of range, half of a surrogate pair
or too many containers cost all the reports. -/
theorem time_replaced (spot : Spot) {old : List Char} (hOld : WellFormed old) {rs : List Report}
    (hRead : reports.ofText (spot.text old) = .ok rs) :
    ∃ es r ls, rs = es ++ r :: ls ∧ es.length = spot.earlier.length ∧ ∀ new, WellFormed new →
      (Readable (nestingLimit - 2) new → ∃ t,
        reports.ofText (spot.text new) = .ok (es ++ { r with createdAt := t } :: ls) ∧
        (∀ pieces cs, new = quotation pieces → meaning pieces = some cs →
          t = Timestamp.parse (String.ofList cs)) ∧
        (new.head? ≠ some '"' → t = none)) ∧
      (¬Readable (nestingLimit - 2) new → ∃ failure, reports.ofText (spot.text new) = .error failure) := by
  have hText : ∀ {cs : List Char}, WellFormed cs → (reports.ofText (spot.text cs)).toOption =
      (spot.earlier.mapM fun i => (report.text (nestingLimit - 1)).made i.body).bind fun es =>
        ((report.text (nestingLimit - 1)).made (spot.entry cs).body).bind fun r =>
          (spot.later.mapM fun i => (report.text (nestingLimit - 1)).made i.body).map fun ls => es ++ r :: ls := by
    intro cs hSpelled
    rw [spot.toOption_text hSpelled, List.mapM_append]
    refine Option.bind_congr fun es _ => ?_
    rw [List.mapM_cons]
    cases (report.text (nestingLimit - 1)).made (spot.entry cs).body with
    | none => rfl
    | some r => cases spot.later.mapM fun i => (report.text (nestingLimit - 1)).made i.body <;> rfl
  rw [← toOption_eq_some, hText hOld] at hRead
  obtain ⟨es, hEarlier, hRead⟩ := Option.bind_eq_some_iff.mp hRead
  obtain ⟨r, hEntry, hRead⟩ := Option.bind_eq_some_iff.mp hRead
  obtain ⟨ls, hLater, rfl⟩ := Option.map_eq_some_iff.mp hRead
  have hReplaced : ∀ new, WellFormed new → (reports.ofText (spot.text new)).toOption =
      ((createdAt.text (nestingLimit - 2)).made new).map fun t => es ++ { r with createdAt := t } :: ls := by
    intro new hNew
    rw [hText hNew, hEarlier, Option.bind_some, spot.made_entry hOld hEntry hNew, hLater]
    cases (createdAt.text (nestingLimit - 2)).made new <;> rfl
  refine ⟨es, r, ls, rfl, (forall₂_of_mapM hEarlier).length_eq.symm, fun new hNew => ⟨fun hReadable => ?_, fun hUnreadable => ?_⟩⟩
  · obtain ⟨v, hValue⟩ := Option.isSome_iff_exists.mp (made_of_readable hReadable)
    obtain ⟨t, hTime⟩ : ∃ t, createdAt.buffered v = some t := by cases v <;> exact ⟨_, rfl⟩
    have hMade := (made_createdAt hNew (nestingLimit - 2)).trans ((congrArg (Option.bind · _) hValue).trans hTime)
    refine ⟨t, ?_, fun pieces cs hText hMeaning => ?_, fun hOther => ?_⟩
    · rw [← toOption_eq_some, hReplaced new hNew, hMade]
      rfl
    · rw [hText, made_createdAt_quotation hMeaning] at hMade
      exact (Option.some.inj hMade).symm
    · rw [made_createdAt_other hNew hReadable hOther] at hMade
      exact (Option.some.inj hMade).symm
  · have hNone : (value (nestingLimit - 2)).made new = none := by
      rw [← Option.not_isSome_iff_eq_none, made_iff_readable hNew]
      exact hUnreadable
    have hList := hReplaced new hNew
    rw [made_createdAt hNew, hNone] at hList
    cases hOutcome : reports.ofText (spot.text new) with
    | ok l =>
        rw [hOutcome] at hList
        cases hList
    | error failure => exact ⟨failure, rfl⟩

/-- A report with a time and no findings, alone in its list. -/
def bareSpot : Spot where
  gap _ := .none
  earlier := []
  later := []
  front := []
  back := [⟨.none, plainly "vulnerabilities".toList, .none, ⟨.none, "[]".toList, .none⟩⟩]
  key := plainly "created_at".toList
  items := List.forall_mem_nil _
  members :=
    have hEmpty : Spelled .any 1 (arrayChars [] .none) := .array (List.forall_mem_nil _)
    List.forall_mem_singleton.mpr ⟨1, hEmpty⟩
  named := ⟨"created_at".toList, by decide +kernel, .inl rfl⟩

def seventeen : NumberText where
  negative := false
  whole := ⟨"17".toList, List.all_eq_true.mp (by decide), by decide⟩
  fraction := none
  exponent := none
  unpadded := by decide

/-- The first half of a pair, without the other one. -/
def halfPair : List Piece := [.unicode ⟨'d', by decide⟩ ⟨'8', by decide⟩ ⟨'0', by decide⟩ ⟨'0', by decide⟩]

theorem time_replaced_bare : WellFormed seventeen.chars ∧
    reports.ofText (bareSpot.text seventeen.chars) = .ok [⟨none, none, none, []⟩] ∧
    ∃ failure, reports.ofText (bareSpot.text (quotation halfPair)) = .error failure := by
  have hOld : WellFormed seventeen.chars := ⟨0, .number trivial⟩
  have hText : bareSpot.text seventeen.chars = "[\x7b\"created_at\":17,\"vulnerabilities\":[]\x7d]" := rfl
  have hRead : reports.ofText (bareSpot.text seventeen.chars) = .ok [⟨none, none, none, []⟩] := by
    rw [hText]
    rfl
  have hNew : WellFormed (quotation halfPair) := ⟨0, .string trivial⟩
  have hHalf : ¬Readable (nestingLimit - 2) (quotation halfPair) := by
    rw [← made_iff_readable hNew, (takes_string _ halfPair).made_eq]
    decide
  obtain ⟨_, _, _, _, _, hReplaced⟩ := time_replaced bareSpot hOld hRead
  exact ⟨hOld, hRead, (hReplaced _ hNew).2 hHalf⟩

/-- Half of a surrogate pair in the place of a number, which was no time either, and the list is gone. -/
theorem list_lost_half_pair :
    reports.ofText "[\x7b\"created_at\":17,\"vulnerabilities\":[]\x7d]" = .ok [⟨none, none, none, []⟩] ∧
    ∃ failure, reports.ofText "[\x7b\"created_at\":\"\\ud800\",\"vulnerabilities\":[]\x7d]" = .error failure :=
  ⟨rfl, _, rfl⟩

end AuditDesk.Wire

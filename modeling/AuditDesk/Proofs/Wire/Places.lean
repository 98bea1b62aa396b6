import AuditDesk.Proofs.Json.Recovery
import AuditDesk.Proofs.Wire.Decoding
import AuditDesk.Service.Submission

/-! A report reaches the desk in three places: as the answer to a submission, as an item of the history, and
as the payload of a finished task. A value is a report in each of them or in none. -/
namespace AuditDesk.Wire

open Json Service

/-- An object that gives a text as its `task_id`. -/
def NamesTask : Value → Prop
  | .object members => ∃ id, ("task_id", .string id) ∈ members
  | _ => False

theorem chooseTask_eq_none {v : Value} (h : ¬NamesTask v) : chooseTask v = none := by
  cases v with
  | object members =>
      simp only [chooseTask]
      split
      · rename_i key id hOnly
        have hMem : (key, Value.string id) ∈ members.filter (·.1 = "task_id") := by
          rw [hOnly]
          exact List.mem_singleton_self _
        obtain ⟨hMem, hKey⟩ := List.mem_filter.mp hMem
        obtain rfl : key = "task_id" := by simpa using hKey
        exact absurd ⟨id, hMem⟩ h
      · rfl
  | _ => rfl

theorem answer_buffered {v : Value} (h : ¬NamesTask v) :
    analyzeAnswer.buffered v = (report.buffered v).map .completed := by
  change chooseAnswer v = _
  simp only [chooseAnswer, chooseTask_eq_none h]

/-- A finished task whose result was given as `v`, which is settled in its status. -/
theorem toOption_finished (task state : String) (v : Value) :
    (Stage.finished task ⟨state, ((Decoder.optional .any).buffered v).join⟩).toOption =
      (report.ofValue v).toOption := by
  have hSome : ∀ w : Value, (Stage.finished task ⟨state, some w.settle⟩).toOption = (report.ofValue w).toOption := by
    intro w
    have hFinished : Stage.finished task ⟨state, some w.settle⟩ =
        (report.ofValue w.settle).mapError fun failure => .malformedReport task failure.message := rfl
    rw [hFinished, Decoder.ofValue_settle]
    cases report.ofValue w <;> rfl
  cases v with
  | null => rfl
  | _ => exact hSome _

section Status

theorem foldlM_unknown {σ α : Type} {form : RecordForm σ α} {members : List (String × Value)}
    (h : ∀ m ∈ members, form.field? m.1 = none) (s : σ) : members.foldlM form.bufferMember s = some s := by
  induction members with
  | nil => rfl
  | cons m members ih =>
      rw [List.foldlM_cons, RecordForm.bufferMember, h m List.mem_cons_self]
      exact ih fun n hn => h n (List.mem_cons_of_mem _ hn)

theorem statusForm_field?_eq_none {key : String} (hState : key ≠ "state") (hResult : key ≠ "result") :
    statusForm.field? key = none := by
  simp [RecordForm.field?, statusForm, Field.named, Field.of, hState.symm, hResult.symm]

theorem perm_of_two_mem {α : Type} {a b : α} {as : List α} (hFirst : a ∈ as) (hSecond : b ∈ as) (hNe : b ≠ a) :
    ∃ rest, as.Perm (a :: b :: rest) := by
  obtain ⟨front, back, rfl⟩ := List.append_of_mem hFirst
  have hRest : b ∈ front ++ back := by
    simpa [hNe] using hSecond
  obtain ⟨before, after, hSplit⟩ := List.append_of_mem hRest
  refine ⟨before ++ after, List.perm_middle.trans (.cons a ?_)⟩
  rw [hSplit]
  exact List.perm_middle

/-- An object with a state and a result is a status, whatever else it holds. -/
theorem taskStatus_buffered {members : List (String × Value)} {state : String} {v : Value}
    (hDistinct : (Value.object members).Distinct) (hState : ("state", .string state) ∈ members)
    (hResult : ("result", v) ∈ members) :
    taskStatus.buffered (.object members) = some ⟨state, ((Decoder.optional .any).buffered v).join⟩ := by
  cases hDistinct with
  | object hKeys hMembers =>
      obtain ⟨rest, hPerm⟩ := perm_of_two_mem hState hResult (by simp)
      have hNodup := (hPerm.map Prod.fst).nodup_iff.mp hKeys
      have hRest : ∀ m ∈ rest, statusForm.field? m.1 = none := by
        intro m hm
        have hKey : m.1 ∈ rest.map Prod.fst := List.mem_map_of_mem hm
        simp only [List.map_cons, List.nodup_cons, List.mem_cons, not_or] at hNodup
        apply statusForm_field?_eq_none
        · exact fun h => hNodup.1.2 (h ▸ hKey)
        · exact fun h => hNodup.2.1 (h ▸ hKey)
      have hFilled : members.foldlM statusForm.bufferMember statusForm.empty =
          some ⟨some state, (Decoder.optional .any).buffered v⟩ := by
        rw [statusForm_agrees.foldlM_perm hMembers hPerm]
        cases v <;> exact foldlM_unknown hRest _
      change statusForm.buffer (.object members) = _
      rw [RecordForm.buffer, hFilled]
      rfl

end Status

section Texts

variable {text : String} {v : Value}

/-- The answer to a submission is a report when the text holds one. -/
theorem answer_ofText (hText : Value.ofText text = .ok v) (hDistinct : v.Distinct) (hTask : ¬NamesTask v) :
    (analyzeAnswer.ofText text).toOption = (report.ofValue v).toOption.map .completed := by
  rw [analyzeAnswer_agrees.streams.ofText hText, answer_buffered hTask, report_agrees.ofValue hDistinct]

/-- One container further in, as the items of a history are read. -/
theorem item_ofText (hText : Value.ofText text = .ok v) (hDistinct : v.Distinct)
    (hWithin : v.Within (Reader.nestingLimit - 1)) :
    (Reader.whole (report.text (Reader.nestingLimit - 1)) (Text.bytes text)).toOption =
      (report.ofValue v).toOption := by
  rw [report_agrees.streams.whole (Reader.whole_value_within hText hWithin), report_agrees.ofValue hDistinct]

/-- A history is read item by item. -/
theorem history_ofText {items : List Value} (hText : Value.ofText text = .ok (.array items))
    (hDistinct : ∀ v ∈ items, v.Distinct) :
    (reports.ofText text).toOption = items.mapM fun v => (report.ofValue v).toOption := by
  rw [reports_agrees.streams.ofText hText]
  change items.mapM report.buffered = _
  clear hText
  induction items with
  | nil => rfl
  | cons v items ih =>
      rw [List.mapM_cons, List.mapM_cons, ih fun w hw => hDistinct w (List.mem_cons_of_mem _ hw),
        report_agrees.ofValue (hDistinct v List.mem_cons_self)]

/-- The status of a finished task carries the report that its result is. -/
theorem status_ofText {members : List (String × Value)} {state : String}
    (hText : Value.ofText text = .ok (.object members)) (hDistinct : (Value.object members).Distinct)
    (hState : ("state", .string state) ∈ members) (hResult : ("result", v) ∈ members) :
    ∃ status, taskStatus.ofText text = .ok status ∧ status.state = state ∧
      ∀ task, (Stage.finished task status).toOption = (report.ofValue v).toOption := by
  have hStatus := taskStatus_agrees.streams.ofText hText
  rw [taskStatus_buffered hDistinct hState hResult, Reader.toOption_eq_some] at hStatus
  exact ⟨_, hStatus, rfl, fun task => toOption_finished task state v⟩

end Texts

/-- A text that is neither a task nor nested too deep is the same report in all three places, or a report
in none of them: as the answer to a submission, as an item of a history, whatever the other items are, and
as the result in the status of a finished task. -/
theorem report_alike {text : String} {v : Value} (hText : Value.ofText text = .ok v) (hDistinct : v.Distinct)
    (hWithin : v.Within (Reader.nestingLimit - 1)) (hTask : ¬NamesTask v) :
    (analyzeAnswer.ofText text).toOption = (report.ofValue v).toOption.map .completed ∧
    (Reader.whole (report.text (Reader.nestingLimit - 1)) (Text.bytes text)).toOption =
      (report.ofValue v).toOption ∧
    (∀ (history : String) (before after : List Value),
      Value.ofText history = .ok (.array (before ++ v :: after)) → (∀ w ∈ before ++ after, w.Distinct) →
      (reports.ofText history).toOption = do
        let earlier ← before.mapM fun w => (report.ofValue w).toOption
        let r ← (report.ofValue v).toOption
        let later ← after.mapM fun w => (report.ofValue w).toOption
        return earlier ++ r :: later) ∧
    ∀ (answer state : String) (members : List (String × Value)),
      Value.ofText answer = .ok (.object members) → (Value.object members).Distinct →
      ("state", .string state) ∈ members → ("result", v) ∈ members →
      ∃ status, taskStatus.ofText answer = .ok status ∧ status.state = state ∧
        ∀ task, (Stage.finished task status).toOption = (report.ofValue v).toOption := by
  refine ⟨answer_ofText hText hDistinct hTask, item_ofText hText hDistinct hWithin, ?_, ?_⟩
  · intro history before after hHistory hOthers
    have hItems : ∀ w ∈ before ++ v :: after, w.Distinct := by
      intro w hw
      rcases List.mem_append.mp hw with hw | hw
      · exact hOthers w (List.mem_append_left _ hw)
      · rcases List.mem_cons.mp hw with rfl | hw
        · exact hDistinct
        · exact hOthers w (List.mem_append_right _ hw)
    rw [history_ofText hHistory hItems, List.mapM_append, List.mapM_cons]
    simp only [bind_assoc, pure_bind]
  · intro answer state members hAnswer hMembers hState hResult
    exact status_ofText hAnswer hMembers hState hResult

/-- A report with a finding as an array, a time that is none, and a member that nobody asks for. -/
def mixedValue : Value :=
  .object [("createdAt", .ofInt 5), ("extra", .null), ("id", .ofInt 7),
    ("vulnerabilities", .array [.array [.string "a", .string "b"]])]

theorem regular_mixedValue {depth : Nat} : mixedValue.Regular (depth + 3) := by
  apply Value.regular_object (by decide)
  simp only [List.forall_mem_cons]
  refine ⟨Value.regular_integer (by decide) (by decide), ⟨.null, .null, .null⟩,
    Value.regular_integer (by decide) (by decide), ?_, List.forall_mem_nil _⟩
  apply Value.regular_array
  simp only [List.forall_mem_singleton]
  exact Value.regular_array (by simp [Value.regular_string])

theorem report_alike_mixed :
    analyzeAnswer.ofText mixedValue.compact = .ok (.completed ⟨some (.number 7), none, none, [⟨"a", "b"⟩]⟩) ∧
    reports.ofText (Value.array [mixedValue]).compact = .ok [⟨some (.number 7), none, none, [⟨"a", "b"⟩]⟩] := by
  have hRegular : mixedValue.Regular 126 := regular_mixedValue
  have hTop : mixedValue.Regular Reader.nestingLimit := regular_mixedValue
  have hHistory : (Value.array [mixedValue]).Regular Reader.nestingLimit :=
    Value.regular_array (by simpa using hRegular)
  have hTask : ¬NamesTask mixedValue := by
    rintro ⟨id, hMem⟩
    simp at hMem
  have hRead : (report.ofValue mixedValue).toOption = some ⟨some (.number 7), none, none, [⟨"a", "b"⟩]⟩ :=
    report_agrees.ofValue hRegular.distinct
  obtain ⟨hAnswer, _, hItems, _⟩ := report_alike (Value.ofText_compact hTop.within hTop.whole)
    hRegular.distinct hRegular.within hTask
  have hList := hItems _ [] [] (Value.ofText_compact hHistory.within hHistory.whole) (List.forall_mem_nil _)
  rw [hRead] at hAnswer hList
  exact ⟨Reader.toOption_eq_some.mp hAnswer, Reader.toOption_eq_some.mp hList⟩

end AuditDesk.Wire

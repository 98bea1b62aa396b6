import AuditDesk.Proofs.Json.Readable
import AuditDesk.Proofs.Wire.Decoding

/-! What the answer to a submission is taken for. It names a task when it has one `task_id` and that is a
text. With any other `task_id` it is tried as a report, which does not ask for one. -/
namespace AuditDesk.Wire

open Json Service Reader Spelling

/-- An answer that is an object. -/
structure Body where
  before : Blanks
  members : List Member
  inside : Blanks
  behind : Blanks
  spelled : ∀ m ∈ members, WellFormed m.item.body

namespace Body

variable (b : Body)

def chars : List Char := objectChars b.members b.inside

def text : String := String.ofList (b.before.chars ++ (b.chars ++ b.behind.chars))

/-- The members with this key, in whatever way it is spelled. -/
def under (key : String) : List Member := b.members.filter fun m => meaning m.key = some key.toList

/-- There is one `task_id`, and it is a text that means this. -/
def OnlyTask (id : String) : Prop :=
  ∃ m pieces, b.under "task_id" = [m] ∧ m.item.body = quotation pieces ∧ meaning pieces = some id.toList

end Body

section Choosing

variable {v : Value}

theorem chooseAnswer_eq_task {id : String} : chooseAnswer v = some (.task id) ↔ chooseTask v = some id := by
  rw [chooseAnswer]
  cases chooseTask v <;> simp

theorem chooseAnswer_eq_completed {r : Report} : chooseAnswer v = some (.completed r) ↔
    (∀ id, chooseTask v ≠ some id) ∧ report.buffered v = some r := by
  rw [chooseAnswer]
  cases chooseTask v <;> simp

end Choosing

section Texts

/-- The key and the value of a member of an answer. -/
def readMember (m : Member) : Option (String × Value) :=
  (meaning m.key).bind fun key => ((value (nestingLimit - 1)).made m.item.body).map fun v => (String.ofList key, v)

theorem readMember_eq_some {m : Member} {key : String} {v : Value} (h : readMember m = some (key, v)) :
    meaning m.key = some key.toList ∧ (value (nestingLimit - 1)).made m.item.body = some v := by
  obtain ⟨cs, hKey, h⟩ := Option.bind_eq_some_iff.mp h
  obtain ⟨w, hValue, hSame⟩ := Option.map_eq_some_iff.mp h
  obtain ⟨rfl, rfl⟩ := Prod.mk.inj hSame
  exact ⟨by rw [hKey, String.toList_ofList], hValue⟩

namespace Body

variable {b : Body} {v : Value}

theorem wellFormed (b : Body) : WellFormed b.chars := wellFormed_object b.spelled b.inside

theorem toOption_ofText (b : Body) :
    (Value.ofText b.text).toOption = (b.members.mapM readMember).map Value.object := by
  have hSpans : ∀ m ∈ b.members, (value (nestingLimit - 1)).Spans m.item.body := by
    intro m hm
    obtain ⟨_, hSpelled⟩ := b.spelled m hm
    exact spans_value hSpelled _
  exact (Reader.toOption_ofText b.wellFormed b.before b.behind).trans (takes_object b.inside hSpans).made_eq

theorem exists_value_iff (b : Body) : (∃ v, Value.ofText b.text = .ok v) ↔ Readable nestingLimit b.chars := by
  rw [← made_iff_readable b.wellFormed, ← Reader.toOption_ofText b.wellFormed b.before b.behind,
    Option.isSome_iff_exists]
  simp only [toOption_eq_some]
  rfl

/-- The members with a key are those whose values are found under it. -/
theorem forall₂_under {found : List (String × Value)} (hFound : b.members.mapM readMember = some found)
    (key : String) :
    List.Forall₂ (fun m named => readMember m = some named) (b.under key) (found.filter (·.1 = key)) := by
  refine List.rel_filter ?_ (forall₂_of_mapM hFound)
  intro m named hRead
  change decide (meaning m.key = some key.toList) = true ↔ decide (named.1 = key) = true
  rw [decide_eq_true_iff, decide_eq_true_iff, (readMember_eq_some hRead).1, Option.some_inj, String.toList_inj]

/-- Whether a task is named can be told from the characters alone. -/
theorem chooseTask_iff (hText : Value.ofText b.text = .ok v) (id : String) :
    chooseTask v = some id ↔ b.OnlyTask id := by
  obtain ⟨found, hFound, rfl⟩ :=
    Option.map_eq_some_iff.mp (b.toOption_ofText.symm.trans (toOption_eq_some.mpr hText))
  have hNamed := forall₂_under hFound "task_id"
  rw [chooseTask, OnlyTask]
  generalize hUnder : b.under "task_id" = under at hNamed ⊢
  generalize found.filter (·.1 = "task_id") = named at hNamed ⊢
  cases hNamed with
  | nil => simp
  | @cons m only _ _ hRead hRest =>
      cases hRest with
      | cons => simp
      | nil =>
          obtain ⟨key, w⟩ := only
          have hMem : m ∈ b.members := List.mem_of_mem_filter (hUnder ▸ List.mem_singleton_self m)
          have hString := made_eq_string_iff (b.spelled m hMem) (nestingLimit - 1) id
          rw [(readMember_eq_some hRead).2] at hString
          have hOnly : (∃ n pieces, [m] = [n] ∧ n.item.body = quotation pieces ∧ meaning pieces = some id.toList) ↔
              some w = some (.string id) := by
            rw [hString]
            simp
          rw [hOnly]
          cases w <;> simp

end Body

theorem answer_ofText_eq_ok {text : String} {a : AnalyzeAnswer} : analyzeAnswer.ofText text = .ok a ↔
    ∃ v, Value.ofText text = .ok v ∧ chooseAnswer v = some a := by
  rw [← toOption_eq_some, analyzeAnswer, Decoder.toOption_tried, Option.bind_eq_some_iff]
  simp only [toOption_eq_some]

namespace Body

variable (b : Body)

theorem task_ofText_iff (id : String) : analyzeAnswer.ofText b.text = .ok (.task id) ↔
    Readable nestingLimit b.chars ∧ b.OnlyTask id := by
  rw [answer_ofText_eq_ok, ← b.exists_value_iff]
  constructor
  · rintro ⟨v, hText, hAnswer⟩
    exact ⟨⟨v, hText⟩, (b.chooseTask_iff hText id).mp (chooseAnswer_eq_task.mp hAnswer)⟩
  · rintro ⟨⟨v, hText⟩, hTask⟩
    exact ⟨v, hText, chooseAnswer_eq_task.mpr ((b.chooseTask_iff hText id).mpr hTask)⟩

theorem completed_ofText_iff (r : Report) : analyzeAnswer.ofText b.text = .ok (.completed r) ↔
    Readable nestingLimit b.chars ∧ (∀ id, ¬b.OnlyTask id) ∧ report.ofText b.text = .ok r := by
  have hReport : ∀ {v}, Value.ofText b.text = .ok v → (report.buffered v = some r ↔
      report.ofText b.text = .ok r) := by
    intro v hText
    rw [← report_agrees.streams.ofText hText, toOption_eq_some]
  rw [answer_ofText_eq_ok, ← b.exists_value_iff]
  constructor
  · rintro ⟨v, hText, hAnswer⟩
    obtain ⟨hTask, hBuffered⟩ := chooseAnswer_eq_completed.mp hAnswer
    refine ⟨⟨v, hText⟩, fun id => ?_, (hReport hText).mp hBuffered⟩
    exact fun hOnly => hTask id ((b.chooseTask_iff hText id).mpr hOnly)
  · rintro ⟨⟨v, hText⟩, hTask, hDecoded⟩
    refine ⟨v, hText, chooseAnswer_eq_completed.mpr ⟨fun id hNamed => ?_, (hReport hText).mpr hDecoded⟩⟩
    exact hTask id ((b.chooseTask_iff hText id).mp hNamed)

end Body

end Texts

section Values

/-- Where no key is repeated, at most one member has a given one. -/
theorem filter_key {members : List (String × Value)} (hKeys : (members.map Prod.fst).Nodup) (key : String) :
    members.filter (·.1 = key) = ((members.lookup key).map fun v => (key, v)).toList := by
  induction members with
  | nil => rfl
  | cons member members ih =>
      obtain ⟨first, v⟩ := member
      obtain ⟨hNew, hRest⟩ := List.nodup_cons.mp hKeys
      rw [List.lookup_cons]
      by_cases hFirst : first = key
      · subst hFirst
        have hNone : members.filter (·.1 = first) = [] := by
          refine List.filter_eq_nil_iff.mpr fun m hm hSame => hNew ?_
          exact List.mem_map.mpr ⟨m, hm, of_decide_eq_true hSame⟩
        simp [hNone]
      · simp [hFirst, beq_eq_false_iff_ne.mpr (Ne.symm hFirst), ih hRest]

theorem chooseTask_of_nodup {members : List (String × Value)} (hKeys : (members.map Prod.fst).Nodup)
    (id : String) : chooseTask (.object members) = some id ↔ members.lookup "task_id" = some (.string id) := by
  rw [chooseTask, filter_key hKeys]
  cases members.lookup "task_id" with
  | none => simp
  | some v => cases v <;> simp

theorem settle_eq_string {v : Value} {s : String} : v.settle = .string s ↔ v = .string s := by
  cases v <;> simp [Value.settle]

/-- Of several values for `task_id` the last one counts. -/
theorem chooseTask_settled (members : List (String × Value)) (id : String) :
    chooseTask (Value.object members).settle = some id ↔
      members.reverse.lookup "task_id" = some (.string id) := by
  have hOrdered : Value.Ordered (Value.settleMembers [] members) := Value.settleMembers_ordered .nil members
  rw [Value.settle, chooseTask_of_nodup hOrdered.nodup, Value.lookup_settleMembers, List.lookup_nil,
    Option.or_none, Option.map_eq_some_iff]
  simp only [settle_eq_string, exists_eq_right]

theorem answer_ofValue_eq_ok {v : Value} {a : AnalyzeAnswer} :
    analyzeAnswer.ofValue v = .ok a ↔ chooseAnswer v.settle = some a := by
  rw [← toOption_eq_some, analyzeAnswer_agrees.toOption_ofValue]
  rfl

theorem task_ofValue_iff (members : List (String × Value)) (id : String) :
    analyzeAnswer.ofValue (.object members) = .ok (.task id) ↔
      members.reverse.lookup "task_id" = some (.string id) := by
  rw [answer_ofValue_eq_ok, chooseAnswer_eq_task, chooseTask_settled]

theorem completed_ofValue_iff (members : List (String × Value)) (r : Report) :
    analyzeAnswer.ofValue (.object members) = .ok (.completed r) ↔
      (∀ id, members.reverse.lookup "task_id" ≠ some (.string id)) ∧
        report.ofValue (.object members) = .ok r := by
  rw [answer_ofValue_eq_ok, chooseAnswer_eq_completed, ← report_agrees.toOption_ofValue, toOption_eq_some]
  simp only [ne_eq, chooseTask_settled]

end Values

/-- An answer names a task exactly when it has one `task_id` and this is a text. It is taken for a finished
report exactly when it is one and does not name a task, which it may be with a `task_id` that is no text or,
while a text is read, with more than one. In a value that was read before, the last `task_id` counts. -/
theorem answer_told_apart (b : Body) (members : List (String × Value)) :
    (∀ id, analyzeAnswer.ofText b.text = .ok (.task id) ↔ Readable nestingLimit b.chars ∧ b.OnlyTask id) ∧
    (∀ r, analyzeAnswer.ofText b.text = .ok (.completed r) ↔
      Readable nestingLimit b.chars ∧ (∀ id, ¬b.OnlyTask id) ∧ report.ofText b.text = .ok r) ∧
    (∀ id, analyzeAnswer.ofValue (.object members) = .ok (.task id) ↔
      members.reverse.lookup "task_id" = some (.string id)) ∧
    ∀ r, analyzeAnswer.ofValue (.object members) = .ok (.completed r) ↔
      (∀ id, members.reverse.lookup "task_id" ≠ some (.string id)) ∧
        report.ofValue (.object members) = .ok r :=
  ⟨b.task_ofText_iff, b.completed_ofText_iff, task_ofValue_iff members, completed_ofValue_iff members⟩

/-- A number as `task_id`, or two of them, and an empty report is taken for a finished one. -/
theorem completed_despite_task_id :
    analyzeAnswer.ofText "\x7b\"task_id\":17,\"vulnerabilities\":[]\x7d" = .ok (.completed ⟨none, none, none, []⟩) ∧
    analyzeAnswer.ofText "\x7b\"task_id\":\"a\",\"task_id\":\"b\",\"vulnerabilities\":[]\x7d" =
      .ok (.completed ⟨none, none, none, []⟩) ∧
    analyzeAnswer.ofValue (.object [("task_id", .ofInt 17), ("vulnerabilities", .array [])]) =
      .ok (.completed ⟨none, none, none, []⟩) :=
  ⟨rfl, rfl, rfl⟩

end AuditDesk.Wire

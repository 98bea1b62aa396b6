import AuditDesk.Proofs.Json.Agreement
import AuditDesk.Wire

/-! The decoders of the wire each come to the same on the three ways to a value: while a text is read, on
the value read whole, and on the value settled before. -/
namespace AuditDesk.Wire

open Json

theorem language_agrees : language.Agrees := Decoder.agrees_choice _

theorem reportId_agrees : reportId.Agrees := by
  apply Decoder.agrees_tried
  intro v _
  cases v <;> rfl

theorem createdAt_agrees : createdAt.Agrees := Decoder.agrees_any.optional.map _

theorem requestForm_agrees : requestForm.Agrees where
  fields := by
    intro f hf
    simp only [requestForm, List.mem_cons, List.not_mem_nil, or_false] at hf
    rcases hf with rfl | rfl
    · exact Field.agrees_of Decoder.agrees_string fun _ _ => rfl
    · exact Field.agrees_of language_agrees fun _ _ => rfl
  independent := by
    simp only [requestForm, List.pairwise_cons, List.mem_cons, List.not_mem_nil, or_false, forall_eq,
      false_implies, implies_true, List.Pairwise.nil, and_true]
    exact Field.independent_of (fun _ _ _ => rfl) (fun _ _ => rfl) fun _ _ => rfl

theorem request_agrees : request.Agrees := requestForm_agrees.decoder

theorem findingForm_agrees : findingForm.Agrees where
  fields := by
    intro f hf
    simp only [findingForm, List.mem_cons, List.not_mem_nil, or_false] at hf
    rcases hf with rfl | rfl
    · exact Field.agrees_of Decoder.agrees_string fun _ _ => rfl
    · exact Field.agrees_of Decoder.agrees_string fun _ _ => rfl
  independent := by
    simp only [findingForm, List.pairwise_cons, List.mem_cons, List.not_mem_nil, or_false, forall_eq,
      false_implies, implies_true, List.Pairwise.nil, and_true]
    exact Field.independent_of (fun _ _ _ => rfl) (fun _ _ => rfl) fun _ _ => rfl

theorem finding_agrees : finding.Agrees := findingForm_agrees.decoder

theorem reportForm_agrees : reportForm.Agrees where
  fields := by
    intro f hf
    simp only [reportForm, List.mem_cons, List.not_mem_nil, or_false] at hf
    rcases hf with rfl | rfl | rfl | rfl
    · exact Field.agrees_of reportId_agrees.optional fun _ _ => rfl
    · exact Field.agrees_of createdAt_agrees fun _ _ => rfl
    · exact Field.agrees_of Decoder.agrees_string.optional fun _ _ => rfl
    · exact Field.agrees_of finding_agrees.list fun _ _ => rfl
  independent := by
    simp only [reportForm, List.pairwise_cons, List.mem_cons, List.not_mem_nil, or_false, forall_eq,
      forall_eq_or_imp, false_implies, implies_true, List.Pairwise.nil, and_true]
    refine ⟨⟨?_, ?_, ?_⟩, ⟨?_, ?_⟩, ?_⟩ <;>
      exact Field.independent_of (fun _ _ _ => rfl) (fun _ _ => rfl) fun _ _ => rfl

theorem report_agrees : report.Agrees := reportForm_agrees.decoder

theorem statusForm_agrees : statusForm.Agrees where
  fields := by
    intro f hf
    simp only [statusForm, List.mem_cons, List.not_mem_nil, or_false] at hf
    rcases hf with rfl | rfl
    · exact Field.agrees_of Decoder.agrees_string fun _ _ => rfl
    · exact Field.agrees_of Decoder.agrees_any.optional fun _ _ => rfl
  independent := by
    simp only [statusForm, List.pairwise_cons, List.mem_cons, List.not_mem_nil, or_false, forall_eq,
      false_implies, implies_true, List.Pairwise.nil, and_true]
    exact Field.independent_of (fun _ _ _ => rfl) (fun _ _ => rfl) fun _ _ => rfl

theorem taskStatus_agrees : taskStatus.Agrees := statusForm_agrees.decoder

theorem snippetForm_agrees : snippetForm.Agrees where
  fields := by
    intro f hf
    simp only [snippetForm, List.mem_cons, List.not_mem_nil, or_false] at hf
    rcases hf with rfl | rfl | rfl
    · exact Field.agrees_of Decoder.agrees_string fun _ _ => rfl
    · exact Field.agrees_of Decoder.agrees_string fun _ _ => rfl
    · exact Field.agrees_of language_agrees fun _ _ => rfl
  independent := by
    simp only [snippetForm, List.pairwise_cons, List.mem_cons, List.not_mem_nil, or_false, forall_eq,
      forall_eq_or_imp, false_implies, implies_true, List.Pairwise.nil, and_true]
    refine ⟨⟨?_, ?_⟩, ?_⟩ <;>
      exact Field.independent_of (fun _ _ _ => rfl) (fun _ _ => rfl) fun _ _ => rfl

theorem snippet_agrees : snippet.Agrees := snippetForm_agrees.decoder

theorem reports_agrees : reports.Agrees := report_agrees.list

theorem snippets_agrees : snippets.Agrees := snippet_agrees.list

/-- Settling an object neither gives it a task nor takes the one it names. -/
theorem chooseTask_settle {v : Value} (h : v.Distinct) : chooseTask v.settle = chooseTask v := by
  cases h with
  | @object members hKeys _ =>
      have hPerm := (Value.settleMembers_nil_perm hKeys).filter (·.1 = "task_id")
      have hNodup := hKeys.sublist ((List.filter_sublist (p := fun m => m.1 = "task_id")).map Prod.fst)
      have hTask : ∀ m ∈ members.filter (·.1 = "task_id"), m.1 = "task_id" := by
        simp
      rw [List.filter_map] at hPerm
      change (List.filter _ _).Perm ((members.filter (·.1 = "task_id")).map fun m => (m.1, m.2.settle)) at hPerm
      rw [Value.settle, chooseTask, chooseTask]
      generalize members.filter (·.1 = "task_id") = named at hPerm hNodup hTask ⊢
      match named with
      | [] => rw [hPerm.eq_nil]
      | [(_, w)] =>
          rw [List.perm_singleton.mp hPerm]
          cases w <;> rfl
      | a :: b :: _ =>
          have hSame : a.1 = b.1 := (hTask a (by simp)).trans (hTask b (by simp)).symm
          simp [hSame] at hNodup
  | _ => rfl

theorem analyzeAnswer_agrees : analyzeAnswer.Agrees := by
  apply Decoder.agrees_tried
  intro v hDistinct
  rw [chooseAnswer, chooseAnswer, chooseTask_settle hDistinct, report_agrees.buffered_settle hDistinct]

end AuditDesk.Wire

import AuditDesk.Proofs.Json.Settling
import AuditDesk.Proofs.Json.Streaming

/-! Decoders that come to the same on every way to a value: while a text is read, on the value read whole,
and on the value settled before. A record agrees when what fills its fields does and when its fields are
independent. -/
namespace AuditDesk.Json

structure Decoder.Agrees {α : Type} (d : Decoder α) : Prop where
  streams : d.Streams
  settles : d.Settles

namespace Decoder

variable {α β : Type} {d : Decoder α}

theorem agrees_any : Decoder.any.Agrees := ⟨streams_any, settles_any⟩

theorem agrees_string : Decoder.string.Agrees := ⟨streams_string, settles_string⟩

theorem agrees_choice (choices : List (String × α)) : (Decoder.choice choices).Agrees :=
  ⟨streams_choice choices, settles_choice choices⟩

theorem agrees_tried (name : String) {choose : Value → Option α}
    (h : ∀ v : Value, v.Distinct → choose v.settle = choose v) : (Decoder.tried name choose).Agrees :=
  ⟨streams_tried name choose, settles_tried name h⟩

theorem Agrees.map (h : d.Agrees) (f : α → β) : (d.map f).Agrees := ⟨h.streams.map f, h.settles.map f⟩

theorem Agrees.optional (h : d.Agrees) : d.optional.Agrees := ⟨h.streams.optional, h.settles.optional⟩

theorem Agrees.list (h : d.Agrees) : d.list.Agrees := ⟨h.streams.list, h.settles.list⟩

theorem ofValue_settle (d : Decoder α) (v : Value) : d.ofValue v.settle = d.ofValue v := by
  rw [Decoder.ofValue, Decoder.ofValue, Value.settle_settle]

theorem Agrees.ofValue (h : d.Agrees) {v : Value} (hDistinct : v.Distinct) :
    (d.ofValue v).toOption = d.buffered v := by
  rw [← h.settles hDistinct, Decoder.ofValue]
  cases d.kept v.settle <;> rfl

/-- A value that was settled is tried as it is. -/
theorem Agrees.toOption_ofValue (h : d.Agrees) (v : Value) : (d.ofValue v).toOption = d.buffered v.settle := by
  rw [← d.ofValue_settle, h.ofValue (Value.distinct_settle v)]

theorem Agrees.buffered_settle (h : d.Agrees) {v : Value} (hDistinct : v.Distinct) :
    d.buffered v.settle = d.buffered v := by
  rw [← h.settles (Value.distinct_settle v), Value.settle_settle, h.settles hDistinct]

/-- A text and the value that it holds are decoded alike. -/
theorem Agrees.ofText (h : d.Agrees) {text : String} {v : Value} (hText : Value.ofText text = .ok v)
    (hDistinct : v.Distinct) : (d.ofText text).toOption = (d.ofValue v).toOption :=
  (h.streams.ofText hText).trans (h.ofValue hDistinct).symm

end Decoder

namespace Field

variable {σ β : Type}

/-- A field that is filled alike on every way, and is set thereby. -/
structure Agrees (f : Field σ) : Prop where
  filled : f.filled.Agrees
  marks : f.Marks

theorem agrees_of {name : String} {aliases : List String} {mayEnd : Bool} {d : Decoder β} {get : σ → Option β}
    {put : β → σ → σ} (h : d.Agrees) (hMarks : ∀ b s, (get (put b s)).isSome = true) :
    (Field.of name aliases mayEnd d get put).Agrees where
  filled := h.map put
  marks := marks_of hMarks

end Field

namespace RecordForm

variable {σ α : Type} {form : RecordForm σ α}

/-- The fields agree, and none of them stands in the way of another. -/
structure Agrees (form : RecordForm σ α) : Prop where
  fields : ∀ f ∈ form.fields, f.Agrees
  independent : form.fields.Pairwise Field.Independent

theorem Agrees.lawful (h : form.Agrees) : form.Lawful := ⟨fun f hf => (h.fields f hf).marks, h.independent⟩

theorem Agrees.decoder (h : form.Agrees) : form.decoder.Agrees where
  streams := streams_decoder fun f hf => (h.fields f hf).filled.streams
  settles := settles_decoder h.lawful fun f hf => (h.fields f hf).filled.settles

theorem Agrees.foldlM_perm (h : form.Agrees) {members others : List (String × Value)}
    (hMembers : ∀ m ∈ members, m.2.Distinct) (hPerm : members.Perm others) (s : σ) :
    members.foldlM form.bufferMember s = others.foldlM form.bufferMember s :=
  foldlM_bufferMember_perm h.lawful (fun f hf => (h.fields f hf).filled.settles) hMembers hPerm s

end RecordForm

end AuditDesk.Json

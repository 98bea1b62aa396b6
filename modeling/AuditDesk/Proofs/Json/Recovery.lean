import AuditDesk.Proofs.Json.Agreement
import AuditDesk.Proofs.Json.Printed

/-! What was made of something is taken for it again, from either of its texts and as a value. It is enough
to look at the value read whole, since decoders agree, as long as the value can be written and read. -/
namespace AuditDesk.Json

open Text

namespace Value

/-- A value that comes back from its texts, and from which no settling takes a member. -/
structure Regular (depth : Nat) (v : Value) : Prop where
  within : v.Within depth
  whole : v.Whole
  distinct : v.Distinct

variable {depth : Nat}

theorem regular_string (s : String) : Regular depth (.string s) := ⟨.string s, .string s, .string s⟩

theorem regular_integer {i : Int} (hLow : -9223372036854775808 ≤ i) (hHigh : i ≤ 18446744073709551615) :
    Regular depth (.ofInt i) := ⟨.number _, .integer hLow hHigh, .number _⟩

theorem regular_array {items : List Value} (h : ∀ v ∈ items, v.Regular depth) :
    Regular (depth + 1) (.array items) where
  within := .array fun v hv => (h v hv).within
  whole := .array fun v hv => (h v hv).whole
  distinct := .array fun v hv => (h v hv).distinct

theorem regular_object {members : List (String × Value)} (hKeys : (members.map Prod.fst).Nodup)
    (h : ∀ m ∈ members, m.2.Regular depth) : Regular (depth + 1) (.object members) where
  within := .object fun m hm => (h m hm).within
  whole := .object fun m hm => (h m hm).whole
  distinct := .object hKeys fun m hm => (h m hm).distinct

end Value

namespace Decoder

variable {α : Type} {d : Decoder α} {v : Value} {a : α}

/-- The decoder takes both texts of a value, and the value itself, for the same thing. -/
structure Recovers (d : Decoder α) (v : Value) (a : α) : Prop where
  compact : d.ofText v.compact = .ok a
  pretty : d.ofText v.pretty = .ok a
  value : d.ofValue v = .ok a

theorem recovers_of_buffered (hAgrees : d.Agrees) (hRegular : v.Regular Reader.nestingLimit)
    (h : d.buffered v = some a) : d.Recovers v a where
  compact := by
    rw [← Reader.toOption_eq_some,
      hAgrees.streams.ofText (Value.ofText_compact hRegular.within hRegular.whole), h]
  pretty := by
    rw [← Reader.toOption_eq_some,
      hAgrees.streams.ofText (Value.ofText_pretty hRegular.within hRegular.whole), h]
  value := by
    rw [← Reader.toOption_eq_some, hAgrees.ofValue hRegular.distinct, h]

theorem list_buffered_map {β : Type} (encode : β → Value) (back : β → α) {bs : List β}
    (h : ∀ b ∈ bs, d.buffered (encode b) = some (back b)) :
    d.list.buffered (.array (bs.map encode)) = some (bs.map back) := by
  change (bs.map encode).mapM d.buffered = some (bs.map back)
  induction bs with
  | nil => rfl
  | cons b bs ih =>
      rw [List.map_cons, List.mapM_cons, h b List.mem_cons_self, ih fun c hc => h c (List.mem_cons_of_mem _ hc)]
      rfl

theorem list_buffered (encode : α → Value) {as : List α} (h : ∀ a ∈ as, d.buffered (encode a) = some a) :
    d.list.buffered (.array (as.map encode)) = some as :=
  (list_buffered_map encode id h).trans (congrArg some as.map_id)

end Decoder

end AuditDesk.Json

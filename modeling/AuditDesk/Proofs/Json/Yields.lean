import AuditDesk.Proofs.Json.Gaps
import AuditDesk.Proofs.Json.Spelling
import AuditDesk.Proofs.Json.Streaming

/-! What a reader makes of some characters wherever they stand: it does not matter what comes behind them,
as long as that ends a value, nor how much white space is in front. -/
namespace AuditDesk.Json

open Text

namespace Reader

open Spelling

variable {α β : Type}

/-- Whatever stands behind the characters, the reader makes this of them and stops there, or it fails. -/
def Yields (r : Reader α) (cs : List Char) (made : Option α) : Prop :=
  ∀ rest p, EndsValue rest → ∃ q, (r ⟨encoded cs ++ rest, p⟩).result? = made.map fun a => (a, ⟨rest, q⟩)

/-- The same is made of the characters behind white space. -/
def Takes (r : Reader α) (cs : List Char) (made : Option α) : Prop :=
  ∀ gap : Blanks, r.Yields (gap.chars ++ cs) made

/-- What the reader makes of the characters when nothing stands around them. -/
def made (r : Reader α) (cs : List Char) : Option α := (r ⟨encoded cs, .start⟩).result?.map Prod.fst

/-- It makes no difference to the reader what stands around the characters. -/
def Spans (r : Reader α) (cs : List Char) : Prop := r.Takes cs (r.made cs)

variable {r : Reader α} {cs : List Char} {made : Option α}

theorem made_map (r : Reader α) (cs : List Char) (f : α → β) :
    Reader.made (do return f (← r)) cs = (r.made cs).map f := by
  rw [Reader.made, Reader.made, result?_bind]
  cases (r ⟨encoded cs, .start⟩).result? <;> rfl

theorem Yields.made_eq (h : r.Yields cs made) : r.made cs = made := by
  obtain ⟨q, hRead⟩ := h [] .start nofun
  rw [List.append_nil] at hRead
  rw [Reader.made, hRead]
  cases made <;> rfl

theorem yields_none (h : ∀ c, (r c).result? = none) : r.Yields cs none := fun _ p _ => ⟨p, h _⟩

/-- What is made of it next reads nothing more, or fails. -/
theorem Yields.bind (h : r.Yields cs made) {f : α → Reader β} {choose : α → Option β}
    (hChoose : ∀ a c, (f a c).result? = (choose a).map fun b => (b, c)) :
    (r >>= f).Yields cs (made.bind choose) := by
  intro rest p hEnds
  obtain ⟨q, hRead⟩ := h rest p hEnds
  refine ⟨q, ?_⟩
  rw [result?_bind, hRead]
  cases made with
  | none => rfl
  | some a => exact hChoose a _

theorem Yields.map (h : r.Yields cs made) (f : α → β) :
    (do return f (← r) : Reader β).Yields cs (made.map f) := by
  rw [Option.map_eq_bind]
  exact h.bind fun _ _ => rfl

theorem Yields.placed (h : r.Yields cs made) : (placed r).Yields cs made := by
  intro rest p hEnds
  obtain ⟨q, hRead⟩ := h rest p hEnds
  exact ⟨q, (result?_placed _ r).trans hRead⟩

theorem Takes.yields (h : r.Takes cs made) : r.Yields cs made := h .none

theorem Takes.made_eq (h : r.Takes cs made) : r.made cs = made := h.yields.made_eq

theorem Takes.spans (h : r.Takes cs made) : r.Spans cs := by
  rw [Spans, h.made_eq]
  exact h

theorem Takes.map (h : r.Takes cs made) (f : α → β) : (do return f (← r) : Reader β).Takes cs (made.map f) :=
  fun gap => (h gap).map f

theorem Spans.map (h : r.Spans cs) (f : α → β) : (do return f (← r) : Reader β).Takes cs ((r.made cs).map f) :=
  Takes.map h f

/-- A text that holds nothing else but white space. -/
theorem Takes.whole (h : r.Takes cs made) (gap behind : Blanks) :
    (whole r (encoded (gap.chars ++ (cs ++ behind.chars)))).toOption = made := by
  have hEnds : EndsValue (encoded behind.chars) := by
    have hRest : EndsValue (encoded behind.chars ++ []) := endsValue_gap behind.blank nofun
    rwa [List.append_nil] at hRest
  obtain ⟨q, hRead⟩ := h gap (encoded behind.chars) .start hEnds
  obtain ⟨last, hBlanks⟩ := pastBlanks_gap behind.blank [] q
  rw [List.append_nil] at hBlanks
  rw [toOption_whole, Cursor.start, ← List.append_assoc, encoded_append, hRead]
  cases made with
  | none => rfl
  | some a =>
      rw [Option.map_some, Option.bind_some, hBlanks]
      rfl

section Opening

variable (sign : Char) (hOpens : opensValue sign = true) {more : List Char}
include hOpens

/-- A reader that first looks for what begins there. -/
theorem takes_of_look {f : Option Char → Reader α} (h : (f (some sign)).Yields (sign :: more) made) :
    (lookPastBlanks >>= f).Takes (sign :: more) made := by
  intro gap rest p hEnds
  obtain ⟨start, hBlanks⟩ := pastBlanks_gap gap.blank (encoded (sign :: more) ++ rest) p
  obtain ⟨hSame, hPeek⟩ := pastBlanks_opening hOpens more rest start
  obtain ⟨q, hRead⟩ := h rest start hEnds
  refine ⟨q, ?_⟩
  rw [encoded_append, List.append_assoc, result?_lookPastBlanks_bind, hBlanks, hSame, hPeek]
  exact hRead

/-- A reader that takes nothing that begins like this. -/
theorem takes_none_of_look {f : Option Char → Reader α} (h : ∀ c, (f (some sign) c).result? = none) :
    (lookPastBlanks >>= f).Takes (sign :: more) none := takes_of_look sign hOpens (yields_none h)

theorem yields_skip (h : r.Yields more made) : (do skip; r).Yields (sign :: more) made := by
  obtain ⟨b, hByte, _⟩ := opening_byte hOpens
  intro rest p hEnds
  obtain ⟨q, hRead⟩ := h rest (p.after b) hEnds
  have hSkip : skip ⟨encoded (sign :: more) ++ rest, p⟩ = .done () ⟨encoded more ++ rest, p.after b⟩ := by
    rw [encoded_cons, hByte]
    rfl
  exact ⟨q, (congrArg Reading.result? (bind_of_done _ hSkip)).trans hRead⟩

end Opening

end Reader

end AuditDesk.Json

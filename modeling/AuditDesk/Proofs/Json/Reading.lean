import AuditDesk.Json.Reader
import AuditDesk.Proofs.Text.Encoded

/-! What it means that a reader understands a text: it hands over the value and stops right behind the
text, whatever stands there, as long as that ends a value. Readers made of others are followed step by
step, each step at the cursor that the one before has left. -/
namespace AuditDesk.Json

open Text

namespace Reader

variable {α β : Type}

theorem bind_of_done {r : Reader α} {a : α} {c next : Cursor} (f : α → Reader β)
    (h : r c = .done a next) : (r >>= f) c = f a next := by
  change andThen r f c = f a next
  simp only [andThen, h]

theorem look_bind (f : Option Char → Reader β) (c : Cursor) : (look >>= f) c = f c.peek? c := rfl

theorem placed_of_done {r : Reader α} {a : α} {c next : Cursor} (h : r c = .done a next) :
    placed r c = .done a next := by
  simp only [placed, h]

theorem closing_of_done {body : Reader α} {close : Reader Unit} {a : α} {c next last : Cursor}
    (hBody : body c = .done a next) (hClose : close next = .done () last) :
    closing body close c = .done a last := by
  simp only [closing, hBody, hClose]

theorem lookPastBlanks_of_not {b : UInt8} (rest : List UInt8) (p : Position)
    (h : Cursor.isJsonBlank b = false) :
    lookPastBlanks ⟨b :: rest, p⟩ = .done (some (Char.ofUInt8 b)) ⟨b :: rest, p⟩ := by
  simp only [lookPastBlanks, Cursor.skipWhile_of_not rest p h]
  rfl

end Reader

/-- The characters with which a JSON value can begin. -/
def opensValue (c : Char) : Bool :=
  c.isDigit || ['n', 't', 'f', '-', '"', '[', '\x7b'].contains c

/-- White space in a text. -/
def IsBlank (c : Char) : Prop := c = ' ' ∨ c = '\n' ∨ c = '\t' ∨ c = '\r'

/-- What may stand behind a value: the end, a comma, a closing bracket or white space. -/
def EndsValue (rest : List UInt8) : Prop :=
  ∀ b ∈ rest.head?, b ∈ [0x2C, 0x5D, 0x7D, 0x20, 0x0A, 0x09, 0x0D]

/-- The reader takes the text for the value and stops behind it. Behind a number one has to know that it
is over, hence the condition on the rest. -/
structure Reader.Reads {α : Type} (r : Reader α) (cs : List Char) (a : α) : Prop where
  opens : ∃ c more, cs = c :: more ∧ opensValue c = true
  done : ∀ rest p, EndsValue rest → ∃ q, r ⟨encoded cs ++ rest, p⟩ = .done a ⟨rest, q⟩

end AuditDesk.Json

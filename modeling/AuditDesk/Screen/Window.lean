/-!
The part of a list that is shown when not all of it fits. It begins with the first entry and moves on
only as far as the entry under the cursor needs.
-/
namespace AuditDesk.Screen

/-- An entry of a list as it is shown. -/
structure Shown (α : Type) where
  position : Nat
  entry : α
  /-- The cursor is on it. -/
  marked : Bool
deriving DecidableEq

/-- The entries left out in front when `room` entries fit. -/
def scrollOffset (cursor room : Nat) : Nat :=
  if room = 0 || cursor < room then 0 else cursor + 1 - room

/-- The entries to be drawn. There is one even where none fits as a whole; nothing of it is drawn then. -/
def window {α : Type} (xs : List α) (cursor room : Nat) : List (Shown α) :=
  let offset := scrollOffset cursor room
  ((xs.mapIdx fun position entry => ⟨position, entry, position = cursor⟩).drop offset).take
    (max room 1)

theorem length_window {α : Type} (xs : List α) (cursor room : Nat) :
    (window xs cursor room).length =
      min (max room 1) (xs.length - scrollOffset cursor room) := by
  simp [window]

end AuditDesk.Screen

/-!
Colours and emphasis of text on a screen.
-/
namespace AuditDesk.Screen

inductive Color where
  | black
  | red
  | green
  | yellow
  | blue
  | cyan
  | gray
  | white
deriving DecidableEq

/-- How text looks. A colour that is not given is the screen's own. -/
structure Style where
  foreground : Option Color
  background : Option Color
  bold : Bool
  blinking : Bool
deriving DecidableEq

namespace Style

def plain : Style := ⟨none, none, false, false⟩

def ofColor (c : Color) : Style := { plain with foreground := some c }

def onBlack : Style := { plain with background := some .black }

def emphasis : Style := { plain with bold := true }

def blink : Style := { plain with blinking := true }

def bolder (s : Style) : Style := { s with bold := true }

/-- The style of what is written over something in the style `base`. -/
def onto (s base : Style) : Style where
  foreground := s.foreground <|> base.foreground
  background := s.background <|> base.background
  bold := s.bold || base.bold
  blinking := s.blinking || base.blinking

@[simp]
theorem plain_onto (base : Style) : plain.onto base = base := by
  simp [onto, plain]

end Style

end AuditDesk.Screen

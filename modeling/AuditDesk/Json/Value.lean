import AuditDesk.Decimal.Shortest

/-!
JSON values. An object keeps its members as they were written, repeated keys included; `settle` is
the form in which a value is kept: members sorted by key, the last of several equal keys winning.
-/
namespace AuditDesk.Json

/-- A number is a whole number of at most 64 bits, or a double. -/
inductive Number where
  | integer (value : Int)
  | double (value : Float)

inductive Value where
  | null
  | boolean (value : Bool)
  | number (value : Number)
  | string (value : String)
  | array (items : List Value)
  | object (members : List (String × Value))

instance : Inhabited Value := ⟨.null⟩

/-- Doubles are positional from 0.00001 up to 16 digits before the point; outside that range the
exponent always carries its sign. -/
def doubleLayout : Decimal.Layout := ⟨-5, 16, "e+", "e-"⟩

/-- The shortest text that reads back as the double. -/
def doubleText (x : Float) : String :=
  match Decimal.Dyadic.ofBits? x.toBits with
  | none => "null"
  | some d =>
      let (significand, exponent) := Decimal.shortest d
      let sign := if x.toBits >>> 63 == 1 then "-" else ""
      sign ++ doubleLayout.write significand exponent

def Number.text : Number → String
  | .integer i => toString i
  | .double x => doubleText x

namespace Value

/-- Puts a member into a list sorted by key, in place of one with the same key. -/
def insertMember (key : String) (value : Value) : List (String × Value) → List (String × Value)
  | [] => [(key, value)]
  | (k, v) :: rest =>
      if key < k then (key, value) :: (k, v) :: rest
      else if key = k then (key, value) :: rest
      else (k, v) :: insertMember key value rest

def ofBool (b : Bool) : Value := .boolean b
def ofInt (i : Int) : Value := .number (.integer i)

mutual

/-- Sorts the members of every object by key; of equal keys the last one is kept. -/
def settle : Value → Value
  | .array items => .array (settleItems items)
  | .object members => .object (settleMembers [] members)
  | v => v

def settleItems : List Value → List Value
  | [] => []
  | v :: rest => settle v :: settleItems rest

def settleMembers (sorted : List (String × Value)) :
    List (String × Value) → List (String × Value)
  | [] => sorted
  | (k, v) :: rest => settleMembers (insertMember k (settle v) sorted) rest

end

end Value

end AuditDesk.Json

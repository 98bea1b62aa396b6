import AuditDesk.Service.Address.DomainName
import AuditDesk.Service.Address.HostNumber

/-!
Hosts: what an address names to be connected to.
-/
namespace AuditDesk.Service

inductive Host where
  | name (text : String)
  | short (number : Nat)
  | long (groups : List Nat)
deriving DecidableEq

namespace Host

def text : Host → String
  | .name plain => plain
  | .short number => ShortNumber.text number
  | .long groups => "[" ++ LongNumber.text groups ++ "]"

/-- A long number stands in square brackets. -/
def ofBracketed? (cs : List Char) : Option Host :=
  if cs.getLast? = some ']' then (LongNumber.parse? (cs.drop 1).dropLast).map .long else none

/-- A host by its name or its number. -/
def parse? (cs : List Char) : Option Host :=
  if cs.head? = some '[' then ofBracketed? cs
  else do
    let name ← DomainName.ofBytes? (Text.Percent.decode cs)
    let labels := name.toList.splitOn '.'
    if ShortNumber.isMeant labels then (ShortNumber.ofLabels? labels).map .short
    else some (.name name)

/-- A host where nothing is known about names. -/
def ofForeign? (cs : List Char) : Option Host :=
  let forbidden := ['\x00', ' ', '#', '/', ':', '<', '>', '?', '@', '[', '\\', ']', '^', '|']
  if cs.head? = some '[' then ofBracketed? cs
  else if cs.any forbidden.contains then none
  else some (.name (Text.Percent.encode [] cs))

/-- Names with these characters cannot be asked for. -/
def canBeAsked : Host → Bool
  | .name plain => !plain.toList.any ['"', '\x60', '\x7b', '\x7d'].contains
  | _ => true

end Host

end AuditDesk.Service

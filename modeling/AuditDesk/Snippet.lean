import AuditDesk.Language

/-!
Contract sources kept under a name.
-/
namespace AuditDesk

structure Snippet where
  name : String
  code : String
  language : Language
deriving DecidableEq

end AuditDesk

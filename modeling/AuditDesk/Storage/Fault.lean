/-!
What a database may complain about. Every fault but one has a number, which comes with words of its own.
-/
namespace AuditDesk

inductive DatabaseFault where
  | notDatabase
  | cannotOpen (path : String)
  /-- The file that records an unfinished change could not be made. -/
  | cannotRecord
  | readOnly
  | nulByte (position : Nat)
  /-- An address names a host that is not this one. -/
  | unknownHost (name : String)
  /-- An address asks for something by a word that is not known. -/
  | unknownMode (kind word : String)
  /-- An address asks for more than it allowed before. -/
  | forbiddenMode (kind word : String)
  | unknownFileSystem (name : String)
deriving DecidableEq

namespace DatabaseFault

def text : DatabaseFault → String
  | .notDatabase => "file is not a database"
  | .cannotOpen path => "unable to open database file: " ++ path
  | .cannotRecord => "unable to open database file"
  | .readOnly => "attempt to write a readonly database"
  | .nulByte position => "nul byte found in provided data at position: " ++ toString position
  | .unknownHost name => "invalid uri authority: " ++ name
  | .unknownMode kind word => "no such " ++ kind ++ " mode: " ++ word
  | .forbiddenMode kind word => kind ++ " mode not allowed: " ++ word
  | .unknownFileSystem name => "no such vfs: " ++ name

/-- What stands behind the fault. -/
def cause : DatabaseFault → String
  | .notDatabase => "Error code 26: File opened that is not a database file"
  | .cannotOpen _ | .cannotRecord => "Error code 14: Unable to open the database file"
  | .readOnly => "Error code 8: Attempt to write a readonly database"
  | .forbiddenMode _ _ => "Error code 3: Access permission denied"
  | .unknownHost _ | .unknownMode _ _ | .unknownFileSystem _ => "Error code 1: SQL logic error"
  | .nulByte position => (DatabaseFault.nulByte position).text

end DatabaseFault

end AuditDesk

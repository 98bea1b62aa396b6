/-!
The lines of a text. Every line feed ends a line and takes a carriage return before it along; what
follows the last one is a line too, unless it is empty.
-/
namespace AuditDesk.Text

/-- A line without the carriage return at its end, if it has one. -/
def dropReturn (line : String) : String :=
  match line.toList.getLast? with
  | some '\r' => String.ofList line.toList.dropLast
  | _ => line

def lines (text : String) : List String :=
  let parts := text.splitOn "\n"
  let ended := parts.dropLast.map dropReturn
  match parts.getLast? with
  | some last => if last = "" then ended else ended ++ [last]
  | none => ended

end AuditDesk.Text

/-
Line ends. Text files may end their lines with a carriage return, a line feed, or both; text read
from a file has line feeds only.
-/

namespace EntityScaffold.Text

/-- One line feed for each line end. -/
def normalizeNewlines : List Char → List Char
  | [] => []
  | '\r' :: '\n' :: rest => '\n' :: normalizeNewlines rest
  | char :: rest => (if char = '\r' then '\n' else char) :: normalizeNewlines rest

end EntityScaffold.Text

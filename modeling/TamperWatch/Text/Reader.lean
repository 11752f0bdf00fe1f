/-!
# Readers

A reader takes something off the start of a text, or fails. The grammars of this library are
written as readers.
-/

namespace TamperWatch

/-- Takes something off the start of a text and gives it together with what is left. -/
abbrev Reader (α : Type) := List Char → Option (α × List Char)

end TamperWatch

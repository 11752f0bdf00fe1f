/-!
# TOML values

Values as the TOML grammar has them. Dates and times are told apart from other values and not kept.
-/

namespace TamperWatch.Toml

inductive Value where
  | string (s : String)
  | integer (n : Int)
  | float (x : Float)
  | boolean (b : Bool)
  | datetime
  | array (items : List Value)
  | table (entries : List (String × Value))

end TamperWatch.Toml

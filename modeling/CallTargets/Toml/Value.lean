/-!
# TOML values

The values of a TOML document.  Numbers with a fraction or an exponent and dates keep their spelling.
-/

namespace CallTargets

namespace Toml

/-- A TOML value. -/
inductive Value where
  | string (s : String)
  | integer (n : Int)
  | float (literal : String)
  | boolean (b : Bool)
  | datetime (literal : String)
  | array (items : List Value)
  | table (entries : List (String × Value))
  deriving Repr, Inhabited

/-- A table: keys with their values, each key once. -/
abbrev Table := List (String × Value)

end Toml

end CallTargets

/-!
# TOML values

Reals and moments (dates and times of day) are kept as they are written: nothing
here computes with them.  The entries of a table have distinct names.
-/

namespace ConsoleTap.Toml

inductive Value where
  | string (s : String)
  | integer (n : Int)
  | real (written : String)
  | boolean (b : Bool)
  | moment (written : String)
  | array (items : List Value)
  | table (entries : List (String × Value))
deriving Repr, Inhabited

end ConsoleTap.Toml

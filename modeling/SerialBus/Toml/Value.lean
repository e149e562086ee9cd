/-!
Values of a TOML document. A table remembers how it came to be, because that decides what may still
be added to it.
-/

namespace SerialBus

namespace Toml

/-- How a table came to be. -/
inductive Origin
  /-- By a header of its own, or as the document itself. -/
  | header
  /-- On the way to the table that a header names. -/
  | parent
  /-- On the way to the value that a dotted key names. -/
  | dotted
  /-- Between braces. -/
  | inline
  deriving DecidableEq, Repr, Inhabited

/-- A key as its parts, the last of which is kept apart. -/
structure Key where
  path : List String
  name : String
  deriving DecidableEq, Repr, Inhabited

end Toml

inductive Toml
  | string (text : String)
  | integer (n : Int)
  | float
  | boolean (b : Bool)
  | dateTime
  | array (items : List Toml)
  | table (origin : Toml.Origin) (entries : List (String × Toml))
  /-- The tables of headers in double brackets, the last of them apart. -/
  | tables (earlier : List (List (String × Toml))) (last : List (String × Toml))
  deriving Inhabited

namespace Toml

abbrev Entries : Type := List (String × Toml)

end Toml

end SerialBus

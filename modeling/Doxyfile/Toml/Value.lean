import Doxyfile.Number.Shortest

/-!
# Values of a TOML document

A table keeps its entries in the order in which the document introduces them. Of a date or a time
nothing is kept but that it is one: no setting takes one.
-/

namespace Doxyfile.Toml

/-- A value in a TOML document. -/
inductive Value where
  | string (text : String)
  | integer (value : Int)
  | float (value : Binary64)
  | boolean (flag : Bool)
  /-- A date, a time, or both. -/
  | dateTime
  | array (items : List Value)
  | table (entries : List (String × Value))
deriving Repr

/-- The entries of a table: keys and their values, in order. -/
abbrev Table := List (String × Value)

/-- The keys of a table in order. -/
def Table.keys (table : Table) : List String :=
  table.map Prod.fst

end Doxyfile.Toml

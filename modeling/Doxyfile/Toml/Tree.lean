import Doxyfile.Toml.Value

/-!
# Building the tables of a document

A document is put together entry by entry, and what an entry may do depends on how the tables it
goes through came to be. A `Node` therefore keeps, for every table, its `Origin`:

* a table that a header names is *defined*, and no dotted key outside of it adds to it;
* a table that is only on the way to the one a header names is *implied*, and a later header may
  define it, which moves it behind its neighbours;
* a table that a dotted key goes through is *dotted*, and other dotted keys may add to it.

A table written in braces is a value like any other: nothing is added to it later.

The operations give nothing when the document does not allow what they do.
-/

namespace Doxyfile.Toml

/-- How a table came to be. -/
inductive Origin where
  | defined
  | implied
  | dotted
deriving DecidableEq, Repr

/-- A value or a table that is being built. -/
inductive Node where
  | leaf (value : Value)
  | table (origin : Origin) (entries : List (String × Node))
  /-- Tables under one key, in double brackets. -/
  | tables (elements : List (List (String × Node)))
deriving Repr

/-- The entries of a table that is being built, in order. -/
abbrev Entries := List (String × Node)

namespace Entries

/-- The entries with the one of a key replaced, in its place. -/
def replace (key : String) (node : Node) : Entries → Entries
  | [] => []
  | (k, n) :: entries =>
    if k = key then (k, node) :: entries else (k, n) :: replace key node entries

/-- The entries without the one of a key. -/
def erase (key : String) (entries : Entries) : Entries :=
  entries.filter fun entry => entry.1 != key

/-- Adds a value under a dotted key. The table that holds it in the end is the one where the key
started, or one that dotted keys alone have made. -/
def assign (value : Value) : List String → Entries → Option Entries
  | [], _ => none
  | [key], entries =>
    match entries.lookup key with
    | none => some (entries ++ [(key, .leaf value)])
    | some _ => none
  | key :: path, entries =>
    match entries.lookup key with
    | none => do some (entries ++ [(key, .table .dotted (← assign value path []))])
    | some (.leaf _) => none
    | some (.table origin inner) =>
      if origin = .defined ∨ (origin = .implied ∧ path.length = 1) then none
      else do some (replace key (.table origin (← assign value path inner)) entries)
    | some (.tables elements) =>
      match elements.getLast? with
      | none => none
      | some last =>
        if path.length = 1 then none
        else do
          let last ← assign value path last
          some (replace key (.tables (elements.dropLast ++ [last])) entries)

/-- Changes the table at the end of a path, making the tables on the way that are not there. Of
tables in double brackets the last is meant. -/
def update (change : Entries → Option Entries) : List String → Entries → Option Entries
  | [], entries => change entries
  | key :: path, entries =>
    match entries.lookup key with
    | none => do some (entries ++ [(key, .table .implied (← update change path []))])
    | some (.leaf _) => none
    | some (.table origin inner) => do
      some (replace key (.table origin (← update change path inner)) entries)
    | some (.tables elements) =>
      match elements.getLast? with
      | none => none
      | some last => do
        let last ← update change path last
        some (replace key (.tables (elements.dropLast ++ [last])) entries)

/-- Opens the table that a header names. -/
def openTable (key : String) (entries : Entries) : Option Entries :=
  match entries.lookup key with
  | none => some (entries ++ [(key, .table .defined [])])
  | some (.table .implied inner) => some (erase key entries ++ [(key, .table .defined inner)])
  | some _ => none

/-- Opens one more of the tables that a header in double brackets names. -/
def openElement (key : String) (entries : Entries) : Option Entries :=
  match entries.lookup key with
  | none => some (entries ++ [(key, .tables [[]])])
  | some (.tables elements) => some (replace key (.tables (elements ++ [[]])) entries)
  | some _ => none

end Entries

/-! ## The finished tables -/

mutual

/-- The value that a node has become. -/
def Node.value : Node → Value
  | .leaf value => value
  | .table _ entries => .table (Entries.values entries)
  | .tables elements => .array (Entries.arrayValues elements)

/-- The table that entries have become. -/
def Entries.values : List (String × Node) → List (String × Value)
  | [] => []
  | (key, node) :: entries => (key, node.value) :: Entries.values entries

/-- The tables that lists of entries have become. -/
def Entries.arrayValues : List (List (String × Node)) → List Value
  | [] => []
  | entries :: elements => .table (Entries.values entries) :: Entries.arrayValues elements

end

end Doxyfile.Toml

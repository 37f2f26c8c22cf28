import Doxyfile.Toml.DateTime
import Doxyfile.Toml.Number
import Doxyfile.Toml.Text
import Doxyfile.Toml.Tree

/-!
# Parsing a TOML document

A document is read as a list of statements, which are then carried out one after the other on an
empty table: an entry adds a value to the table opened last, and a header opens another. What comes
out is the table of the document with its entries in the order in which they were introduced.

Keys of a document are distinct; a document that gives one twice is refused, like one that is not
well-formed. No reason is told.

Arrays and tables in braces are nested at most 79 deep, and a dotted key has at most 79 parts.
-/

namespace Doxyfile.Toml

/-! ## Keys -/

/-- The characters of a key without quotes. -/
def isKeyChar (c : Char) : Bool :=
  c.isAlphanum || c == '_' || c == '-'

/-- One part of a key: bare, or a string on one line. -/
def simpleKey (cs : List Char) : Option (String × List Char) :=
  match cs with
  | '"' :: cs => (basicText cs).map fun (text, rest) => (String.ofList text, rest)
  | '\'' :: cs => (literalText cs).map fun (text, rest) => (String.ofList text, rest)
  | cs =>
    match cs.takeWhile isKeyChar with
    | [] => none
    | key => some (String.ofList key, cs.dropWhile isKeyChar)

/-- The most parts that a key has, and the most brackets and braces around a value. -/
def maxDepth : Nat := 79

/-- A key of at most so many parts with points between them, and the spaces around it. -/
def dottedKey : Nat → Reader (List String)
  | 0 => fun _ => none
  | parts + 1 => fun cs => do
    let (key, cs) ← simpleKey (skipSpace cs)
    match skipSpace cs with
    | '.' :: cs =>
      let (keys, rest) ← dottedKey parts cs
      some (key :: keys, rest)
    | cs => some ([key], cs)

/-! ## Values -/

/-- A key, an equals sign and a value. -/
def keyValue (value : Reader Value) : Reader (List String × Value) := fun cs => do
  let (path, cs) ← dottedKey maxDepth cs
  let cs ← past? '=' cs
  let (value, rest) ← value (skipSpace cs)
  some ((path, value), rest)

/-- The items of an array past its opening bracket, at most so many, to its closing one. A comma may
follow the last. -/
def arrayItems (item : Reader Value) : Nat → Reader (List Value)
  | 0 => fun _ => none
  | items + 1 => fun cs =>
    match skipFiller false cs with
    | ']' :: rest => some ([], rest)
    | cs => do
      let (value, cs) ← item cs
      match skipFiller false cs with
      | ',' :: cs =>
        let (values, rest) ← arrayItems item items cs
        some (value :: values, rest)
      | ']' :: rest => some ([value], rest)
      | _ => none

/-- The entries of a table in braces, at most so many, to its closing brace. No comma follows the
last. -/
def braceEntries (value : Reader Value) : Nat → Reader (List (List String × Value))
  | 0 => fun _ => none
  | entries + 1 => fun cs => do
    let (entry, cs) ← keyValue value cs
    match skipSpace cs with
    | ',' :: cs =>
      let (others, rest) ← braceEntries value entries cs
      some (entry :: others, rest)
    | '}' :: rest => some ([entry], rest)
    | _ => none

/-- The entries of a table in braces past its opening brace. -/
def braceTable (value : Reader Value) : Reader (List (List String × Value)) := fun cs =>
  match skipSpace cs with
  | '}' :: rest => some ([], rest)
  | _ => braceEntries value cs.length cs

/-- The table that entries make which stand together in braces. -/
def tableOf (entries : List (List String × Value)) : Option Value := do
  let entries ← entries.foldlM (fun table (path, value) => Entries.assign value path table) []
  some (.table (Entries.values entries))

/-- A value that holds no other. -/
def scalar (cs : List Char) : Option (Value × List Char) :=
  match cs with
  | '"' :: _ => (string cs).map fun (text, rest) => (.string text, rest)
  | '\'' :: _ => (string cs).map fun (text, rest) => (.string text, rest)
  | 't' :: 'r' :: 'u' :: 'e' :: rest => some (.boolean true, rest)
  | 'f' :: 'a' :: 'l' :: 's' :: 'e' :: rest => some (.boolean false, rest)
  | cs =>
    match dateTime? cs with
    | some rest => some (.dateTime, rest)
    | none => number cs

/-- A value in which others are nested at most so deep. -/
def value : Nat → Reader Value
  | 0 => scalar
  | depth + 1 => fun cs =>
    match cs with
    | '[' :: cs => do
      let (items, rest) ← arrayItems (value depth) (cs.length + 1) cs
      some (.array items, rest)
    | '{' :: cs => do
      let (entries, rest) ← braceTable (value depth) cs
      some (← tableOf entries, rest)
    | cs => scalar cs

/-! ## Statements -/

/-- A statement of a document. -/
inductive Statement where
  /-- A value under a dotted key. -/
  | entry (path : List String) (value : Value)
  /-- A header that opens a table. -/
  | table (path : List String)
  /-- A header in double brackets, which opens one more table under a key. -/
  | element (path : List String)
deriving Repr

/-- The statement at the head of a text, to the end of its line. -/
def statement (cs : List Char) : Option (Statement × List Char) :=
  match cs with
  | '[' :: '[' :: cs => do
    let (path, cs) ← dottedKey maxDepth cs
    some (.element path, ← lineEnd? (← past? ']' (← past? ']' cs)))
  | '[' :: cs => do
    let (path, cs) ← dottedKey maxDepth cs
    some (.table path, ← lineEnd? (← past? ']' cs))
  | cs => do
    let ((path, value), cs) ← keyValue (value maxDepth) cs
    some (.entry path value, ← lineEnd? cs)

/-- The statements of a text of at most so many lines, lines without one left out. -/
def statements : Nat → List Char → Option (List Statement)
  | 0, _ => none
  | lines + 1, cs =>
    match skipSpace cs with
    | [] => some []
    | cs =>
      match lineEnd? cs with
      | some rest => statements lines rest
      | none => do
        let (first, rest) ← statement cs
        some (first :: (← statements lines rest))

/-! ## Carrying them out -/

/-- A document while it is put together: its table, and the path to the table opened last. -/
structure Builder where
  root : Entries
  current : List String
deriving Repr

/-- Carries a statement out. -/
def Builder.step (builder : Builder) : Statement → Option Builder
  | .entry path value => do
    let root ← builder.root.update (Entries.assign value path) builder.current
    some { builder with root }
  | .table path => do
    let key ← path.getLast?
    some ⟨← builder.root.update (Entries.openTable key) path.dropLast, path⟩
  | .element path => do
    let key ← path.getLast?
    some ⟨← builder.root.update (Entries.openElement key) path.dropLast, path⟩

/-- The text without the byte order mark it may start with. -/
def skipMark : List Char → List Char
  | '\ufeff' :: cs => cs
  | cs => cs

/-- The table of a document, if it is well-formed. -/
def parse (text : String) : Option Table := do
  let cs := skipMark text.toList
  let statements ← statements (cs.length + 1) cs
  let builder ← statements.foldlM Builder.step ⟨[], []⟩
  some (Entries.values builder.root)

end Doxyfile.Toml

/-!
# Settings tables

The values of a settings file and the rules for building its tables line by line: a key is given
once, a table is opened by a header at most once, and tables written inline or by dotted keys are
not reopened.
-/

namespace RecordCoding.Toml

/-- How a table came about. -/
inductive Origin where
  /-- By a header of its own. -/
  | header
  /-- By the header of a table inside it. -/
  | implied
  /-- By a dotted key. -/
  | dotted
  /-- Between braces. -/
  | inline
  deriving Repr, DecidableEq

/-- A value of a settings file. Numbers and dates have no use in settings and are not among
them. -/
inductive Value where
  | text (content : String)
  | boolean (content : Bool)
  | array (elements : List Value)
  | table (origin : Origin) (entries : List (String × Value))
  deriving Repr, BEq, Inhabited

/-- The entries of a table, in the order of their definition. -/
abbrev Entries := List (String × Value)

/-- The value under a key. -/
def lookup? (entries : Entries) (key : String) : Option Value :=
  (entries.find? (·.1 == key)).map (·.2)

/-- The entries with another value under a key. -/
def replace (entries : Entries) (key : String) (value : Value) : Entries :=
  if entries.any (·.1 == key) then
    entries.map fun entry => if entry.1 == key then (key, value) else entry
  else entries ++ [(key, value)]

/-- Whether a dotted key may go on inside a table. -/
def Origin.admitsDottedKey : Origin → Bool
  | .implied | .dotted => true
  | .header | .inline => false

/-- Defines a value under a dotted key. -/
def define : List String → Value → Entries → Option Entries
  | [], _, _ => none
  | [key], value, entries =>
    match lookup? entries key with
    | some _ => none
    | none => some (entries ++ [(key, value)])
  | key :: path, value, entries =>
    match lookup? entries key with
    | none => do
      let inner ← define path value []
      some (entries ++ [(key, .table .dotted inner)])
    | some (.table origin inner) =>
      if origin.admitsDottedKey then
        (define path value inner).map fun inner => replace entries key (.table origin inner)
      else none
    | some _ => none

/-- Opens the table named by a header. -/
def openTable : List String → Entries → Option Entries
  | [], _ => none
  | [key], entries =>
    match lookup? entries key with
    | none => some (entries ++ [(key, .table .header [])])
    | some (.table .implied inner) => some (replace entries key (.table .header inner))
    | some _ => none
  | key :: path, entries =>
    match lookup? entries key with
    | none => do
      let inner ← openTable path []
      some (entries ++ [(key, .table .implied inner)])
    | some (.table .inline _) => none
    | some (.table origin inner) => do
      let inner ← openTable path inner
      some (replace entries key (.table origin inner))
    | some _ => none

/-- Changes the table at a path. -/
def within (change : Entries → Option Entries) : List String → Entries → Option Entries
  | [], entries => change entries
  | key :: path, entries =>
    match lookup? entries key with
    | some (.table origin inner) => do
      let inner ← within change path inner
      some (replace entries key (.table origin inner))
    | _ => none

end RecordCoding.Toml

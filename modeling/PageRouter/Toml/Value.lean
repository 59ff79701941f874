import PageRouter.Text.Basic

/-!
# TOML values and tables

A TOML document is a table: names with values, some of which are tables themselves.  A table can be
written in several pieces — by its header, by headers of tables in it, by dotted names — and which
pieces may be added to which is a rule of its own.  While a document is being read a table therefore
remembers how it came about: whether it has been **implied** by something inside it, and whether it
was implied by a dotted name.

* A dotted name goes only through tables that are implied, and ends in one that a dotted name
  implied.
* A header opens a table that is not there yet, or one that only headers have implied.
* A header in double brackets adds a table to a list of tables.
-/

namespace PageRouter.Toml

inductive Value where
  | text (text : Text)
  /-- A whole number of 64 bits. -/
  | integer (n : Int)
  | flag (value : Bool)
  /-- A number that is not whole. -/
  | float
  /-- A date, a time, or both. -/
  | moment
  | list (items : List Value)
  | inline (entries : List (Text × Value))
  | table (implied dotted : Bool) (entries : List (Text × Value))
  /-- A list of tables, each under a header of its own. -/
  | tables (list : List (List (Text × Value)))

abbrev Entries := List (Text × Value)

namespace Entries

def find? (name : Text) : Entries → Option Value
  | [] => none
  | (other, value) :: rest => if other = name then some value else find? name rest

/-- The entries with a name's value replaced, or with the name at the end. -/
def put (name : Text) (value : Value) : Entries → Entries
  | [] => [(name, value)]
  | (other, old) :: rest =>
    if other = name then (name, value) :: rest else (other, old) :: put name value rest

/-- The entries with a new name. -/
def add? (name : Text) (value : Value) (entries : Entries) : Option Entries :=
  match find? name entries with
  | none => some (entries ++ [(name, value)])
  | some _ => none

/-- **Adding a dotted name** to the entries of a table.  The path is what stands before the last
dot; `inDotted` says whether these entries are those of a table that a dotted name implied. -/
def addDotted? (name : Text) (value : Value) (inDotted : Bool) :
    List Text → Entries → Option Entries
  | [], entries => if inDotted then add? name value entries else none
  | first :: path, entries =>
    match find? first entries with
    | none => do
      let inner ← addDotted? name value true path []
      return entries ++ [(first, .table true true inner)]
    | some (.table true dotted inner) => do
      let inner ← addDotted? name value dotted path inner
      return put first (.table true dotted inner) entries
    | some (.tables list) => do
      let inner ← addDotted? name value false path (list.getLast?.getD [])
      return put first (.tables (list.dropLast ++ [inner])) entries
    | some _ => none

/-- Adding a name, dotted or not, to the entries of a table that has been opened. -/
def addKey? (entries : Entries) (path : List Text) (name : Text) (value : Value) : Option Entries :=
  if path = [] then add? name value entries else addDotted? name value false path entries

/-- Changing the entries at the end of a path of headers.  What is missing on the way is implied,
and a list of tables stands for its last one. -/
def within? (change : Entries → Option Entries) : List Text → Entries → Option Entries
  | [], entries => change entries
  | first :: path, entries =>
    match find? first entries with
    | none => do
      let inner ← within? change path []
      return entries ++ [(first, .table true false inner)]
    | some (.table implied dotted inner) => do
      let inner ← within? change path inner
      return put first (.table implied dotted inner) entries
    | some (.tables list) => do
      let inner ← within? change path (list.getLast?.getD [])
      return put first (.tables (list.dropLast ++ [inner])) entries
    | some _ => none

end Entries

/-! ## Documents -/

/-- A name with a value, as a document writes it. -/
structure Pair where
  /-- What stands before the last dot of the name. -/
  path : List Text
  name : Text
  value : Value

/-- A header with the pairs under it. -/
structure Section where
  /-- Whether the header stands in double brackets. -/
  repeated : Bool
  /-- What stands before the last dot of the header. -/
  path : List Text
  name : Text
  pairs : List Pair

namespace Entries

/-- Entries with pairs added one after the other. -/
def addPairs? (entries : Entries) (pairs : List Pair) : Option Entries :=
  pairs.foldlM (fun entries pair => addKey? entries pair.path pair.name pair.value) entries

/-- **Adding a section** to a document. -/
def addSection? (document : Entries) (piece : Section) : Option Entries :=
  within? (fun entries =>
    if piece.repeated then
      match find? piece.name entries with
      | none => do
        let inner ← addPairs? [] piece.pairs
        return entries ++ [(piece.name, .tables [inner])]
      | some (.tables list) => do
        let inner ← addPairs? [] piece.pairs
        return put piece.name (.tables (list ++ [inner])) entries
      | some _ => none
    else
      match find? piece.name entries with
      | none => do
        let inner ← addPairs? [] piece.pairs
        return entries ++ [(piece.name, .table false false inner)]
      | some (.table true false inner) => do
        let inner ← addPairs? inner piece.pairs
        return put piece.name (.table false false inner) entries
      | some _ => none) piece.path document

/-- The table of a document: the pairs in front of all headers, and the sections. -/
def ofDocument? (pairs : List Pair) (sections : List Section) : Option Entries :=
  (addPairs? [] pairs).bind fun entries => sections.foldlM addSection? entries

end Entries

end PageRouter.Toml

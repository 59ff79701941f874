import PageRouter.Route
import PageRouter.Text.Blank
import PageRouter.Text.Utf8
import PageRouter.Toml.Reader

/-!
# Configuration

A page can be configured by the table `router` of a TOML document.  It may give the root, the number
of elements that a route keeps, and whether the router follows links; whatever it leaves out, and
whatever else the document holds, leaves the defaults.  The table may also be written as a list of
the three in that order.

A document that is blank, and a file that does not exist, configure nothing.
-/

namespace PageRouter

open Text

structure Config where
  root : Option Text
  /-- How many elements a route keeps that says nothing about it. -/
  cacheCount : Nat
  interceptLinks : Bool
  deriving DecidableEq, Repr

inductive ConfigError where
  /-- The text does not configure a router. -/
  | invalid
  /-- The file cannot be read as text. -/
  | unreadable (path : Text)
  /-- The text of the file does not configure a router. -/
  | unparsable (path : Text)
  deriving DecidableEq, Repr

/-- The wording of a configuration's error. -/
def ConfigError.message : ConfigError → Text
  | .invalid => "Invalid router configuration".toList
  | .unreadable path => "Failed to read config file: ".toList ++ path
  | .unparsable path => "Failed to parse config file: ".toList ++ path

namespace Config

open Toml (Value Entries)

/-- The configuration of a page that says nothing. -/
def default : Config := ⟨none, 1, true⟩

/-- How many elements a route keeps: at least one. -/
def effectiveCacheCount (config : Config) : Nat :=
  clampCacheCount config.cacheCount

/-! ## From TOML -/

/-- A field from its value, if it has one. -/
def field? {α : Type} (value : Option Value) (missing : α) (read? : Value → Option α) : Option α :=
  match value with
  | none => some missing
  | some value => read? value

def root? : Value → Option (Option Text)
  | .text root => some (some root)
  | _ => none

/-- A number of elements is a whole number that is not negative. -/
def count? : Value → Option Nat
  | .integer n => if 0 ≤ n then some n.toNat else none
  | _ => none

/-- A switch is a truth value. -/
def switch? : Value → Option Bool
  | .flag value => some value
  | _ => none

/-- A configuration from the values of its three fields. -/
def ofFields? (root count links : Option Value) : Option Config := do
  return {
    root := ← field? root default.root root?
    cacheCount := ← field? count default.cacheCount count?
    interceptLinks := ← field? links default.interceptLinks switch? }

/-- A configuration from the entries of a table. -/
def ofEntries? (entries : Entries) : Option Config :=
  ofFields? (entries.find? "root".toList) (entries.find? "cache_count".toList)
    (entries.find? "intercept_links".toList)

/-- **A configuration from a value.**  A table names its fields and a list has them in order; a date
is a table without any of them. -/
def ofValue? : Value → Option Config
  | .table _ _ entries => ofEntries? entries
  | .inline entries => ofEntries? entries
  | .list items => ofFields? items[0]? items[1]? items[2]?
  | .tables list => ofFields? (list[0]?.map .inline) (list[1]?.map .inline) (list[2]?.map .inline)
  | .moment => some default
  | _ => none

/-- The configuration that a text holds. -/
def ofText (text : Text) : Except ConfigError Config :=
  if text.all isBlank then .ok default
  else match (Toml.read? text).bind fun document =>
      field? (document.find? "router".toList) default ofValue? with
    | some config => .ok config
    | none => .error .invalid

/-! ## From files -/

/-- What is found under the path of a file. -/
inductive File where
  | missing
  /-- Something that has no content, such as a directory. -/
  | contentless
  | content (octets : List Octet)

/-- The configuration that a file holds. -/
def load (path : Text) : File → Except ConfigError Config
  | .missing => .ok default
  | .contentless => .error (.unreadable path)
  | .content octets =>
    match ofUtf8? octets with
    | none => .error (.unreadable path)
    | some text => (ofText text).mapError fun _ => .unparsable path

end Config

end PageRouter

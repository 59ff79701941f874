import PageRouter.Text.Percent

/-!
# Query strings

The query of a location is a list of names and values in the form that HTML forms are sent in: pairs
are parted by `&`, a name and its value by the first `=`, a blank is written `+`, and all octets but
those of letters, digits and `*-._` are escaped.

* `Query.parse` reads a query, with or without the `?` in front of it, and never fails: a pair
  without `=` has an empty value, empty pairs are skipped, and octets that are no text become
  U+FFFD.
* `Query.write` writes a list of pairs.
* `Query.merge` applies updates, each of which sets a name or deletes it.
-/

namespace PageRouter

open Text

/-- Names with their values, in the order of the query. -/
abbrev Query := List (Text × Text)

namespace Query

/-! ## Reading -/

/-- A name or value as it is meant: `+` is a blank, and escapes stand for octets. -/
def decodePart (part : Text) : Text :=
  ofUtf8Lossy (Octet.unescape (utf8 (part.map fun c => if c = '+' then ' ' else c)))

/-- One pair, cut at its first `=`. -/
def decodePair (pair : Text) : Text × Text :=
  match cutAt? '=' pair with
  | some (name, value) => (decodePart name, decodePart value)
  | none => (decodePart pair, [])

/-- The query without the `?` in front of it, if there is one. -/
def dropMark : Text → Text
  | '?' :: query => query
  | query => query

def parse (query : Text) : Query :=
  ((splitOn '&' (dropMark query)).filter (· ≠ [])).map decodePair

/-! ## Writing -/

/-- The characters that stand for themselves in a written query. -/
def isPlain (c : Char) : Bool :=
  isLetter c || isDigit c || c == '*' || c == '-' || c == '.' || c == '_'

/-- A name or value as it is written. -/
def encodePart (part : Text) : Text :=
  part.flatMap fun c => if c = ' ' then ['+'] else escapeUnless isPlain [c]

/-- One pair as it is written. -/
def encodePair (pair : Text × Text) : Text :=
  encodePart pair.1 ++ '=' :: encodePart pair.2

/-- A query as it is written, without a `?` in front. -/
def write (query : Query) : Text :=
  joinWith '&' (query.map encodePair)

/-! ## Updates -/

/-- A name, and the value it is set to, or `none` where it is to be deleted. -/
abbrev Update := Text × Option Text

/-- The query without the pairs of one name. -/
def erase (query : Query) (name : Text) : Query :=
  query.filter (·.1 ≠ name)

/-- **Setting a name.**  The first pair with this name takes the value, the others go; a new name
is put at the end. -/
def set (name value : Text) : Query → Query
  | [] => [(name, value)]
  | pair :: rest =>
    if pair.1 = name then (name, value) :: erase rest name
    else pair :: set name value rest

def update (query : Query) : Update → Query
  | (name, some value) => set name value query
  | (name, none) => erase query name

/-- The query after a list of updates, one after the other. -/
def merge (query : Query) (updates : List Update) : Query :=
  updates.foldl update query

end Query

end PageRouter

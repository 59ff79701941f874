import PageRouter.Address.Host

/-!
# Addresses

A link names its target by an **address**, which may leave out the parts it shares with the address
of the page it stands on.  `Address.parse` reads a complete address, `Address.join` an address that
may be relative to another one.

An address keeps what decides where a link leads: its scheme, host, port, path and query.  Names and
passwords in front of the host, and fragments, are read over.

The **special** schemes are those of the web.  Their hosts have a meaning, their paths are never
empty, a backslash is a slash for them, and a port that is the usual one of the scheme is left out.
-/

namespace PageRouter

open Text

/-! ## Schemes -/

/-- What a scheme says about its addresses. -/
inductive SchemeKind where
  | web
  | file
  | other
  deriving DecidableEq, Repr

/-- The usual port of a scheme of the web. -/
def usualPort? (scheme : Text) : Option Nat :=
  if scheme = "http".toList ∨ scheme = "ws".toList then some 80
  else if scheme = "https".toList ∨ scheme = "wss".toList then some 443
  else if scheme = "ftp".toList then some 21
  else none

def SchemeKind.of (scheme : Text) : SchemeKind :=
  if (usualPort? scheme).isSome then .web
  else if scheme = "file".toList then .file
  else .other

/-- Whether a kind of scheme is special. -/
def SchemeKind.special (kind : SchemeKind) : Bool :=
  kind ≠ .other

/-- The characters of a scheme behind its first letter. -/
def isSchemeChar (c : Char) : Bool :=
  isLetter c || isDigit c || c == '+' || c == '-' || c == '.'

/-- A scheme, in small letters, and what follows its colon. -/
def splitScheme? (text : Text) : Option (Text × Text) :=
  match cutAt? ':' text with
  | some (scheme, rest) =>
    if (scheme.head?.map isLetter).getD false && scheme.all isSchemeChar then
      some (lower scheme, rest)
    else none
  | none => none

/-! ## Paths -/

inductive AddressPath where
  /-- Segments, each with a slash in front. -/
  | segments (list : List Text)
  /-- A text that no segment can be added to. -/
  | whole (text : Text)
  deriving DecidableEq, Repr

def AddressPath.text : AddressPath → Text
  | .segments list => list.flatMap ('/' :: ·)
  | .whole text => text

/-- **An address.** -/
structure Address where
  scheme : Text
  /-- The host, if there is one. -/
  host : Option Host
  /-- The port, if it is not the usual one. -/
  port : Option Nat
  path : AddressPath
  query : Option Text
  deriving DecidableEq, Repr

namespace Address

/-! ## Escapes -/

/-- Whether a character stands for itself in a path without segments. -/
def keptInWhole (c : Char) : Bool :=
  ' ' ≤ c && c ≤ '~'

/-- Whether a character stands for itself in a segment. -/
def keptInSegment (c : Char) : Bool :=
  '!' ≤ c && c ≤ '~' && !(['"', '#', '<', '>', '?', '\x60', '\x7b', '\x7d'].contains c)

/-- Whether a character stands for itself in a query. -/
def keptInQuery (special : Bool) (c : Char) : Bool :=
  '!' ≤ c && c ≤ '~' && !(['"', '#', '<', '>'].contains c) && !(special && c == '\'')

/-! ## Reading paths and queries -/

def isSlash (special : Bool) (c : Char) : Bool :=
  c == '/' || (special && c == '\\')

/-- The parts of a text between slashes. -/
def splitSlashes (special : Bool) (text : Text) : List Text :=
  splitOn '/' (text.map fun c => if isSlash special c then '/' else c)

/-- Whether a segment stands for the place it is in: a dot. -/
def isDot (segment : Text) : Bool :=
  [['.'], "%2e".toList].contains (lower segment)

/-- Whether a segment stands for the place above: two dots, any of which may be escaped. -/
def isDoubleDot (segment : Text) : Bool :=
  [['.', '.'], ".%2e".toList, "%2e.".toList, "%2e%2e".toList].contains (lower segment)

/-- Whether a text is a drive: a letter and a colon or a bar. -/
def isDrive : Text → Bool
  | [c, d] => isLetter c && (d == ':' || d == '|')
  | _ => false

/-- The segments above a list of segments: without the last one, unless it is a drive, which no
path leads out of. -/
def above (path : List Text) : List Text :=
  if (path.getLast?.map isDrive).getD false then path else path.dropLast

/-- **Walking a path.**  From a list of segments, each further one is added, is skipped, or leads
above the last one; a walk that ends on a dot or two ends in an empty segment. -/
def walk (path : List Text) : List Text → List Text
  | [] => path
  | segment :: rest =>
    let here := if isDoubleDot segment then above path else path
    if isDoubleDot segment || isDot segment then
      if rest = [] then here ++ [[]] else walk here rest
    else walk (path ++ [escapeUnless keptInSegment segment]) rest

/-- A text before and after the first `?` or `#`; the mark belongs to what follows. -/
def splitPath (text : Text) : Text × Text :=
  (text.takeWhile fun c => c ≠ '?' && c ≠ '#', text.dropWhile fun c => c ≠ '?' && c ≠ '#')

/-- The query at the start of what follows a path: behind `?` and up to `#`. -/
def readQuery (special : Bool) : Text → Option Text
  | '?' :: rest => some (escapeUnless (keptInQuery special) (rest.takeWhile (· ≠ '#')))
  | _ => none

/-- A path and a query that go on from given segments. -/
def goOn (special : Bool) (path : List Text) (text : Text) : AddressPath × Option Text :=
  let (here, rest) := splitPath text
  (.segments (walk path (splitSlashes special here)), readQuery special rest)

/-- A path and a query behind a host.  Only a path that is not special can be empty. -/
def afterHost (special : Bool) (text : Text) : AddressPath × Option Text :=
  match text with
  | [] => if special then goOn special [] [] else (.segments [], none)
  | c :: rest =>
    if isSlash special c then goOn special [] rest
    else if !special && (c = '?' || c = '#') then (.segments [], readQuery special text)
    else goOn special [] text

/-! ## Reading hosts and ports -/

/-- Whether a character ends the part of an address that holds the host. -/
def endsAuthority (special : Bool) (c : Char) : Bool :=
  c == '?' || c == '#' || isSlash special c

/-- The text behind the last `@`, and what stands in front of it, if there is one. -/
def splitUser (authority : Text) : Option Text × Text :=
  if authority.contains '@' then
    let host := (authority.reverse.takeWhile (· ≠ '@')).reverse
    (some (authority.take (authority.length - host.length - 1)), host)
  else (none, authority)

/-- A host and what follows it, up to a colon that does not stand between brackets. -/
def splitHost (inside : Bool) : Text → Text × Text
  | [] => ([], [])
  | c :: rest =>
    if c = ':' && !inside then ([], c :: rest)
    else
      let inside := if c = '[' then true else if c = ']' then false else inside
      let (host, port) := splitHost inside rest
      (c :: host, port)

/-- A port: digits behind a colon, at most 65535; none where there are no digits. -/
def readPort? (scheme : Text) : Text → Option (Option Nat)
  | [] => some none
  | _ :: [] => some none
  | _ :: digits =>
    match number? 10 0 digits with
    | some port =>
      if 65535 < port then none
      else some (if usualPort? scheme = some port then none else some port)
    | none => none

/-- **An address from what follows `//`.**  A special scheme wants a host; another one may do
without, but then neither a port nor a user stands there. -/
def readAuthority (scheme : Text) (text : Text) : Option Address :=
  let special := (SchemeKind.of scheme).special
  let authority := text.takeWhile fun c => !endsAuthority special c
  let rest := text.dropWhile fun c => !endsAuthority special c
  let (user, place) := splitUser authority
  let (hostText, portText) := splitHost false place
  -- a port ends at a backslash for every scheme, and what follows is the path
  let digits := portText.takeWhile (· ≠ '\\')
  let rest := portText.dropWhile (· ≠ '\\') ++ rest
  if user = some [] ∧ place = [] ∧ rest ≠ [] then none
  else if hostText = [] then
    if special ∨ portText ≠ [] ∨ (user ≠ none ∧ user ≠ some [] ∧ user ≠ some [':']) then none
    else
      let (path, query) := afterHost special rest
      some ⟨scheme, none, none, path, query⟩
  else
    let host? := if special then Host.parse hostText else Host.parseAny hostText
    match host?, readPort? scheme digits with
    | some host, some port =>
      let (path, query) := afterHost special rest
      some ⟨scheme, some host, port, path, query⟩
    | _, _ => none

/-! ## Files -/

/-- The address of a file from what follows `//`.  A drive is the start of a path and no host, and
the local host is no host either. -/
def readFileHost (text : Text) : Option Address :=
  let hostText := text.takeWhile fun c => !endsAuthority true c
  let rest := text.dropWhile fun c => !endsAuthority true c
  let found : Option (Option Host × Text) :=
    if isDrive hostText then some (none, text)
    else if hostText = [] then some (none, rest)
    else (Host.parse hostText).map fun host =>
      (if host = .name "localhost".toList then none else some host, rest)
  found.map fun (host, rest) =>
    let (path, query) := afterHost true rest
    ⟨"file".toList, host, none, path, query⟩

/-- The address that the addresses of files are relative to where there is no other. -/
def fileRoot : Address :=
  ⟨"file".toList, none, none, .segments [[]], none⟩

/-! ## Relative addresses -/

/-- The segments that a relative path goes on from: all but the last. -/
def directory (base : Address) : List Text :=
  match base.path with
  | .segments list => list.dropLast
  | .whole _ => []

/-- An address with the path and query that a text gives, going on from segments. -/
def goingOn (base : Address) (start : List Text) (text : Text) : Address :=
  let (path, query) := goOn (SchemeKind.of base.scheme).special start text
  { base with path := path, query := query }

/-- **An address relative to another one**, without a scheme of its own.  Slash and backslash mean
the same here, and two of them begin a host. -/
def relative (base : Address) (text : Text) : Option Address :=
  match text with
  | [] => some base
  | '?' :: _ => some { base with query := readQuery (SchemeKind.of base.scheme).special text }
  | '#' :: _ => some base
  | c :: rest =>
    if isSlash true c then
      if (rest.head?.map (isSlash true)).getD false then
        if SchemeKind.of base.scheme = .file then readFileHost (rest.drop 1)
        else match after? ['/', '/'] text with
          | some authority => readAuthority base.scheme authority
          | none => readAuthority base.scheme (text.dropWhile (isSlash true))
      else some (base.goingOn [] rest)
    else some (base.goingOn base.directory text)

/-- An address from its scheme and what follows the colon. -/
def ofScheme (base : Option Address) (scheme rest : Text) : Option Address :=
  let same := base.filter (·.scheme = scheme)
  match SchemeKind.of scheme with
  | .web =>
    let slashes := rest.takeWhile (isSlash true)
    match if slashes.length < 2 then same else none with
    | some base => base.relative rest
    | none => readAuthority scheme (rest.dropWhile (isSlash true))
  | .file => (same.getD fileRoot).relative rest
  | .other =>
    match rest with
    | '/' :: '/' :: authority => readAuthority scheme authority
    | '/' :: path =>
      let (path, query) := goOn false [] path
      some ⟨scheme, none, none, path, query⟩
    | _ =>
      let (path, rest) := splitPath rest
      some ⟨scheme, none, none, .whole (escapeUnless keptInWhole path), readQuery false rest⟩

/-! ## Reading -/

/-- A text without the control characters and blanks around it, and without tabs and line ends. -/
def clean (text : Text) : Text :=
  let blank (c : Char) : Bool := c ≤ ' '
  ((text.dropWhile blank).reverse.dropWhile blank).reverse.filter fun c =>
    c ≠ '\t' && c ≠ '\n' && c ≠ '\r'

/-- An address that may be relative to another one, if there is one. -/
def read (base : Option Address) (text : Text) : Option Address :=
  let text := clean text
  match splitScheme? text with
  | some (scheme, rest) => ofScheme base scheme rest
  | none =>
    match base with
    | none => none
    | some base =>
      match base.path, text.head? with
      | .whole _, some '#' => some base
      | .whole _, _ => none
      | .segments _, _ => base.relative text

def parse (text : Text) : Option Address :=
  read none text

/-- The address that a text names on the page with a given address. -/
def join (base : Address) (text : Text) : Option Address :=
  read (some base) text

/-! ## Where an address leads -/

/-- Where the content of an address comes from. -/
structure Origin where
  scheme : Text
  host : Host
  port : Nat
  deriving DecidableEq, Repr

/-- The origin of an address of the web. -/
def webOrigin? (address : Address) : Option Origin :=
  match address.host, address.port, usualPort? address.scheme with
  | some host, some port, some _ => some ⟨address.scheme, host, port⟩
  | some host, none, some port => some ⟨address.scheme, host, port⟩
  | _, _, _ => none

/-- **The origin of an address.**  Content stored under a `blob` address comes from the address that
is its path; all other addresses but those of the web have an origin that equals no other. -/
def origin? (depth : Nat) (address : Address) : Option Origin :=
  match depth with
  | 0 => address.webOrigin?
  | depth + 1 =>
    if address.scheme = "blob".toList then (parse address.path.text).bind (origin? depth)
    else address.webOrigin?

/-- The origin of an address, through as many `blob` addresses as its path has room for. -/
def origin (address : Address) : Option Origin :=
  origin? address.path.text.length address

/-- The path of an address, with its query. -/
def location (address : Address) : Text :=
  address.path.text ++
    match address.query with
    | some query => '?' :: query
    | none => []

end Address

end PageRouter

import Mathlib.Data.Bool.AllAny
import PageRouter.Proofs.Outside

/-!
# Links and origins

A link is followed only if its target has the origin of the page.  The page's address is its origin
with the current location behind it, and the router finds it by resolving the location relative to
the origin.  The two agree unless the location, read as a link, names a host of its own
(`pageAddress?_eq`), which it does if it begins with two slashes.

What has an origin is an address of the web or a `blob` address, which borrows the origin of what it
holds.  The path of an address of the web begins with a slash (`Address.Rooted`), that of a `blob`
address is the address inside.  So a link that is followed from a location that names no host has a
target with the scheme, the host and the port of the page, and leads to a location that begins with a
slash, exactly if it is no `blob` (`Page.followed_stays`).
-/

namespace PageRouter

open Text

/-! ## Texts up to a mark -/

section Stops

variable {p : Char → Bool} {front rest : Text}

lemma takeWhile_of_stop (hfront : ∀ c ∈ front, p c) (hstop : ∀ c ∈ rest.head?, p c = false) :
    (front ++ rest).takeWhile p = front := by
  rw [List.takeWhile_append_of_pos hfront]
  cases rest with
  | nil => simp
  | cons c rest => simp [hstop c rfl]

lemma dropWhile_of_stop (hfront : ∀ c ∈ front, p c) (hstop : ∀ c ∈ rest.head?, p c = false) :
    (front ++ rest).dropWhile p = rest := by
  rw [List.dropWhile_append_of_pos hfront]
  cases rest with
  | nil => rfl
  | cons c rest => simp [hstop c rfl]

end Stops

namespace Address

variable {address base : Address} {scheme text place rest : Text}

/-! ## Paths of the web -/

/-- The path of a special address has segments. -/
def Rooted (address : Address) : Prop :=
  (SchemeKind.of address.scheme).special → ∃ list, address.path = .segments list ∧ list ≠ []

lemma walk_ne_nil {path segments : List Text} (h : segments ≠ []) : walk path segments ≠ [] := by
  induction segments generalizing path with
  | nil => exact absurd rfl h
  | cons segment rest ih =>
      rw [walk]
      split
      · split
        · simp
        · next hrest => exact ih hrest
      · cases rest with
        | nil => simp [walk]
        | cons next rest => exact ih (by simp)

lemma goOn_rooted (special : Bool) (path : List Text) (text : Text) :
    ∃ list, (goOn special path text).1 = .segments list ∧ list ≠ [] :=
  ⟨_, rfl, walk_ne_nil (splitOn_ne_nil _ _)⟩

lemma afterHost_rooted (text : Text) :
    ∃ list, (afterHost true text).1 = .segments list ∧ list ≠ [] := by
  cases text with
  | nil => exact goOn_rooted true [] []
  | cons c rest =>
      rw [afterHost]
      split
      · exact goOn_rooted true [] rest
      · exact goOn_rooted true [] (c :: rest)

lemma Rooted.goingOn (start : List Text) (text : Text) : (base.goingOn start text).Rooted :=
  fun _ => goOn_rooted _ start text

/-! ## Hosts and ports -/

/-- The host and the port at the start of a text, and what follows them. -/
def hostAndPort? (scheme text : Text) : Option (Option Host × Option Nat × Text) :=
  let special := (SchemeKind.of scheme).special
  let authority := text.takeWhile fun c => !endsAuthority special c
  let rest := text.dropWhile fun c => !endsAuthority special c
  let (user, place) := splitUser authority
  let (hostText, portText) := splitHost false place
  let digits := portText.takeWhile (· ≠ '\\')
  let rest := portText.dropWhile (· ≠ '\\') ++ rest
  if user = some [] ∧ place = [] ∧ rest ≠ [] then none
  else if hostText = [] then
    if special ∨ portText ≠ [] ∨ (user ≠ none ∧ user ≠ some [] ∧ user ≠ some [':']) then none
    else some (none, none, rest)
  else
    (if special then Host.parse hostText else Host.parseAny hostText).bind fun host =>
      (readPort? scheme digits).map fun port => (some host, port, rest)

/-- The address with a host and a port, and the path and the query that a text gives. -/
def behindHost (scheme : Text) (found : Option Host × Option Nat × Text) : Address where
  scheme := scheme
  host := found.1
  port := found.2.1
  path := (afterHost (SchemeKind.of scheme).special found.2.2).1
  query := (afterHost (SchemeKind.of scheme).special found.2.2).2

/-- An address is read up to its host and port, and then its path. -/
lemma readAuthority_eq (scheme text : Text) :
    readAuthority scheme text = (hostAndPort? scheme text).map (behindHost scheme) := by
  unfold readAuthority hostAndPort?
  simp only
  split
  · rfl
  · split
    · split <;> rfl
    · split
      · next hhost hport =>
          rw [hhost, hport]
          rfl
      · next hneither =>
          refine (Option.map_eq_none_iff.2 (Option.bind_eq_none_iff.2 fun host hhost => ?_)).symm
          rw [Option.map_eq_none_iff, Option.eq_none_iff_forall_ne_some]
          exact fun port hport => hneither host port hhost hport

lemma mem_of_mem_port {inside : Bool} {c : Char} (h : c ∈ (splitHost inside text).2) : c ∈ text := by
  induction text generalizing inside with
  | nil => cases h
  | cons d rest ih =>
      rw [splitHost] at h
      split at h
      · exact h
      · exact List.mem_cons_of_mem d (ih h)

lemma mem_of_mem_place {c : Char} (h : c ∈ (splitUser text).2) : c ∈ text := by
  rw [splitUser] at h
  split at h
  · rw [List.mem_reverse] at h
    exact List.mem_reverse.1 (List.takeWhile_prefix _ |>.subset h)
  · exact h

/-- **A host with a path behind it.**  Where the host ends makes no difference to what it is. -/
lemma hostAndPort?_append (hspecial : (SchemeKind.of scheme).special)
    (hplace : ∀ c ∈ place, endsAuthority true c = false)
    (hrest : ∀ c ∈ rest.head?, endsAuthority true c) :
    hostAndPort? scheme (place ++ rest) =
      (hostAndPort? scheme place).map fun (host, port, _) => (host, port, rest) := by
  have hkept : ∀ c ∈ place, (!endsAuthority true c) = true := by
    intro c hc
    rw [hplace c hc]
    rfl
  have hstop : ∀ c ∈ rest.head?, (!endsAuthority true c) = false := by
    intro c hc
    rw [hrest c hc]
    rfl
  have hwhole : (place ++ []).takeWhile (fun c => !endsAuthority true c) = place :=
    takeWhile_of_stop hkept (by simp)
  have hnothing : (place ++ []).dropWhile (fun c => !endsAuthority true c) = [] :=
    dropWhile_of_stop hkept (by simp)
  -- a backslash would have ended the host
  have hport : ((splitHost false (splitUser place).2).2 ++ []).dropWhile (· ≠ '\\') = [] := by
    refine dropWhile_of_stop (fun c hc => ?_) (by simp)
    have hends := hplace c (mem_of_mem_place (mem_of_mem_port hc))
    rw [decide_eq_true_eq]
    rintro rfl
    cases hends
  rw [List.append_nil] at hwhole hnothing hport
  simp only [hostAndPort?, hspecial, takeWhile_of_stop hkept hstop, dropWhile_of_stop hkept hstop,
    hwhole, hnothing, hport, List.append_nil, List.nil_append, if_true, true_or]
  by_cases hname : (splitHost false (splitUser place).2).1 = []
  · simp only [hname, if_true, ite_self, Option.map_none]
  · have hne : (splitUser place).2 ≠ [] := by
      intro hnil
      rw [hnil] at hname
      exact hname rfl
    simp only [hname, hne, false_and, and_false, if_false]
    cases Host.parse (splitHost false (splitUser place).2).1 with
    | none => rfl
    | some host => cases readPort? scheme _ <;> rfl

/-- A special address with a path behind it. -/
lemma readAuthority_append (hspecial : (SchemeKind.of scheme).special)
    (hplace : ∀ c ∈ place, endsAuthority true c = false)
    (hrest : ∀ c ∈ rest.head?, endsAuthority true c) :
    readAuthority scheme (place ++ rest) = (readAuthority scheme place).map fun address =>
      { address with path := (afterHost true rest).1, query := (afterHost true rest).2 } := by
  rw [readAuthority_eq, readAuthority_eq, hostAndPort?_append hspecial hplace hrest, Option.map_map,
    Option.map_map]
  refine congrArg (Option.map · _) (funext fun found => ?_)
  simp only [Function.comp_apply, behindHost, hspecial]

/-- What is read as a host alone has the path of an empty text. -/
lemma fields_of_readAuthority (hspecial : (SchemeKind.of scheme).special)
    (hplace : ∀ c ∈ place, endsAuthority true c = false)
    (h : readAuthority scheme place = some address) :
    address.scheme = scheme ∧ address.path = .segments [[]] := by
  constructor
  · rw [readAuthority_eq] at h
    obtain ⟨found, -, rfl⟩ := Option.map_eq_some_iff.1 h
    rfl
  · have happend : readAuthority scheme (place ++ []) = _ :=
      readAuthority_append hspecial hplace (by simp)
    rw [List.append_nil, h, Option.map_some, Option.some.injEq] at happend
    rw [happend]
    rfl

/-! ## Addresses have paths -/

lemma Rooted.behindHost (scheme : Text) (found : Option Host × Option Nat × Text) :
    (behindHost scheme found).Rooted := by
  intro hspecial
  show ∃ list, (afterHost (SchemeKind.of scheme).special found.2.2).1 = .segments list ∧ list ≠ []
  rw [show (SchemeKind.of scheme).special = true from hspecial]
  exact afterHost_rooted found.2.2

lemma rooted_of_readAuthority (h : readAuthority scheme text = some address) : address.Rooted := by
  rw [readAuthority_eq] at h
  obtain ⟨found, -, rfl⟩ := Option.map_eq_some_iff.1 h
  exact .behindHost scheme found

lemma rooted_of_readFileHost (h : readFileHost text = some address) : address.Rooted := by
  obtain ⟨found, -, rfl⟩ := Option.map_eq_some_iff.1 h
  intro _
  exact afterHost_rooted found.2

/-! ## What reading keeps -/

/-- A property that every way of reading an address gives, or keeps where the address is relative to
another one. -/
structure KeptByReading (P : Address → Prop) : Prop where
  fileRoot : P fileRoot
  query : ∀ base text, P base →
    P { base with query := readQuery (SchemeKind.of base.scheme).special text }
  goingOn : ∀ base start text, P base → start = [] ∨ start = base.directory →
    P (base.goingOn start text)
  authority : ∀ scheme text address, readAuthority scheme text = some address → P address
  fileHost : ∀ text address, readFileHost text = some address → P address
  other : ∀ scheme path query, SchemeKind.of scheme = .other →
    P ⟨scheme, none, none, path, query⟩

section KeptByReading

variable {P : Address → Prop} (hkept : KeptByReading P)

include hkept

lemma KeptByReading.relative (hbase : P base) (h : base.relative text = some address) :
    P address := by
  unfold Address.relative at h
  split at h
  · cases h
    exact hbase
  · cases h
    exact hkept.query base _ hbase
  · cases h
    exact hbase
  · split at h
    · split at h
      · split at h
        · exact hkept.fileHost _ _ h
        · split at h
          · exact hkept.authority _ _ _ h
          · exact hkept.authority _ _ _ h
      · cases h
        exact hkept.goingOn base [] _ hbase (.inl rfl)
    · cases h
      exact hkept.goingOn base _ _ hbase (.inr rfl)

lemma KeptByReading.ofScheme {base : Option Address} (hbase : ∀ address ∈ base, P address)
    (h : ofScheme base scheme text = some address) : P address := by
  have hsame : ∀ address, base.filter (·.scheme = scheme) = some address → P address :=
    fun address hfilter => hbase address (Option.filter_eq_some_iff.1 hfilter).1
  unfold Address.ofScheme at h
  simp only at h
  split at h
  · split at h
    · next found hfound =>
        split at hfound
        · exact hkept.relative (hsame found hfound) h
        · cases hfound
    · exact hkept.authority _ _ _ h
  · cases hfound : base.filter (·.scheme = scheme) with
    | none =>
        rw [hfound] at h
        exact hkept.relative hkept.fileRoot h
    | some found =>
        rw [hfound] at h
        exact hkept.relative (hsame found hfound) h
  · next hother =>
      split at h
      · exact hkept.authority _ _ _ h
      · cases h
        exact hkept.other _ _ _ hother
      · cases h
        exact hkept.other _ _ _ hother

/-- **Whatever is read** has such a property, if the address has it that the text may be relative
to. -/
lemma KeptByReading.read {base : Option Address} (hbase : ∀ address ∈ base, P address)
    (h : read base text = some address) : P address := by
  unfold Address.read at h
  simp only at h
  split at h
  · exact hkept.ofScheme hbase h
  · split at h
    · cases h
    · next here =>
        split at h
        · cases h
          exact hbase _ rfl
        · cases h
        · exact hkept.relative (hbase here rfl) h

end KeptByReading

/-- **Whatever is read has a path.** -/
lemma keptByReading_rooted : KeptByReading Rooted where
  fileRoot := fun _ => ⟨_, rfl, List.cons_ne_nil _ _⟩
  query := fun _ _ hbase => hbase
  goingOn := fun _ start text _ _ => .goingOn start text
  authority := fun _ _ _ => rooted_of_readAuthority
  fileHost := fun _ _ => rooted_of_readFileHost
  other := fun scheme path query hother hspecial => by
    rw [hother] at hspecial
    cases hspecial

/-! ## Origins -/

lemma usualPort?_of_webOrigin? {place : Origin} (h : address.webOrigin? = some place) :
    (usualPort? address.scheme).isSome := by
  unfold webOrigin? at h
  split at h
  · next husual => rw [husual]; rfl
  · next husual => rw [husual]; rfl
  · cases h

/-- An address with an origin of the web has a location that begins with a slash. -/
lemma Rooted.head?_location (hrooted : address.Rooted) {place : Origin}
    (h : address.webOrigin? = some place) : address.location.head? = some '/' := by
  have hkind : SchemeKind.of address.scheme = .web := if_pos (usualPort?_of_webOrigin? h)
  obtain ⟨list, hpath, hne⟩ := hrooted (by rw [hkind]; rfl)
  cases list with
  | nil => exact absurd rfl hne
  | cons segment list => rw [location, hpath]; rfl

lemma origin_of_ne_blob (h : address.scheme ≠ "blob".toList) :
    address.origin = address.webOrigin? := by
  rw [origin]
  cases address.path.text.length with
  | zero => rfl
  | succ depth => rw [origin?, if_neg h]

lemma origin_of_web (h : SchemeKind.of address.scheme = .web) : address.origin = address.webOrigin? := by
  refine origin_of_ne_blob fun hblob => ?_
  rw [hblob] at h
  exact absurd h (by decide)

lemma webOrigin?_of_blob (h : address.scheme = "blob".toList) : address.webOrigin? = none := by
  cases hplace : address.webOrigin? with
  | none => rfl
  | some place =>
      have husual := usualPort?_of_webOrigin? hplace
      rw [h] at husual
      exact absurd husual (by decide)

/-- A text that begins with a slash names no scheme. -/
lemma splitScheme?_slash (text : Text) : splitScheme? ('/' :: text) = none := by
  rw [splitScheme?, cutAt?, if_neg (by decide)]
  cases cutAt? ':' text with
  | none => rfl
  | some parts => rfl

/-- A text without the blanks at its end, and without tabs and line ends. -/
def cleanEnd (text : Text) : Text :=
  (text.reverse.dropWhile fun c => decide (c ≤ ' ')).reverse.filter fun c =>
    c ≠ '\t' && c ≠ '\n' && c ≠ '\r'

/-- A text is cleaned behind what holds no blank. -/
lemma clean_append {front : Text} (hfront : ∀ c ∈ front, ' ' < c) (hne : front ≠ []) (rest : Text) :
    clean (front ++ rest) = front ++ cleanEnd rest := by
  have hstart : ∀ texts : List Char, texts ≠ [] → (∀ c ∈ texts, ' ' < c) → ∀ more,
      (texts ++ more).dropWhile (fun c => decide (c ≤ ' ')) = texts ++ more := by
    intro texts htexts hblank more
    cases texts with
    | nil => exact absurd rfl htexts
    | cons c texts =>
        have hc : ¬c ≤ ' ' := Char.not_le.2 (hblank c (List.mem_cons_self ..))
        simp [hc]
  have hend : (rest.reverse ++ front.reverse).dropWhile (fun c => decide (c ≤ ' ')) =
      rest.reverse.dropWhile (fun c => decide (c ≤ ' ')) ++ front.reverse := by
    have hreverse := hstart front.reverse (by simpa using hne)
      (fun c hc => hfront c (List.mem_reverse.1 hc)) []
    rw [List.append_nil] at hreverse
    rw [List.dropWhile_append]
    split
    · next hempty => rw [hreverse, List.isEmpty_iff.1 hempty, List.nil_append]
    · rfl
  have hkept : front.filter (fun c => c ≠ '\t' && c ≠ '\n' && c ≠ '\r') = front := by
    refine List.filter_eq_self.2 fun c hc => ?_
    have hblank := hfront c hc
    simp only [ne_eq, Bool.and_eq_true, decide_eq_true_eq]
    refine ⟨⟨?_, ?_⟩, ?_⟩ <;>
      · rintro rfl
        exact absurd hblank (by decide)
  simp only [clean, hstart front hne hfront, List.reverse_append, hend, List.reverse_reverse,
    List.filter_append, hkept, cleanEnd]

lemma clean_slash (text : Text) : clean ('/' :: text) = '/' :: cleanEnd text := by
  have hfront : ∀ c ∈ ['/'], ' ' < c := List.all_iff_forall_prop.1 (by decide)
  exact clean_append hfront (List.cons_ne_nil _ _) text

lemma cleanEnd_slash (text : Text) : cleanEnd ('/' :: text) = '/' :: cleanEnd text := by
  have hfront : ∀ c ∈ ['/', '/'], ' ' < c := List.all_iff_forall_prop.1 (by decide)
  have htwo : clean ('/' :: '/' :: text) = '/' :: '/' :: cleanEnd text :=
    clean_append hfront (List.cons_ne_nil _ _) text
  rw [clean_slash] at htwo
  exact (List.cons.inj htwo).2

lemma parse_slash (text : Text) : parse ('/' :: text) = none := by
  rw [parse, read, clean_slash]
  simp only [splitScheme?_slash]

/-- What a `blob` address holds is complete, so its location does not begin with a slash. -/
lemma head?_location_of_blob (h : address.scheme = "blob".toList) (horigin : address.origin ≠ none) :
    address.location.head? ≠ some '/' := by
  rw [origin] at horigin
  cases htext : address.path.text with
  | nil =>
      rw [htext] at horigin
      exact absurd (webOrigin?_of_blob h) horigin
  | cons c text =>
      rw [htext, List.length_cons, origin?, if_pos h] at horigin
      rw [location, htext]
      simp only [List.cons_append, List.head?_cons, ne_eq, Option.some.injEq]
      rintro rfl
      rw [htext, parse_slash] at horigin
      exact horigin rfl

end Address

/-! ## The address of a page -/

/-- The origin of a page of the web: a scheme, and a host that may have a port. -/
def IsWebOrigin (origin : Text) : Prop :=
  ∃ scheme place, (scheme = "http".toList ∨ scheme = "https".toList) ∧
    origin = scheme ++ "://".toList ++ place ∧ place ≠ [] ∧
    ∀ c ∈ place, ' ' < c ∧ Address.endsAuthority true c = false

/-- A location that names a host when it is read as a link: it begins with two slashes. -/
def namesHost (location : Text) : Bool :=
  match Address.clean location with
  | c :: d :: _ => Address.isSlash true c && Address.isSlash true d
  | _ => false

namespace Address

section WebAddress

variable {scheme place : Text} (hscheme : scheme = "http".toList ∨ scheme = "https".toList)
  (hne : place ≠ []) (hplace : ∀ c ∈ place, ' ' < c ∧ endsAuthority true c = false)

include hscheme

lemma kind_of_web : SchemeKind.of scheme = .web := by
  rcases hscheme with rfl | rfl <;> decide

lemma splitScheme?_web (rest : Text) :
    splitScheme? (scheme ++ "://".toList ++ rest) = some (scheme, '/' :: '/' :: rest) := by
  rcases hscheme with rfl | rfl <;> rfl

include hne hplace

/-- A text that begins with an origin is read as the host of the origin and what follows it. -/
lemma parse_append (rest : Text) : parse (scheme ++ "://".toList ++ place ++ rest) =
    readAuthority scheme (place ++ cleanEnd rest) := by
  have hfront : ∀ c ∈ scheme ++ "://".toList ++ place, ' ' < c := by
    have hstart : ∀ c ∈ scheme ++ "://".toList, ' ' < c := by
      rcases hscheme with rfl | rfl <;> exact List.all_iff_forall_prop.1 (by decide)
    intro c hc
    exact (List.mem_append.1 hc).elim (hstart c) fun hc => (hplace c hc).1
  have hslash : ∀ c ∈ (place ++ cleanEnd rest).head?, isSlash true c = false := by
    cases place with
    | nil => exact absurd rfl hne
    | cons d place =>
        intro c hc
        obtain rfl := Option.some.inj hc
        have hends := (hplace d (List.mem_cons_self ..)).2
        simp only [endsAuthority, Bool.or_eq_false_iff] at hends
        exact hends.2
  rw [parse, read, clean_append hfront (by simp), List.append_assoc, splitScheme?_web hscheme]
  simp only [ofScheme, kind_of_web hscheme, Option.filter_none, ite_self]
  exact congrArg (readAuthority scheme)
    (dropWhile_of_stop (List.all_eq_true.1 (by decide : ['/', '/'].all (isSlash true))) hslash)

end WebAddress

/-- A location that names no host changes the path and the query. -/
lemma join_slash {base : Address} (hpath : base.path = .segments [[]]) {rest : Text}
    (hplain : namesHost ('/' :: rest) = false) :
    base.join ('/' :: rest) = some (base.goingOn [] (cleanEnd rest)) := by
  rw [namesHost, clean_slash] at hplain
  rw [join, read, clean_slash, splitScheme?_slash]
  simp only [hpath]
  cases hrest : cleanEnd rest with
  | nil => rfl
  | cons d rest =>
      rw [hrest] at hplain
      have hslash : isSlash true d = false := hplain
      show (if isSlash true d then _ else some (base.goingOn [] (d :: rest))) = _
      rw [hslash]
      rfl

end Address

section PageAddress

variable {origin : Text} (horigin : IsWebOrigin origin)

include horigin

/-- What an origin is read as. -/
lemma fields_of_origin {home : Address} (h : Address.parse origin = some home) :
    SchemeKind.of home.scheme = .web ∧ home.path = .segments [[]] := by
  obtain ⟨scheme, place, hscheme, rfl, hne, hplace⟩ := horigin
  have hparse := Address.parse_append hscheme hne hplace []
  rw [List.append_nil, h, show Address.cleanEnd [] = [] from rfl, List.append_nil] at hparse
  obtain ⟨hhome, hpath⟩ := Address.fields_of_readAuthority
    (by rw [Address.kind_of_web hscheme]; rfl) (fun c hc => (hplace c hc).2) hparse.symm
  exact ⟨hhome ▸ Address.kind_of_web hscheme, hpath⟩

/-- An origin with a location behind it. -/
lemma parse_location (rest : Text) : Address.parse (origin ++ '/' :: rest) =
    (Address.parse origin).map (·.goingOn [] (Address.cleanEnd rest)) := by
  have hfields : ∀ home, Address.parse origin = some home →
      SchemeKind.of home.scheme = .web ∧ home.path = .segments [[]] :=
    fun home => fields_of_origin horigin
  obtain ⟨scheme, place, hscheme, rfl, hne, hplace⟩ := horigin
  have hspecial : (SchemeKind.of scheme).special := by rw [Address.kind_of_web hscheme]; rfl
  have hends : ∀ c ∈ ('/' :: Address.cleanEnd rest).head?, Address.endsAuthority true c := by
    intro c hc
    obtain rfl := Option.some.inj hc
    rfl
  have hhome := Address.parse_append hscheme hne hplace []
  rw [List.append_nil, show Address.cleanEnd [] = [] from rfl, List.append_nil] at hhome
  rw [Address.parse_append hscheme hne hplace, Address.cleanEnd_slash,
    Address.readAuthority_append hspecial (fun c hc => (hplace c hc).2) hends, ← hhome]
  refine Option.map_congr fun home hmem => ?_
  rw [Address.goingOn, (hfields home hmem).1]
  rfl

/-- **The address of a page** is its origin with the location behind it, unless the location names a
host. -/
theorem pageAddress?_eq {current : Text} (hslash : current.head? = some '/')
    (hplain : namesHost current = false) :
    pageAddress? origin current = Address.parse (origin ++ current) := by
  obtain ⟨rest, rfl⟩ := List.head?_eq_some_iff.1 hslash
  rw [parse_location horigin, pageAddress?]
  cases hhome : Address.parse origin with
  | none => rfl
  | some home => exact Address.join_slash (fields_of_origin horigin hhome).2 hplain

/-- The address of a page has the scheme, the host and the port of the page's origin. -/
lemma exists_home {current : Text} (hslash : current.head? = some '/') {here : Address}
    (hhere : Address.parse (origin ++ current) = some here) : ∃ home,
      Address.parse origin = some home ∧ here.origin = home.webOrigin? ∧ here.Rooted := by
  obtain ⟨rest, rfl⟩ := List.head?_eq_some_iff.1 hslash
  rw [parse_location horigin, Option.map_eq_some_iff] at hhere
  obtain ⟨home, hhome, rfl⟩ := hhere
  exact ⟨home, hhome, Address.origin_of_web (fields_of_origin horigin hhome).1, .goingOn [] _⟩

end PageAddress

/-! ## Links that are followed -/

lemma exists_of_resolveLink {href origin current url : Text}
    (h : resolveLink href origin current = .ok url) : ∃ here there place,
      pageAddress? origin current = some here ∧ here.join href = some there ∧
      here.origin = some place ∧ there.origin = some place ∧ url = there.location := by
  unfold resolveLink at h
  split at h
  · cases h
  · next here hhere =>
      split at h
      · cases h
      · next there hthere =>
          split at h
          · next horigin hplace =>
              split at h
              · next hsame =>
                  cases h
                  exact ⟨here, there, _, hhere, hthere, hplace, hsame ▸ horigin, rfl⟩
              · cases h
          · cases h

/-- The link that a command follows. -/
def Command.link? : Command → Option Text
  | .follow href _ => some href
  | .click event => event.anchor.map (·.href)
  | _ => none

/-- The location to which a link was followed. -/
def Answer.destination? : Answer → Option Text
  | .text url | .navigated url _ _ => some url
  | _ => none

namespace Page

variable {page after : Page} {command : Command} {answer : Answer} {href url : Text}

/-- What goes to a location answers as it was to. -/
lemma goTo_answers {deeper : Deeper} {replaces : Bool} {source : Option Text} {answer' : Answer}
    (h : (do goTo deeper replaces url source; return answer' : PageM Answer) page =
      some (answer, after)) : answer = answer' := by
  rw [bind_apply, Option.bind_eq_some_iff] at h
  obtain ⟨⟨_, mid⟩, -, hmid⟩ := h
  cases hmid
  rfl

/-- **A link that was followed** leads to the location that is answered. -/
lemma resolve_of_run (hlink : command.link? = some href)
    (hrun : page.run command = some (answer, after)) (hurl : answer.destination? = some url) :
    page.resolve href = .ok url := by
  obtain ⟨depth, hperform⟩ := run_eq_some hrun
  cases command with
  | follow href' replaces =>
      obtain rfl : href' = href := Option.some.inj hlink
      simp only [perform, followLink, bind_apply, get_apply, Option.bind_some] at hperform
      cases hresolve : page.resolve href' with
      | error fault =>
          rw [hresolve] at hperform
          cases hperform
          cases hurl
      | ok target =>
          have hgo : (do goTo (exec depth) replaces target none; return .text target : PageM Answer)
              page = some (answer, after) := by
            rw [hresolve] at hperform
            rw [← hperform]
            simp only [bind_apply]
            cases goTo (exec depth) replaces target none page <;> rfl
          rw [goTo_answers hgo] at hurl
          rw [Option.some.inj hurl]
  | click click =>
      obtain ⟨anchor, hanchor, rfl⟩ := Option.map_eq_some_iff.1 hlink
      simp only [perform, handleClick, bind_apply, get_apply, Option.bind_some] at hperform
      cases hclick : page.interceptClick click with
      | error reason =>
          rw [hclick] at hperform
          cases hperform
          cases hurl
      | ok target =>
          obtain ⟨target, replaces⟩ := target
          rw [hclick] at hperform
          rw [goTo_answers hperform] at hurl
          obtain rfl : target = url := Option.some.inj hurl
          obtain ⟨-, other, hscreen, hresolve, -⟩ := interceptClick_eq_ok_iff.1 hclick
          obtain rfl := Option.some.inj (hanchor.symm.trans (Click.anchor_of_screen hscreen))
          exact hresolve
  | _ => cases hlink

/-- **A link that is followed stays on the origin**, but for two things.  On a page whose location
names no host, a link that a click or a command follows leads to the path and the query of its
target, resolved on the address of the page; the target has the scheme, the host and the port of the
page's origin, and the location begins with a slash, exactly if the target is no `blob`. -/
theorem followed_stays (horigin : IsWebOrigin page.history.origin)
    (hslash : page.url.head? = some '/') (hplain : namesHost page.url = false)
    (hlink : command.link? = some href) (hrun : page.run command = some (answer, after))
    (hurl : answer.destination? = some url) : ∃ home here there place,
      Address.parse page.history.origin = some home ∧ home.webOrigin? = some place ∧
      Address.parse (page.history.origin ++ page.url) = some here ∧
      here.join href = some there ∧ url = there.location ∧
      (there.webOrigin? = some place ↔ there.scheme ≠ "blob".toList) ∧
      (url.head? = some '/' ↔ there.scheme ≠ "blob".toList) := by
  obtain ⟨here, there, place, hpage, hthere, hhereOrigin, hthereOrigin, rfl⟩ :=
    exists_of_resolveLink (resolve_of_run hlink hrun hurl)
  have hhere := (pageAddress?_eq horigin hslash hplain).symm.trans hpage
  obtain ⟨home, hhome, hsame, hrooted⟩ := exists_home horigin hslash hhere
  refine ⟨home, here, there, place, hhome, hsame.symm.trans hhereOrigin, hhere, hthere, rfl, ?_⟩
  by_cases hblob : there.scheme = "blob".toList
  · have hnone := Address.webOrigin?_of_blob hblob
    have hhead := Address.head?_location_of_blob hblob (by rw [hthereOrigin]; simp)
    have hnot : there.webOrigin? ≠ some place := by
      rw [hnone]
      simp
    exact ⟨iff_of_false hnot (not_not.2 hblob), iff_of_false hhead (not_not.2 hblob)⟩
  · rw [Address.origin_of_ne_blob hblob] at hthereOrigin
    have hthereRooted : there.Rooted :=
      Address.keptByReading_rooted.read (fun _ hmem => Option.some.inj hmem ▸ hrooted) hthere
    have hhead := hthereRooted.head?_location hthereOrigin
    exact ⟨iff_of_true hthereOrigin hblob, iff_of_true hhead hblob⟩

/-- A page of the local origin. -/
def atHome (url : String) : Page := .start (.start History.localOrigin url.toList true)

lemma isWebOrigin_localOrigin : IsWebOrigin History.localOrigin :=
  ⟨"http".toList, "localhost".toList, .inl rfl, rfl, by decide, List.all_iff_forall_prop.1 (by decide)⟩

/-- A relative link with a query. -/
theorem followed_stays_docs : ∃ answer after home here there place,
    (atHome "/docs/a/").run (.follow "../b?x=1".toList false) = some (answer, after) ∧
    answer.destination? = some "/docs/b?x=1".toList ∧
    Address.parse History.localOrigin = some home ∧ home.webOrigin? = some place ∧
    Address.parse (History.localOrigin ++ "/docs/a/".toList) = some here ∧
    here.join "../b?x=1".toList = some there ∧ there.location = "/docs/b?x=1".toList ∧
    there.scheme ≠ "blob".toList ∧ there.webOrigin? = some place := by
  have hreturns : (((atHome "/docs/a/").run (.follow "../b?x=1".toList false)).map
      (·.1.destination?)) = some (some "/docs/b?x=1".toList) := by decide +kernel
  obtain ⟨⟨answer, after⟩, hrun, hurl⟩ := Option.map_eq_some_iff.1 hreturns
  obtain ⟨home, here, there, place, hhome, hplace, hhere, hthere, hlocation, horigin, hhead⟩ :=
    followed_stays isWebOrigin_localOrigin (by decide +kernel) (by decide +kernel) rfl hrun hurl
  have hblob := hhead.1 rfl
  exact ⟨answer, after, home, here, there, place, hrun, hurl, hhome, hplace, hhere, hthere,
    hlocation.symm, hblob, horigin.2 hblob⟩

/-- From a location that names a host, a link to that host is followed. -/
example : ((atHome "/").play (.follow "http://localhost//example.org/x".toList false)).url =
      "//example.org/x".toList ∧
    (((atHome "//example.org/x").run (.follow "http://example.org/secret".toList false)).map (·.1)) =
      some (.text "/secret".toList) := by
  decide +kernel

/-- A link to a `blob` leads to a location without a slash. -/
example : (((atHome "/").run (.follow "blob:http://localhost/x".toList false)).map (·.1)) =
    some (.text "http://localhost/x".toList) := by
  decide +kernel

end Page

end PageRouter

import PageRouter.Proofs.Escapes
import PageRouter.Proofs.Origins
import PageRouter.Proofs.Readings
import PageRouter.Proofs.Segments

/-!
# Links that were followed, read again

The location that a link leads to becomes the page's location, is shown in other links and is read as
a link again.  An address of the web is read into a **written form** (`Address.Written`): its segments
hold nothing that is escaped or that parts a path, none of them stands for another place, and its
query holds nothing that is escaped.  All ways of reading an address keep that form, and what is in
it is read as it stands (`Address.goOn_joinWith`).

So a location that a link was resolved to is resolved to itself, from every page of the origin, but
for one thing (`resolved_again`): a path may begin with an empty segment, and a link that begins with
two slashes names a host.
-/

namespace PageRouter

open Text

/-! ## What escaping writes -/

namespace Text

variable {keep : Char → Bool} {text : Text} {c : Char}

lemma escapeUnless_cons (keep : Char → Bool) (c : Char) (text : Text) : escapeUnless keep (c :: text) =
    (if keep c then [c] else (Octet.ofChar c).flatMap Octet.escape) ++ escapeUnless keep text :=
  List.flatMap_cons

/-- A text of which all is kept is written as it is. -/
lemma escapeUnless_eq_self (h : ∀ c ∈ text, keep c) : escapeUnless keep text = text := by
  induction text with
  | nil => rfl
  | cons c text ih =>
      obtain ⟨hc, htext⟩ := List.forall_mem_cons.1 h
      rw [escapeUnless_cons, if_pos hc, ih htext]
      rfl

/-- What is written was kept or belongs to an escape. -/
lemma mem_escapeUnless (h : c ∈ escapeUnless keep text) :
    (c ∈ text ∧ keep c) ∨ c = '%' ∨ ∃ n < 16, c = Octet.hexDigit n := by
  obtain ⟨d, hd, hc⟩ := List.mem_flatMap.1 h
  split at hc
  · next hkeep =>
      obtain rfl := List.mem_singleton.1 hc
      exact .inl ⟨hd, hkeep⟩
  · obtain ⟨b, hb, hc⟩ := List.mem_flatMap.1 hc
    have hbyte := Octet.lt_of_mem_ofChar hb
    simp only [Octet.escape, List.mem_cons, List.not_mem_nil, or_false] at hc
    rcases hc with rfl | rfl | rfl
    · exact .inr (.inl rfl)
    · exact .inr (.inr ⟨_, by omega, rfl⟩)
    · exact .inr (.inr ⟨_, Nat.mod_lt b (by decide), rfl⟩)

/-- Whether all escapes in a text in small letters are those of dots. -/
def EscapesDots : Text → Prop
  | [] => True
  | c :: rest => (c = '%' → ['2', 'e'] <+: rest) ∧ EscapesDots rest

instance decidableEscapesDots : (text : Text) → Decidable (EscapesDots text)
  | [] => inferInstanceAs (Decidable True)
  | _ :: rest =>
    have := decidableEscapesDots rest
    inferInstanceAs (Decidable (_ ∧ _))

lemma EscapesDots.of_append {front rest : Text} (h : EscapesDots (front ++ rest)) :
    EscapesDots rest := by
  induction front with
  | nil => exact h
  | cons c front ih => exact ih h.2

/-- Only the octets of a dot begin like those of one. -/
lemma exists_ofChar (c : Char) : ∃ b octets, Octet.ofChar c = b :: octets ∧ b < 0x100 ∧
    (b = 0x2e → c = '.') := by
  have hlt : ∀ b octets, Octet.ofChar c = b :: octets → b < 0x100 := fun b octets h =>
    Octet.lt_of_mem_ofChar (h ▸ List.mem_cons_self ..)
  by_cases hascii : c.toNat < 0x80
  · have hoctets := Octet.ofChar_of_lt hascii
    exact ⟨_, _, hoctets, hlt _ _ hoctets, fun hdot => Char.toNat_inj.1 hdot⟩
  · obtain ⟨b, octets, hoctets, hb⟩ : ∃ b octets, Octet.ofChar c = b :: octets ∧ b ≠ 0x2e := by
      simp only [Octet.ofChar, if_neg hascii]
      split
      · exact ⟨_, _, rfl, fun h : 0xC0 + c.toNat / 0x40 = 0x2e => by omega⟩
      split
      · exact ⟨_, _, rfl, fun h : 0xE0 + c.toNat / 0x1000 = 0x2e => by omega⟩
      · exact ⟨_, _, rfl, fun h : 0xF0 + c.toNat / 0x40000 = 0x2e => by omega⟩
    exact ⟨b, octets, hoctets, hlt _ _ hoctets, fun hdot => absurd hdot hb⟩

lemma eq_of_lower_escape : ∀ b < 0x100, lower (Octet.escape b) = ['%', '2', 'e'] → b = 0x2e := by
  decide +kernel

/-- **Escaping makes no dots**: where dots are kept and what is written escapes nothing but dots,
nothing was escaped. -/
lemma escapeUnless_of_escapesDots (hdot : keep '.')
    (h : EscapesDots (lower (escapeUnless keep text))) : escapeUnless keep text = text := by
  induction text with
  | nil => rfl
  | cons c text ih =>
      rw [escapeUnless_cons, lower, List.map_append] at h
      rw [escapeUnless_cons, ih h.of_append]
      split
      · rfl
      · next hescaped =>
        rw [if_neg hescaped] at h
        obtain ⟨b, octets, hoctets, hb, hdots⟩ := exists_ofChar c
        rw [hoctets, List.flatMap_cons, List.map_append, List.append_assoc] at h
        have hfirst : lower (Octet.escape b) = ['%', '2', 'e'] := by
          obtain ⟨rest, hrest⟩ := h.1 rfl
          obtain ⟨hhigh, hrest⟩ := List.cons.inj hrest
          obtain ⟨hlow, -⟩ := List.cons.inj hrest
          rw [lower, Octet.escape, List.map_cons, List.map_cons, List.map_singleton, ← hhigh, ← hlow]
          rfl
        rw [hdots (eq_of_lower_escape b hb hfirst)] at hescaped
        exact absurd hdot hescaped

end Text

namespace Address

variable {address base page : Address} {scheme text segment query : Text} {path segments : List Text}

/-! ## Segments in written form -/

/-- A segment in written form: it holds nothing that is escaped or that parts a path, and it stands
for itself. -/
structure IsSegment (segment : Text) : Prop where
  kept : ∀ c ∈ segment, keptInSegment c ∧ isSlash true c = false
  notDot : isDot segment = false
  notDoubleDot : isDoubleDot segment = false

lemma isSegment_nil : IsSegment [] := ⟨by simp, by decide, by decide⟩

lemma keptInSegment_hexDigit :
    ∀ n < 16, keptInSegment (Octet.hexDigit n) ∧ isSlash true (Octet.hexDigit n) = false := by
  decide

/-- A text that stands for another place escapes nothing but dots. -/
lemma escapesDots_of_isDot (h : isDot text ∨ isDoubleDot text) : EscapesDots (lower text) := by
  have hdots : ∀ dots ∈ [['.'], "%2e".toList] ++
      [['.', '.'], ".%2e".toList, "%2e.".toList, "%2e%2e".toList], EscapesDots dots := by
    decide +kernel
  refine hdots _ (List.mem_append.2 ?_)
  rwa [isDot, isDoubleDot, List.contains_iff_mem, List.contains_iff_mem] at h

/-- **A segment that is escaped** is in written form, if it stood for itself. -/
lemma isSegment_escapeUnless (hslash : ∀ c ∈ segment, isSlash true c = false)
    (hdot : isDot segment = false) (hdouble : isDoubleDot segment = false) :
    IsSegment (escapeUnless keptInSegment segment) := by
  have hstands : ¬(isDot (escapeUnless keptInSegment segment) ∨
      isDoubleDot (escapeUnless keptInSegment segment)) := by
    intro hdots
    rw [escapeUnless_of_escapesDots (by decide) (escapesDots_of_isDot hdots), hdot, hdouble] at hdots
    simp at hdots
  rw [not_or, Bool.not_eq_true, Bool.not_eq_true] at hstands
  refine ⟨fun c hc => ?_, hstands.1, hstands.2⟩
  rcases mem_escapeUnless hc with ⟨hmem, hkept⟩ | rfl | ⟨n, hn, rfl⟩
  · exact ⟨hkept, hslash c hmem⟩
  · decide
  · exact keptInSegment_hexDigit n hn

lemma mem_of_mem_above (h : segment ∈ above path) : segment ∈ path := by
  rw [above] at h
  split at h
  · exact h
  · exact List.dropLast_subset _ h

/-- **A walk writes segments.** -/
lemma isSegment_of_mem_walk (hpath : ∀ segment ∈ path, IsSegment segment)
    (hslash : ∀ segment ∈ segments, ∀ c ∈ segment, isSlash true c = false) :
    ∀ segment ∈ walk path segments, IsSegment segment := by
  induction segments generalizing path with
  | nil => exact hpath
  | cons first rest ih =>
      obtain ⟨hfirst, hrest⟩ := List.forall_mem_cons.1 hslash
      have hhere : ∀ segment ∈ (if isDoubleDot first then above path else path),
          IsSegment segment := by
        intro segment hmem
        split at hmem
        · exact hpath segment (mem_of_mem_above hmem)
        · exact hpath segment hmem
      rw [walk]
      split
      · split
        · exact List.forall_mem_append.2 ⟨hhere, by simpa using isSegment_nil⟩
        · exact ih hhere hrest
      · next hstands =>
        simp only [Bool.or_eq_true, not_or, Bool.not_eq_true] at hstands
        have hwritten := isSegment_escapeUnless hfirst hstands.2 hstands.1
        exact ih (List.forall_mem_append.2 ⟨hpath, by simpa using hwritten⟩) hrest

/-- **Segments in written form are walked as they stand.** -/
lemma walk_eq_append (h : ∀ segment ∈ segments, IsSegment segment) :
    walk path segments = path ++ segments := by
  induction segments generalizing path with
  | nil => rw [walk, List.append_nil]
  | cons first rest ih =>
      obtain ⟨hfirst, hrest⟩ := List.forall_mem_cons.1 h
      rw [walk, hfirst.notDot, hfirst.notDoubleDot,
        escapeUnless_eq_self fun c hc => (hfirst.kept c hc).1]
      simp [ih hrest]

/-! ## Cutting a path -/

/-- The segments of a text hold none of the slashes that part it. -/
lemma isSlash_of_mem_splitSlashes (h : segment ∈ splitSlashes true text) :
    ∀ c ∈ segment, isSlash true c = false := by
  intro c hc
  have hne : c ≠ '/' := by
    rintro rfl
    exact not_mem_of_mem_splitOn h hc
  have hmem : c ∈ joinWith '/' (splitSlashes true text) := mem_joinWith_of_mem h hc
  rw [splitSlashes, joinWith_splitOn] at hmem
  obtain ⟨d, -, hd⟩ := List.mem_map.1 hmem
  split at hd
  · exact absurd hd.symm hne
  · next hslash => exact hd ▸ Bool.eq_false_iff.2 hslash

/-- What parts segments in written form are the slashes between them. -/
lemma splitSlashes_joinWith (hne : segments ≠ []) (h : ∀ segment ∈ segments, IsSegment segment) :
    splitSlashes true (joinWith '/' segments) = segments := by
  have hsame : ∀ c ∈ joinWith '/' segments, (if isSlash true c then '/' else c) = c := by
    intro c hc
    rcases mem_of_mem_joinWith hc with rfl | ⟨segment, hsegment, hc⟩
    · rfl
    · rw [((h segment hsegment).kept c hc).2]
      rfl
  rw [splitSlashes, List.map_congr_left hsame, List.map_id',
    splitOn_joinWith hne fun segment hsegment hslash => ?_]
  exact absurd ((h segment hsegment).kept _ hslash).2 (by decide)

/-- What a segment holds in written form is no blank and begins neither a query nor a fragment. -/
lemma plain_of_keptInSegment {c : Char} (h : keptInSegment c) : ' ' < c ∧ c ≠ '?' ∧ c ≠ '#' := by
  simp only [keptInSegment, Bool.and_eq_true, decide_eq_true_eq] at h
  refine ⟨Char.not_le.1 fun hblank => absurd (Char.le_trans h.1.1 hblank) (by decide), ?_⟩
  constructor <;>
  · rintro rfl
    revert h
    decide

lemma plain_of_mem_joinWith (h : ∀ segment ∈ segments, IsSegment segment) {c : Char}
    (hc : c ∈ joinWith '/' segments) : ' ' < c ∧ c ≠ '?' ∧ c ≠ '#' := by
  rcases mem_of_mem_joinWith hc with rfl | ⟨segment, hsegment, hc⟩
  · decide
  · exact plain_of_keptInSegment ((h segment hsegment).kept c hc).1

/-- A query in written form is no blank and holds no fragment. -/
lemma plain_of_keptInQuery {c : Char} (h : keptInQuery true c) : ' ' < c ∧ c ≠ '#' := by
  simp only [keptInQuery, Bool.and_eq_true, decide_eq_true_eq] at h
  refine ⟨Char.not_le.1 fun hblank => absurd (Char.le_trans h.1.1.1 hblank) (by decide), ?_⟩
  rintro rfl
  revert h
  decide

/-- **A path and a query in written form** are read as they stand. -/
lemma goOn_joinWith {query : Option Text} (hne : segments ≠ [])
    (hsegments : ∀ segment ∈ segments, IsSegment segment)
    (hquery : ∀ text ∈ query, ∀ c ∈ text, keptInQuery true c) :
    goOn true [] (joinWith '/' segments ++ searchOf query) = (.segments segments, query) := by
  have hstop : ∀ c ∈ (searchOf query).head?, (c ≠ '?' && c ≠ '#') = false := by
    intro c hc
    cases query with
    | none => cases hc
    | some text =>
        obtain rfl := Option.some.inj hc
        rfl
  have hpath : ∀ c ∈ joinWith '/' segments, (c ≠ '?' && c ≠ '#') = true := fun c hc => by
    simpa using (plain_of_mem_joinWith hsegments hc).2
  have hread : readQuery true (searchOf query) = query := by
    cases query with
    | none => rfl
    | some text =>
        have hkept := hquery text rfl
        have hfragment : ∀ c ∈ text, decide (c ≠ '#') = true := fun c hc =>
          decide_eq_true (plain_of_keptInQuery (hkept c hc)).2
        have hwhole : (text ++ []).takeWhile (· ≠ '#') = text :=
          takeWhile_of_stop hfragment (by simp)
        rw [List.append_nil] at hwhole
        rw [searchOf, readQuery, hwhole, escapeUnless_eq_self hkept]
  rw [goOn, splitPath, takeWhile_of_stop hpath hstop, dropWhile_of_stop hpath hstop]
  simp only [hread, splitSlashes_joinWith hne hsegments, walk_eq_append hsegments, List.nil_append]

/-! ## Addresses in written form -/

/-- **An address in written form.**  What is not special may be written otherwise. -/
structure Written (address : Address) : Prop where
  segments : (SchemeKind.of address.scheme).special → ∀ list, address.path = .segments list →
    ∀ segment ∈ list, IsSegment segment
  query : (SchemeKind.of address.scheme).special → ∀ query ∈ address.query,
    ∀ c ∈ query, keptInQuery true c
  host : SchemeKind.of address.scheme = .web → address.host.isSome

lemma kept_of_readQuery (h : query ∈ readQuery true text) : ∀ c ∈ query, keptInQuery true c := by
  have hhex : ∀ n < 16, keptInQuery true (Octet.hexDigit n) := by decide
  intro c hc
  unfold readQuery at h
  split at h
  · obtain rfl := Option.some.inj h
    rcases mem_escapeUnless hc with ⟨-, hkept⟩ | rfl | ⟨n, hn, rfl⟩
    · exact hkept
    · decide
    · exact hhex n hn
  · cases h

lemma isSegment_of_goOn (hpath : ∀ segment ∈ path, IsSegment segment)
    (h : (goOn true path text).1 = .segments segments) :
    ∀ segment ∈ segments, IsSegment segment := by
  cases h
  exact isSegment_of_mem_walk hpath fun segment => isSlash_of_mem_splitSlashes

/-- What stands behind a host goes on from no segments. -/
lemma exists_afterHost_eq (text : Text) : ∃ rest, afterHost true text = goOn true [] rest := by
  cases text with
  | nil => exact ⟨[], rfl⟩
  | cons c rest =>
      rw [afterHost]
      split
      · exact ⟨rest, rfl⟩
      · exact ⟨c :: rest, rfl⟩

lemma Written.goingOn (hbase : base.Written) (hpath : path = [] ∨ path = base.directory)
    (text : Text) : (base.goingOn path text).Written := by
  refine ⟨fun hspecial list hlist => ?_, fun hspecial query hquery => ?_, hbase.host⟩
  · have hstart : ∀ segment ∈ path, IsSegment segment := by
      rcases hpath with rfl | rfl
      · simp
      · intro segment hmem
        rw [directory] at hmem
        split at hmem
        · next list hlist => exact hbase.segments hspecial list hlist _ (List.dropLast_subset _ hmem)
        · cases hmem
    change (goOn (SchemeKind.of base.scheme).special path text).1 = .segments list at hlist
    rw [show (SchemeKind.of base.scheme).special = true from hspecial] at hlist
    exact isSegment_of_goOn hstart hlist
  · change query ∈ (goOn (SchemeKind.of base.scheme).special path text).2 at hquery
    rw [show (SchemeKind.of base.scheme).special = true from hspecial] at hquery
    exact kept_of_readQuery hquery

lemma Written.behindHost {found : Option Host × Option Nat × Text}
    (hhost : SchemeKind.of scheme = .web → found.1.isSome) : (behindHost scheme found).Written := by
  obtain ⟨rest, hrest⟩ := exists_afterHost_eq found.2.2
  refine ⟨fun hspecial list hlist => ?_, fun hspecial query hquery => ?_, hhost⟩
  · change (afterHost (SchemeKind.of scheme).special found.2.2).1 = .segments list at hlist
    rw [show (SchemeKind.of scheme).special = true from hspecial, hrest] at hlist
    exact isSegment_of_goOn (by simp) hlist
  · change query ∈ (afterHost (SchemeKind.of scheme).special found.2.2).2 at hquery
    rw [show (SchemeKind.of scheme).special = true from hspecial, hrest] at hquery
    exact kept_of_readQuery hquery

/-- A special address that is read from a host has one. -/
lemma isSome_host_of_hostAndPort? {found : Option Host × Option Nat × Text}
    (hspecial : (SchemeKind.of scheme).special) (h : hostAndPort? scheme text = some found) :
    found.1.isSome := by
  unfold hostAndPort? at h
  simp only [hspecial, true_or, if_true] at h
  split at h
  · cases h
  split at h
  · cases h
  · obtain ⟨host, -, hport⟩ := Option.bind_eq_some_iff.1 h
    obtain ⟨port, -, rfl⟩ := Option.map_eq_some_iff.1 hport
    rfl

/-- **Whatever is read is in written form.** -/
lemma keptByReading_written : KeptByReading Written where
  fileRoot := by
    refine ⟨fun _ list hlist => ?_, fun _ query hquery => ?_, fun hweb => absurd hweb (by decide)⟩
    · cases hlist
      simpa using isSegment_nil
    · cases hquery
  query := by
    refine fun base text hbase => ⟨hbase.segments, fun hspecial query hquery => ?_, hbase.host⟩
    rw [show (SchemeKind.of base.scheme).special = true from hspecial] at hquery
    exact kept_of_readQuery hquery
  goingOn := fun _ _ text hbase hpath => hbase.goingOn hpath text
  authority := by
    intro scheme text address h
    rw [readAuthority_eq] at h
    obtain ⟨found, hfound, rfl⟩ := Option.map_eq_some_iff.1 h
    exact .behindHost fun hweb => isSome_host_of_hostAndPort? (by rw [hweb]; rfl) hfound
  fileHost := by
    intro text address h
    obtain ⟨⟨host, rest⟩, -, rfl⟩ := Option.map_eq_some_iff.1 h
    have hwritten : (Address.behindHost "file".toList (host, none, rest)).Written :=
      .behindHost fun hweb => absurd hweb (by decide)
    exact hwritten
  other := by
    intro scheme path query hother
    have hspecial : ¬(SchemeKind.of scheme).special := by
      rw [hother]
      decide
    refine ⟨fun h => absurd h hspecial, fun h => absurd h hspecial, fun hweb => ?_⟩
    rw [hother] at hweb
    cases hweb

/-! ## Locations in written form -/

/-- The segments and the query of a location in written form. -/
structure IsLocation (list : List Text) (query : Option Text) : Prop where
  ne_nil : list ≠ []
  segments : ∀ segment ∈ list, IsSegment segment
  query : ∀ text ∈ query, ∀ c ∈ text, keptInQuery true c

lemma isLocation_of_web (hkind : SchemeKind.of address.scheme = .web) (hrooted : address.Rooted)
    (hwritten : address.Written) :
    ∃ list, address.path = .segments list ∧ IsLocation list address.query := by
  have hspecial : (SchemeKind.of address.scheme).special := by rw [hkind]; rfl
  obtain ⟨list, hpath, hne⟩ := hrooted hspecial
  exact ⟨list, hpath, hne, hwritten.segments hspecial list hpath, hwritten.query hspecial⟩

lemma location_eq (hpath : address.path = .segments segments) :
    address.location = slashed segments ++ searchOf address.query := by
  rw [location, hpath]
  cases address.query <;> rfl

section Location

variable {list : List Text} {query : Option Text}

/-- No blank is cleaned off. -/
lemma IsLocation.clean_eq (h : IsLocation list query) :
    clean (slashed list ++ searchOf query) = slashed list ++ searchOf query := by
  have hblank : ∀ c ∈ slashed list ++ searchOf query, ' ' < c := by
    intro c hc
    rw [← cons_joinWith h.ne_nil, List.cons_append, List.mem_cons, List.mem_append] at hc
    rcases hc with rfl | hc | hc
    · decide
    · exact (plain_of_mem_joinWith h.segments hc).1
    · cases query with
      | none => cases hc
      | some text =>
          rcases List.mem_cons.1 hc with rfl | hc
          · decide
          · exact (plain_of_keptInQuery (h.query text rfl c hc)).1
  have hne : slashed list ++ searchOf query ≠ [] := by
    rw [← cons_joinWith h.ne_nil]
    exact List.cons_ne_nil _ _
  have hclean := clean_append hblank hne []
  rwa [show cleanEnd [] = [] from rfl, List.append_nil] at hclean

/-- A location is relative to the page it is read on. -/
lemma IsLocation.join_eq (h : IsLocation list query) (hpage : page.path = .segments segments) :
    page.join (slashed list ++ searchOf query) =
      page.relative ('/' :: (joinWith '/' list ++ searchOf query)) := by
  rw [join, read, h.clean_eq, ← cons_joinWith h.ne_nil, List.cons_append, splitScheme?_slash]
  simp only [hpage]

lemma IsLocation.isSlash_head? (h : IsLocation list query)
    (hplain : (joinWith '/' list ++ searchOf query).head? ≠ some '/') :
    ((joinWith '/' list ++ searchOf query).head?.map (isSlash true)).getD false = false := by
  cases hpath : joinWith '/' list with
  | nil => cases query <;> rfl
  | cons c rest =>
      rw [hpath] at hplain
      have hc : c ∈ joinWith '/' list := hpath ▸ List.mem_cons_self ..
      rcases mem_of_mem_joinWith hc with rfl | ⟨segment, hsegment, hc⟩
      · exact absurd rfl hplain
      · exact ((h.segments segment hsegment).kept c hc).2

/-- **A location that does not begin with two slashes** is read as it stands. -/
lemma IsLocation.join_eq_some (h : IsLocation list query) (hkind : SchemeKind.of page.scheme = .web)
    (hpage : page.path = .segments segments)
    (hplain : (joinWith '/' list ++ searchOf query).head? ≠ some '/') :
    page.join (slashed list ++ searchOf query) =
      some { page with path := .segments list, query := query } := by
  rw [h.join_eq hpage]
  show (if ((joinWith '/' list ++ searchOf query).head?.map (isSlash true)).getD false then _
    else some (page.goingOn [] (joinWith '/' list ++ searchOf query))) = _
  rw [h.isSlash_head? hplain, goingOn, hkind]
  exact congrArg (fun found => some { page with path := found.1, query := found.2 })
    (goOn_joinWith h.ne_nil h.segments h.query)

/-! ## Locations that name a host -/

/-- What stands behind a host has, at most, one slash more when it is written. -/
lemma exists_afterHost_slashed {rest : List Text} (hsegments : ∀ segment ∈ rest, IsSegment segment)
    (hquery : ∀ text ∈ query, ∀ c ∈ text, keptInQuery true c) : ∃ written,
      afterHost true (slashed rest ++ searchOf query) = (.segments written, query) ∧
      (slashed written).length ≤ (slashed rest).length + 1 := by
  by_cases hrest : rest = []
  · subst hrest
    refine ⟨[[]], ?_, Nat.le_refl 1⟩
    have hread := goOn_joinWith (List.cons_ne_nil [] []) (by simpa using isSegment_nil) hquery
    cases query <;> exact hread
  · refine ⟨rest, ?_, Nat.le_succ _⟩
    rw [← cons_joinWith hrest]
    exact goOn_joinWith hrest hsegments hquery

/-- Only an empty segment in front of others makes a second slash. -/
lemma IsLocation.exists_of_head? (h : IsLocation list query)
    (hslash : (joinWith '/' list ++ searchOf query).head? = some '/') :
    ∃ first rest, list = [] :: first :: rest := by
  rcases list with _ | ⟨⟨⟩ | ⟨c, segment⟩, _ | ⟨first, rest⟩⟩
  · exact absurd rfl h.ne_nil
  · cases query <;> cases hslash
  · exact ⟨first, rest, rfl⟩
  · obtain rfl := Option.some.inj hslash
    exact absurd ((h.segments _ (List.mem_cons_self ..)).kept _ (List.mem_cons_self ..)).2 (by decide)
  · obtain rfl := Option.some.inj hslash
    exact absurd ((h.segments _ (List.mem_cons_self ..)).kept _ (List.mem_cons_self ..)).2 (by decide)

/-- A location that begins with two slashes names a host. -/
lemma IsLocation.join_eq_readAuthority {first : Text} {rest : List Text}
    (h : IsLocation ([] :: first :: rest) query) (hkind : SchemeKind.of page.scheme = .web)
    (hpage : page.path = .segments segments) :
    page.join (slashed ([] :: first :: rest) ++ searchOf query) =
      readAuthority page.scheme (first ++ (slashed rest ++ searchOf query)) := by
  have hjoin : '/' :: joinWith '/' (first :: rest) = '/' :: (first ++ slashed rest) :=
    cons_joinWith (List.cons_ne_nil _ _)
  rw [h.join_eq hpage, ← List.append_assoc, ← (List.cons.inj hjoin).2]
  show (if SchemeKind.of page.scheme = .file then _ else
    readAuthority page.scheme (joinWith '/' (first :: rest) ++ searchOf query)) = _
  rw [hkind, if_neg (by decide)]

/-- **Two slashes are lost** with the host that stands behind them. -/
lemma IsLocation.length_lt {first : Text} {rest : List Text}
    (h : IsLocation ([] :: first :: rest) query) (hspecial : (SchemeKind.of scheme).special)
    (hread : readAuthority scheme (first ++ (slashed rest ++ searchOf query)) = some address) :
    address.location.length < (slashed ([] :: first :: rest) ++ searchOf query).length := by
  obtain ⟨-, hsegments⟩ := List.forall_mem_cons.1 h.segments
  obtain ⟨hfirst, hrest⟩ := List.forall_mem_cons.1 hsegments
  have hplace : ∀ c ∈ first, endsAuthority true c = false := by
    intro c hc
    obtain ⟨hkept, hslash⟩ := hfirst.kept c hc
    obtain ⟨-, hmark, hfragment⟩ := plain_of_keptInSegment hkept
    simp [endsAuthority, hmark, hfragment, hslash]
  have hends : ∀ c ∈ (slashed rest ++ searchOf query).head?, endsAuthority true c := by
    intro c hc
    cases rest with
    | nil =>
        cases query with
        | none => cases hc
        | some text =>
            obtain rfl := Option.some.inj hc
            rfl
    | cons segment rest =>
        obtain rfl := Option.some.inj hc
        rfl
  rw [readAuthority_append hspecial hplace hends] at hread
  obtain ⟨found, -, rfl⟩ := Option.map_eq_some_iff.1 hread
  obtain ⟨written, hafter, hlength⟩ := exists_afterHost_slashed hrest h.query
  rw [location_eq (congrArg Prod.fst hafter), List.length_append, List.length_append]
  simp only [hafter]
  have hslashed : slashed ([] :: first :: rest) = '/' :: '/' :: (first ++ slashed rest) := rfl
  rw [hslashed, List.length_cons, List.length_cons, List.length_append]
  omega

end Location

/-! ## Pages of the web -/

lemma isSome_webOrigin? (hkind : SchemeKind.of address.scheme = .web) (hhost : address.host.isSome) :
    address.webOrigin?.isSome := by
  have husual : (usualPort? address.scheme).isSome := by
    by_contra hnone
    rw [SchemeKind.of, if_neg hnone] at hkind
    split at hkind <;> cases hkind
  obtain ⟨host, hhost⟩ := Option.isSome_iff_exists.1 hhost
  obtain ⟨usual, husual⟩ := Option.isSome_iff_exists.1 husual
  rw [webOrigin?, hhost, husual]
  cases address.port <;> rfl

/-- The origin of an address of the web lies in front of its path. -/
lemma origin_with (hkind : SchemeKind.of page.scheme = .web) (path : AddressPath)
    (query : Option Text) : ({ page with path := path, query := query }).origin = page.origin := by
  rw [origin_of_web hkind]
  exact origin_of_web hkind

lemma kind_of_webOrigin? {place : Origin} (h : address.webOrigin? = some place) :
    SchemeKind.of address.scheme = .web :=
  if_pos (usualPort?_of_webOrigin? h)

lemma scheme_of_readAuthority (h : readAuthority scheme text = some address) :
    address.scheme = scheme := by
  rw [readAuthority_eq] at h
  obtain ⟨found, -, rfl⟩ := Option.map_eq_some_iff.1 h
  rfl

/-- A link that begins with a slash keeps the scheme. -/
lemma scheme_of_join_slash (hkind : SchemeKind.of base.scheme = .web)
    (hpath : base.path = .segments segments) (h : base.join ('/' :: text) = some page) :
    page.scheme = base.scheme := by
  rw [join, read, clean_slash, splitScheme?_slash] at h
  simp only [hpath] at h
  change (if ((cleanEnd text).head?.map (isSlash true)).getD false then _
    else some (base.goingOn [] (cleanEnd text))) = some page at h
  split at h
  · rw [hkind, if_neg (by decide)] at h
    split at h <;> exact scheme_of_readAuthority h
  · cases h
    rfl

end Address

section PageAddress

variable {origin current : Text} {here : Address}

/-- The address of a page has a path, and is in written form. -/
lemma written_of_pageAddress? (h : pageAddress? origin current = some here) :
    here.Rooted ∧ here.Written := by
  obtain ⟨home, hhome, hjoin⟩ := Option.bind_eq_some_iff.1 h
  have hrooted : home.Rooted := Address.keptByReading_rooted.read (by simp) hhome
  have hwritten : home.Written := Address.keptByReading_written.read (by simp) hhome
  exact ⟨Address.keptByReading_rooted.read (by simpa using hrooted) hjoin,
    Address.keptByReading_written.read (by simpa using hwritten) hjoin⟩

/-- The address of a page of the web is one of the web. -/
lemma kind_of_pageAddress? (horigin : IsWebOrigin origin) (hslash : current.head? = some '/')
    (h : pageAddress? origin current = some here) : SchemeKind.of here.scheme = .web := by
  obtain ⟨home, hhome, hjoin⟩ := Option.bind_eq_some_iff.1 h
  obtain ⟨hkind, hpath⟩ := fields_of_origin horigin hhome
  obtain ⟨rest, rfl⟩ := List.head?_eq_some_iff.1 hslash
  rw [Address.scheme_of_join_slash hkind hpath hjoin, hkind]

end PageAddress

/-! ## Resolved again -/

/-- The location of a target with an origin, if it begins with a slash, is in written form. -/
lemma exists_isLocation_of_resolveLink {href origin current url : Text}
    (h : resolveLink href origin current = .ok url) (hslash : url.head? = some '/') :
    ∃ list query, url = slashed list ++ searchOf query ∧ Address.IsLocation list query := by
  obtain ⟨here, there, place, hhere, hthere, -, hplace, rfl⟩ := exists_of_resolveLink h
  obtain ⟨hrooted, hwritten⟩ := written_of_pageAddress? hhere
  have hblob : there.scheme ≠ "blob".toList := fun hblob =>
    Address.head?_location_of_blob hblob (by rw [hplace]; simp) hslash
  rw [Address.origin_of_ne_blob hblob] at hplace
  obtain ⟨list, hpath, hlocation⟩ := Address.isLocation_of_web (Address.kind_of_webOrigin? hplace)
    (Address.keptByReading_rooted.read (by simpa using hrooted) hthere)
    (Address.keptByReading_written.read (by simpa using hwritten) hthere)
  exact ⟨list, there.query, Address.location_eq hpath, hlocation⟩

section Location

variable {origin current : Text} {list : List Text} {query : Option Text} {here : Address}
  (hlocation : Address.IsLocation list query) (hkind : SchemeKind.of here.scheme = .web)
  (hhere : pageAddress? origin current = some here)

include hlocation hkind hhere

/-- A location that does not begin with two slashes stays on every page. -/
lemma resolveLink_eq_ok (hplain : (joinWith '/' list ++ searchOf query).head? ≠ some '/') :
    resolveLink (slashed list ++ searchOf query) origin current =
      .ok (slashed list ++ searchOf query) := by
  obtain ⟨hrooted, hwritten⟩ := written_of_pageAddress? hhere
  obtain ⟨start, hpath, -⟩ := hrooted (by rw [hkind]; rfl)
  obtain ⟨place, hplace⟩ :=
    Option.isSome_iff_exists.1 (Address.isSome_webOrigin? hkind (hwritten.host hkind))
  have hhome : here.origin = some place := (Address.origin_of_web hkind).trans hplace
  rw [resolveLink, hhere]
  simp only [hlocation.join_eq_some hkind hpath hplain, Address.origin_with hkind, hhome, if_true]
  exact congrArg Except.ok (Address.location_eq rfl)

/-- A location that begins with two slashes is never resolved to itself. -/
lemma resolveLink_ne_ok (hslash : (joinWith '/' list ++ searchOf query).head? = some '/') :
    resolveLink (slashed list ++ searchOf query) origin current ≠
      .ok (slashed list ++ searchOf query) := by
  intro hok
  obtain ⟨here', there, place, hhere', hthere, -, -, hsame⟩ := exists_of_resolveLink hok
  obtain rfl := Option.some.inj (hhere.symm.trans hhere')
  obtain ⟨hrooted, -⟩ := written_of_pageAddress? hhere
  have hspecial : (SchemeKind.of here.scheme).special := by rw [hkind]; rfl
  obtain ⟨start, hpath, -⟩ := hrooted hspecial
  obtain ⟨first, rest, rfl⟩ := hlocation.exists_of_head? hslash
  rw [hlocation.join_eq_readAuthority hkind hpath] at hthere
  exact absurd (congrArg List.length hsame) (hlocation.length_lt hspecial hthere).ne'

end Location

/-- **A location that a link was resolved to is resolved to itself**, if it begins with a slash: on
every page of the same origin that has an address at all, exactly if it does not begin with two
slashes.  A page has an address wherever its location names no host. -/
theorem resolved_again {href origin current url : Text} (horigin : IsWebOrigin origin)
    (h : resolveLink href origin current = .ok url) (hurl : url.head? = some '/') {other : Text}
    (hother : other.head? = some '/') :
    (resolveLink url origin other = .ok url ↔
      (pageAddress? origin other).isSome ∧ ¬"//".toList <+: url) ∧
    (namesHost other = false → (pageAddress? origin other).isSome) := by
  obtain ⟨list, query, rfl, hlocation⟩ := exists_isLocation_of_resolveLink h hurl
  have hslashes : "//".toList <+: slashed list ++ searchOf query ↔
      (joinWith '/' list ++ searchOf query).head? = some '/' := by
    rw [← cons_joinWith hlocation.ne_nil, List.cons_append, List.head?_eq_some_iff]
    exact ⟨fun ⟨rest, hrest⟩ => ⟨rest, (List.cons.inj hrest).2.symm⟩,
      fun ⟨rest, hrest⟩ => ⟨rest, by rw [hrest]; rfl⟩⟩
  refine ⟨?_, fun hplain => ?_⟩
  · cases hpage : pageAddress? origin other with
    | none => simp [resolveLink, hpage]
    | some here =>
        have hkind := kind_of_pageAddress? horigin hother hpage
        by_cases hslash : (joinWith '/' list ++ searchOf query).head? = some '/'
        · exact iff_of_false (resolveLink_ne_ok hlocation hkind hpage hslash)
            fun hplain => hplain.2 (hslashes.2 hslash)
        · exact iff_of_true (resolveLink_eq_ok hlocation hkind hpage hslash)
            ⟨rfl, mt hslashes.1 hslash⟩
  · obtain ⟨here, -, -, hhere, -⟩ := exists_of_resolveLink h
    obtain ⟨home, hhome, -⟩ := Option.bind_eq_some_iff.1 hhere
    obtain ⟨rest, rfl⟩ := List.head?_eq_some_iff.1 hother
    rw [pageAddress?_eq horigin hother hplain, parse_location horigin, hhome]
    rfl

/-- A relative link, whose segments and query are escaped. -/
theorem resolved_again_docs :
    resolveLink "../b c?x='1'".toList History.localOrigin "/docs/a/".toList =
      .ok "/docs/b%20c?x=%271%27".toList ∧
    resolveLink "/docs/b%20c?x=%271%27".toList History.localOrigin "/other".toList =
      .ok "/docs/b%20c?x=%271%27".toList := by
  have hfirst : resolveLink "../b c?x='1'".toList History.localOrigin "/docs/a/".toList =
      .ok "/docs/b%20c?x=%271%27".toList := by decide +kernel
  obtain ⟨hagain, hpage⟩ := resolved_again Page.isWebOrigin_localOrigin hfirst (by decide +kernel)
    (show "/other".toList.head? = some '/' by decide +kernel)
  exact ⟨hfirst, hagain.2 ⟨hpage (by decide +kernel), by decide +kernel⟩⟩

/-- **Locations that are read differently as links**: a path that begins with two slashes names another
origin, and the address inside a `blob` address has a location of its own. -/
theorem resolved_elsewhere : IsWebOrigin History.localOrigin ∧
    resolveLink "http://localhost//example.org/x".toList History.localOrigin ['/'] =
      .ok "//example.org/x".toList ∧
    resolveLink "//example.org/x".toList History.localOrigin ['/'] = .error .otherOrigin ∧
    resolveLink "blob:http://localhost/x".toList History.localOrigin ['/'] =
      .ok "http://localhost/x".toList ∧
    resolveLink "http://localhost/x".toList History.localOrigin ['/'] = .ok "/x".toList :=
  ⟨Page.isWebOrigin_localOrigin, by decide +kernel, by decide +kernel, by decide +kernel,
    by decide +kernel⟩

end PageRouter

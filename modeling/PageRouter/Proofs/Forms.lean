import Mathlib.Data.List.TakeWhile
import PageRouter.Proofs.Queries

/-!
# Queries in the format of forms

A query is written as the names and values of a form are sent, and the standard of that format
(`application/x-www-form-urlencoded`) knows octets only: each octet of a name or value is written on
its own (`Form.write`), and octets are cut at those of `&` and `=` before they are read
(`Form.read`).  This library cuts texts at characters instead.  That is the same, since the octets
of an ASCII character are in no other character (`Octet.mem_ofChar_iff`), so that cutting a text and
cutting its octets come to the same parts (`Text.splitOn_utf8`).

So queries are written and read as the standard says, and what was written is read back as it was:
as a whole, and as the search of a location (`Query.form_round_trip`).
-/

namespace PageRouter

open Text

/-! ## The format -/

namespace Form

/-- The octets that stand for themselves: those of ASCII letters and digits and of `*-._`. -/
def IsPlain (b : Nat) : Prop :=
  b = 0x2A ∨ b = 0x2D ∨ b = 0x2E ∨ (0x30 ≤ b ∧ b ≤ 0x39) ∨ (0x41 ≤ b ∧ b ≤ 0x5A) ∨ b = 0x5F ∨
    (0x61 ≤ b ∧ b ≤ 0x7A)

instance : DecidablePred IsPlain := fun _ => inferInstanceAs (Decidable (_ ∨ _))

/-- One octet as it is written: a blank is `+`, and what does not stand for itself is escaped. -/
def writeOctet (b : Octet) : Text :=
  if b = 0x20 then ['+'] else if IsPlain b then [Char.ofNat b] else b.escape

def writePart (part : Text) : Text :=
  part.utf8.flatMap writeOctet

/-- **Names and values as they are written.** -/
def write (query : Query) : Text :=
  joinWith '&' (query.map fun (name, value) => writePart name ++ '=' :: writePart value)

/-- A name or value as it is read: `+` is a blank, and escapes stand for octets. -/
def readPart (octets : List Octet) : Text :=
  ofUtf8Lossy (Octet.unescape (octets.map fun b => if b = 0x2B then 0x20 else b))

/-- A name and a value, cut at the first `=`; without one there is only a name. -/
def readPair (octets : List Octet) : Text × Text :=
  (readPart (octets.takeWhile (· ≠ 0x3D)), readPart (octets.dropWhile (· ≠ 0x3D)).tail)

/-- **Octets as they are read.**  Nothing between two `&` is no pair. -/
def read (octets : List Octet) : Query :=
  ((octets.splitOn 0x26).filter (· ≠ [])).map readPair

end Form

/-! ## Signs among octets -/

namespace Octet

lemma le_of_mem_ofChar {c : Char} {b : Nat} (hc : 0x80 ≤ c.toNat) (h : b ∈ ofChar c) :
    0x80 ≤ b := by
  simp only [ofChar, if_neg (Nat.not_lt.2 hc)] at h
  split at h
  · simp only [List.mem_cons, List.not_mem_nil, or_false] at h
    omega
  split at h
  · simp only [List.mem_cons, List.not_mem_nil, or_false] at h
    omega
  · simp only [List.mem_cons, List.not_mem_nil, or_false] at h
    omega

/-- **The octet of an ASCII character** is in no other character. -/
lemma mem_ofChar_iff {sign c : Char} (hsign : sign.toNat < 0x80) :
    sign.toNat ∈ ofChar c ↔ c = sign := by
  constructor
  · intro hmem
    rcases Nat.lt_or_ge c.toNat 0x80 with hlt | hge
    · rw [ofChar_of_lt hlt, List.mem_singleton] at hmem
      exact Char.toNat_inj.1 hmem.symm
    · have := le_of_mem_ofChar hge hmem
      omega
  · rintro rfl
    rw [ofChar_of_lt hsign]
    exact List.mem_singleton_self _

end Octet

namespace Text

variable {sign : Char} {text : Text}

lemma mem_utf8_iff (hsign : sign.toNat < 0x80) : sign.toNat ∈ utf8 text ↔ sign ∈ text := by
  rw [utf8, List.mem_flatMap]
  constructor
  · rintro ⟨c, hc, hmem⟩
    exact (Octet.mem_ofChar_iff hsign).1 hmem ▸ hc
  · exact fun hmem => ⟨sign, hmem, (Octet.mem_ofChar_iff hsign).2 rfl⟩

lemma ne_of_mem_utf8 (hsign : sign.toNat < 0x80) (h : sign ∉ text) {b : Octet}
    (hb : b ∈ utf8 text) : b ≠ sign.toNat := by
  rintro rfl
  exact h ((mem_utf8_iff hsign).1 hb)

lemma utf8_append_cons (hsign : sign.toNat < 0x80) (before after : Text) :
    utf8 (before ++ sign :: after) = utf8 before ++ sign.toNat :: utf8 after := by
  rw [Octet.utf8_append, utf8, utf8, utf8, List.flatMap_cons, Octet.ofChar_of_lt hsign]
  rfl

lemma utf8_eq_nil_iff : utf8 text = [] ↔ text = [] :=
  ⟨fun hnil => by_contra fun hne => utf8_ne_nil hne hnil, fun hnil => hnil ▸ rfl⟩

lemma cutAt?_of_not_mem (h : sign ∉ text) : cutAt? sign text = none := by
  induction text with
  | nil => rfl
  | cons c text ih =>
      rw [List.mem_cons, not_or] at h
      rw [cutAt?, if_neg (Ne.symm h.1), ih h.2]
      rfl

lemma splitOn_octets_of_not_mem {sep : Octet} {octets : List Octet} (h : sep ∉ octets) :
    octets.splitOn sep = [octets] :=
  List.splitOnP_eq_singleton fun _ hmem => beq_eq_false_iff_ne.2 fun heq => h (heq ▸ hmem)

/-- **Cutting a text** at an ASCII character is cutting its octets. -/
lemma splitOn_utf8 (hsign : sign.toNat < 0x80) (text : Text) :
    (utf8 text).splitOn sign.toNat = (splitOn sign text).map utf8 := by
  by_cases hmem : sign ∈ text
  · -- the first part is the same, and the induction is on what follows it
    obtain ⟨before, after, htext, hbefore⟩ := List.eq_append_cons_of_mem hmem
    have hafter : after.length < text.length := by simp [htext]; omega
    have hcut : (utf8 before ++ sign.toNat :: utf8 after).splitOn sign.toNat =
        (utf8 before).splitOn sign.toNat ++ (utf8 after).splitOn sign.toNat :=
      List.splitOnP_append_cons _ _ (beq_self_eq_true _)
    have hfirst := splitOn_octets_of_not_mem (mt (mem_utf8_iff hsign).1 hbefore)
    rw [htext, utf8_append_cons hsign, hcut, hfirst, splitOn_utf8 hsign after, splitOn_append,
      splitOn_of_not_mem hbefore, List.map_append, List.map_singleton]
  · rw [splitOn_octets_of_not_mem (mt (mem_utf8_iff hsign).1 hmem), splitOn_of_not_mem hmem,
      List.map_singleton]
termination_by text.length

end Text

/-! ## Writing and reading -/

namespace Form

lemma isPlain_iff (c : Char) : Query.isPlain c ↔ IsPlain c.toNat := by
  have hle : ∀ d e : Char, d ≤ e ↔ d.toNat ≤ e.toNat := fun d e => UInt32.le_iff_toNat_le
  simp only [Query.isPlain, isLetter, isDigit, Bool.or_eq_true, Bool.and_eq_true,
    decide_eq_true_eq, beq_iff_eq, IsPlain, hle, ← Char.toNat_inj, Char.reduceToNat]
  omega

/-- The octets of a character that does not stand for itself do not either. -/
lemma not_isPlain_of_mem_ofChar {c : Char} (hblank : c ≠ ' ') (hplain : ¬Query.isPlain c) {b : Nat}
    (hb : b ∈ Octet.ofChar c) : b ≠ 0x20 ∧ ¬IsPlain b := by
  rcases Nat.lt_or_ge c.toNat 0x80 with hlt | hge
  · rw [Octet.ofChar_of_lt hlt, List.mem_singleton] at hb
    subst hb
    exact ⟨fun heq => hblank (Char.toNat_inj.1 heq), mt (isPlain_iff c).2 hplain⟩
  · have hbeyond := Octet.le_of_mem_ofChar hge hb
    rw [IsPlain]
    omega

/-- **A text is written octet by octet.** -/
lemma encodePart_eq (part : Text) : Query.encodePart part = writePart part := by
  rw [Query.encodePart, writePart, utf8, List.flatMap_assoc]
  refine List.flatMap_congr fun c _ => ?_
  by_cases hblank : c = ' '
  · subst hblank
    rfl
  rw [if_neg hblank, escapeUnless, List.flatMap_singleton]
  by_cases hplain : Query.isPlain c
  · have hlt := (Query.isPlain_ascii hplain).1
    have hne : c.toNat ≠ 0x20 := fun heq => hblank (Char.toNat_inj.1 heq)
    rw [if_pos hplain, Octet.ofChar_of_lt hlt, List.flatMap_singleton, writeOctet, if_neg hne,
      if_pos ((isPlain_iff c).1 hplain), Char.ofNat_toNat]
  · rw [if_neg hplain]
    refine List.flatMap_congr fun b hb => ?_
    obtain ⟨hne, hescaped⟩ := not_isPlain_of_mem_ofChar hblank hplain hb
    rw [writeOctet, if_neg hne, if_neg hescaped]

lemma write_eq (query : Query) : Query.write query = write query := by
  rw [Query.write, write]
  refine congrArg _ (List.map_congr_left fun pair _ => ?_)
  rw [Query.encodePair, encodePart_eq, encodePart_eq]

/-- **A part is read octet by octet.** -/
lemma decodePart_eq (part : Text) : Query.decodePart part = readPart part.utf8 := by
  rw [Query.decodePart, readPart]
  refine congrArg (ofUtf8Lossy ∘ Octet.unescape) ?_
  rw [utf8, utf8, List.flatMap_map, List.map_flatMap]
  refine List.flatMap_congr fun c _ => ?_
  by_cases hplus : c = '+'
  · subst hplus
    rfl
  · have hsame : ∀ b ∈ Octet.ofChar c, (if b = 0x2B then 0x20 else b) = b := by
      intro b hb
      refine if_neg ?_
      rintro rfl
      exact hplus ((Octet.mem_ofChar_iff (by decide : '+'.toNat < 0x80)).1 hb)
    rw [if_neg hplus, List.map_congr_left hsame, List.map_id']

/-- **A pair is cut** where its octets are. -/
lemma decodePair_eq (pair : Text) : Query.decodePair pair = readPair pair.utf8 := by
  have hsign : '='.toNat < 0x80 := by decide
  have hpass : ∀ text : Text, '=' ∉ text → ∀ b ∈ text.utf8, decide (b ≠ 0x3D) = true :=
    fun text hfree b hb => decide_eq_true (ne_of_mem_utf8 hsign hfree hb)
  rw [Query.decodePair, readPair]
  by_cases hmem : '=' ∈ pair
  · obtain ⟨name, value, rfl, hname⟩ := List.eq_append_cons_of_mem hmem
    rw [cutAt?_append hname, utf8_append_cons hsign,
      List.takeWhile_append_of_pos (hpass name hname),
      List.dropWhile_append_of_pos (hpass name hname)]
    simp [decodePart_eq]
  · rw [cutAt?_of_not_mem hmem, List.takeWhile_eq_self_iff.2 (hpass pair hmem),
      List.dropWhile_eq_nil_iff.2 (hpass pair hmem), decodePart_eq]
    rfl

/-- **A query is read as its octets are.** -/
lemma parse_eq (text : Text) : Query.parse text = read (Query.dropMark text).utf8 := by
  have hcut : (Query.dropMark text).utf8.splitOn 0x26 = _ :=
    splitOn_utf8 (by decide : '&'.toNat < 0x80) (Query.dropMark text)
  have hkept : ∀ part : Text, decide (part.utf8 ≠ []) = decide (part ≠ []) := fun part =>
    decide_eq_decide.2 (not_congr utf8_eq_nil_iff)
  rw [Query.parse, read, hcut, List.filter_map, List.map_map]
  simp only [Function.comp_def, hkept, ← decodePair_eq]

end Form

/-- **Queries have the format of forms**: they are written as forms are, and read as forms are, with
or without a `?` in front.  What was written is read back as it was, whatever the names and values
are, and so is the search of a location that a written query was put behind. -/
theorem Query.form_round_trip (query : Query) :
    write query = Form.write query ∧
      (∀ text, parse text = Form.read (dropMark text).utf8) ∧
      parse (write query) = query ∧
      ∀ path, '?' ∉ path → parse (splitSearch (path ++ '?' :: write query)).2 = query := by
  refine ⟨Form.write_eq query, Form.parse_eq, parse_write query, fun path hpath => ?_⟩
  have hsearch : splitSearch (path ++ '?' :: write query) = (path, '?' :: write query) :=
    splitSearch_append hpath (some (write query))
  have hmark : parse ('?' :: write query) = parse (write query) := by
    rw [parse, parse, dropMark_of_not_mem (not_mem_write query)]
    rfl
  rw [hsearch, hmark, parse_write]

/-- Signs of the format, blanks and characters beyond ASCII in names and values. -/
example : Query.write [("q".toList, "a b&c=d?".toList), ([], []), ("ä+".toList, "100%".toList)] =
    "q=a+b%26c%3Dd%3F&=&%C3%A4%2B=100%25".toList := by decide +kernel

end PageRouter

import Mathlib.Tactic.Lemma
import PageRouter.Text.Percent

/-!
# Escapes are read back

Writing escapes and reading them is a round trip on every text (`decodeComponent_encodeComponent`),
whatever characters are kept, as long as they are ASCII characters other than `%`
(`Octet.unescape_escapeUnless`).  What is written holds none of the characters that part a path
(`inside_of_mem_encodeComponent`).  Only nothing is read as nothing
(`decodeComponent_ne_nil`).
-/

namespace PageRouter

open Text

namespace Octet

/-! ## One octet -/

lemma hexValue_hexDigit : ∀ n < 16, hexValue? (hexDigit n).toNat = some n := by decide

lemma hexDigit_lt : ∀ n < 16, (hexDigit n).toNat < 0x80 := by decide

lemma ofChar_of_lt {c : Char} (h : c.toNat < 0x80) : ofChar c = [c.toNat] := by
  simp [ofChar, h]

lemma lt_of_mem_ofChar {c : Char} {b : Nat} (h : b ∈ ofChar c) : b < 0x100 := by
  have hc : c.toNat < 0x110000 := by
    have hvalid : c.toNat < 0xD800 ∨ (0xDFFF < c.toNat ∧ c.toNat < 0x110000) := c.valid
    omega
  simp only [ofChar] at h
  split at h
  · obtain rfl := List.mem_singleton.1 h
    omega
  split at h
  · simp only [List.mem_cons, List.not_mem_nil, or_false] at h
    rcases h with rfl | rfl <;> omega
  split at h
  · simp only [List.mem_cons, List.not_mem_nil, or_false] at h
    rcases h with rfl | rfl | rfl <;> omega
  · simp only [List.mem_cons, List.not_mem_nil, or_false] at h
    rcases h with rfl | rfl | rfl | rfl <;> omega

/-- An octet that starts no escape stands for itself. -/
lemma unescape_cons_of_ne {b : Octet} (h : b ≠ 0x25) (rest : List Octet) :
    unescape (b :: rest) = b :: unescape rest := by
  rcases rest with _ | ⟨high, _ | ⟨low, rest⟩⟩
  · rfl
  · rfl
  · rw [unescape, if_neg h]

/-- **An escape is read back.** -/
lemma unescape_escape {b : Nat} (h : b < 0x100) (rest : List Octet) :
    unescape (utf8 (escape b) ++ rest) = b :: unescape rest := by
  have hhigh : b / 16 < 16 := by omega
  have hlow : b % 16 < 16 := Nat.mod_lt b (by omega)
  have hoctets : utf8 (escape b) = [0x25, (hexDigit (b / 16)).toNat, (hexDigit (b % 16)).toNat] := by
    have hpercent : ofChar '%' = [0x25] := rfl
    simp [utf8, escape, hpercent, ofChar_of_lt (hexDigit_lt _ hhigh),
      ofChar_of_lt (hexDigit_lt _ hlow)]
  have hvalue : 16 * (b / 16) + b % 16 = b := Nat.div_add_mod b 16
  rw [hoctets]
  simp [unescape, ofHex?, hexValue_hexDigit _ hhigh, hexValue_hexDigit _ hlow, hvalue]

/-! ## Texts -/

lemma utf8_append (text text' : Text) : utf8 (text ++ text') = utf8 text ++ utf8 text' :=
  List.flatMap_append

lemma unescape_escapes {octets : List Octet} (h : ∀ b ∈ octets, b < 0x100) (rest : List Octet) :
    unescape (utf8 (octets.flatMap escape) ++ rest) = octets ++ unescape rest := by
  induction octets with
  | nil => rfl
  | cons b octets ih =>
      rw [List.flatMap_cons, utf8_append, List.append_assoc, unescape_escape (h b (by simp)),
        ih fun c hc => h c (List.mem_cons_of_mem b hc)]
      rfl

/-- **Escaping is undone**, if only ASCII characters other than `%` are kept. -/
theorem unescape_escapeUnless {keep : Char → Bool}
    (hkeep : ∀ c, keep c → c.toNat < 0x80 ∧ c ≠ '%') (text : Text) (rest : List Octet) :
    unescape (utf8 (escapeUnless keep text) ++ rest) = utf8 text ++ unescape rest := by
  induction text with
  | nil => rfl
  | cons c text ih =>
      have hcons : utf8 (c :: text) = ofChar c ++ utf8 text := List.flatMap_cons
      have hwritten : escapeUnless keep (c :: text) =
          (if keep c then [c] else (ofChar c).flatMap escape) ++ escapeUnless keep text :=
        List.flatMap_cons
      rw [hwritten, hcons, utf8_append, List.append_assoc, List.append_assoc]
      split
      · next hc =>
          obtain ⟨hascii, hne⟩ := hkeep c hc
          have hoctet : c.toNat ≠ 0x25 := fun heq => hne (Char.toNat_inj.1 heq)
          have hsingle : utf8 [c] = [c.toNat] := by simp [utf8, ofChar_of_lt hascii]
          rw [hsingle, ofChar_of_lt hascii, List.singleton_append, unescape_cons_of_ne hoctet, ih]
          rfl
      · rw [unescape_escapes fun b => lt_of_mem_ofChar, ih]

/-! ## Only nothing is read as nothing -/

lemma unescape_ne_nil {octets : List Octet} (h : octets ≠ []) : unescape octets ≠ [] := by
  unfold unescape
  split
  · split <;> exact List.cons_ne_nil _ _
  · exact h

/-- What begins is a character or something ill-formed. -/
lemma scan_ne_nil {pending : Option Pending} {octets : List Octet}
    (h : pending.isSome ∨ octets ≠ []) : scan pending octets ≠ [] := by
  induction octets generalizing pending with
  | nil =>
      cases pending with
      | none => simp at h
      | some pending => exact List.cons_ne_nil _ _
  | cons b rest ih =>
      cases pending with
      | none =>
          rw [scan]
          split
          · exact List.cons_ne_nil _ _
          · exact ih (.inl rfl)
          · exact List.cons_ne_nil _ _
      | some pending =>
          rw [scan]
          split
          · split
            · exact List.cons_ne_nil _ _
            · exact ih (.inl rfl)
          · split <;> exact List.cons_ne_nil _ _

end Octet

namespace Text

lemma ofUtf8?_utf8 (text : Text) : ofUtf8? text.utf8 = some text := by
  rw [ofUtf8?, Octet.scan_utf8]
  induction text with
  | nil => rfl
  | cons c text ih => simp [ih]

lemma toNat_lt_of_le {c : Char} (h : c ≤ '~') : c.toNat < 0x80 :=
  Nat.lt_succ_of_le (Nat.le_trans (UInt32.le_iff_toNat_le.1 h) (by decide))

lemma isUnreserved_ascii {c : Char} (h : isUnreserved c) : c.toNat < 0x80 ∧ c ≠ '%' := by
  refine ⟨?_, by rintro rfl; revert h; decide⟩
  simp only [isUnreserved, isLetter, isDigit, Bool.or_eq_true, Bool.and_eq_true, decide_eq_true_eq,
    beq_iff_eq] at h
  rcases h with (((((⟨-, hle⟩ | ⟨-, hle⟩) | ⟨-, hle⟩) | rfl) | rfl) | rfl) | rfl
  · exact toNat_lt_of_le (Char.le_trans hle (by decide))
  · exact toNat_lt_of_le (Char.le_trans hle (by decide))
  · exact toNat_lt_of_le (Char.le_trans hle (by decide))
  all_goals decide

/-- **A value comes back from its written form.** -/
theorem decodeComponent_encodeComponent (text : Text) :
    decodeComponent (encodeComponent text) = text := by
  have hoctets : Octet.unescape (encodeComponent text).utf8 = text.utf8 := by
    have hread := Octet.unescape_escapeUnless (fun c => isUnreserved_ascii) text []
    have hnil : Octet.unescape [] = [] := rfl
    rwa [hnil, List.append_nil, List.append_nil] at hread
  rw [decodeComponent, decodeComponent?, hoctets, ofUtf8?_utf8, Option.getD_some]

lemma hexDigit_not_mark : ∀ n < 16, Octet.hexDigit n ≠ '/' ∧ Octet.hexDigit n ≠ '?' := by decide

/-- A written value does not end a segment. -/
lemma inside_of_mem_encodeComponent {text : Text} {c : Char} (h : c ∈ encodeComponent text) :
    c ≠ '/' ∧ c ≠ '?' := by
  obtain ⟨d, -, hc⟩ := List.mem_flatMap.1 h
  split at hc
  · next hkeep =>
      obtain rfl := List.mem_singleton.1 hc
      constructor <;> rintro rfl <;> revert hkeep <;> decide
  · obtain ⟨b, hb, hc⟩ := List.mem_flatMap.1 hc
    have hbyte := Octet.lt_of_mem_ofChar hb
    simp only [Octet.escape, List.mem_cons, List.not_mem_nil, or_false] at hc
    rcases hc with rfl | rfl | rfl
    · decide
    · exact hexDigit_not_mark _ (by omega)
    · exact hexDigit_not_mark _ (Nat.mod_lt b (by decide))

lemma encodeComponent_ne_nil {text : Text} (h : text ≠ []) : encodeComponent text ≠ [] := by
  intro hnil
  have hread := decodeComponent_encodeComponent text
  rw [hnil] at hread
  exact h hread.symm

lemma utf8_ne_nil {text : Text} (h : text ≠ []) : utf8 text ≠ [] := by
  intro hnil
  have hscan := Octet.scan_utf8 text
  rw [hnil, Octet.scan] at hscan
  exact h (List.map_eq_nil_iff.1 hscan.symm)

/-- **A value that is not empty** is not read as an empty one. -/
lemma decodeComponent_ne_nil {text : Text} (h : text ≠ []) : decodeComponent text ≠ [] := by
  rw [decodeComponent]
  cases hread : decodeComponent? text with
  | none => exact h
  | some value =>
      rintro rfl
      have hscan : Octet.scan none (Octet.unescape text.utf8) ≠ [] :=
        Octet.scan_ne_nil (.inr (Octet.unescape_ne_nil (utf8_ne_nil h)))
      rw [decodeComponent?, ofUtf8?] at hread
      obtain ⟨first, rest, hcons⟩ := List.exists_cons_of_ne_nil hscan
      rw [hcons] at hread
      cases first <;> simp [Option.bind_eq_some_iff] at hread

end Text

end PageRouter

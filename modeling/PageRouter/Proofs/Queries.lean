import PageRouter.Proofs.Escapes
import PageRouter.Proofs.Segments

/-!
# Queries are read back

Reading a written query is a round trip on every list of names and values (`Query.parse_write`):
what parts the pairs, and a name from its value, is escaped where it belongs to one of them
(`Query.inside_of_mem_encodePart`), and a written part is read as what it was made from
(`Query.decodePart_encodePart`).
-/

namespace PageRouter

open Text

namespace Text

/-- A text is cut at the first occurrence. -/
lemma cutAt?_append {sep : Char} {before : Text} (h : sep ∉ before) (rest : Text) :
    cutAt? sep (before ++ sep :: rest) = some (before, rest) := by
  induction before with
  | nil => simp [cutAt?]
  | cons c before ih =>
      rw [List.mem_cons, not_or] at h
      rw [List.cons_append, cutAt?, if_neg (Ne.symm h.1), ih h.2]
      rfl

end Text

namespace Query

/-! ## Parts -/

/-- The characters that are not escaped in a written part, the blank among them. -/
def isKept (c : Char) : Bool := isPlain c || c == ' '

lemma isPlain_ascii {c : Char} (h : isPlain c) : c.toNat < 0x80 ∧ c ≠ '%' ∧ c ≠ '+' := by
  refine ⟨?_, by rintro rfl; revert h; decide, by rintro rfl; revert h; decide⟩
  simp only [isPlain, isLetter, isDigit, Bool.or_eq_true, Bool.and_eq_true, decide_eq_true_eq,
    beq_iff_eq] at h
  rcases h with (((((⟨-, hle⟩ | ⟨-, hle⟩) | ⟨-, hle⟩) | rfl) | rfl) | rfl) | rfl
  · exact toNat_lt_of_le (Char.le_trans hle (by decide))
  · exact toNat_lt_of_le (Char.le_trans hle (by decide))
  · exact toNat_lt_of_le (Char.le_trans hle (by decide))
  all_goals decide

lemma isKept_ascii {c : Char} (h : isKept c) : c.toNat < 0x80 ∧ c ≠ '%' := by
  rcases Bool.or_eq_true_iff.1 h with hplain | hblank
  · exact ⟨(isPlain_ascii hplain).1, (isPlain_ascii hplain).2.1⟩
  · obtain rfl := beq_iff_eq.1 hblank
    decide

lemma hexDigit_plain : ∀ n < 16, isPlain (Octet.hexDigit n) := by decide

/-- A character is escaped by `%` and digits, or stands for itself. -/
lemma escaped_cases {c d : Char} (h : d ∈ escapeUnless isPlain [c]) : d = '%' ∨ isPlain d := by
  rw [escapeUnless, List.flatMap_singleton] at h
  split at h
  · next hplain =>
      obtain rfl := List.mem_singleton.1 h
      exact .inr hplain
  · obtain ⟨b, hb, hd⟩ := List.mem_flatMap.1 h
    have hbyte := Octet.lt_of_mem_ofChar hb
    simp only [Octet.escape, List.mem_cons, List.not_mem_nil, or_false] at hd
    rcases hd with rfl | rfl | rfl
    · exact .inl rfl
    · exact .inr (hexDigit_plain _ (by omega))
    · exact .inr (hexDigit_plain _ (Nat.mod_lt b (by decide)))

/-- **Nothing that parts a query** is in a written part. -/
lemma inside_of_mem_encodePart {part : Text} {c : Char} (h : c ∈ encodePart part) :
    c ≠ '&' ∧ c ≠ '=' ∧ c ≠ '?' := by
  obtain ⟨d, -, hc⟩ := List.mem_flatMap.1 h
  split at hc
  · obtain rfl := List.mem_singleton.1 hc
    decide
  · rcases escaped_cases hc with rfl | hplain
    · decide
    · refine ⟨?_, ?_, ?_⟩ <;> rintro rfl <;> revert hplain <;> decide

/-- With its signs read as blanks, a written part is one in which the blanks are kept. -/
lemma map_encodePart (part : Text) :
    ((encodePart part).map fun c => if c = '+' then ' ' else c) = escapeUnless isKept part := by
  rw [encodePart, List.map_flatMap, escapeUnless]
  refine List.flatMap_congr fun c _ => ?_
  by_cases hblank : c = ' '
  · subst hblank
    decide
  · have hkept : isKept c = isPlain c := by simp [isKept, hblank]
    have hsame : ∀ d ∈ escapeUnless isPlain [c], (if d = '+' then ' ' else d) = d := by
      intro d hd
      refine if_neg ?_
      rcases escaped_cases hd with rfl | hplain
      · decide
      · exact (isPlain_ascii hplain).2.2
    rw [if_neg hblank, List.map_congr_left hsame, List.map_id', hkept, escapeUnless,
      List.flatMap_singleton]

/-- **A written part is read back.** -/
theorem decodePart_encodePart (part : Text) : decodePart (encodePart part) = part := by
  have hoctets : Octet.unescape (escapeUnless isKept part).utf8 = part.utf8 := by
    have hread := Octet.unescape_escapeUnless (fun c => isKept_ascii) part []
    have hnil : Octet.unescape [] = [] := rfl
    rwa [hnil, List.append_nil, List.append_nil] at hread
  rw [decodePart, map_encodePart, hoctets, ofUtf8Lossy, Octet.scan_utf8, List.map_map]
  exact List.map_id part

/-! ## Pairs -/

lemma decodePair_encodePair (pair : Text × Text) : decodePair (encodePair pair) = pair := by
  have hname : '=' ∉ encodePart pair.1 := fun h => (inside_of_mem_encodePart h).2.1 rfl
  rw [encodePair, decodePair, cutAt?_append hname]
  exact Prod.ext (decodePart_encodePart pair.1) (decodePart_encodePart pair.2)

lemma inside_of_mem_encodePair {pair : Text × Text} {c : Char} (h : c ∈ encodePair pair) :
    c ≠ '&' ∧ c ≠ '?' := by
  rw [encodePair, List.mem_append, List.mem_cons] at h
  rcases h with h | rfl | h
  · exact ⟨(inside_of_mem_encodePart h).1, (inside_of_mem_encodePart h).2.2⟩
  · decide
  · exact ⟨(inside_of_mem_encodePart h).1, (inside_of_mem_encodePart h).2.2⟩

lemma encodePair_ne_nil (pair : Text × Text) : encodePair pair ≠ [] := by simp [encodePair]

lemma dropMark_of_not_mem {query : Text} (h : '?' ∉ query) : dropMark query = query := by
  unfold dropMark
  split
  · simp at h
  · rfl

lemma not_mem_write (query : Query) : '?' ∉ write query := by
  intro h
  rcases mem_of_mem_joinWith h with heq | ⟨written, hwritten, hc⟩
  · revert heq
    decide
  · obtain ⟨pair, -, rfl⟩ := List.mem_map.1 hwritten
    exact (inside_of_mem_encodePair hc).2 rfl

/-- **A written query is read back**, whatever its names and values are. -/
theorem parse_write (query : Query) : parse (write query) = query := by
  rw [parse, dropMark_of_not_mem (not_mem_write query), write]
  cases query with
  | nil => rfl
  | cons pair query =>
      have hapart : ∀ part ∈ (pair :: query).map encodePair, '&' ∉ part := by
        intro part hpart hmem
        obtain ⟨other, -, rfl⟩ := List.mem_map.1 hpart
        exact (inside_of_mem_encodePair hmem).1 rfl
      have hsplit := splitOn_joinWith (by simp) hapart
      have hfilter : ((pair :: query).map encodePair).filter (· ≠ []) =
          (pair :: query).map encodePair := by
        rw [List.filter_eq_self]
        intro part hpart
        obtain ⟨other, -, rfl⟩ := List.mem_map.1 hpart
        simpa using encodePair_ne_nil other
      rw [hsplit, hfilter, List.map_map]
      exact (List.map_congr_left fun other _ => decodePair_encodePair other).trans (List.map_id _)

end Query

end PageRouter

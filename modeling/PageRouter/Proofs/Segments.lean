import Mathlib.Data.List.Chain
import Mathlib.Tactic.Lemma
import PageRouter.Proofs.Readings

/-!
# Paths and their segments

A path is **neat** if it begins with a slash, has no two slashes side by side, and does not end in a
slash unless it is the root.  A neat path is told by its segments, each behind a slash (`slashed`),
and `joinPaths` leaves it as it is (`Neat.joinPaths_eq`).

What `joinPaths` does to other paths is told by the segments alone: it makes them neat
(`neat_joinPaths`), and segments of paths behind each other are put behind each other.  So a neat
root in front of a path is found again and taken off, with or without a query behind it
(`Neat.stripRoot_joinPaths`).
-/

namespace PageRouter

open Text

/-! ## Cutting at a character -/

namespace Text

variable {sep : Char} {part : Text}

/-- A text is cut where it is put together. -/
lemma splitOn_append (sep : Char) (text rest : Text) :
    splitOn sep (text ++ sep :: rest) = splitOn sep text ++ splitOn sep rest := by
  induction text with
  | nil => simp [splitOn]
  | cons c text ih =>
      rw [List.cons_append, splitOn, splitOn, ih]
      split
      · rfl
      · cases hparts : splitOn sep text with
        | nil => exact absurd hparts (splitOn_ne_nil sep text)
        | cons part parts => rfl

lemma splitOn_of_not_mem (h : sep ∉ part) : splitOn sep part = [part] := by
  induction part with
  | nil => rfl
  | cons c part ih =>
      rw [List.mem_cons, not_or] at h
      rw [splitOn, if_neg (Ne.symm h.1), ih h.2]

/-- The parts of a text do not hold what it is cut at. -/
lemma not_mem_of_mem_splitOn {text : Text} (h : part ∈ splitOn sep text) : sep ∉ part := by
  induction text generalizing part with
  | nil =>
      obtain rfl := List.mem_singleton.1 h
      exact List.not_mem_nil
  | cons c text ih =>
      rw [splitOn] at h
      split at h
      · rcases List.mem_cons.1 h with rfl | h
        · exact List.not_mem_nil
        · exact ih h
      · next hc =>
        split at h
        · next hparts => exact absurd hparts (splitOn_ne_nil sep text)
        · next first parts hparts =>
          rcases List.mem_cons.1 h with rfl | h
          · rw [List.mem_cons, not_or]
            exact ⟨Ne.symm hc, ih (by rw [hparts]; exact List.mem_cons_self ..)⟩
          · exact ih (by rw [hparts]; exact List.mem_cons_of_mem _ h)

lemma mem_of_mem_joinWith {parts : List Text} {c : Char} (h : c ∈ joinWith sep parts) :
    c = sep ∨ ∃ part ∈ parts, c ∈ part := by
  induction parts with
  | nil => cases h
  | cons part parts ih =>
      cases parts with
      | nil => exact .inr ⟨part, List.mem_cons_self .., h⟩
      | cons next parts =>
          rw [joinWith, List.mem_append, List.mem_cons] at h
          · rcases h with hpart | rfl | hrest
            · exact .inr ⟨part, List.mem_cons_self .., hpart⟩
            · exact .inl rfl
            · refine (ih hrest).imp_right ?_
              rintro ⟨other, hother, hc⟩
              exact ⟨other, List.mem_cons_of_mem _ hother, hc⟩
          · exact List.cons_ne_nil _ _

lemma mem_joinWith_of_mem {parts : List Text} {c : Char} (hpart : part ∈ parts) (hc : c ∈ part) :
    c ∈ joinWith sep parts := by
  induction parts with
  | nil => cases hpart
  | cons first parts ih =>
      cases parts with
      | nil =>
          obtain rfl := List.mem_singleton.1 hpart
          exact hc
      | cons next parts =>
          rw [joinWith, List.mem_append]
          · rcases List.mem_cons.1 hpart with rfl | hpart
            · exact .inl hc
            · exact .inr (List.mem_cons_of_mem _ (ih hpart))
          · exact List.cons_ne_nil _ _

/-- **Cutting undoes joining** where no part holds what the text is cut at. -/
lemma splitOn_joinWith {parts : List Text} (hne : parts ≠ []) (h : ∀ part ∈ parts, sep ∉ part) :
    splitOn sep (joinWith sep parts) = parts := by
  induction parts with
  | nil => exact absurd rfl hne
  | cons part parts ih =>
      have hpart := splitOn_of_not_mem (h part (List.mem_cons_self ..))
      cases parts with
      | nil => exact hpart
      | cons next parts =>
          rw [joinWith, splitOn_append, hpart,
            ih (by simp) fun other hother => h other (List.mem_cons_of_mem _ hother)]
          · rfl
          · exact List.cons_ne_nil _ _

end Text

/-! ## Segments -/

/-- Segments, each behind a slash. -/
def slashed (parts : List Text) : Text := parts.flatMap ('/' :: ·)

lemma cons_joinWith {parts : List Text} (h : parts ≠ []) :
    '/' :: joinWith '/' parts = slashed parts := by
  induction parts with
  | nil => exact absurd rfl h
  | cons part parts ih =>
      cases parts with
      | nil => simp [slashed, joinWith]
      | cons next parts =>
          rw [joinWith, ih (by simp)]
          · rfl
          · exact List.cons_ne_nil _ _

/-- A slash parts the segments. -/
lemma segments_append (path rest : Text) :
    segments (path ++ '/' :: rest) = segments path ++ segments rest := by
  rw [segments, splitOn_append, List.filter_append, segments, segments]

lemma segments_slash (path : Text) : segments ('/' :: path) = segments path :=
  segments_append [] path

/-- **What `joinPaths` makes of segments.** -/
lemma joinPaths_of_ne_nil {pieces : List Text} (h : pieces.flatMap segments ≠ []) :
    joinPaths pieces = slashed (pieces.flatMap segments) :=
  cons_joinWith h

lemma joinPaths_of_eq_nil {pieces : List Text} (h : pieces.flatMap segments = []) :
    joinPaths pieces = ['/'] := by
  rw [joinPaths, h]
  rfl

/-- Only slashes are new in a joined path. -/
lemma not_mem_joinPaths {c : Char} (hc : c ≠ '/') {pieces : List Text}
    (h : ∀ piece ∈ pieces, c ∉ piece) : c ∉ joinPaths pieces := by
  intro hmem
  have hjoined := (List.mem_cons.1 hmem).resolve_left hc
  obtain ⟨segment, hsegment, hc'⟩ := (mem_of_mem_joinWith hjoined).resolve_left hc
  obtain ⟨piece, hpiece, hsegment⟩ := List.mem_flatMap.1 hsegment
  refine h piece hpiece ?_
  rw [← joinWith_splitOn '/' piece]
  exact mem_joinWith_of_mem (List.mem_of_mem_filter hsegment) hc'

/-! ## Neat paths -/

/-- No two slashes stand side by side. -/
def Tight (text : Text) : Prop := ¬"//".toList <:+: text

instance : DecidablePred Tight := fun _ => inferInstanceAs (Decidable ¬_)

/-- **A neat path** begins with a slash, has no two slashes side by side, and does not end in a
slash unless it is the root. -/
structure Neat (path : Text) : Prop where
  head : path.head? = some '/'
  tight : Tight path
  last : path = ['/'] ∨ path.getLast? ≠ some '/'

lemma tight_iff_isChain {text : Text} :
    Tight text ↔ text.IsChain fun a b => ¬(a = '/' ∧ b = '/') := by
  rw [List.isChain_iff_forall_rel_of_append_cons_cons]
  constructor
  · rintro h a b before after rfl ⟨rfl, rfl⟩
    exact h ⟨before, after, by simp⟩
  · rintro h ⟨before, after, rfl⟩
    exact h (List.append_assoc before _ after) ⟨rfl, rfl⟩

/-- Texts put together are tight if they are so themselves and do not meet at two slashes. -/
lemma tight_append_iff {text rest : Text} :
    Tight (text ++ rest) ↔
      Tight text ∧ Tight rest ∧ ¬(text.getLast? = some '/' ∧ rest.head? = some '/') := by
  simp only [tight_iff_isChain, List.isChain_append]
  refine and_congr_right' (and_congr_right' ⟨?_, ?_⟩)
  · rintro h ⟨hlast, hhead⟩
    exact h _ hlast _ hhead ⟨rfl, rfl⟩
  · rintro h _ hlast _ hhead ⟨rfl, rfl⟩
    exact h ⟨hlast, hhead⟩

/-- What has no slash at all is tight. -/
lemma tight_of_not_mem {text : Text} (h : '/' ∉ text) : Tight text := by
  rintro ⟨before, after, rfl⟩
  exact h (by simp)

/-- The slash at the end of a path, if there is one. -/
def slashAtEnd (path : Text) : Text := if path.getLast? = some '/' then ['/'] else []

lemma slashAtEnd_append (path : Text) {rest : Text} (h : rest ≠ []) :
    slashAtEnd (path ++ rest) = slashAtEnd rest := by
  rw [slashAtEnd, slashAtEnd, List.getLast?_append_of_ne_nil path h]

/-- The parts of a tight path, of which only the last one may be empty. -/
lemma slash_joinWith {parts : List Text} (hne : parts ≠ []) (hparts : ∀ part ∈ parts, '/' ∉ part)
    (h : Tight ('/' :: joinWith '/' parts)) :
    '/' :: joinWith '/' parts =
      slashed (parts.filter (· ≠ [])) ++ slashAtEnd ('/' :: joinWith '/' parts) := by
  induction parts with
  | nil => exact absurd rfl hne
  | cons part parts ih =>
      have hpart := hparts part (List.mem_cons_self ..)
      cases parts with
      | nil =>
          cases part with
          | nil => rfl
          | cons c part =>
              have hlast : (c :: part).getLast? ≠ some '/' :=
                fun hlast => hpart (List.mem_of_getLast? hlast)
              simp [joinWith, slashed, slashAtEnd, List.getLast?_cons_cons, hlast]
      | cons next parts =>
          have hjoin : '/' :: joinWith '/' (part :: next :: parts) =
              ('/' :: part) ++ '/' :: joinWith '/' (next :: parts) := rfl
          rw [hjoin] at h ⊢
          obtain ⟨-, hrest, hmeet⟩ := tight_append_iff.1 h
          have hpartNe : part ≠ [] := fun hnil => hmeet (by simp [hnil])
          rw [slashAtEnd_append _ (by simp), List.filter_cons_of_pos (by simpa using hpartNe)]
          have hrest := ih (by simp)
            (fun other hother => hparts other (List.mem_cons_of_mem _ hother)) hrest
          calc ('/' :: part) ++ '/' :: joinWith '/' (next :: parts)
              = ('/' :: part) ++ (slashed ((next :: parts).filter (· ≠ [])) ++
                  slashAtEnd ('/' :: joinWith '/' (next :: parts))) := congrArg _ hrest
            _ = _ := by simp [slashed]

/-- **A tight path is its segments**, each behind a slash, apart from a slash at its end. -/
theorem eq_slashed_segments {path : Text} (hhead : path.head? = some '/') (h : Tight path) :
    path = slashed (segments path) ++ slashAtEnd path := by
  obtain ⟨rest, rfl⟩ := List.head?_eq_some_iff.1 hhead
  have hjoin := joinWith_splitOn '/' rest
  have hslash := slash_joinWith (splitOn_ne_nil '/' rest) (fun part => not_mem_of_mem_splitOn)
    (hjoin.symm ▸ h)
  rw [hjoin] at hslash
  rw [segments_slash]
  exact hslash

namespace Neat

variable {path root : Text}

/-- A neat path is the root, or its segments say it all. -/
lemma eq_root_or (h : Neat path) :
    (path = ['/'] ∧ segments path = []) ∨
      (segments path ≠ [] ∧ path = slashed (segments path)) := by
  have hpath := eq_slashed_segments h.head h.tight
  rcases h.last with rfl | hlast
  · exact .inl ⟨rfl, rfl⟩
  · rw [slashAtEnd, if_neg hlast, List.append_nil] at hpath
    refine .inr ⟨fun hnil => ?_, hpath⟩
    have hhead := h.head
    rw [hpath, hnil] at hhead
    cases hhead

/-- **A neat path stays as it is** when it is joined. -/
theorem joinPaths_eq (h : Neat path) : joinPaths [path] = path := by
  rcases h.eq_root_or with ⟨hroot, hnil⟩ | ⟨hne, hpath⟩
  · rw [joinPaths_of_eq_nil (by simpa using hnil), hroot]
  · rw [joinPaths_of_ne_nil (by simpa using hne), List.flatMap_singleton, ← hpath]

/-- **A neat root is taken off** the paths that are joined behind it. -/
theorem stripRoot_joinPaths (h : Neat root) (pieces : List Text) (query : Option Text) :
    stripRoot (joinPaths (root :: pieces) ++ searchOf query) root =
      joinPaths pieces ++ searchOf query := by
  rcases h.eq_root_or with ⟨rfl, -⟩ | ⟨hne, hroot⟩
  · rfl
  · have hpieces : joinPaths (root :: pieces) = root ++ slashed (pieces.flatMap segments) := by
      rw [joinPaths_of_ne_nil (by simp [hne]), List.flatMap_cons, slashed, List.flatMap_append]
      exact congrArg (· ++ _) hroot.symm
    have hlong : ¬(root = ['/'] ∨ root = []) := by
      rintro (rfl | rfl)
      · exact hne rfl
      · exact hne rfl
    rw [hpieces, List.append_assoc, stripRoot, if_neg hlong, after?_eq_some_iff.2 rfl]
    cases hsegments : pieces.flatMap segments with
    | nil =>
        rw [joinPaths_of_eq_nil hsegments]
        cases query <;> rfl
    | cons segment rest =>
        rw [joinPaths_of_ne_nil (by simp [hsegments]), hsegments]
        rfl

end Neat

/-- The written form of a root does not end in a slash. -/
lemma neat_normalizeRoot {root : Text} (h : Tight (normalizeRoot root)) :
    Neat (normalizeRoot root) := by
  refine ⟨rfl, h, ?_⟩
  have hlast := getLast?_dropTrailing '/' (dropLeading '/' root)
  rw [normalizeRoot]
  cases hkept : dropTrailing '/' (dropLeading '/' root) with
  | nil => exact .inl rfl
  | cons c kept =>
      rw [hkept] at hlast
      exact .inr (by rwa [List.getLast?_cons_cons])

/-! ## Joined paths are neat -/

lemma mem_segments {path segment : Text} (h : segment ∈ segments path) :
    segment ≠ [] ∧ '/' ∉ segment :=
  ⟨of_decide_eq_true (List.mem_filter.1 h).2, not_mem_of_mem_splitOn (List.mem_filter.1 h).1⟩

/-- Segments behind slashes do not end in a slash, and no two slashes meet. -/
lemma tight_slashed {parts : List Text} (h : ∀ part ∈ parts, part ≠ [] ∧ '/' ∉ part) :
    Tight (slashed parts) ∧ (slashed parts).getLast? ≠ some '/' := by
  induction parts with
  | nil => exact ⟨by decide, by simp [slashed]⟩
  | cons part parts ih =>
      obtain ⟨hne, hpart⟩ := h part (List.mem_cons_self ..)
      obtain ⟨htight, hlast⟩ := ih fun other hother => h other (List.mem_cons_of_mem _ hother)
      have hhead : part.head? ≠ some '/' := fun hhead => hpart (List.mem_of_mem_head? hhead)
      have hend : ('/' :: part).getLast? ≠ some '/' := by
        obtain ⟨c, more, rfl⟩ := List.exists_cons_of_ne_nil hne
        rw [List.getLast?_cons_cons]
        exact fun hend => hpart (List.mem_of_getLast? hend)
      have hfirst : Tight (['/'] ++ part) :=
        tight_append_iff.2 ⟨by decide, tight_of_not_mem hpart, fun hmeet => hhead hmeet.2⟩
      rw [slashed, List.flatMap_cons, ← slashed]
      refine ⟨tight_append_iff.2 ⟨hfirst, htight, fun hmeet => hend hmeet.1⟩, ?_⟩
      rw [List.getLast?_append]
      cases hrest : (slashed parts).getLast? with
      | none => exact hend
      | some c =>
          rw [hrest] at hlast
          exact hlast

lemma of_mem_flatMap_segments {pieces : List Text} {part : Text}
    (h : part ∈ pieces.flatMap segments) : part ≠ [] ∧ '/' ∉ part := by
  obtain ⟨piece, -, hpart⟩ := List.mem_flatMap.1 h
  exact mem_segments hpart

/-- **Every joined path is neat.** -/
theorem neat_joinPaths (pieces : List Text) : Neat (joinPaths pieces) := by
  by_cases hnil : pieces.flatMap segments = []
  · rw [joinPaths_of_eq_nil hnil]
    exact ⟨rfl, by decide, .inl rfl⟩
  · have hparts : ∀ part ∈ pieces.flatMap segments, part ≠ [] ∧ '/' ∉ part :=
      fun part => of_mem_flatMap_segments
    obtain ⟨htight, hlast⟩ := tight_slashed hparts
    rw [← joinPaths_of_ne_nil hnil] at htight hlast
    exact ⟨rfl, htight, .inr hlast⟩

/-- **The segments of a joined path** are those of its pieces. -/
theorem segments_joinPaths (pieces : List Text) :
    segments (joinPaths pieces) = pieces.flatMap segments := by
  rw [joinPaths, segments_slash]
  by_cases hnil : pieces.flatMap segments = []
  · rw [hnil]
    rfl
  · rw [segments, splitOn_joinWith hnil fun part hpart => (of_mem_flatMap_segments hpart).2]
    exact List.filter_eq_self.2 fun part hpart =>
      decide_eq_true (of_mem_flatMap_segments hpart).1

end PageRouter

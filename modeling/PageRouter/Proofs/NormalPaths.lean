import PageRouter.Proofs.Segments

/-!
# The normal form of a path

Many texts name one place: `a//b`, `/a/b/` and `/a/b` have the same segments.  Among all paths with
given segments exactly one is neat (`Neat.eq_of_segments`), and `joinPaths` finds it: a path is the
joined one exactly if it is neat and has the segments of the pieces (`eq_joinPaths_iff`).

So whatever keeps the segments keeps the joined path.  Pieces may be put behind each other as plain
texts before they are cut (`joinPaths_joinWith`), joined in two parts (`joinPaths_append`), or
joined twice (`joinPaths_idem`).
-/

namespace PageRouter

open Text

variable {path other : Text} {pieces : List Text}

/-! ## Cutting a neat path -/

/-- Segments behind slashes are found again, after the empty part in front of the first slash. -/
lemma splitOn_slashed {parts : List Text} (hne : parts ≠ []) (h : ∀ part ∈ parts, '/' ∉ part) :
    splitOn '/' (slashed parts) = [] :: parts := by
  rw [← cons_joinWith hne, splitOn, if_pos rfl, splitOn_joinWith hne h]

namespace Neat

/-- **A neat path has no empty segment**: where it is cut, only the part in front of its first slash
is empty.  The root alone has an empty part behind its slash as well. -/
lemma splitOn_eq (h : Neat path) : path = ['/'] ∨ splitOn '/' path = [] :: segments path := by
  rcases h.eq_root_or with ⟨hroot, -⟩ | ⟨hne, hpath⟩
  · exact .inl hroot
  · refine .inr ?_
    calc splitOn '/' path
        = splitOn '/' (slashed (segments path)) := congrArg _ hpath
      _ = [] :: segments path := splitOn_slashed hne fun part hpart => (mem_segments hpart).2

/-- **A neat path is told by its segments.** -/
theorem eq_of_segments (h : Neat path) (hother : Neat other)
    (hsegments : segments path = segments other) : path = other :=
  calc path
      = joinPaths [path] := h.joinPaths_eq.symm
    _ = joinPaths [other] := by simp only [joinPaths, List.flatMap_singleton, hsegments]
    _ = other := hother.joinPaths_eq

end Neat

/-! ## Joined paths -/

/-- **The joined path** is the neat one with the segments of the pieces. -/
theorem eq_joinPaths_iff :
    path = joinPaths pieces ↔ Neat path ∧ segments path = pieces.flatMap segments := by
  constructor
  · rintro rfl
    exact ⟨neat_joinPaths pieces, segments_joinPaths pieces⟩
  · rintro ⟨hneat, hsegments⟩
    exact hneat.eq_of_segments (neat_joinPaths pieces)
      (hsegments.trans (segments_joinPaths pieces).symm)

example : joinPaths ["/users/".toList, "/profile//7".toList] = "/users/profile/7".toList := by
  decide +kernel

/-- A slash between two pieces parts their segments, so no segment comes from both. -/
lemma segments_joinWith (pieces : List Text) :
    segments (joinWith '/' pieces) = pieces.flatMap segments := by
  induction pieces with
  | nil => rfl
  | cons piece pieces ih =>
      cases pieces with
      | nil => rw [joinWith, List.flatMap_singleton]
      | cons next pieces =>
          calc segments (joinWith '/' (piece :: next :: pieces))
              = segments piece ++ segments (joinWith '/' (next :: pieces)) := segments_append ..
            _ = segments piece ++ (next :: pieces).flatMap segments := by rw [ih]
            _ = (piece :: next :: pieces).flatMap segments := List.flatMap_cons.symm

/-- **Cutting can wait** until the pieces are one text. -/
theorem joinPaths_joinWith (pieces : List Text) :
    joinPaths [joinWith '/' pieces] = joinPaths pieces := by
  rw [eq_joinPaths_iff, segments_joinPaths, List.flatMap_singleton]
  exact ⟨neat_joinPaths _, segments_joinWith pieces⟩

/-- **Pieces are joined in two parts** as they are at once. -/
theorem joinPaths_append (xs ys : List Text) :
    joinPaths (xs ++ ys) = joinPaths [joinPaths xs, joinPaths ys] := by
  rw [eq_joinPaths_iff]
  refine ⟨neat_joinPaths (xs ++ ys), ?_⟩
  calc segments (joinPaths (xs ++ ys))
      = xs.flatMap segments ++ ys.flatMap segments := by
        rw [segments_joinPaths, List.flatMap_append]
    _ = segments (joinPaths xs) ++ segments (joinPaths ys) := by
        rw [segments_joinPaths, segments_joinPaths]
    _ = [joinPaths xs, joinPaths ys].flatMap segments := by
        rw [List.flatMap_cons, List.flatMap_singleton]

/-- A joined path is not changed by joining it again. -/
theorem joinPaths_idem (pieces : List Text) : joinPaths [joinPaths pieces] = joinPaths pieces :=
  (neat_joinPaths pieces).joinPaths_eq

/-- **Joining computes a normal form.**  A joined path begins with a slash, has no two slashes side
by side, ends in a slash only if it is the root, and has the segments of its pieces in their order;
no other path has all this.  Where it is cut, no part behind its first slash is empty, unless it is
the root.  It does not matter whether the pieces are cut before they are put together or after, nor
whether some of them have been joined already. -/
theorem joinPaths_normal_form (pieces xs ys : List Text) :
    (∀ path, path = joinPaths pieces ↔ Neat path ∧ segments path = pieces.flatMap segments) ∧
    (joinPaths pieces = ['/'] ∨ splitOn '/' (joinPaths pieces) = [] :: pieces.flatMap segments) ∧
    joinPaths pieces = '/' :: joinWith '/' (segments (joinWith '/' pieces)) ∧
    joinPaths (xs ++ ys) = joinPaths [joinPaths xs, joinPaths ys] ∧
    joinPaths [joinPaths xs] = joinPaths xs := by
  have hcut := (neat_joinPaths pieces).splitOn_eq
  rw [segments_joinPaths] at hcut
  have hlate : joinPaths pieces = '/' :: joinWith '/' (segments (joinWith '/' pieces)) := by
    rw [← joinPaths_joinWith, joinPaths, List.flatMap_singleton]
  exact ⟨fun _ => eq_joinPaths_iff, hcut, hlate, joinPaths_append xs ys, joinPaths_idem xs⟩

end PageRouter

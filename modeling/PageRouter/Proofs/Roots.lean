import PageRouter.Proofs.Segments

/-!
# Roots that are found again

A navigation puts the root in front of a path with `joinPaths`, and matching takes it off with
`stripRoot`.  The two have different notions of a root.  `normalizeRoot` cares for the slashes at
its ends only, while a joined path has no two slashes side by side anywhere (`neat_joinPaths`): a
root that has them inside is not written as it is, and so it is not found again.

So the root in front of a path is taken off exactly if its written form is tight; otherwise nothing
is taken off at all (`stripRoot_joinPaths_eq_iff`).
-/

namespace PageRouter

open Text

variable {text root : Text}

/-- Only slashes have no segments. -/
lemma eq_slash_of_segments {path : Text} (h : segments path = []) {c : Char} (hc : c ∈ path) :
    c = '/' := by
  rw [← joinWith_splitOn '/' path] at hc
  refine (mem_of_mem_joinWith hc).resolve_right ?_
  rintro ⟨part, hpart, hc⟩
  obtain rfl : part = [] := by simpa using List.filter_eq_nil_iff.1 h part hpart
  cases hc

/-- A root has no segments only if it is `/`. -/
lemma normalizeRoot_of_segments (h : segments (normalizeRoot text) = []) :
    normalizeRoot text = ['/'] := by
  have hslash : ∀ c ∈ dropTrailing '/' (dropLeading '/' text), c = '/' :=
    fun c hc => eq_slash_of_segments h (List.mem_cons_of_mem _ hc)
  have hlast := getLast?_dropTrailing '/' (dropLeading '/' text)
  rw [normalizeRoot]
  cases hend : (dropTrailing '/' (dropLeading '/' text)).getLast? with
  | none => rw [List.getLast?_eq_none_iff.1 hend]
  | some c =>
      obtain rfl := hslash c (List.mem_of_getLast? hend)
      exact absurd hend hlast

/-- **A root with two slashes side by side** is in front of no joined path. -/
lemma stripRoot_joinPaths_of_not_tight (h : ¬Tight root) (pieces : List Text) :
    stripRoot (joinPaths pieces) root = joinPaths pieces := by
  have hnone : after? root (joinPaths pieces) = none := by
    rw [Option.eq_none_iff_forall_ne_some]
    intro rest hafter
    have htight := (neat_joinPaths pieces).tight
    rw [after?_eq_some_iff.1 hafter] at htight
    exact h (tight_append_iff.1 htight).1
  rw [stripRoot, hnone]
  exact ite_self _

/-- **The root in front of a path is taken off again exactly if it is tight.**  Otherwise nothing is
taken off. -/
theorem stripRoot_joinPaths_eq_iff (text path : Text) :
    (stripRoot (joinPaths [normalizeRoot text, path]) (normalizeRoot text) = joinPaths [path] ↔
      Tight (normalizeRoot text)) ∧
    (¬Tight (normalizeRoot text) →
      stripRoot (joinPaths [normalizeRoot text, path]) (normalizeRoot text) =
        joinPaths [normalizeRoot text, path]) := by
  have hkept : ¬Tight (normalizeRoot text) → _ := fun hloose =>
    stripRoot_joinPaths_of_not_tight hloose [normalizeRoot text, path]
  refine ⟨⟨fun hstrip => ?_, fun htight => ?_⟩, hkept⟩
  · -- a root that is left on would have no segments of its own
    by_contra hloose
    have hsegments := congrArg segments ((hkept hloose).symm.trans hstrip)
    rw [segments_joinPaths, segments_joinPaths, List.flatMap_cons,
      List.append_left_eq_self] at hsegments
    rw [normalizeRoot_of_segments hsegments] at hloose
    exact hloose (by decide)
  · have hstrip := (neat_normalizeRoot htight).stripRoot_joinPaths [path] none
    rwa [searchOf, List.append_nil, List.append_nil] at hstrip

/-- A root with two slashes inside stays in front of the path. -/
theorem stripRoot_joinPaths_twoSlashes :
    normalizeRoot "/my//app/".toList = "/my//app".toList ∧ ¬Tight "/my//app".toList ∧
      stripRoot (joinPaths ["/my//app".toList, "/about".toList]) "/my//app".toList =
        "/my/app/about".toList := by
  have hroot : normalizeRoot "/my//app/".toList = "/my//app".toList := by decide +kernel
  have hloose : ¬Tight "/my//app".toList := by decide +kernel
  have hkept := (stripRoot_joinPaths_eq_iff "/my//app/".toList "/about".toList).2
  rw [hroot] at hkept
  exact ⟨hroot, hloose, (hkept hloose).trans (by decide +kernel)⟩

end PageRouter

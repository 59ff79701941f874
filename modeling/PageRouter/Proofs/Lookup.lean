import Mathlib.Data.List.Nodup
import Mathlib.Tactic.Lemma
import PageRouter.Params

/-!
# Looking up in maps

A map of parameters is determined by what looking up its names gives (`Params.ext_get?`), so laws
about maps are proved name by name.  Maps come about by setting names one after the other
(`Params.setAll`), starting from nothing (`ofList`) or from another map (`overriddenBy`), and of the
values set for one name the last one counts (`get?_setAll`).
-/

namespace PageRouter

namespace Params

variable {α : Type} {params upper : Params α} {name : Text} {value : α} {pairs : List (Text × α)}

/-! ## Entries -/

lemma mem_of_find? (h : find? name pairs = some value) : (name, value) ∈ pairs := by
  induction pairs with
  | nil => simp [find?] at h
  | cons pair pairs ih =>
      rw [find?] at h
      split at h
      · next hname =>
          cases h
          exact hname ▸ List.mem_cons_self ..
      · exact List.mem_cons_of_mem _ (ih h)

lemma find?_isSome_iff : (find? name pairs).isSome ↔ name ∈ pairs.map (·.1) := by
  induction pairs with
  | nil => simp [find?]
  | cons pair pairs ih =>
      rw [find?, List.map_cons, List.mem_cons]
      split
      · next hname => simp [hname]
      · next hname => simp [ih, Ne.symm hname]

/-- Where no two pairs for a name differ, looking it up finds their value. -/
lemma find?_eq_some (hmem : (name, value) ∈ pairs)
    (hsame : ∀ other, (name, other) ∈ pairs → other = value) : find? name pairs = some value := by
  have hsome : (find? name pairs).isSome :=
    find?_isSome_iff.2 (List.mem_map_of_mem (f := Prod.fst) hmem)
  obtain ⟨other, hother⟩ := Option.isSome_iff_exists.1 hsome
  rw [hother, hsame other (mem_of_find? hother)]

/-- The entries of a map have different names. -/
lemma nodup_names (params : Params α) : params.names.Nodup := by
  refine List.pairwise_map.2 (params.sorted.imp ?_)
  intro a b hlt heq
  rw [heq] at hlt
  exact List.lt_irrefl _ hlt

lemma mem_entries_iff : (name, value) ∈ params.entries ↔ params.get? name = some value := by
  constructor
  · intro hmem
    refine find?_eq_some hmem fun other hother => ?_
    have heq := List.inj_on_of_nodup_map params.nodup_names hmem hother rfl
    exact (Prod.mk.inj heq).2.symm
  · exact mem_of_find?

lemma mem_names_iff : name ∈ params.names ↔ (params.get? name).isSome :=
  find?_isSome_iff.symm

/-- **Maps with the same lookups are the same.** -/
theorem ext_get? {a b : Params α} (h : ∀ name, a.get? name = b.get? name) : a = b := by
  have hmem : ∀ entry, entry ∈ a.entries ↔ entry ∈ b.entries := by
    rintro ⟨name, value⟩
    rw [mem_entries_iff, mem_entries_iff, h]
  have hperm : a.entries.Perm b.entries :=
    (List.perm_ext_iff_of_nodup (.of_map _ a.nodup_names) (.of_map _ b.nodup_names)).2 hmem
  have hentries : a.entries = b.entries :=
    hperm.eq_of_pairwise (fun _ _ _ _ hlt hgt => absurd hgt (List.not_lt.2 (List.le_of_lt hlt)))
      a.sorted b.sorted
  cases a
  cases b
  simpa using hentries

/-! ## Setting names -/

/-- The map with names set one after the other. -/
def setAll (params : Params α) (pairs : List (Text × α)) : Params α :=
  pairs.foldl (fun params pair => params.insert pair.1 pair.2) params

lemma ofList_eq_setAll (pairs : List (Text × α)) : ofList pairs = empty.setAll pairs := rfl

lemma overriddenBy_eq_setAll (params upper : Params α) :
    params.overriddenBy upper = params.setAll upper.entries := rfl

lemma find?_append (name : Text) (pairs pairs' : List (Text × α)) :
    find? name (pairs ++ pairs') = (find? name pairs).or (find? name pairs') := by
  induction pairs with
  | nil => rfl
  | cons pair pairs ih =>
      rw [List.cons_append, find?, find?, ih]
      split <;> simp

/-- **The last value counts.** -/
theorem get?_setAll (params : Params α) (pairs : List (Text × α)) (name : Text) :
    (params.setAll pairs).get? name = (find? name pairs.reverse).or (params.get? name) := by
  induction pairs generalizing params with
  | nil => rfl
  | cons pair pairs ih =>
      rw [List.reverse_cons, find?_append]
      calc ((params.insert pair.1 pair.2).setAll pairs).get? name
          = (find? name pairs.reverse).or ((params.insert pair.1 pair.2).get? name) := ih _
        _ = _ := by
            rw [get?_insert, find?, find?, Option.or_assoc]
            split <;> simp

lemma get?_ofList (pairs : List (Text × α)) (name : Text) :
    (ofList pairs).get? name = find? name pairs.reverse := by
  rw [ofList_eq_setAll, get?_setAll, get?_empty, Option.or_none]

lemma get?_ofList_eq_some (hmem : (name, value) ∈ pairs)
    (hsame : ∀ other, (name, other) ∈ pairs → other = value) :
    (ofList pairs).get? name = some value := by
  rw [get?_ofList]
  exact find?_eq_some (List.mem_reverse.2 hmem) fun other hother =>
    hsame other (List.mem_reverse.1 hother)

/-- The last pair for a name is the one that is found. -/
lemma get?_ofList_last {after : List (Text × α)} (hlast : name ∉ after.map (·.1)) :
    (ofList (pairs ++ (name, value) :: after)).get? name = some value := by
  have hnone : find? name after.reverse = none := by
    rw [← Option.not_isSome_iff_eq_none, find?_isSome_iff, List.map_reverse, List.mem_reverse]
    exact hlast
  rw [get?_ofList, List.reverse_append, List.reverse_cons, find?_append, find?_append, hnone]
  simp [find?]

lemma mem_names_ofList : name ∈ (ofList pairs).names ↔ name ∈ pairs.map (·.1) := by
  rw [mem_names_iff, get?_ofList, find?_isSome_iff, List.map_reverse, List.mem_reverse]

lemma get?_overriddenBy (params upper : Params α) (name : Text) :
    (params.overriddenBy upper).get? name = (upper.get? name).or (params.get? name) := by
  have hentries : find? name upper.entries.reverse = upper.get? name := by
    refine Option.ext fun value => ?_
    rw [← mem_entries_iff]
    constructor
    · exact fun hfind => List.mem_reverse.1 (mem_of_find? hfind)
    · refine fun hmem => find?_eq_some (List.mem_reverse.2 hmem) fun other hother => ?_
      rw [List.mem_reverse, mem_entries_iff] at hother
      rw [mem_entries_iff, hother] at hmem
      exact Option.some.inj hmem
  rw [overriddenBy_eq_setAll, get?_setAll, hentries]

/-- What is set on top of a map overrides it. -/
lemma setAll_eq_overriddenBy (params : Params α) (pairs : List (Text × α)) :
    params.setAll pairs = params.overriddenBy (ofList pairs) :=
  ext_get? fun name => by rw [get?_setAll, get?_overriddenBy, get?_ofList]

lemma ofList_append (pairs pairs' : List (Text × α)) :
    ofList (pairs ++ pairs') = (ofList pairs).overriddenBy (ofList pairs') := by
  rw [← setAll_eq_overriddenBy]
  exact List.foldl_append

/-! ## Values that are there -/

lemma mem_present_iff {params : Params (Option α)} :
    (name, value) ∈ (params.entries.filterMap fun (name, value) => value.map (name, ·)) ↔
      params.get? name = some (some value) := by
  rw [← mem_entries_iff, List.mem_filterMap]
  constructor
  · rintro ⟨⟨_, _ | _⟩, hmem, hvalue⟩
    · cases hvalue
    · cases hvalue
      exact hmem
  · exact fun hmem => ⟨_, hmem, rfl⟩

lemma get?_present (params : Params (Option α)) (name : Text) :
    params.present.get? name = (params.get? name).join := by
  refine Option.ext fun value => ?_
  rw [Option.join_eq_some_iff, ← mem_present_iff]
  constructor
  · intro hget
    rw [present, get?_ofList] at hget
    exact List.mem_reverse.1 (mem_of_find? hget)
  · intro hmem
    refine get?_ofList_eq_some hmem fun other hother => ?_
    rw [mem_present_iff] at hmem hother
    simpa using hother.symm.trans hmem

end Params

end PageRouter

import PageRouter.Text.Basic

/-!
# Parameters by name

The parameters of a route are a finite map from names to values.  Two results show the same element
exactly when their maps are equal, and the element cache finds its entries by such a map, so the
map is kept in one canonical form: its entries stand in the order of their names.  Equality of maps
is then equality of entries, and looking a name up after a change is answered by
`get?_insert` alone.
-/

namespace PageRouter

/-- A finite map from names to values. -/
structure Params (α : Type) where
  /-- The entries in the order of their names. -/
  entries : List (Text × α)
  /-- Each name stands before all that follow. -/
  sorted : entries.Pairwise fun a b => a.1 < b.1
  deriving DecidableEq

namespace Params

variable {α β : Type}

/-! ## Operations -/

def empty : Params α := ⟨[], .nil⟩

instance : EmptyCollection (Params α) := ⟨empty⟩

instance : Inhabited (Params α) := ⟨empty⟩

/-- The value of the first entry with this name. -/
def find? (name : Text) : List (Text × α) → Option α
  | [] => none
  | (other, value) :: rest => if other = name then some value else find? name rest

def get? (params : Params α) (name : Text) : Option α :=
  find? name params.entries

def names (params : Params α) : List Text :=
  params.entries.map (·.1)

/-- Entries in order of their names, with one put in or replaced. -/
def place (name : Text) (value : α) : List (Text × α) → List (Text × α)
  | [] => [(name, value)]
  | (other, old) :: rest =>
    if name < other then (name, value) :: (other, old) :: rest
    else if name = other then (name, value) :: rest
    else (other, old) :: place name value rest

theorem mem_place {name : Text} {value : α} {entries : List (Text × α)} {e : Text × α}
    (h : e ∈ place name value entries) : e = (name, value) ∨ e ∈ entries := by
  induction entries with
  | nil => simpa [place] using h
  | cons head rest ih =>
    obtain ⟨other, old⟩ := head
    unfold place at h
    split at h
    · simpa using h
    split at h
    · rcases List.mem_cons.1 h with h | h
      · exact .inl h
      · exact .inr (List.mem_cons_of_mem _ h)
    · rcases List.mem_cons.1 h with h | h
      · exact .inr (by simp [h])
      · rcases ih h with h | h
        · exact .inl h
        · exact .inr (List.mem_cons_of_mem _ h)

theorem pairwise_place {name : Text} {value : α} {entries : List (Text × α)}
    (h : entries.Pairwise fun a b => a.1 < b.1) :
    (place name value entries).Pairwise fun a b => a.1 < b.1 := by
  induction entries with
  | nil => simp [place]
  | cons head rest ih =>
    obtain ⟨other, old⟩ := head
    obtain ⟨hhead, hrest⟩ := List.pairwise_cons.1 h
    unfold place
    split
    · next hlt =>
      refine List.pairwise_cons.2 ⟨fun e he => ?_, h⟩
      rcases List.mem_cons.1 he with he | he
      · simpa [he] using hlt
      · exact List.lt_trans hlt (hhead e he)
    split
    · next heq => subst heq; exact List.pairwise_cons.2 ⟨hhead, hrest⟩
    · next hge hne =>
      refine List.pairwise_cons.2 ⟨fun e he => ?_, ih hrest⟩
      rcases mem_place he with he | he
      · subst he
        exact Decidable.byContradiction fun hnot =>
          hne (List.le_antisymm (List.not_lt.1 hnot) (List.not_lt.1 hge))
      · exact hhead e he

/-- The map with one name set. -/
def insert (params : Params α) (name : Text) (value : α) : Params α :=
  ⟨place name value params.entries, pairwise_place params.sorted⟩

/-- The map of a list of pairs, of which the later override the earlier. -/
def ofList (pairs : List (Text × α)) : Params α :=
  pairs.foldl (fun params pair => params.insert pair.1 pair.2) empty

/-- The map with the entries of another one on top. -/
def overriddenBy (params upper : Params α) : Params α :=
  upper.entries.foldl (fun params entry => params.insert entry.1 entry.2) params

/-- The parameters that have a value. -/
def present (params : Params (Option α)) : Params α :=
  ofList (params.entries.filterMap fun (name, value) => value.map (name, ·))

/-! ## Looking up -/

theorem find?_place {name other : Text} {value : α} {entries : List (Text × α)}
    (h : entries.Pairwise fun a b => a.1 < b.1) :
    find? other (place name value entries) =
      if name = other then some value else find? other entries := by
  induction entries with
  | nil => simp [place, find?]
  | cons head rest ih =>
    obtain ⟨key, old⟩ := head
    have ih := ih (List.pairwise_cons.1 h).2
    unfold place
    split
    · simp [find?]
    split
    · next heq => subst heq; by_cases hn : name = other <;> simp [find?, hn]
    · next hne =>
      by_cases hk : key = other
      · subst hk; simp [find?, hne]
      · simp [find?, hk, ih]

/-- **Looking up after an insertion.** -/
@[simp] theorem get?_insert (params : Params α) (name other : Text) (value : α) :
    (params.insert name value).get? other = if name = other then some value else params.get? other :=
  find?_place params.sorted

@[simp] theorem get?_empty (name : Text) : (empty : Params α).get? name = none := rfl

end Params

end PageRouter

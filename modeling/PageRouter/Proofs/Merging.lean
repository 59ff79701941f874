import Mathlib.Data.List.Induction
import Mathlib.Tactic.Lemma
import PageRouter.Query

/-!
# What updates make of a query

Updates are made one after the other, but what comes of them can be read off the whole list
(`Query.merge_meets_spec`).  The last update of a name decides what it ends with
(`Query.decision?`): no pair, or one pair with the value that it is set to.  Where the pairs stand
is decided by the names alone:

* A pair **stays** where it is if no update names it, or if it is the first of a name that is only
  ever set and never deleted (`Query.staying`).
* All other names that end with a pair come behind those that stay; among them, the names that were
  not there before and are only ever set come in the order of their first updates.

Both are invariants of one more update at the end of the list, which is how they are proved.
-/

namespace PageRouter.Query

open Text

variable {query : Query} {updates : List Update} {name : Text} {value : Text}

/-! ## What a list of updates says -/

/-- The names of pairs, in order. -/
def names (query : Query) : List Text := query.map (·.1)

/-- The pairs of one name. -/
def pairsOf (name : Text) (query : Query) : Query := query.filter (·.1 = name)

/-- The names of updates, in order. -/
def targets (updates : List Update) : List Text := updates.map (·.1)

/-- The last update of a name, if there is one: the value it is set to, or `none` where it is
deleted. -/
def decision? (updates : List Update) (name : Text) : Option (Option Text) :=
  (updates.reverse.find? (·.1 = name)).map (·.2)

/-- Whether a pair stays, given the names of the pairs before it. -/
def Stays (updates : List Update) (before : List Text) (name : Text) : Prop :=
  name ∉ targets updates ∨ ((name, none) ∉ updates ∧ name ∉ before)

instance (updates : List Update) (before : List Text) (name : Text) :
    Decidable (Stays updates before name) := inferInstanceAs (Decidable (_ ∨ _))

/-- **The pairs that stay**, behind pairs with given names. -/
def staying (updates : List Update) (before : List Text) : Query → Query
  | [] => []
  | pair :: rest =>
    if Stays updates before pair.1 then pair :: staying updates (pair.1 :: before) rest
    else staying updates (pair.1 :: before) rest

/-- A pair with the value that it ends with. -/
def settled (updates : List Update) (pair : Text × Text) : Text × Text :=
  (pair.1, ((decision? updates pair.1).bind id).getD pair.2)

/-- A name that is not there before and is only ever set. -/
def Arrives (query : Query) (updates : List Update) (name : Text) : Prop :=
  name ∉ names query ∧ (name, none) ∉ updates

instance (query : Query) (updates : List Update) (name : Text) :
    Decidable (Arrives query updates name) := inferInstanceAs (Decidable (_ ∧ _))

/-! ## One update -/

lemma merge_concat (query : Query) (updates : List Update) (last : Update) :
    merge query (updates ++ [last]) = update (merge query updates) last := by
  rw [merge, List.foldl_append, List.foldl_cons, List.foldl_nil, merge]

lemma decision?_concat (updates : List Update) (last : Update) (name : Text) :
    decision? (updates ++ [last]) name =
      if last.1 = name then some last.2 else decision? updates name := by
  rw [decision?, List.reverse_append, List.reverse_singleton, List.singleton_append,
    List.find?_cons]
  by_cases hname : last.1 = name
  · simp [hname]
  · simp [hname, decision?]

lemma mem_targets_concat {last : Update} :
    name ∈ targets (updates ++ [last]) ↔ name ∈ targets updates ∨ name = last.1 := by
  simp [targets]

lemma mem_targets_of_mem {decided : Option Text} (h : (name, decided) ∈ updates) :
    name ∈ targets updates :=
  List.mem_map_of_mem h

/-- Only names that are updated are decided on. -/
lemma decision?_eq_none_iff : decision? updates name = none ↔ name ∉ targets updates := by
  rw [decision?, Option.map_eq_none_iff, List.find?_eq_none, targets]
  simp only [List.mem_reverse, decide_eq_true_eq, List.mem_map, not_exists, not_and]

/-! ## The pairs of one name -/

lemma pairsOf_erase (query : Query) (other name : Text) :
    pairsOf name (erase query other) = if other = name then [] else pairsOf name query := by
  rw [pairsOf, erase, List.filter_filter, pairsOf]
  split
  · next hname => simp [hname]
  · next hname =>
    refine List.filter_congr fun pair _ => ?_
    by_cases hpair : pair.1 = name
    · simp [hpair, Ne.symm hname]
    · simp [hpair]

lemma pairsOf_cons (name : Text) (pair : Text × Text) (rest : Query) :
    pairsOf name (pair :: rest) =
      if pair.1 = name then pair :: pairsOf name rest else pairsOf name rest := by
  simp [pairsOf, List.filter_cons]

lemma pairsOf_set (other value : Text) (query : Query) (name : Text) :
    pairsOf name (set other value query) =
      if other = name then [(name, value)] else pairsOf name query := by
  induction query with
  | nil => by_cases hname : other = name <;> simp [set, pairsOf, hname]
  | cons pair rest ih =>
      rw [set]
      split
      · next hpair =>
        rw [pairsOf_cons, pairsOf_erase, pairsOf_cons, hpair]
        by_cases hname : other = name <;> simp [hname]
      · next hpair =>
        rw [pairsOf_cons, pairsOf_cons, ih]
        by_cases hname : other = name
        · simp [hname, show pair.1 ≠ name from hname ▸ hpair]
        · simp [hname]

/-- **The last update decides** what a name ends with. -/
lemma pairsOf_merge (query : Query) (updates : List Update) (name : Text) :
    pairsOf name (merge query updates) =
      match decision? updates name with
      | none => pairsOf name query
      | some none => []
      | some (some value) => [(name, value)] := by
  induction updates using List.reverseRecOn with
  | nil => rfl
  | append_singleton updates last ih =>
      obtain ⟨other, decided⟩ := last
      rw [merge_concat, decision?_concat]
      cases decided with
      | none => rw [update, pairsOf_erase, ih]; split <;> rfl
      | some value => rw [update, pairsOf_set, ih]; split <;> rfl

/-! ## The pairs that stay -/

/-- The pairs that stay, with the values that they end with. -/
def lasting (updates : List Update) (before : List Text) (query : Query) : Query :=
  (staying updates before query).map (settled updates)

/-- Setting a name only if it is there: its first pair takes the value and the others go. -/
def overwrite (name value : Text) (query : Query) : Query :=
  if name ∈ names query then set name value query else query

/-- Without updates all pairs stay as they are. -/
lemma lasting_nil (before : List Text) (query : Query) : lasting [] before query = query := by
  induction query generalizing before with
  | nil => rfl
  | cons pair rest ih =>
      rw [lasting, staying, if_pos (.inl List.not_mem_nil), List.map_cons]
      exact congrArg (pair :: ·) (ih (pair.1 :: before))

lemma lasting_cons_of_stays {before : List Text} {pair : Text × Text}
    (h : Stays updates before pair.1) (rest : Query) :
    lasting updates before (pair :: rest) =
      settled updates pair :: lasting updates (pair.1 :: before) rest := by
  rw [lasting, staying, if_pos h]
  rfl

lemma lasting_cons_of_goes {before : List Text} {pair : Text × Text}
    (h : ¬Stays updates before pair.1) (rest : Query) :
    lasting updates before (pair :: rest) = lasting updates (pair.1 :: before) rest := by
  rw [lasting, staying, if_neg h]
  rfl

lemma erase_cons (pair : Text × Text) (rest : Query) (name : Text) :
    erase (pair :: rest) name =
      if pair.1 = name then erase rest name else pair :: erase rest name := by
  by_cases hname : pair.1 = name <;> simp [erase, hname]

lemma erase_eq_self (h : name ∉ names query) : erase query name = query := by
  rw [erase, List.filter_eq_self]
  intro pair hpair
  rw [decide_eq_true_eq]
  rintro rfl
  exact h (List.mem_map_of_mem hpair)

lemma overwrite_cons_ne {pair : Text × Text} (h : pair.1 ≠ name) (value : Text) (rest : Query) :
    overwrite name value (pair :: rest) = pair :: overwrite name value rest := by
  have hmem : name ∈ names (pair :: rest) ↔ name ∈ names rest := by
    simp [names, Ne.symm h]
  rw [overwrite, overwrite, set, if_neg h]
  by_cases hrest : name ∈ names rest
  · rw [if_pos (hmem.2 hrest), if_pos hrest]
  · rw [if_neg (mt hmem.1 hrest), if_neg hrest]

/-- A name that is deleted at some time does not stay. -/
lemma not_stays_of_deleted (h : (name, none) ∈ updates) (before : List Text) :
    ¬Stays updates before name := by
  rintro (hfree | ⟨hset, -⟩)
  · exact hfree (mem_targets_of_mem h)
  · exact hset h

/-- Behind a pair of its name, no pair stays whose name is updated. -/
lemma not_stays_of_before {before : List Text} (h : name ∈ targets updates)
    (hbefore : name ∈ before) : ¬Stays updates before name := by
  rintro (hfree | ⟨-, hfirst⟩)
  · exact hfree h
  · exact hfirst hbefore

/-- An update of another name changes nothing for a pair. -/
lemma stays_concat_ne {last : Update} {before : List Text} (h : name ≠ last.1) :
    Stays (updates ++ [last]) before name ↔ Stays updates before name := by
  have hmem : ∀ decided, (name, decided) ∈ updates ++ [last] ↔ (name, decided) ∈ updates := by
    intro decided
    rw [List.mem_append, List.mem_singleton, or_iff_left]
    rintro rfl
    exact h rfl
  simp only [Stays, mem_targets_concat, h, or_false, hmem]

lemma settled_concat_ne {last : Update} {pair : Text × Text} (h : pair.1 ≠ last.1) :
    settled (updates ++ [last]) pair = settled updates pair := by
  rw [settled, decision?_concat, if_neg (Ne.symm h), settled]

lemma mem_names_lasting {before : List Text} (h : name ∈ names (lasting updates before query)) :
    name ∈ names query ∧ (name, none) ∉ updates := by
  induction query generalizing before with
  | nil => cases h
  | cons pair rest ih =>
      by_cases hstays : Stays updates before pair.1
      · rw [lasting_cons_of_stays hstays] at h
        rcases List.mem_cons.1 h with rfl | h
        · exact ⟨List.mem_cons_self .., fun hdeleted => not_stays_of_deleted hdeleted _ hstays⟩
        · exact ⟨List.mem_cons_of_mem _ (ih h).1, (ih h).2⟩
      · rw [lasting_cons_of_goes hstays] at h
        exact ⟨List.mem_cons_of_mem _ (ih h).1, (ih h).2⟩

/-- A name that is there and never deleted stays. -/
lemma mem_names_lasting_of_set {before : List Text} (hset : (name, none) ∉ updates)
    (hbefore : name ∉ before) (h : name ∈ names query) :
    name ∈ names (lasting updates before query) := by
  induction query generalizing before with
  | nil => cases h
  | cons pair rest ih =>
      by_cases hname : name = pair.1
      · subst hname
        rw [lasting_cons_of_stays (.inr ⟨hset, hbefore⟩)]
        exact List.mem_cons_self ..
      · have hrest : name ∈ names (lasting updates (pair.1 :: before) rest) :=
          ih (by simp [hname, hbefore]) ((List.mem_cons.1 h).resolve_left hname)
        by_cases hstays : Stays updates before pair.1
        · rw [lasting_cons_of_stays hstays]
          exact List.mem_cons_of_mem _ hrest
        · rwa [lasting_cons_of_goes hstays]

/-- **The pairs of a name go** that is deleted, and behind a pair of the name also if it is set. -/
lemma lasting_concat_of_gone {last : Update} {before : List Text}
    (h : last.2 = none ∨ last.1 ∈ before) :
    lasting (updates ++ [last]) before query = erase (lasting updates before query) last.1 := by
  induction query generalizing before with
  | nil => rfl
  | cons pair rest ih =>
      have hrest := ih (h.imp_right (List.mem_cons_of_mem pair.1))
      by_cases hname : pair.1 = last.1
      · have hgoes : ¬Stays (updates ++ [last]) before pair.1 := by
          rw [hname]
          rcases h with hdeleted | hbefore
          · exact not_stays_of_deleted (hdeleted ▸ List.mem_append_right _ (List.mem_singleton_self _)) _
          · exact not_stays_of_before (mem_targets_concat.2 (.inr rfl)) hbefore
        rw [lasting_cons_of_goes hgoes, hrest]
        by_cases hstays : Stays updates before pair.1
        · rw [lasting_cons_of_stays hstays, erase_cons]
          exact (if_pos hname).symm
        · rw [lasting_cons_of_goes hstays]
      · have hsame : Stays (updates ++ [last]) before pair.1 ↔ Stays updates before pair.1 :=
          stays_concat_ne hname
        by_cases hstays : Stays updates before pair.1
        · rw [lasting_cons_of_stays (hsame.2 hstays), lasting_cons_of_stays hstays, hrest, erase_cons,
            settled_concat_ne hname]
          exact (if_neg hname).symm
        · rw [lasting_cons_of_goes (mt hsame.1 hstays), lasting_cons_of_goes hstays, hrest]

/-- **A value that is set** goes to the first pair of its name, if the name is there to stay. -/
lemma lasting_concat_of_set {before : List Text} (value : Text) (h : name ∉ before) :
    lasting (updates ++ [(name, some value)]) before query =
      overwrite name value (lasting updates before query) := by
  induction query generalizing before with
  | nil => rfl
  | cons pair rest ih =>
      by_cases hname : pair.1 = name
      · have hrest : lasting (updates ++ [(name, some value)]) (pair.1 :: before) rest =
            erase (lasting updates (pair.1 :: before) rest) name :=
          lasting_concat_of_gone (.inr (hname ▸ List.mem_cons_self ..))
        by_cases hdeleted : (name, none) ∈ updates
        · have hgone : name ∉ names (lasting updates (pair.1 :: before) rest) :=
            fun hmem => (mem_names_lasting hmem).2 hdeleted
          have hgoes : ∀ more, ¬Stays (updates ++ more) before pair.1 := fun more =>
            not_stays_of_deleted (hname ▸ List.mem_append_left _ hdeleted) before
          have hgoes' := hgoes []
          rw [List.append_nil] at hgoes'
          rw [lasting_cons_of_goes (hgoes _), lasting_cons_of_goes hgoes', hrest,
            erase_eq_self hgone, overwrite, if_neg hgone]
        · have hstays : Stays updates before pair.1 := .inr (hname ▸ ⟨hdeleted, h⟩)
          have hstays' : Stays (updates ++ [(name, some value)]) before pair.1 :=
            .inr ⟨by rw [hname]; simp [hdeleted], hname ▸ h⟩
          have hsettled : settled (updates ++ [(name, some value)]) pair = (name, value) := by
            simp [settled, decision?_concat, hname]
          have hfirst : (settled updates pair).1 = name := hname
          rw [lasting_cons_of_stays hstays', lasting_cons_of_stays hstays, hrest, hsettled, overwrite,
            if_pos (hname ▸ List.mem_cons_self ..), set, if_pos hfirst]
      · have hbefore : name ∉ pair.1 :: before := by
          simp [Ne.symm hname, h]
        have hsame : Stays (updates ++ [(name, some value)]) before pair.1 ↔
            Stays updates before pair.1 := stays_concat_ne hname
        have hother : (settled updates pair).1 ≠ name := hname
        by_cases hstays : Stays updates before pair.1
        · rw [lasting_cons_of_stays (hsame.2 hstays), lasting_cons_of_stays hstays, ih hbefore,
            settled_concat_ne hname, overwrite_cons_ne hother]
        · rw [lasting_cons_of_goes (mt hsame.1 hstays), lasting_cons_of_goes hstays, ih hbefore]

/-! ## Setting a name among others -/

lemma erase_append (front back : Query) (name : Text) :
    erase (front ++ back) name = erase front name ++ erase back name :=
  List.filter_append ..

lemma names_erase (query : Query) (name : Text) :
    names (erase query name) = (names query).filter (· ≠ name) := by
  rw [erase, names, names, List.filter_map]
  rfl

lemma set_append_of_mem {front : Query} (h : name ∈ names front) (value : Text) (back : Query) :
    set name value (front ++ back) = set name value front ++ erase back name := by
  induction front with
  | nil => cases h
  | cons pair rest ih =>
      rw [List.cons_append, set, set]
      by_cases hname : pair.1 = name
      · rw [if_pos hname, if_pos hname, erase_append, List.cons_append]
      · rw [if_neg hname, if_neg hname, ih ((List.mem_cons.1 h).resolve_left (Ne.symm hname)),
          List.cons_append]

lemma set_append_of_not_mem {front : Query} (h : name ∉ names front) (value : Text)
    (back : Query) : set name value (front ++ back) = front ++ set name value back := by
  induction front with
  | nil => rfl
  | cons pair rest ih =>
      obtain ⟨hname, hrest⟩ := List.ne_and_not_mem_of_not_mem_cons h
      rw [List.cons_append, set, if_neg (Ne.symm hname), ih hrest, List.cons_append]

/-- A name that is not there is put at the end. -/
lemma set_of_not_mem (h : name ∉ names query) (value : Text) :
    set name value query = query ++ [(name, value)] := by
  simpa [set] using set_append_of_not_mem h value []

/-- Where every name stands once, setting one of them moves none. -/
lemma names_set_of_mem (hnodup : (names query).Nodup) (h : name ∈ names query) (value : Text) :
    names (set name value query) = names query := by
  induction query with
  | nil => cases h
  | cons pair rest ih =>
      obtain ⟨hfirst, hnodup⟩ := List.nodup_cons.1 hnodup
      rw [set]
      by_cases hname : pair.1 = name
      · rw [if_pos hname, erase_eq_self (hname ▸ hfirst)]
        exact congrArg (· :: names rest) hname.symm
      · rw [if_neg hname]
        have hrest : name ∈ names rest := (List.mem_cons.1 h).resolve_left (Ne.symm hname)
        exact congrArg (pair.1 :: ·) (ih hnodup hrest)

/-! ## The pairs that are added -/

/-- **What a list of updates leaves behind the pairs that stay**: names that were not there before
or are deleted at some time, each once, and those that were not there and are only ever set in the
order of their first updates. -/
structure Added (query : Query) (updates : List Update) (added : Query) : Prop where
  nodup : (names added).Nodup
  goes : ∀ name ∈ names added,
    name ∈ targets updates ∧ (name ∉ names query ∨ (name, none) ∈ updates)
  arrives : (names added).filter (Arrives query updates) =
    (targets updates).eraseDups.filter (Arrives query updates)

/-- Only the first update of a name counts for the order. -/
lemma filter_eraseDups_targets_concat (p : Text → Bool) (updates : List Update) (last : Update) :
    (targets (updates ++ [last])).eraseDups.filter p =
      (targets updates).eraseDups.filter p ++
        if p last.1 ∧ last.1 ∉ targets updates then [last.1] else [] := by
  have htargets : targets (updates ++ [last]) = targets updates ++ [last.1] := by simp [targets]
  rw [htargets, List.eraseDups_append, List.filter_append]
  congr 1
  by_cases hmem : last.1 ∈ targets updates
  · rw [if_neg fun h => h.2 hmem]
    simp [List.removeAll, hmem]
  · by_cases hp : p last.1 = true
    · rw [if_pos ⟨hp, hmem⟩]
      simp [List.removeAll, hmem, hp, List.eraseDups_cons]
    · rw [if_neg fun h => hp h.1]
      simp [List.removeAll, hmem, hp, List.eraseDups_cons]

lemma added_concat_of_deleted {added : Query} (h : Added query updates added) (name : Text) :
    Added query (updates ++ [(name, none)]) (erase added name) := by
  have harrives : ∀ other, Arrives query (updates ++ [(name, none)]) other ↔
      other ≠ name ∧ Arrives query updates other := by
    intro other
    simp only [Arrives, List.mem_append, List.mem_singleton, Prod.mk.injEq, and_true, not_or]
    tauto
  refine ⟨?_, fun other hother => ?_, ?_⟩
  · rw [names_erase]
    exact h.nodup.filter _
  · rw [names_erase, List.mem_filter] at hother
    obtain ⟨htarget, hgoes⟩ := h.goes other hother.1
    exact ⟨mem_targets_concat.2 (.inl htarget), hgoes.imp_right fun h => List.mem_append_left _ h⟩
  · have hfilter : ∀ texts : List Text,
        texts.filter (Arrives query (updates ++ [(name, none)])) =
          (texts.filter (Arrives query updates)).filter (· ≠ name) := by
      intro texts
      rw [List.filter_filter]
      refine List.filter_congr fun other _ => ?_
      rw [← Bool.decide_and]
      exact decide_eq_decide.2 (harrives other)
    rw [filter_eraseDups_targets_concat, if_neg, List.append_nil, names_erase]
    · rw [hfilter, hfilter, ← h.arrives, List.filter_filter, List.filter_filter, List.filter_filter]
      refine List.filter_congr fun other _ => ?_
      grind
    · rintro ⟨hname, -⟩
      exact ((harrives name).1 (of_decide_eq_true hname)).1 rfl

/-- Setting a name leaves the names as they are that are only ever set. -/
lemma arrives_concat_of_set {other : Text} :
    Arrives query (updates ++ [(name, some value)]) other ↔ Arrives query updates other := by
  simp [Arrives]

/-- Of what is added, only the names and their order count. -/
lemma added_concat_of_set {added after : Query} (h : Added query updates added)
    (hnames : names after = names added) 
    (hname : name ∈ targets updates ∨ ¬Arrives query updates name) :
    Added query (updates ++ [(name, some value)]) after := by
  refine ⟨hnames ▸ h.nodup, fun other hother => ?_, ?_⟩
  · obtain ⟨htarget, hgoes⟩ := h.goes other (hnames ▸ hother)
    exact ⟨mem_targets_concat.2 (.inl htarget), hgoes.imp_right fun h => List.mem_append_left _ h⟩
  · rw [filter_eraseDups_targets_concat, if_neg, List.append_nil, hnames]
    · simpa only [arrives_concat_of_set] using h.arrives
    · rintro ⟨harrives, hnew⟩
      exact hname.elim hnew (· (arrives_concat_of_set.1 (of_decide_eq_true harrives)))

lemma added_concat_of_new {added : Query} (h : Added query updates added) (value : Text)
    (hnew : name ∉ names added) (hgoes : name ∉ names query ∨ (name, none) ∈ updates) :
    Added query (updates ++ [(name, some value)]) (added ++ [(name, value)]) := by
  have hnames : names (added ++ [(name, value)]) = names added ++ [name] := by simp [names]
  refine ⟨?_, fun other hother => ?_, ?_⟩
  · rw [hnames]
    refine List.nodup_append.2 ⟨h.nodup, List.pairwise_singleton .., ?_⟩
    rintro other hother _ hlast rfl
    exact hnew (List.mem_singleton.1 hlast ▸ hother)
  · rw [hnames, List.mem_append, List.mem_singleton] at hother
    rcases hother with hother | rfl
    · obtain ⟨htarget, hgoes⟩ := h.goes other hother
      exact ⟨mem_targets_concat.2 (.inl htarget),
        hgoes.imp_right fun h => List.mem_append_left _ h⟩
    · exact ⟨mem_targets_concat.2 (.inr rfl), hgoes.imp_right fun h => List.mem_append_left _ h⟩
  · rw [filter_eraseDups_targets_concat, hnames, List.filter_append]
    simp only [arrives_concat_of_set]
    rw [h.arrives]
    congr 1
    by_cases harrives : Arrives query updates name
    · -- a target that is only ever set would be among the names that are added
      have htarget : name ∉ targets updates := by
        intro htarget
        have hmem : name ∈ (names added).filter (Arrives query updates) := by
          rw [h.arrives, List.mem_filter, List.mem_eraseDups]
          exact ⟨htarget, decide_eq_true harrives⟩
        exact hnew (List.mem_filter.1 hmem).1
      rw [if_pos ⟨decide_eq_true harrives, htarget⟩]
      simp [harrives]
    · rw [if_neg fun hname => harrives (of_decide_eq_true hname.1)]
      simp [harrives]

/-- **The pairs that stay come first**, with the values that they end with. -/
lemma exists_merge_eq (query : Query) (updates : List Update) :
    ∃ added, merge query updates = lasting updates [] query ++ added ∧
      Added query updates added := by
  induction updates using List.reverseRecOn with
  | nil =>
      refine ⟨[], ?_, List.nodup_nil, fun _ h => absurd h List.not_mem_nil, rfl⟩
      rw [lasting_nil, List.append_nil]
      rfl
  | append_singleton updates last ih =>
      obtain ⟨added, hmerge, hadded⟩ := ih
      obtain ⟨name, decided⟩ := last
      rw [merge_concat, hmerge]
      cases decided with
      | none =>
          refine ⟨erase added name, ?_, added_concat_of_deleted hadded name⟩
          rw [update, erase_append, lasting_concat_of_gone (.inl rfl)]
      | some value =>
          rw [update, lasting_concat_of_set value List.not_mem_nil, overwrite]
          by_cases hstays : name ∈ names (lasting updates [] query)
          · obtain ⟨hquery, hset⟩ := mem_names_lasting hstays
            have hfree : name ∉ names added := fun hmem =>
              (hadded.goes name hmem).2.elim (· hquery) hset
            rw [if_pos hstays, set_append_of_mem hstays, erase_eq_self hfree]
            exact ⟨added, rfl, added_concat_of_set hadded rfl (.inr fun h => h.1 hquery)⟩
          · rw [if_neg hstays, set_append_of_not_mem hstays]
            refine ⟨set name value added, rfl, ?_⟩
            by_cases hmem : name ∈ names added
            · exact added_concat_of_set hadded (names_set_of_mem hadded.nodup hmem value)
                (.inl (hadded.goes name hmem).1)
            · rw [set_of_not_mem hmem]
              refine added_concat_of_new hadded value hmem (Decidable.or_iff_not_imp_right.2 ?_)
              exact fun hset hquery =>
                hstays (mem_names_lasting_of_set hset List.not_mem_nil hquery)

/-! ## The updates as a whole -/

/-- **What updates make of a query**, repeated names and repeated updates included.  The pairs of a
name that no update names are all kept; of any other name the last update leaves one pair with the
value it sets, or none.  First come, in their order, the pairs that stay: all of a name that is not
updated, and the first of a name that is only ever set.  Behind them stands every other name that
ends with a pair; the names that were not there and are only ever set come in the order of their
first updates. -/
theorem merge_meets_spec (query : Query) (updates : List Update) :
    (∀ name, name ∉ targets updates → pairsOf name (merge query updates) = pairsOf name query) ∧
    (∀ name value, decision? updates name = some (some value) →
      pairsOf name (merge query updates) = [(name, value)]) ∧
    (∀ name, decision? updates name = some none → pairsOf name (merge query updates) = []) ∧
    ∃ added,
      merge query updates = (staying updates [] query).map (settled updates) ++ added ∧
      (∀ name ∈ names added,
        name ∈ targets updates ∧ (name ∉ names query ∨ (name, none) ∈ updates)) ∧
      (names added).filter (Arrives query updates) =
        (targets updates).eraseDups.filter (Arrives query updates) := by
  refine ⟨fun name hfree => ?_, fun name value hset => ?_, fun name hdeleted => ?_, ?_⟩
  · rw [pairsOf_merge, decision?_eq_none_iff.2 hfree]
  · rw [pairsOf_merge, hset]
  · rw [pairsOf_merge, hdeleted]
  · obtain ⟨added, hmerge, hadded⟩ := exists_merge_eq query updates
    exact ⟨added, hmerge, hadded.goes, hadded.arrives⟩

example :
    merge [(['a'], ['1']), (['b'], ['2']), (['a'], ['3'])]
        [(['d'], some ['4']), (['b'], none), (['a'], some ['5']), (['b'], some ['6'])] =
      [(['a'], ['5']), (['d'], ['4']), (['b'], ['6'])] := by
  decide

/-! ## Updates made twice -/

lemma pairsOf_eq_nil_iff : pairsOf name query = [] ↔ name ∉ names query := by
  rw [pairsOf, List.filter_eq_nil_iff, names, List.mem_map]
  simp only [decide_eq_true_eq, not_exists, not_and]

lemma merge_eq_self (h : ∀ last ∈ updates, update query last = query) :
    merge query updates = query := by
  induction updates with
  | nil => rfl
  | cons first rest ih =>
      obtain ⟨hfirst, hrest⟩ := List.forall_mem_cons.1 h
      rw [merge, List.foldl_cons, hfirst]
      exact ih hrest

lemma set_eq_self (h : pairsOf name query = [(name, value)]) : set name value query = query := by
  induction query with
  | nil => cases h
  | cons pair rest ih =>
      rw [pairsOf_cons] at h
      rw [set]
      by_cases hname : pair.1 = name
      · rw [if_pos hname] at h
        obtain ⟨rfl, hrest⟩ := List.cons.inj h
        rw [if_pos rfl, erase_eq_self (pairsOf_eq_nil_iff.1 hrest)]
      · rw [if_neg hname] at h
        rw [if_neg hname, ih h]

/-- Where no name is updated twice, every update decides. -/
lemma decision?_of_mem (hnodup : (targets updates).Nodup) {decided : Option Text}
    (h : (name, decided) ∈ updates) : decision? updates name = some decided := by
  induction updates using List.reverseRecOn with
  | nil => cases h
  | append_singleton updates last ih =>
      rw [targets, List.map_append, List.nodup_append] at hnodup
      obtain ⟨hnodup, -, hlast⟩ := hnodup
      rw [decision?_concat]
      rcases List.mem_append.1 h with h | h
      · rw [if_neg (Ne.symm (hlast name (mem_targets_of_mem h) last.1 (by simp))), ih hnodup h]
      · rw [← List.mem_singleton.1 h, if_pos rfl]

/-- **Making the same updates again** changes nothing, if no name is updated twice. -/
lemma merge_merge (hnodup : (targets updates).Nodup) (query : Query) :
    merge (merge query updates) updates = merge query updates := by
  refine merge_eq_self ?_
  rintro ⟨name, decided⟩ hmem
  have hpairs := pairsOf_merge query updates name
  rw [decision?_of_mem hnodup hmem] at hpairs
  cases decided with
  | none => exact erase_eq_self (pairsOf_eq_nil_iff.1 hpairs)
  | some value => exact set_eq_self hpairs

end PageRouter.Query

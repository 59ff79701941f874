import Mathlib.Data.List.Nodup
import PageRouter.Proofs.CacheRuns

/-!
# The cache as a list by recency

What the entries of a cache are does not depend on the elements' properties, on which one is
active, or on what the document keeps in: they are those of a `Shelf`, a list of keys by recency
with the numbers of their elements (`Refines.step`, by one case for each operation).  What an
operation tells the document shows that elements are made only for keys that are not stored, and
that the active element is never dropped (`Refines.exists_told`).
-/

namespace PageRouter

/-! ## The reference -/

/-- What the cache knows of an element: its key and its number. -/
def Element.entry (element : Element) : RouteParams × Nat := (element.params, element.serial)

/-- **A list by recency**: keys with their elements' numbers, the most recent first. -/
structure Shelf where
  capacity : Nat
  entries : List (RouteParams × Nat)
  /-- How many elements have been made. -/
  made : Nat
  deriving DecidableEq

namespace Shelf

open ElementCache

def new (capacity : Nat) : Shelf := ⟨max 1 capacity, [], 0⟩

/-- The number that is stored for a key. -/
def stored? (shelf : Shelf) (key : RouteParams) : Option Nat :=
  (shelf.entries.find? (·.1 = key)).map (·.2)

/-- The number of a key's element: the stored one, or that of the next one to be made. -/
def numberOf (answers : Answers) (shelf : Shelf) (key : RouteParams) : Nat :=
  (shelf.stored? key).getD (answers.serial shelf.made)

/-- **The key moved to the front**, or put in there; then only as many as fit are kept. -/
def touch (answers : Answers) (shelf : Shelf) (key : RouteParams) : Shelf where
  capacity := shelf.capacity
  entries := ((key, shelf.numberOf answers key) :: shelf.entries.filter (·.1 ≠ key)).take
    shelf.capacity
  made := if (shelf.stored? key).isSome then shelf.made else shelf.made + 1

/-- The list with another capacity, which is at least one. -/
def resize (shelf : Shelf) (count : Nat) : Shelf :=
  ⟨max 1 count, shelf.entries.take (max 1 count), shelf.made⟩

def perform (answers : Answers) (shelf : Shelf) : Operation → Shelf
  | .update none _ | .deactivate => shelf
  | .update (some found) _ | .activate found _ => shelf.touch answers found.params
  | .setCapacity count => shelf.resize count

def after (answers : Answers) (start : Shelf) (operations : List Operation) : Shelf :=
  operations.foldl (perform answers) start

end Shelf

namespace ElementCache

variable {answers : Answers} {run : Run} {shelf : Shelf}

/-- **The cache is the list by recency.** -/
structure Refines (run : Run) (shelf : Shelf) : Prop where
  entries : run.cache.elements.map Element.entry = shelf.entries
  capacity : run.cache.capacity = shelf.capacity
  made : run.record.made = shelf.made
  /-- No two elements have one key. -/
  keys : (run.cache.elements.map (·.params)).Nodup
  bounded : run.cache.elements.length ≤ run.cache.capacity
  room : 1 ≤ run.cache.capacity
  /-- The active element is the first one. -/
  front : run.cache.active → ∃ element, run.cache.elements.head? = some element ∧
    run.cache.activeElement = some element

lemma Refines.new (tag : Text) (appendTo : Option Text) (capacity : Nat) :
    Refines ⟨.new tag appendTo capacity, .empty⟩ (.new capacity) where
  entries := rfl
  capacity := rfl
  made := rfl
  keys := .nil
  bounded := Nat.zero_le _
  room := Nat.le_max_left _ _
  front h := absurd h Bool.false_ne_true

lemma Refines.hidden (h : Refines run shelf) : Refines (run.hidden answers) shelf :=
  { h with
    made := (run.made_hidden answers).trans h.made
    front := fun hactive => absurd hactive Bool.false_ne_true }

lemma Refines.resized (h : Refines run shelf) (count : Nat) :
    Refines (run.resized count) (shelf.resize count) where
  entries := by
    simp only [Run.resized, setCapacity, Shelf.resize, List.map_take, h.entries]
    rfl
  capacity := rfl
  made := h.made
  keys := h.keys.sublist ((List.take_sublist _ _).map _)
  bounded := List.length_take_le _ _
  room := Nat.le_max_left _ _
  front := by
    intro hactive
    obtain ⟨element, hhead, hshown⟩ := h.front hactive
    have hroom : clampCacheCount count ≠ 0 := Nat.ne_of_gt (Nat.le_max_left _ _)
    exact ⟨element, by simp [Run.resized, setCapacity, List.head?_take, hroom, hhead],
      (activeElement_setCapacity _ count).trans hshown⟩

/-! ### Activating -/

/-- Where keys differ, taking out the first entry with a key takes out all of them. -/
lemma eraseP_eq_filter {elements : List Element} (hkeys : (elements.map (·.params)).Nodup)
    (key : RouteParams) :
    elements.eraseP (·.params = key) = elements.filter (·.params ≠ key) := by
  induction elements with
  | nil => rfl
  | cons element others ih =>
      rw [List.map_cons, List.nodup_cons] at hkeys
      by_cases hkey : element.params = key
      · have hothers : ∀ other ∈ others, other.params ≠ key := fun other hmem heq =>
          hkeys.1 (List.mem_map.2 ⟨other, hmem, heq.trans hkey.symm⟩)
        have hall : others.filter (·.params ≠ key) = others :=
          List.filter_eq_self.2 fun other hmem => by simpa using hothers other hmem
        simpa [hkey] using hall.symm
      · simpa [hkey] using ih hkeys.2

lemma Refines.stored?_eq (h : Refines run shelf) (key : RouteParams) :
    shelf.stored? key = (run.stored? key).map (·.serial) := by
  rw [Shelf.stored?, ← h.entries, List.find?_map, Option.map_map]
  rfl

/-- **The element for a match** is the stored one, or one made for its key. -/
lemma Refines.entry_elementFor (h : Refines run shelf) (found : Match) (parent : Option Tail) :
    (run.elementFor answers found parent).entry =
      (found.params, shelf.numberOf answers found.params) := by
  rw [Shelf.numberOf, h.stored?_eq, ← h.made, Run.elementFor]
  cases hstored : run.stored? found.params with
  | none => rfl
  | some element =>
      have hparams : element.params = found.params := by simpa using List.find?_some hstored
      simp [Element.entry, Element.refreshed, hparams]

lemma Refines.touch_entries (h : Refines run shelf) (key : RouteParams) :
    (shelf.touch answers key).entries =
      ((key, shelf.numberOf answers key) ::
        (run.cache.elements.eraseP (·.params = key)).map Element.entry).take
          run.cache.capacity := by
  rw [Shelf.touch, eraseP_eq_filter h.keys, ← h.entries, ← h.capacity, List.filter_map]
  rfl

/-- **Activating a match** moves its key to the front. -/
lemma Refines.shown (h : Refines run shelf) (found : Match) (parent : Option Tail) :
    Refines (run.shown answers found parent) (shelf.touch answers found.params) where
  entries := by
    rw [h.touch_entries, ← h.entry_elementFor found parent, Run.shown, List.map_take,
      List.map_cons]
  capacity := h.capacity
  made := by
    simp only [Run.shown, Record.shown, Shelf.touch, h.stored?_eq, Run.made_hidden, h.made]
    cases run.stored? found.params <;> rfl
  keys := by
    have hparams : (run.elementFor answers found parent).entry.1 = found.params :=
      congrArg Prod.fst (h.entry_elementFor found parent)
    refine List.Nodup.sublist ((List.take_sublist _ _).map _) ?_
    rw [List.map_cons, List.nodup_cons, eraseP_eq_filter h.keys]
    refine ⟨fun hmem => ?_, h.keys.sublist (List.filter_sublist.map _)⟩
    obtain ⟨other, hother, heq⟩ := List.mem_map.1 hmem
    have hne : other.params ≠ found.params := by simpa using (List.mem_filter.1 hother).2
    exact hne (heq.trans hparams)
  bounded := List.length_take_le _ _
  room := h.room
  front _ := ⟨_, by simp [Run.shown, List.head?_take, Nat.ne_of_gt h.room],
    Run.activeElement_shown h.room found parent⟩

/-- **A match that the active element shows already** has its key in front. -/
lemma Refines.refreshed (h : Refines run shelf) {found : Match}
    (hshows : run.cache.shows found.params) (parent : Option Tail) :
    Refines (run.refreshed found parent) (shelf.touch answers found.params) := by
  obtain ⟨hactive, element, others, helements, hparams⟩ := exists_of_shows hshows
  have hstored : shelf.stored? found.params = some element.serial := by
    simp [h.stored?_eq, Run.stored?, helements, hparams]
  have hbounded : others.length + 1 ≤ run.cache.capacity := by simpa [helements] using h.bounded
  refine ⟨?_, ?_, ?_, ?_, ?_, ?_, ?_⟩
  · have htake : ((element :: others).map Element.entry).take run.cache.capacity =
        (element :: others).map Element.entry := List.take_of_length_le (by simpa using hbounded)
    rw [h.touch_entries, Shelf.numberOf, hstored, helements,
      List.eraseP_cons_of_pos (by simpa using hparams), ← hparams]
    simpa [Run.refreshed, refreshFirst, helements, Element.refreshed, Element.entry]
      using htake.symm
  · simpa [Run.refreshed, refreshFirst, helements, Shelf.touch] using h.capacity
  · simpa [Run.refreshed, Shelf.touch, hstored] using h.made
  · simpa [Run.refreshed, refreshFirst, helements, Element.refreshed] using h.keys
  · simpa [Run.refreshed, refreshFirst, helements] using hbounded
  · simpa [Run.refreshed, refreshFirst, helements] using h.room
  · simp [Run.refreshed, refreshFirst, helements, activeElement]

/-! ### All operations -/

/-- **Each operation** does to the entries what it does to the list by recency. -/
lemma Refines.step (h : Refines run shelf) (operation : Operation) :
    Refines (run.step answers operation) (shelf.perform answers operation) := by
  cases operation with
  | update outcome parent =>
      cases outcome with
      | none =>
          rw [Run.step_update_none]
          exact h.hidden
      | some found =>
          by_cases hshows : run.cache.shows found.params
          · rw [Run.step_update_shows hshows]
            exact h.refreshed hshows parent
          · rw [Run.step_update_shown hshows]
            exact h.shown found parent
  | activate found parent =>
      rw [Run.step_activate]
      exact h.shown found parent
  | deactivate =>
      rw [Run.step_deactivate]
      exact h.hidden
  | setCapacity count => exact h.resized count

lemma Refines.after (h : Refines run shelf) (operations : List Operation) :
    Refines (operations.foldl (Run.step answers) run) (shelf.after answers operations) := by
  induction operations generalizing run shelf with
  | nil => exact h
  | cons operation operations ih => exact ih (h.step operation)

/-! ### The element that an operation makes active -/

/-- **An activated key** has its element in front, and the element is active. -/
lemma Refines.active_of_key (h : Refines run shelf) {operation : Operation} {key : RouteParams}
    (hkey : operation.key? = some key) :
    (run.step answers operation).cache.activeElement.map Element.entry =
      some (key, shelf.numberOf answers key) := by
  rcases Run.step_cases answers run operation with ⟨_, hnone, -⟩ | ⟨hnone, -⟩ |
    ⟨found, parent, hfound, hshows, hstep⟩ | ⟨found, parent, hfound, hstep⟩
  · cases hnone.symm.trans hkey
  · cases hnone.symm.trans hkey
  · cases hfound.symm.trans hkey
    obtain ⟨hactive, element, others, helements, hparams⟩ := exists_of_shows hshows
    have hstored : shelf.stored? found.params = some element.serial := by
      simp [h.stored?_eq, Run.stored?, helements, hparams]
    rw [hstep]
    simp [Run.refreshed, refreshFirst, helements, activeElement, hactive, Element.refreshed,
      Element.entry, hparams, Shelf.numberOf, hstored]
  · cases hfound.symm.trans hkey
    rw [hstep, Run.activeElement_shown h.room found parent, Option.map_some,
      h.entry_elementFor found parent]

/-- An element leaves only if the document is asked. -/
lemma mem_leaving {element : Element} (hactive : run.cache.activeElement = some element) :
    Deed.deactivating element.serial (answers.keeps run.record.asked) ∈ run.leaving answers := by
  simp [Run.leaving, hactive, Deed.leaving]

lemma created_not_mem_leaving (serial : Nat) : Deed.created serial ∉ run.leaving answers := by
  simp only [Run.leaving, Deed.leaving]
  cases run.cache.activeElement <;> simp

/-- **What an operation tells the document**: an element is made exactly if an activated key is not
stored, and the active element stays what it is unless the document is asked about it. -/
lemma Refines.exists_told (h : Refines run shelf) (operation : Operation) :
    ∃ told, (run.step answers operation).record.deeds = run.record.deeds ++ told ∧
      (∀ serial, Deed.created serial ∈ told ↔ serial = answers.serial shelf.made ∧
        ∃ key, operation.key? = some key ∧ shelf.stored? key = none) ∧
      ∀ element, run.cache.activeElement = some element →
        (run.step answers operation).cache.activeElement.map Element.entry = some element.entry ∨
          ∃ kept, Deed.deactivating element.serial kept ∈ told := by
  rcases Run.step_cases answers run operation with ⟨count, hnone, hstep⟩ | ⟨hnone, hstep⟩ |
    ⟨found, parent, hfound, hshows, hstep⟩ | ⟨found, parent, hfound, hstep⟩
  · refine ⟨[], by rw [hstep, List.append_nil]; rfl, by simp [hnone], fun element hactive => ?_⟩
    rw [hstep, Run.resized, activeElement_setCapacity, hactive]
    exact .inl rfl
  · refine ⟨_, by rw [hstep, Run.deeds_hidden], ?_, fun element hactive =>
      .inr ⟨_, mem_leaving hactive⟩⟩
    simp [hnone, created_not_mem_leaving]
  · obtain ⟨hactive, element, others, helements, hparams⟩ := exists_of_shows hshows
    have hstored : shelf.stored? found.params ≠ none := by
      simp [h.stored?_eq, Run.stored?, helements, hparams]
    refine ⟨[], by rw [hstep, List.append_nil]; rfl, by simp [hfound, hstored],
      fun shown hshown => .inl ?_⟩
    rw [hstep]
    simp_all [Run.refreshed, refreshFirst, activeElement, Element.refreshed, Element.entry]
  · refine ⟨_, by rw [hstep, Run.deeds_shown, Run.deeds_hidden, List.append_assoc],
      fun serial => ?_,
      fun element hactive => .inr ⟨_, List.mem_append_left _ (mem_leaving hactive)⟩⟩
    have hserial : (run.elementFor answers found parent).entry.2 =
        shelf.numberOf answers found.params := congrArg Prod.snd (h.entry_elementFor found parent)
    simp only [Element.entry, Shelf.numberOf, h.stored?_eq] at hserial
    simp only [List.mem_append, created_not_mem_leaving, false_or, hfound, Option.some.injEq,
      exists_eq_left', h.stored?_eq, hserial, Deed.arrival]
    cases run.stored? found.params <;> simp

/-- Activating gives back the element that is active then, and whether it was stored. -/
lemma Refines.reply_activate (h : Refines run shelf) (found : Match) (parent : Option Tail) :
    ∃ element, (run.step answers (.activate found parent)).cache.activeElement = some element ∧
      run.reply answers (.activate found parent) =
        .activated element (shelf.stored? found.params).isSome := by
  refine ⟨run.elementFor answers found parent, ?_, ?_⟩
  · rw [Run.step_activate, Run.activeElement_shown h.room found parent]
  · simp [Run.reply, perform, Answers.run_bind, Answers.run_pure, Run.activate_host, h.stored?_eq]

/-- **The cache is a list by recency.**  After every run of operations on a new cache, whatever the
document answers, its entries are those of the list that moves an activated key to the front or
puts it in there, and then keeps as many as there is room for.  With the next operation,

* an activated key gets the element that is stored for it, and a new one is made if there is none;
* activating gives that element back;
* the active element stays active and in front unless the document is told that it becomes
  inactive, so none is dropped while it is active. -/
theorem run_refines_shelf (answers : Answers) (tag : Text) (appendTo : Option Text) (capacity : Nat)
    (operations : List Operation) :
    let run := Run.of answers tag appendTo capacity operations
    let shelf := (Shelf.new capacity).after answers operations
    Refines run shelf ∧ ∀ operation,
      (∀ key, operation.key? = some key →
        (run.step answers operation).cache.activeElement.map Element.entry =
          some (key, shelf.numberOf answers key)) ∧
      (∀ found parent, operation = .activate found parent → ∃ element,
        (run.step answers operation).cache.activeElement = some element ∧
        run.reply answers operation = .activated element (shelf.stored? found.params).isSome) ∧
      ∃ told, (run.step answers operation).record.deeds = run.record.deeds ++ told ∧
        (∀ serial, Deed.created serial ∈ told ↔ serial = answers.serial shelf.made ∧
          ∃ key, operation.key? = some key ∧ shelf.stored? key = none) ∧
        ∀ element, run.cache.activeElement = some element →
          (run.step answers operation).cache.activeElement.map Element.entry = some element.entry ∨
            ∃ kept, Deed.deactivating element.serial kept ∈ told := by
  intro run shelf
  have hrefines : Refines run shelf := (Refines.new tag appendTo capacity).after operations
  refine ⟨hrefines, fun operation => ⟨fun key => hrefines.active_of_key, ?_,
    hrefines.exists_told operation⟩⟩
  rintro found parent rfl
  exact hrefines.reply_activate found parent

end ElementCache

end PageRouter

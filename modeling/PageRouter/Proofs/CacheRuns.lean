import Mathlib.Tactic.Lemma
import PageRouter.Element.Cache

/-!
# Runs of the element cache

A cache is used through four operations, and what it does depends on two kinds of answers of the
document: the number of each element that is made, and whether an element is kept in when it becomes
inactive.  `Answers` fixes all of them beforehand, in the order in which they are asked for, so
that a run of operations is a computation, `ElementCache.Run.of`.  Documents that answer as they
like are covered, since in one run each of them gives one such sequence.

An operation does one of four things to a run (`Run.step_cases`): the capacity changes, the active
element becomes inactive, it gets fresh properties, or the element for a match becomes active.
-/

namespace PageRouter

/-! ## Documents with given answers -/

/-- **The answers of a document**, in the order of the questions. -/
structure Answers where
  /-- The number of the element that is made after so many others. -/
  serial : Nat → Nat
  /-- Whether the element is kept in, at the question asked after so many others. -/
  keeps : Nat → Bool

/-- What a document is told about an element, with its answer. -/
inductive Deed where
  | created (serial : Nat)
  | appended (serial : Nat)
  | activated (serial : Nat)
  | deactivating (serial : Nat) (kept : Bool)
  | removed (serial : Nat)
  deriving DecidableEq, Repr

/-- What has happened in a document. -/
structure Record where
  /-- How many elements have been made. -/
  made : Nat
  /-- How often it has been asked whether an element is kept in. -/
  asked : Nat
  /-- What it has been told, the earliest first. -/
  deeds : List Deed
  deriving DecidableEq, Repr

namespace Deed

/-- What the document is told when an element is shown. -/
def arrival (fresh : Bool) (serial : Nat) : List Deed :=
  (if fresh then [.created serial] else []) ++ [.appended serial, .activated serial]

/-- What the document is told when an element is no longer shown. -/
def leaving (serial : Nat) (kept : Bool) : List Deed :=
  .deactivating serial kept :: if kept then [] else [.removed serial]

end Deed

namespace Record

def empty : Record := ⟨0, 0, []⟩

/-- One more deed. -/
def note (record : Record) (deed : Deed) : Record :=
  { record with deeds := record.deeds ++ [deed] }

/-- The record after an element was shown. -/
def shown (record : Record) (fresh : Bool) (serial : Nat) : Record :=
  ⟨if fresh then record.made + 1 else record.made, record.asked,
    record.deeds ++ Deed.arrival fresh serial⟩

/-- The record after the active element, if there was one, has become inactive. -/
def hidden (answers : Answers) (record : Record) : Option Element → Record
  | none => record
  | some element =>
    ⟨record.made, record.asked + 1,
      record.deeds ++ Deed.leaving element.serial (answers.keeps record.asked)⟩

end Record

namespace Answers

/-- **The document with these answers**, which writes down what it is told. -/
def host (answers : Answers) : ElementHost (StateM Record) where
  create _ := modifyGet fun record =>
    (answers.serial record.made,
      { record.note (.created (answers.serial record.made)) with made := record.made + 1 })
  append _ serial := modify (·.note (.appended serial))
  remove serial := modify (·.note (.removed serial))
  activated element := modify (·.note (.activated element.serial))
  deactivating element := modifyGet fun record =>
    (!answers.keeps record.asked,
      { record.note (.deactivating element.serial (answers.keeps record.asked)) with
        asked := record.asked + 1 })

section

variable (answers : Answers) (record : Record)

lemma run_bind {α β : Type} (x : StateM Record α) (f : α → StateM Record β) :
    (x >>= f) record = f (x record).1 (x record).2 := rfl

lemma run_map {α β : Type} (f : α → β) (x : StateM Record α) :
    (f <$> x) record = (f (x record).1, (x record).2) := rfl

lemma run_pure {α : Type} (a : α) : (pure a : StateM Record α) record = (a, record) := rfl

lemma host_create (tag : Text) :
    answers.host.create tag record = (answers.serial record.made,
      ⟨record.made + 1, record.asked,
        record.deeds ++ [.created (answers.serial record.made)]⟩) := rfl

lemma host_append (target : Option Text) (serial : Nat) :
    answers.host.append target serial record = ((), record.note (.appended serial)) := rfl

lemma host_remove (serial : Nat) :
    answers.host.remove serial record = ((), record.note (.removed serial)) := rfl

lemma host_activated (element : Element) :
    answers.host.activated element record = ((), record.note (.activated element.serial)) := rfl

lemma host_deactivating (element : Element) :
    answers.host.deactivating element record = (!answers.keeps record.asked,
      ⟨record.made, record.asked + 1,
        record.deeds ++ [.deactivating element.serial (answers.keeps record.asked)]⟩) := rfl

end

end Answers

/-! ## Properties of elements -/

/-- What an element shows of its route. -/
structure Properties where
  params : RouteParams
  query : Query
  splats : Params Text
  parent : Option Tail

def Element.properties (element : Element) : Properties :=
  ⟨element.params, element.query, element.splats, element.parent⟩

/-- What an element shows if its route has a match. -/
def Match.properties (found : Match) (parent : Option Tail) : Properties :=
  ⟨found.params, found.queryParams, found.splats, parent⟩

/-- An element that was made for the parameters of a match shows the match once it has fresh
properties. -/
lemma Element.properties_refreshed {element : Element} {found : Match}
    (hparams : element.params = found.params) (parent : Option Tail) :
    (element.refreshed found parent).properties = found.properties parent := by
  simp only [properties, refreshed, Match.properties, hparams]

namespace ElementCache

/-! ## Runs -/

/-- What can be done with a cache. -/
inductive Operation where
  | update (outcome : Outcome) (parent : Option Tail)
  | activate (found : Match) (parent : Option Tail)
  | deactivate
  | setCapacity (count : Nat)

/-- The key that an operation makes active, if it is one that does. -/
def Operation.key? : Operation → Option RouteParams
  | .update outcome _ => outcome.map (·.params)
  | .activate found _ => some found.params
  | .deactivate | .setCapacity _ => none

/-- What an operation gives back. -/
inductive Reply where
  | updated (change : CacheUpdate)
  /-- The element that is active now, and whether it had been kept. -/
  | activated (element : Element) (kept : Bool)
  | done
  deriving DecidableEq

def perform {m : Type → Type} [Monad m] (host : ElementHost m) (cache : ElementCache) :
    Operation → m (Reply × ElementCache)
  | .update outcome parent => do
    let (change, cache) ← cache.update host outcome parent
    return (.updated change, cache)
  | .activate found parent => do
    let (element, kept, cache) ← cache.activate host found parent
    return (.activated element kept, cache)
  | .deactivate => return (.done, ← cache.deactivate host)
  | .setCapacity count => return (.done, cache.setCapacity count)

/-- A cache and what has happened in the document. -/
structure Run where
  cache : ElementCache
  record : Record

namespace Run

/-- The cache and the record after one more operation. -/
def step (answers : Answers) (run : Run) (operation : Operation) : Run :=
  let result := run.cache.perform answers.host operation run.record
  ⟨result.1.2, result.2⟩

/-- What one more operation gives back. -/
def reply (answers : Answers) (run : Run) (operation : Operation) : Reply :=
  (run.cache.perform answers.host operation run.record).1.1

/-- **A run** of operations on a new cache. -/
def of (answers : Answers) (tag : Text) (appendTo : Option Text) (capacity : Nat)
    (operations : List Operation) : Run :=
  operations.foldl (step answers) ⟨.new tag appendTo capacity, .empty⟩

end Run

/-! ## What the operations do -/

/-- **A change of capacity** leaves the active element where it is. -/
lemma activeElement_setCapacity (cache : ElementCache) (count : Nat) :
    (cache.setCapacity count).activeElement = cache.activeElement := by
  have hroom : clampCacheCount count ≠ 0 := Nat.ne_of_gt (Nat.le_max_left _ _)
  simp [setCapacity, activeElement, List.head?_take, hroom]

lemma mem_of_activeElement {cache : ElementCache} {element : Element}
    (h : cache.activeElement = some element) : element ∈ cache.elements := by
  simp only [activeElement] at h
  split at h
  · exact List.mem_of_head? h
  · cases h

/-- The active element is the first one. -/
lemma exists_of_shows {cache : ElementCache} {params : RouteParams} (hshows : cache.shows params) :
    cache.active = true ∧ ∃ element others, cache.elements = element :: others ∧
      element.params = params := by
  cases hactive : cache.active <;> cases helements : cache.elements <;>
    simp_all [shows, activeElement]

namespace Run

variable {answers : Answers} {run : Run}

/-- The active element, if there is one, has become inactive. -/
def hidden (answers : Answers) (run : Run) : Run :=
  ⟨{ run.cache with active := false }, run.record.hidden answers run.cache.activeElement⟩

/-- The stored element for some parameters. -/
def stored? (run : Run) (params : RouteParams) : Option Element :=
  run.cache.elements.find? (·.params = params)

/-- The element that is shown for a match: the stored one, or a new one. -/
def elementFor (answers : Answers) (run : Run) (found : Match) (parent : Option Tail) : Element :=
  match run.stored? found.params with
  | some element => element.refreshed found parent
  | none =>
    ⟨answers.serial run.record.made, run.cache.tag, found.params, found.queryParams, found.splats,
      parent⟩

lemma serial_elementFor_of_stored {element : Element} {found : Match}
    (hstored : run.stored? found.params = some element) (parent : Option Tail) :
    (run.elementFor answers found parent).serial = element.serial := by
  simp only [elementFor, hstored, Element.refreshed]

lemma serial_elementFor_of_new {found : Match} (hstored : run.stored? found.params = none)
    (parent : Option Tail) :
    (run.elementFor answers found parent).serial = answers.serial run.record.made := by
  simp only [elementFor, hstored]

lemma mem_of_stored? {params : RouteParams} {element : Element}
    (h : run.stored? params = some element) : element ∈ run.cache.elements :=
  List.mem_of_find?_eq_some h

/-- The element for a match has become active. -/
def shown (answers : Answers) (run : Run) (found : Match) (parent : Option Tail) : Run where
  cache := { run.cache with
    elements := (run.elementFor answers found parent ::
      run.cache.elements.eraseP (·.params = found.params)).take run.cache.capacity
    active := true }
  record := (run.hidden answers).record.shown (run.stored? found.params).isNone
    (run.elementFor answers found parent).serial

lemma activeElement_shown (hroom : 1 ≤ run.cache.capacity) (found : Match) (parent : Option Tail) :
    (run.shown answers found parent).cache.activeElement =
      some (run.elementFor answers found parent) := by
  simp [shown, activeElement, List.head?_take, Nat.ne_of_gt hroom]

lemma mem_elements_shown {found : Match} {parent : Option Tail} {element : Element}
    (h : element ∈ (run.shown answers found parent).cache.elements) :
    element = run.elementFor answers found parent ∨ element ∈ run.cache.elements := by
  rcases List.mem_cons.1 (List.mem_of_mem_take h) with hfirst | hmem
  · exact .inl hfirst
  · exact .inr (List.mem_of_mem_eraseP hmem)

/-- The active element stays and has fresh properties. -/
def refreshed (run : Run) (found : Match) (parent : Option Tail) : Run :=
  ⟨run.cache.refreshFirst found parent, run.record⟩

/-- The cache has another capacity. -/
def resized (run : Run) (count : Nat) : Run :=
  ⟨run.cache.setCapacity count, run.record⟩

open Answers

lemma deactivate_host (answers : Answers) (run : Run) :
    run.cache.deactivate answers.host run.record =
      ((run.hidden answers).cache, (run.hidden answers).record) := by
  cases hactive : run.cache.activeElement with
  | none =>
      simp only [deactivate, hactive, hidden]
      rfl
  | some element =>
      simp only [deactivate, hactive, run_bind, host_deactivating]
      by_cases hkeeps : answers.keeps run.record.asked <;>
        simp [hkeeps, hactive, run_bind, run_pure, host_remove, hidden, Record.hidden, Deed.leaving,
          Record.note]

@[simp] lemma made_hidden (answers : Answers) (run : Run) :
    (run.hidden answers).record.made = run.record.made := by
  simp only [hidden]
  cases run.cache.activeElement <;> rfl

lemma activate_host (answers : Answers) (run : Run) (found : Match) (parent : Option Tail) :
    run.cache.activate answers.host found parent run.record =
      ((run.elementFor answers found parent, (run.stored? found.params).isSome,
        (run.shown answers found parent).cache), (run.shown answers found parent).record) := by
  simp only [activate, run_bind, run_pure, deactivate_host, takeOut, host_append, host_activated]
  cases hkept : run.stored? found.params with
  | some element =>
      have hfind : run.cache.elements.find? (·.params = found.params) = some element := hkept
      simp [hidden, hfind, hkept, ElementCache.elementFor, run_pure, shown, elementFor,
        Record.shown, Record.note, Deed.arrival]
  | none =>
      have hfind : run.cache.elements.find? (·.params = found.params) = none := hkept
      have hmade := run.made_hidden answers
      simp only [hidden] at hmade
      simp [hidden, hfind, hkept, ElementCache.elementFor, run_bind, run_pure, host_create, shown,
        elementFor, Record.shown, Record.note, Deed.arrival, hmade]

lemma hidden_of_inactive (hactive : run.cache.active = false) : run.hidden answers = run := by
  obtain ⟨⟨tag, appendTo, capacity, elements, active⟩, record⟩ := run
  cases hactive
  rfl

/-! ### One operation -/

lemma step_update_none (parent : Option Tail) :
    run.step answers (.update none parent) = run.hidden answers := by
  cases hactive : run.cache.active with
  | true => simp [step, perform, update, hactive, run_map, deactivate_host]
  | false =>
      rw [hidden_of_inactive hactive]
      simp [step, perform, update, hactive, run_pure, run_bind]

lemma step_update_shows {found : Match} {parent : Option Tail}
    (hshows : run.cache.shows found.params) :
    run.step answers (.update (some found) parent) = run.refreshed found parent := by
  simp [step, perform, update, hshows, run_bind, run_pure, refreshed]

lemma step_update_shown {found : Match} {parent : Option Tail}
    (hshows : ¬run.cache.shows found.params) :
    run.step answers (.update (some found) parent) = run.shown answers found parent := by
  simp [step, perform, update, hshows, run_map, run_bind, run_pure, activate_host]

lemma step_activate (found : Match) (parent : Option Tail) :
    run.step answers (.activate found parent) = run.shown answers found parent := by
  simp [step, perform, run_bind, run_pure, activate_host]

lemma step_deactivate : run.step answers .deactivate = run.hidden answers := by
  simp [step, perform, run_bind, run_pure, deactivate_host]

lemma step_setCapacity (count : Nat) :
    run.step answers (.setCapacity count) = run.resized count := rfl

/-- **What one operation can do.** -/
lemma step_cases (answers : Answers) (run : Run) (operation : Operation) :
    (∃ count, operation.key? = none ∧ run.step answers operation = run.resized count) ∨
    (operation.key? = none ∧ run.step answers operation = run.hidden answers) ∨
    (∃ found parent, operation.key? = some found.params ∧ run.cache.shows found.params ∧
      run.step answers operation = run.refreshed found parent) ∨
    (∃ found parent, operation.key? = some found.params ∧
      run.step answers operation = run.shown answers found parent) := by
  cases operation with
  | update outcome parent =>
      cases outcome with
      | none => exact .inr (.inl ⟨rfl, step_update_none parent⟩)
      | some found =>
          by_cases hshows : run.cache.shows found.params
          · exact .inr (.inr (.inl ⟨found, parent, rfl, hshows, step_update_shows hshows⟩))
          · exact .inr (.inr (.inr ⟨found, parent, rfl, step_update_shown hshows⟩))
  | activate found parent =>
      exact .inr (.inr (.inr ⟨found, parent, rfl, step_activate found parent⟩))
  | deactivate => exact .inr (.inl ⟨rfl, step_deactivate⟩)
  | setCapacity count => exact .inl ⟨count, rfl, step_setCapacity count⟩

/-- What the document is told when the active element, if there is one, becomes inactive. -/
def leaving (answers : Answers) (run : Run) : List Deed :=
  match run.cache.activeElement with
  | none => []
  | some element => Deed.leaving element.serial (answers.keeps run.record.asked)

lemma deeds_hidden (answers : Answers) (run : Run) :
    (run.hidden answers).record.deeds = run.record.deeds ++ run.leaving answers := by
  simp only [hidden, leaving]
  cases run.cache.activeElement <;> simp [Record.hidden]

lemma deeds_shown (answers : Answers) (run : Run) (found : Match) (parent : Option Tail) :
    (run.shown answers found parent).record.deeds =
      (run.hidden answers).record.deeds ++ Deed.arrival (run.stored? found.params).isNone
        (run.elementFor answers found parent).serial := rfl

end Run

end ElementCache

end PageRouter

import Mathlib.Logic.Function.Basic
import PageRouter.Proofs.Custody

/-!
# The active element is never stale

An element gets its named parameters once, when it is made, and its other properties whenever a
match is applied to it.  A `Chronicle` writes down beside a run which match was last applied to each
element; it is kept by the elements' numbers, since what the cache knows of an element is forgotten
when the element is dropped, and an element that is made later must not inherit it.

Every element of the cache has the properties of the match that was last applied to it
(`Fresh.after`, by one case for each operation).  With that the test of the active element's
parameters, which decides whether it stays, is the test whether the match last applied to it and
the new one have equal parameters (`Fresh.shows_iff`).
-/

namespace PageRouter

namespace ElementCache

/-- The match that an operation applies to an element, and the tail it comes with. -/
def Operation.match? : Operation → Option (Match × Option Tail)
  | .update outcome parent => outcome.map (·, parent)
  | .activate found parent => some (found, parent)
  | .deactivate | .setCapacity _ => none

lemma Operation.key?_of_match? {operation : Operation} {found : Match} {parent : Option Tail}
    (hmatch : operation.match? = some (found, parent)) : operation.key? = some found.params := by
  cases operation with
  | update outcome =>
      cases outcome with
      | none => cases hmatch
      | some _ =>
          cases hmatch
          rfl
  | activate =>
      cases hmatch
      rfl
  | deactivate | setCapacity => cases hmatch

/-! ## Chronicles -/

/-- What has last been applied to each element, by the elements' numbers. -/
abbrev Applied := Nat → Option (Match × Option Tail)

/-- **A run, and what was last applied to each element** in it. -/
structure Chronicle where
  run : Run
  applied : Applied

namespace Chronicle

/-- One more operation.  A match is applied to the element that is active after it. -/
def step (answers : Answers) (chronicle : Chronicle) (operation : Operation) : Chronicle where
  run := chronicle.run.step answers operation
  applied :=
    match operation.match?, (chronicle.run.step answers operation).cache.activeElement with
    | some application, some element =>
      Function.update chronicle.applied element.serial (some application)
    | _, _ => chronicle.applied

/-- **The chronicle of a run** of operations on a new cache. -/
def of (answers : Answers) (tag : Text) (appendTo : Option Text) (capacity : Nat)
    (operations : List Operation) : Chronicle :=
  operations.foldl (step answers) ⟨⟨.new tag appendTo capacity, .empty⟩, fun _ => none⟩

/-- The match last applied to the active element, if there is one. -/
def shown? (chronicle : Chronicle) : Outcome :=
  chronicle.run.cache.activeElement.bind fun element =>
    (chronicle.applied element.serial).map (·.1)

/-- **What an update has to answer**, told by the chronicle and the cache's keys. -/
def answerTo (chronicle : Chronicle) (outcome : Outcome) : CacheUpdate :=
  if Outcome.sameBase chronicle.shown? outcome then .refreshed
  else
    match outcome with
    | some found =>
      if found.params ∈ chronicle.run.cache.elements.map (·.params) then .reused else .created
    | none => if chronicle.run.cache.activeElement.isSome then .deactivated else .idle

variable {answers : Answers} {chronicle : Chronicle}

lemma run_foldl_step (operations : List Operation) :
    (operations.foldl (step answers) chronicle).run =
      operations.foldl (Run.step answers) chronicle.run := by
  induction operations generalizing chronicle with
  | nil => rfl
  | cons operation operations ih => exact ih

lemma step_of_none {operation : Operation} (hmatch : operation.match? = none) :
    chronicle.step answers operation =
      ⟨chronicle.run.step answers operation, chronicle.applied⟩ := by
  simp only [step, hmatch]

lemma step_of_some {operation : Operation} {found : Match} {parent : Option Tail}
    {element : Element} (hmatch : operation.match? = some (found, parent))
    (hactive : (chronicle.run.step answers operation).cache.activeElement = some element) :
    chronicle.step answers operation = ⟨chronicle.run.step answers operation,
      Function.update chronicle.applied element.serial (some (found, parent))⟩ := by
  simp only [step, hmatch, hactive]

end Chronicle

/-! ## Elements and what was applied to them -/

variable {answers : Answers} {run : Run} {chronicle : Chronicle} {shelf : Shelf}

/-- The element has the properties of what was last applied to it. -/
def Bears (applied : Applied) (element : Element) : Prop :=
  ∃ found parent, applied element.serial = some (found, parent) ∧
    element.properties = found.properties parent

/-- What is applied to one element leaves the others as they are. -/
lemma bears_update {applied : Applied} {element : Element} {others : List Element} {found : Match}
    {parent : Option Tail} (hproperties : element.properties = found.properties parent)
    (hapart : element.serial ∉ others.map (·.serial)) (h : ∀ other ∈ others, Bears applied other) :
    ∀ other ∈ element :: others,
      Bears (Function.update applied element.serial (some (found, parent))) other := by
  intro other hmem
  rcases List.mem_cons.1 hmem with rfl | hmem
  · exact ⟨found, parent, Function.update_self .., hproperties⟩
  · have hne : other.serial ≠ element.serial := fun heq =>
      hapart (heq ▸ List.mem_map_of_mem hmem)
    obtain ⟨last, lastParent, hlast, hother⟩ := h other hmem
    exact ⟨last, lastParent, (Function.update_of_ne hne ..).trans hlast, hother⟩

/-- **No element of the cache is stale.** -/
structure Fresh (answers : Answers) (chronicle : Chronicle) : Prop where
  custody : Custody answers chronicle.run
  /-- No two elements have one number. -/
  apart : (chronicle.run.cache.elements.map (·.serial)).Nodup
  bears : ∀ element ∈ chronicle.run.cache.elements, Bears chronicle.applied element

namespace Fresh

lemma new (answers : Answers) (tag : Text) (appendTo : Option Text) (capacity : Nat) :
    Fresh answers ⟨⟨.new tag appendTo capacity, .empty⟩, fun _ => none⟩ where
  custody := .new answers tag appendTo capacity
  apart := .nil
  bears := nofun

/-- The element for a match has the match's properties. -/
lemma properties_elementFor (found : Match) (parent : Option Tail) :
    (run.elementFor answers found parent).properties = found.properties parent := by
  cases hstored : run.stored? found.params with
  | none => simp only [Run.elementFor, hstored, Element.properties, Match.properties]
  | some element =>
      have hparams : element.params = found.params := by simpa using List.find?_some hstored
      simpa only [Run.elementFor, hstored] using Element.properties_refreshed hparams parent

/-- The element for a match is none of those that are kept beside it: they have other keys if it was
stored, and it has a new number if it was not. -/
lemma serial_elementFor_not_mem (hserial : Function.Injective answers.serial)
    (hkeys : (run.cache.elements.map (·.params)).Nodup) (hcustody : Custody answers run)
    (hapart : (run.cache.elements.map (·.serial)).Nodup) (found : Match) (parent : Option Tail) :
    (run.elementFor answers found parent).serial ∉
      (run.cache.elements.eraseP (·.params = found.params)).map (·.serial) := by
  rw [eraseP_eq_filter hkeys, List.mem_map]
  rintro ⟨other, hother, hnumber⟩
  obtain ⟨hmem, hkey⟩ := List.mem_filter.1 hother
  cases hstored : run.stored? found.params with
  | none =>
      rw [Run.serial_elementFor_of_new hstored] at hnumber
      obtain ⟨count, hlt, hcount⟩ := hcustody.exists_count hmem
      exact Nat.ne_of_lt hlt (hserial (hcount.symm.trans hnumber))
  | some element =>
      rw [Run.serial_elementFor_of_stored hstored] at hnumber
      have hsame : other = element :=
        List.inj_on_of_nodup_map hapart hmem (Run.mem_of_stored? hstored) hnumber
      have hparams : element.params = found.params := by simpa using List.find?_some hstored
      simp [hsame, hparams] at hkey

/-! ### Operations -/

lemma hidden (h : Fresh answers chronicle) :
    Fresh answers ⟨chronicle.run.hidden answers, chronicle.applied⟩ where
  custody := h.custody.hidden
  apart := h.apart
  bears := h.bears

lemma resized (h : Fresh answers chronicle) (count : Nat) :
    Fresh answers ⟨chronicle.run.resized count, chronicle.applied⟩ where
  custody := h.custody.resized count
  apart := h.apart.sublist ((List.take_sublist _ _).map _)
  bears element hmem := h.bears element (List.mem_of_mem_take hmem)

/-- **A match that the active element shows already** is applied to it. -/
lemma refreshed (h : Fresh answers chronicle) {found : Match} {element : Element}
    {others : List Element} (helements : chronicle.run.cache.elements = element :: others)
    (hshows : chronicle.run.cache.shows found.params) (hparams : element.params = found.params)
    (parent : Option Tail) :
    Fresh answers ⟨chronicle.run.refreshed found parent,
      Function.update chronicle.applied element.serial (some (found, parent))⟩ := by
  have hapart := h.apart
  have hbears := h.bears
  rw [helements, List.map_cons] at hapart
  have hrefreshed : (chronicle.run.refreshed found parent).cache.elements =
      element.refreshed found parent :: others := by
    simp only [Run.refreshed, refreshFirst, helements]
  refine ⟨h.custody.refreshed hshows parent, ?_, ?_⟩
  · rw [hrefreshed]
    exact hapart
  · rw [hrefreshed]
    exact bears_update (Element.properties_refreshed hparams parent) (List.nodup_cons.1 hapart).1
      fun other hmem => hbears other (helements ▸ List.mem_cons_of_mem _ hmem)

/-- **A match for which another element becomes active** is applied to that element. -/
lemma shown (hserial : Function.Injective answers.serial) (hrefines : Refines chronicle.run shelf)
    (h : Fresh answers chronicle) (found : Match) (parent : Option Tail) :
    Fresh answers ⟨chronicle.run.shown answers found parent,
      Function.update chronicle.applied (chronicle.run.elementFor answers found parent).serial
        (some (found, parent))⟩ := by
  have hnew := serial_elementFor_not_mem hserial hrefines.keys h.custody h.apart found parent
  refine ⟨h.custody.shown hserial hrefines.room found parent, ?_, fun element hmem => ?_⟩
  · refine List.Nodup.sublist ((List.take_sublist _ _).map _) (List.nodup_cons.2 ⟨hnew, ?_⟩)
    exact h.apart.sublist ((List.eraseP_sublist ..).map _)
  · exact bears_update (properties_elementFor found parent) hnew
      (fun other hother => h.bears other (List.mem_of_mem_eraseP hother)) element
      (List.mem_of_mem_take hmem)

lemma step_of_shown (hserial : Function.Injective answers.serial)
    (hrefines : Refines chronicle.run shelf) (h : Fresh answers chronicle) {operation : Operation}
    {found : Match} {parent : Option Tail} (hmatch : operation.match? = some (found, parent))
    (hstep : chronicle.run.step answers operation = chronicle.run.shown answers found parent) :
    Fresh answers (chronicle.step answers operation) := by
  have hactive : (chronicle.run.step answers operation).cache.activeElement =
      some (chronicle.run.elementFor answers found parent) := by
    rw [hstep]
    exact Run.activeElement_shown hrefines.room found parent
  rw [Chronicle.step_of_some hmatch hactive, hstep]
  exact h.shown hserial hrefines found parent

/-- **Each operation** leaves no element stale. -/
lemma step (hserial : Function.Injective answers.serial) (hrefines : Refines chronicle.run shelf)
    (h : Fresh answers chronicle) (operation : Operation) :
    Fresh answers (chronicle.step answers operation) := by
  cases operation with
  | update outcome parent =>
      cases outcome with
      | none =>
          rw [Chronicle.step_of_none rfl, Run.step_update_none]
          exact h.hidden
      | some found =>
          by_cases hshows : chronicle.run.cache.shows found.params
          · obtain ⟨hactive, element, others, helements, hparams⟩ := exists_of_shows hshows
            have hstep : chronicle.run.step answers (.update (some found) parent) =
                chronicle.run.refreshed found parent := Run.step_update_shows hshows
            have hnext : (chronicle.run.step answers
                (.update (some found) parent)).cache.activeElement =
                  some (element.refreshed found parent) := by
              rw [hstep]
              simp [Run.refreshed, refreshFirst, helements, activeElement, hactive]
            rw [Chronicle.step_of_some rfl hnext, hstep]
            exact h.refreshed helements hshows hparams parent
          · exact h.step_of_shown hserial hrefines rfl (Run.step_update_shown hshows)
  | activate found parent =>
      exact h.step_of_shown hserial hrefines rfl (Run.step_activate found parent)
  | deactivate =>
      rw [Chronicle.step_of_none rfl, Run.step_deactivate]
      exact h.hidden
  | setCapacity count => exact h.resized count

lemma after (hserial : Function.Injective answers.serial) (hrefines : Refines chronicle.run shelf)
    (h : Fresh answers chronicle) (operations : List Operation) :
    Fresh answers (operations.foldl (Chronicle.step answers) chronicle) := by
  induction operations generalizing chronicle shelf with
  | nil => exact h
  | cons operation operations ih =>
      exact ih (hrefines.step operation) (h.step hserial hrefines operation)

/-! ### The active element -/

/-- **After an operation with a match** the element that is active has the match's properties, and
the match is what was last applied to it. -/
lemma exists_active (hserial : Function.Injective answers.serial)
    (hrefines : Refines chronicle.run shelf) (h : Fresh answers chronicle) {operation : Operation}
    {found : Match} {parent : Option Tail} (hmatch : operation.match? = some (found, parent)) :
    ∃ element, (chronicle.step answers operation).run.cache.activeElement = some element ∧
      (chronicle.step answers operation).applied element.serial = some (found, parent) ∧
      element.properties = found.properties parent := by
  obtain ⟨element, hactive, -⟩ :
      ∃ element, (chronicle.run.step answers operation).cache.activeElement = some element ∧ _ :=
    Option.map_eq_some_iff.1 (hrefines.active_of_key (Operation.key?_of_match? hmatch))
  have hlast : (chronicle.step answers operation).applied element.serial =
      some (found, parent) := by
    rw [Chronicle.step_of_some hmatch hactive]
    exact Function.update_self ..
  obtain ⟨last, lastParent, heq, hproperties⟩ :=
    (h.step hserial hrefines operation).bears element (mem_of_activeElement hactive)
  cases hlast.symm.trans heq
  exact ⟨element, hactive, hlast, hproperties⟩

/-- **The test of parameters is the test of matches**: the active element was made for the
parameters of a match exactly if the match last applied to it has them. -/
lemma shows_iff (h : Fresh answers chronicle) (found : Match) :
    chronicle.run.cache.shows found.params ↔ Outcome.sameBase chronicle.shown? (some found) := by
  cases hactive : chronicle.run.cache.activeElement with
  | none => simp [shows, Chronicle.shown?, Outcome.sameBase, hactive]
  | some element =>
      obtain ⟨last, parent, hlast, hproperties⟩ := h.bears element (mem_of_activeElement hactive)
      have hparams : element.params = last.params := congrArg Properties.params hproperties
      simp [shows, Chronicle.shown?, Outcome.sameBase, hactive, hlast, hparams]

end Fresh

/-! ## Answers -/

lemma Run.reply_update_none (parent : Option Tail) :
    run.reply answers (.update none parent) =
      .updated (if run.cache.active then .deactivated else .idle) := by
  cases hactive : run.cache.active <;>
    simp [reply, perform, update, hactive, Answers.run_bind, Answers.run_map, Answers.run_pure]

lemma Run.reply_update_shows {found : Match} {parent : Option Tail}
    (hshows : run.cache.shows found.params) :
    run.reply answers (.update (some found) parent) = .updated .refreshed := by
  simp [reply, perform, update, hshows, Answers.run_bind, Answers.run_pure]

lemma Run.reply_update_shown {found : Match} {parent : Option Tail}
    (hshows : ¬run.cache.shows found.params) :
    run.reply answers (.update (some found) parent) =
      .updated (if (run.stored? found.params).isSome then .reused else .created) := by
  simp [reply, perform, update, hshows, Answers.run_map, Answers.run_bind, Answers.run_pure,
    activate_host]

lemma Refines.active_eq_isSome (h : Refines run shelf) :
    run.cache.active = run.cache.activeElement.isSome := by
  cases hactive : run.cache.active with
  | false => simp [activeElement, hactive]
  | true =>
      obtain ⟨element, -, hshown⟩ := h.front hactive
      simp [hshown]

lemma Run.isSome_stored? (params : RouteParams) :
    (run.stored? params).isSome ↔ params ∈ run.cache.elements.map (·.params) := by
  simp [stored?]

/-- **What an update answers** can be told from the chronicle and the cache's keys. -/
lemma Fresh.reply_update (hrefines : Refines chronicle.run shelf) (h : Fresh answers chronicle)
    (outcome : Outcome) (parent : Option Tail) :
    chronicle.run.reply answers (.update outcome parent) =
      .updated (chronicle.answerTo outcome) := by
  cases outcome with
  | none =>
      have hbase : Outcome.sameBase chronicle.shown? none = false := by
        cases chronicle.shown? <;> rfl
      simp [Run.reply_update_none, hrefines.active_eq_isSome, Chronicle.answerTo, hbase]
  | some found =>
      by_cases hshows : chronicle.run.cache.shows found.params
      · simp [Run.reply_update_shows hshows, Chronicle.answerTo, (h.shows_iff found).1 hshows]
      · have hbase : ¬Outcome.sameBase chronicle.shown? (some found) :=
          mt (h.shows_iff found).2 hshows
        simp only [Run.reply_update_shown hshows, Chronicle.answerTo, hbase, Run.isSome_stored?]
        rfl

/-- **The active element is never stale.**  For every run of operations on a new cache, in a
document that gives every element a number of its own, and every update after it:

* an element is active afterwards exactly if the outcome is a match;
* then the match and the tail it came with are what was last applied to the element, and all
  properties of the element are those that they ask for;
* the update answers that the element was refreshed exactly if an element was active and the match
  last applied to it has the parameters of the new one.  Otherwise a match reuses an element or
  makes one, as its parameters are among the cache's keys or not, and without a match the answer is
  that the active element was deactivated, or that there was nothing to do if none was active. -/
theorem update_never_stale (answers : Answers) (hserial : Function.Injective answers.serial)
    (tag : Text) (appendTo : Option Text) (capacity : Nat) (operations : List Operation)
    (outcome : Outcome) (parent : Option Tail) :
    let before := Chronicle.of answers tag appendTo capacity operations
    let after := before.step answers (.update outcome parent)
    (after.run.cache.activeElement.isSome ↔ outcome.isSome) ∧
    (∀ found, outcome = some found → ∃ element, after.run.cache.activeElement = some element ∧
      after.applied element.serial = some (found, parent) ∧
      element.properties = found.properties parent) ∧
    before.run.reply answers (.update outcome parent) = .updated (before.answerTo outcome) := by
  intro before after
  have hrefines : Refines before.run ((Shelf.new capacity).after answers operations) := by
    simp only [before, Chronicle.of, Chronicle.run_foldl_step]
    exact (Refines.new tag appendTo capacity).after operations
  have hfresh : Fresh answers before :=
    (Fresh.new answers tag appendTo capacity).after hserial (.new tag appendTo capacity) operations
  have hactive : ∀ found, outcome = some found → ∃ element,
      after.run.cache.activeElement = some element ∧
        after.applied element.serial = some (found, parent) ∧
        element.properties = found.properties parent := by
    rintro found rfl
    exact hfresh.exists_active hserial hrefines rfl
  refine ⟨?_, hactive, hfresh.reply_update hrefines outcome parent⟩
  cases outcome with
  | none =>
      have hstep : after.run = before.run.hidden answers := Run.step_update_none parent
      simp [hstep, Run.hidden, activeElement]
  | some found =>
      obtain ⟨element, helement, -⟩ := hactive found rfl
      simp [helement]

/-- Back to an element that was left for another one, with another query. -/
theorem update_never_stale_comingBack :
    let answers : Answers := ⟨id, fun _ => false⟩
    let found (id query : String) : Match :=
      ⟨.ofList [("id".toList, some id.toList)], {}, none, some query.toList⟩
    let operations := [.activate (found "a" "page=1") none, .update (some (found "b" "")) none]
    let before := Chronicle.of answers "user-page".toList none 2 operations
    let after := before.step answers (.update (some (found "a" "page=2")) none)
    Function.Injective answers.serial ∧
      after.run.cache.activeElement.map (·.serial) = some 0 ∧
      (∃ element, after.run.cache.activeElement = some element ∧
        after.applied element.serial = some (found "a" "page=2", none) ∧
        element.properties = (found "a" "page=2").properties none) ∧
      before.run.reply answers (.update (some (found "a" "page=2")) none) = .updated .reused := by
  intro answers found operations before after
  have hresult := update_never_stale answers Function.injective_id "user-page".toList none 2
    operations (some (found "a" "page=2")) none
  have hanswer : before.answerTo (some (found "a" "page=2")) = .reused := by decide +kernel
  exact ⟨Function.injective_id, by decide +kernel, hresult.2.1 _ rfl,
    hresult.2.2.trans (congrArg Reply.updated hanswer)⟩

end ElementCache

end PageRouter

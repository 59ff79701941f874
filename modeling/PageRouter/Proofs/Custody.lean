import PageRouter.Element.Document
import PageRouter.Proofs.Recency

/-!
# What a document is told

Whatever is done with a cache, the document is told of arrivals and leavings in turn: an element
arrives only when none is there, and only the one that arrived last leaves (`Plays`).  That an
element is made exactly at its first arrival needs that the document gives every element a number
of its own.  The order of events in the life of one element (`Plays.life`), of arrivals and leavings
of all of them (`Plays.turns`), and what is in the document (`Plays.attached`) all follow by
induction on this.
-/

namespace PageRouter

open ElementCache

namespace Deed

/-- The number of the element that a deed is about. -/
def serial : Deed → Nat
  | .created serial | .appended serial | .activated serial | .deactivating serial _
  | .removed serial => serial

/-- The deeds about one element. -/
def about (serial : Nat) (deeds : List Deed) : List Deed := deeds.filter (·.serial = serial)

/-- One round in the life of an element. -/
def round (serial : Nat) (kept : Bool) : List Deed :=
  [.appended serial, .activated serial] ++ leaving serial kept

/-- Whether a deed says that an element has arrived or is about to leave. -/
def isTurn : Deed → Bool
  | .appended _ | .deactivating _ _ => true
  | .created _ | .activated _ | .removed _ => false

/-- What a deed does to the plainest document. -/
def apply (document : Document) : Deed → Document
  | .created _ => document.create
  | .appended serial => document.append serial
  | .removed serial => document.remove serial
  | .activated _ | .deactivating _ _ => document

/-- **The elements that are put in**: those appended and not removed since. -/
def attached (deeds : List Deed) : List Nat := (deeds.foldl apply Document.empty).attached

variable {serial other : Nat} {deeds : List Deed}

lemma about_append (serial : Nat) (before deeds : List Deed) :
    about serial (before ++ deeds) = about serial before ++ about serial deeds :=
  List.filter_append _ _

lemma about_of_ne (hne : ∀ deed ∈ deeds, deed.serial ≠ serial) : about serial deeds = [] :=
  List.filter_eq_nil_iff.2 fun deed hmem => by simpa using hne deed hmem

lemma about_of_eq (heq : ∀ deed ∈ deeds, deed.serial = serial) : about serial deeds = deeds :=
  List.filter_eq_self.2 fun deed hmem => by simpa using heq deed hmem

lemma serial_of_mem_arrival (fresh : Bool) :
    ∀ deed ∈ arrival fresh serial, deed.serial = serial := by
  cases fresh <;> simp [arrival, Deed.serial]

lemma serial_of_mem_leaving (kept : Bool) :
    ∀ deed ∈ leaving serial kept, deed.serial = serial := by
  cases kept <;> simp [leaving, Deed.serial]

end Deed

/-! ## Arrivals and leavings in turn -/

/-- **A play**: elements arrive and leave in turn, and the one that is there is known. -/
inductive Plays : List Deed → Option Nat → Prop where
  | start : Plays [] none
  /-- An element arrives, and is made if nothing has been told of it. -/
  | arrive {deeds : List Deed} {serial : Nat} {fresh : Bool} (h : Plays deeds none)
      (hfresh : fresh = true ↔ ∀ deed ∈ deeds, deed.serial ≠ serial) :
      Plays (deeds ++ Deed.arrival fresh serial) (some serial)
  /-- The element that is there leaves, or is kept in. -/
  | leave {deeds : List Deed} {serial : Nat} (kept : Bool) (h : Plays deeds (some serial)) :
      Plays (deeds ++ Deed.leaving serial kept) none

namespace Plays

variable {deeds : List Deed} {active : Option Nat}

/-- **The life of one element**: it is made, and then there are rounds, the last of which goes on
exactly while it is active. -/
lemma life (h : Plays deeds active) (serial : Nat) :
    Deed.about serial deeds = [] ∧ active ≠ some serial ∨
      ∃ vetoes : List Bool, Deed.about serial deeds =
        .created serial :: (vetoes.flatMap (Deed.round serial) ++
          if active = some serial then [.appended serial, .activated serial] else []) := by
  induction h with
  | start => exact .inl ⟨rfl, nofun⟩
  | @arrive deeds other fresh _ hfresh ih =>
      rw [Deed.about_append]
      by_cases hother : other = serial
      · subst hother
        rw [Deed.about_of_eq (Deed.serial_of_mem_arrival fresh)]
        cases fresh with
        | true =>
            rw [Deed.about_of_ne (hfresh.1 rfl)]
            exact .inr ⟨[], by simp [Deed.arrival]⟩
        | false =>
            rcases ih with ⟨hnone, -⟩ | ⟨vetoes, hvetoes⟩
            · have hnew : ∀ deed ∈ deeds, deed.serial ≠ other := fun deed hmem => by
                simpa using List.filter_eq_nil_iff.1 hnone deed hmem
              exact absurd (hfresh.2 hnew) Bool.false_ne_true
            · exact .inr ⟨vetoes, by simp [hvetoes, Deed.arrival]⟩
      · have hothers : ∀ deed ∈ Deed.arrival fresh other, deed.serial ≠ serial :=
          fun deed hmem heq => hother ((Deed.serial_of_mem_arrival fresh deed hmem).symm.trans heq)
        rw [Deed.about_of_ne hothers]
        simpa [hother] using ih
  | @leave deeds other kept _ ih =>
      rw [Deed.about_append]
      by_cases hother : other = serial
      · subst hother
        rw [Deed.about_of_eq (Deed.serial_of_mem_leaving kept)]
        rcases ih with ⟨-, hne⟩ | ⟨vetoes, hvetoes⟩
        · exact absurd rfl hne
        · exact .inr ⟨vetoes ++ [kept], by simp [hvetoes, Deed.round]⟩
      · have hothers : ∀ deed ∈ Deed.leaving other kept, deed.serial ≠ serial :=
          fun deed hmem heq => hother ((Deed.serial_of_mem_leaving kept deed hmem).symm.trans heq)
        rw [Deed.about_of_ne hothers]
        simpa [hother] using ih

/-- **Arrivals and leavings alternate**, and each leaving is that of the arrival before it. -/
lemma turns (h : Plays deeds active) :
    ∃ turns : List (Nat × Bool), deeds.filter Deed.isTurn =
      turns.flatMap (fun turn => [.appended turn.1, .deactivating turn.1 turn.2]) ++
        active.toList.map .appended := by
  induction h with
  | start => exact ⟨[], rfl⟩
  | @arrive deeds serial fresh _ _ ih =>
      obtain ⟨turns, hturns⟩ := ih
      have harrival : (Deed.arrival fresh serial).filter Deed.isTurn = [.appended serial] := by
        cases fresh <;> rfl
      exact ⟨turns, by simp [hturns, harrival]⟩
  | @leave deeds serial kept _ ih =>
      obtain ⟨turns, hturns⟩ := ih
      have hleaving : (Deed.leaving serial kept).filter Deed.isTurn =
          [.deactivating serial kept] := by
        cases kept <;> rfl
      exact ⟨turns ++ [(serial, kept)], by simp [hturns, hleaving]⟩

/-- **What is in the document**, if it never keeps an element in, is the active element. -/
lemma attached (h : Plays deeds active) (hkept : ∀ serial, Deed.deactivating serial true ∉ deeds) :
    Deed.attached deeds = active.toList := by
  induction h with
  | start => rfl
  | @arrive deeds serial fresh _ _ ih =>
      have hbefore := ih fun other hmem => hkept other (List.mem_append_left _ hmem)
      simp only [Deed.attached] at hbefore
      cases fresh <;>
        simp [Deed.attached, Deed.arrival, Deed.apply, Document.append, Document.create, hbefore]
  | @leave deeds serial kept _ ih =>
      have hbefore := ih fun other hmem => hkept other (List.mem_append_left _ hmem)
      simp only [Deed.attached] at hbefore
      cases kept with
      | true => exact absurd (by simp [Deed.leaving]) (hkept serial)
      | false =>
          simp [Deed.attached, Deed.leaving, Deed.apply, Document.remove, hbefore]

/-- Where arrivals and leavings alternate, one leaving stands between one arrival and the next. -/
lemma between_turns {turns : List (Nat × Bool)} {first second : Nat}
    {before between rest : List Deed}
    (h : turns.flatMap (fun turn => [.appended turn.1, .deactivating turn.1 turn.2]) ++
        active.toList.map .appended =
      before ++ .appended first :: (between ++ .appended second :: rest))
    (hbetween : ∀ serial, Deed.appended serial ∉ between) :
    ∃ kept, between = [.deactivating first kept] := by
  induction turns generalizing before with
  | nil =>
      have hlength := congrArg List.length h
      cases active with
      | none => simp at hlength
      | some serial =>
          simp at hlength
          omega
  | cons turn turns ih =>
      match before with
      | [] =>
          simp only [List.flatMap_cons, List.cons_append, List.nil_append, List.cons.injEq,
            Deed.appended.injEq] at h
          obtain ⟨rfl, h⟩ := h
          match between with
          | [] => cases (List.cons.inj h).1
          | [_] =>
              obtain ⟨rfl, -⟩ := List.cons.inj h
              exact ⟨turn.2, rfl⟩
          | _ :: next :: between =>
              -- what follows a leaving is the next arrival, which is not between the two
              obtain ⟨-, h⟩ := List.cons.inj h
              obtain ⟨serial, rfl⟩ : ∃ serial, next = .appended serial := by
                cases turns with
                | cons turn turns => exact ⟨turn.1, (List.cons.inj h).1.symm⟩
                | nil =>
                    cases active with
                    | none => cases h
                    | some serial => exact ⟨serial, (List.cons.inj h).1.symm⟩
              exact absurd (by simp) (hbetween serial)
      | [_] => cases (List.cons.inj h).2
      | _ :: _ :: before => exact ih (List.cons.inj (List.cons.inj h).2).2

/-- **Between two arrivals** one after the other there is exactly one leaving, that of the first. -/
lemma between (h : Plays deeds active) {first second : Nat} {before between rest : List Deed}
    (hdeeds : deeds = before ++ .appended first :: (between ++ .appended second :: rest))
    (hbetween : ∀ serial, Deed.appended serial ∉ between) :
    ∃ kept, between.filter Deed.isTurn = [.deactivating first kept] := by
  obtain ⟨turns, hturns⟩ := h.turns
  rw [hdeeds] at hturns
  have harrival : ∀ serial, Deed.isTurn (.appended serial) = true := fun _ => rfl
  have hparts : turns.flatMap (fun turn => [.appended turn.1, .deactivating turn.1 turn.2]) ++
      active.toList.map .appended = before.filter Deed.isTurn ++
        .appended first :: (between.filter Deed.isTurn ++
          .appended second :: rest.filter Deed.isTurn) := by
    simpa [harrival] using hturns.symm
  exact between_turns hparts fun serial hmem => hbetween serial (List.mem_filter.1 hmem).1

end Plays

/-! ## Runs are plays -/

namespace ElementCache

variable {answers : Answers} {run : Run}

/-- **What is known of a run**: it is a play, and everything told is of elements that were made. -/
structure Custody (answers : Answers) (run : Run) : Prop where
  plays : Plays run.record.deeds (run.cache.activeElement.map (·.serial))
  /-- The elements of the cache are known. -/
  known : ∀ element ∈ run.cache.elements, ∃ deed ∈ run.record.deeds, deed.serial = element.serial
  /-- What is known was made. -/
  made : ∀ deed ∈ run.record.deeds, ∃ count < run.record.made, deed.serial = answers.serial count

lemma Custody.new (answers : Answers) (tag : Text) (appendTo : Option Text) (capacity : Nat) :
    Custody answers ⟨.new tag appendTo capacity, .empty⟩ where
  plays := .start
  known := nofun
  made := nofun

lemma Custody.exists_count (h : Custody answers run) {element : Element}
    (hmem : element ∈ run.cache.elements) :
    ∃ count < run.record.made, element.serial = answers.serial count := by
  obtain ⟨deed, hdeed, hserial⟩ := h.known element hmem
  rw [← hserial]
  exact h.made deed hdeed

/-- The document is told of the active element only. -/
lemma serial_of_mem_leaving {deed : Deed} (h : deed ∈ run.leaving answers) :
    ∃ element ∈ run.cache.elements, deed.serial = element.serial := by
  simp only [Run.leaving] at h
  cases hactive : run.cache.activeElement with
  | none => simp [hactive] at h
  | some element =>
      rw [hactive] at h
      exact ⟨element, mem_of_activeElement hactive, Deed.serial_of_mem_leaving _ deed h⟩

/-- **The active element leaves.** -/
lemma Custody.hidden (h : Custody answers run) : Custody answers (run.hidden answers) where
  plays := by
    have hplays := h.plays
    have hinactive : (run.hidden answers).cache.activeElement = none := rfl
    rw [Run.deeds_hidden, hinactive, Run.leaving]
    cases hactive : run.cache.activeElement with
    | none => simpa [hactive] using hplays
    | some element =>
        rw [hactive] at hplays
        exact hplays.leave _
  known element hmem := by
    obtain ⟨deed, hdeed, hserial⟩ := h.known element hmem
    rw [Run.deeds_hidden]
    exact ⟨deed, List.mem_append_left _ hdeed, hserial⟩
  made deed hdeed := by
    rw [Run.deeds_hidden, List.mem_append] at hdeed
    rw [Run.made_hidden]
    rcases hdeed with hdeed | hdeed
    · exact h.made deed hdeed
    · obtain ⟨element, hmem, hserial⟩ := serial_of_mem_leaving hdeed
      rw [hserial]
      exact h.exists_count hmem

lemma Custody.resized (h : Custody answers run) (count : Nat) :
    Custody answers (run.resized count) where
  plays := by
    rw [Run.resized, activeElement_setCapacity]
    exact h.plays
  known element hmem := h.known element (List.mem_of_mem_take hmem)
  made := h.made

lemma Custody.refreshed (h : Custody answers run) {found : Match}
    (hshows : run.cache.shows found.params) (parent : Option Tail) :
    Custody answers (run.refreshed found parent) := by
  obtain ⟨hactive, element, others, helements, -⟩ := exists_of_shows hshows
  have hplays := h.plays
  have hknown := h.known
  refine ⟨?_, ?_, h.made⟩
  · simpa [Run.refreshed, refreshFirst, helements, activeElement, hactive, Element.refreshed]
      using hplays
  · simpa [Run.refreshed, refreshFirst, helements, Element.refreshed] using hknown

/-- Where every element has a number of its own, one that is made is not known. -/
lemma Custody.unknown_of_made (hserial : Function.Injective answers.serial)
    (h : Custody answers run) :
    ∀ deed ∈ run.record.deeds, deed.serial ≠ answers.serial run.record.made := by
  intro deed hdeed heq
  obtain ⟨count, hlt, hcount⟩ := h.made deed hdeed
  exact Nat.ne_of_lt hlt (hserial (hcount.symm.trans heq))

/-- **The element for a match arrives**, and is made if it is not stored. -/
lemma Custody.shown (hserial : Function.Injective answers.serial) (hroom : 1 ≤ run.cache.capacity)
    (h : Custody answers run) (found : Match) (parent : Option Tail) :
    Custody answers (run.shown answers found parent) where
  plays := by
    rw [Run.activeElement_shown hroom, Run.deeds_shown]
    refine .arrive h.hidden.plays ?_
    cases hstored : run.stored? found.params with
    | none =>
        rw [Run.serial_elementFor_of_new hstored, ← run.made_hidden answers]
        exact ⟨fun _ => h.hidden.unknown_of_made hserial, fun _ => rfl⟩
    | some element =>
        obtain ⟨deed, hdeed, hknown⟩ := h.hidden.known element (Run.mem_of_stored? hstored)
        rw [Run.serial_elementFor_of_stored hstored]
        exact ⟨nofun, fun hnone => absurd hknown (hnone deed hdeed)⟩
  known element hmem := by
    rw [Run.deeds_shown]
    rcases Run.mem_elements_shown hmem with rfl | hmem
    · exact ⟨.appended _, List.mem_append_right _ (by simp [Deed.arrival]), rfl⟩
    · obtain ⟨deed, hdeed, hknown⟩ := h.hidden.known element hmem
      exact ⟨deed, List.mem_append_left _ hdeed, hknown⟩
  made deed hdeed := by
    rw [Run.deeds_shown, List.mem_append] at hdeed
    simp only [Run.shown, Record.shown, Run.made_hidden]
    rcases hdeed with hdeed | hdeed
    · obtain ⟨count, hlt, hcount⟩ := h.hidden.made deed hdeed
      rw [Run.made_hidden] at hlt
      exact ⟨count, by split <;> omega, hcount⟩
    · rw [Deed.serial_of_mem_arrival _ deed hdeed]
      cases hstored : run.stored? found.params with
      | none => exact ⟨run.record.made, by simp, Run.serial_elementFor_of_new hstored parent⟩
      | some element =>
          rw [Run.serial_elementFor_of_stored hstored]
          simpa using h.exists_count (Run.mem_of_stored? hstored)

/-- **Each operation** goes on with the play. -/
lemma Custody.step (hserial : Function.Injective answers.serial) (hroom : 1 ≤ run.cache.capacity)
    (h : Custody answers run) (operation : Operation) :
    Custody answers (run.step answers operation) := by
  rcases Run.step_cases answers run operation with ⟨count, -, hstep⟩ | ⟨-, hstep⟩ |
    ⟨found, parent, -, hshows, hstep⟩ | ⟨found, parent, -, hstep⟩ <;> rw [hstep]
  · exact h.resized count
  · exact h.hidden
  · exact h.refreshed hshows parent
  · exact h.shown hserial hroom found parent

/-! ### Elements that are no longer kept -/

/-- **An operation does not touch an element that is known and no longer kept**, and does not bring
it back. -/
lemma Custody.gone_step (hserial : Function.Injective answers.serial) (h : Custody answers run)
    {serial : Nat} (hknown : ∃ deed ∈ run.record.deeds, deed.serial = serial)
    (hgone : ∀ element ∈ run.cache.elements, element.serial ≠ serial) (operation : Operation) :
    (∀ element ∈ (run.step answers operation).cache.elements, element.serial ≠ serial) ∧
      ∃ told, (run.step answers operation).record.deeds = run.record.deeds ++ told ∧
        ∀ deed ∈ told, deed.serial ≠ serial := by
  have hleaving : ∀ deed ∈ run.leaving answers, deed.serial ≠ serial := fun deed hdeed heq => by
    obtain ⟨element, hmem, hdeedSerial⟩ := serial_of_mem_leaving hdeed
    exact hgone element hmem (hdeedSerial.symm.trans heq)
  rcases Run.step_cases answers run operation with ⟨count, -, hstep⟩ | ⟨-, hstep⟩ |
    ⟨found, parent, -, hshows, hstep⟩ | ⟨found, parent, -, hstep⟩ <;> rw [hstep]
  · exact ⟨fun element hmem => hgone element (List.mem_of_mem_take hmem), [],
      (List.append_nil _).symm, nofun⟩
  · exact ⟨hgone, _, Run.deeds_hidden answers run, hleaving⟩
  · obtain ⟨-, element, others, helements, -⟩ := exists_of_shows hshows
    refine ⟨?_, [], (List.append_nil _).symm, nofun⟩
    simpa [Run.refreshed, refreshFirst, helements, Element.refreshed] using hgone
  · have hnew : (run.elementFor answers found parent).serial ≠ serial := by
      cases hstored : run.stored? found.params with
      | none =>
          obtain ⟨deed, hdeed, rfl⟩ := hknown
          rw [Run.serial_elementFor_of_new hstored]
          exact (h.unknown_of_made hserial deed hdeed).symm
      | some element =>
          rw [Run.serial_elementFor_of_stored hstored]
          exact hgone element (Run.mem_of_stored? hstored)
    refine ⟨fun element hmem => ?_, _,
      (Run.deeds_shown ..).trans (by rw [Run.deeds_hidden, List.append_assoc]),
      fun deed hdeed => ?_⟩
    · rcases Run.mem_elements_shown hmem with rfl | hmem
      exacts [hnew, hgone element hmem]
    · rcases List.mem_append.1 hdeed with hdeed | hdeed
      · exact hleaving deed hdeed
      · rw [Deed.serial_of_mem_arrival _ deed hdeed]
        exact hnew

/-! ### Runs of operations -/

lemma Custody.after {shelf : Shelf} (hserial : Function.Injective answers.serial)
    (hrefines : Refines run shelf) (h : Custody answers run) (operations : List Operation) :
    Custody answers (operations.foldl (Run.step answers) run) := by
  induction operations generalizing run shelf with
  | nil => exact h
  | cons operation operations ih =>
      exact ih (hrefines.step operation) (h.step hserial hrefines.room operation)

/-- **An element that is known and no longer kept** is never heard of again. -/
lemma Custody.gone_after {shelf : Shelf} (hserial : Function.Injective answers.serial)
    (hrefines : Refines run shelf) (h : Custody answers run) {serial : Nat}
    (hknown : ∃ deed ∈ run.record.deeds, deed.serial = serial)
    (hgone : ∀ element ∈ run.cache.elements, element.serial ≠ serial) (later : List Operation) :
    ∃ told, (later.foldl (Run.step answers) run).record.deeds = run.record.deeds ++ told ∧
      ∀ deed ∈ told, deed.serial ≠ serial := by
  induction later generalizing run shelf with
  | nil => exact ⟨[], (List.append_nil _).symm, nofun⟩
  | cons operation later ih =>
      obtain ⟨hgoneNext, told, htold, hdeeds⟩ := h.gone_step hserial hknown hgone operation
      have hknownNext : ∃ deed ∈ (run.step answers operation).record.deeds,
          deed.serial = serial := by
        obtain ⟨deed, hdeed, heq⟩ := hknown
        exact ⟨deed, htold ▸ List.mem_append_left _ hdeed, heq⟩
      obtain ⟨toldLater, htoldLater, hdeedsLater⟩ := ih (hrefines.step operation)
        (h.step hserial hrefines.room operation) hknownNext hgoneNext
      refine ⟨told ++ toldLater, by rw [List.foldl_cons, htoldLater, htold, List.append_assoc],
        fun deed hdeed => ?_⟩
      exact (List.mem_append.1 hdeed).elim (hdeeds deed) (hdeedsLater deed)

/-- **What a document is told.**  For every run of operations on a new cache, in a document that
gives every element a number of its own, whatever it keeps in:

* a single element is made, and then there are rounds of being put in, active, and inactive, where
  it is taken out exactly if it is not kept in; the last round may still go on;
* between two arrivals one after the other there is exactly one leaving, that of the first;
* nothing is told any more of an element that is known and no longer kept by the cache;
* if none was kept in, the elements that are put in are the active one, or none. -/
theorem run_tells_in_turn (answers : Answers) (hserial : Function.Injective answers.serial)
    (tag : Text) (appendTo : Option Text) (capacity : Nat) (operations : List Operation) :
    let run := Run.of answers tag appendTo capacity operations
    (∀ serial, Deed.about serial run.record.deeds = [] ∨
      ∃ (vetoes : List Bool) (goesOn : Bool), Deed.about serial run.record.deeds =
        .created serial :: (vetoes.flatMap (Deed.round serial) ++
          if goesOn then [.appended serial, .activated serial] else [])) ∧
    (∀ before between rest first second,
      run.record.deeds = before ++ .appended first :: (between ++ .appended second :: rest) →
      (∀ serial, Deed.appended serial ∉ between) →
      ∃ kept, between.filter Deed.isTurn = [.deactivating first kept]) ∧
    (∀ serial, (∃ deed ∈ run.record.deeds, deed.serial = serial) →
      (∀ element ∈ run.cache.elements, element.serial ≠ serial) → ∀ later,
      ∃ told, (Run.of answers tag appendTo capacity (operations ++ later)).record.deeds =
          run.record.deeds ++ told ∧ ∀ deed ∈ told, deed.serial ≠ serial) ∧
    ((∀ serial, Deed.deactivating serial true ∉ run.record.deeds) →
      Deed.attached run.record.deeds = run.cache.activeElement.toList.map (·.serial)) := by
  intro run
  have hrefines : Refines run ((Shelf.new capacity).after answers operations) :=
    (Refines.new tag appendTo capacity).after operations
  have hcustody : Custody answers run :=
    (Custody.new answers tag appendTo capacity).after hserial (.new tag appendTo capacity)
      operations
  refine ⟨fun serial => ?_, ?_, ?_, fun hkept => ?_⟩
  · rcases hcustody.plays.life serial with ⟨hnone, -⟩ | ⟨vetoes, hvetoes⟩
    · exact .inl hnone
    · exact .inr ⟨vetoes, run.cache.activeElement.map (·.serial) = some serial,
        by simpa using hvetoes⟩
  · intro before between rest first second hdeeds hbetween
    exact hcustody.plays.between hdeeds hbetween
  · intro serial hknown hgone later
    rw [Run.of, List.foldl_append]
    exact hcustody.gone_after hserial hrefines hknown hgone later
  · rw [hcustody.plays.attached hkept]
    cases run.cache.activeElement <;> rfl

/-- Two elements in turn, with room for one. -/
theorem run_tells_in_turn_twoElements :
    let answers : Answers := ⟨id, fun _ => false⟩
    let found (id : String) : Match := ⟨.ofList [("id".toList, some id.toList)], {}, none, none⟩
    let operations := [.activate (found "a") none, .update (some (found "b")) none]
    let run := Run.of answers "user-page".toList none 1 operations
    Function.Injective answers.serial ∧
      run.record.deeds = [.created 0, .appended 0, .activated 0, .deactivating 0 false, .removed 0,
        .created 1, .appended 1, .activated 1] ∧
      (∀ serial, Deed.deactivating serial true ∉ run.record.deeds) ∧
      Deed.attached run.record.deeds = run.cache.activeElement.toList.map (·.serial) ∧
      run.cache.activeElement.toList.map (·.serial) = [1] := by
  intro answers found operations run
  have hdeeds : run.record.deeds = [.created 0, .appended 0, .activated 0, .deactivating 0 false,
      .removed 0, .created 1, .appended 1, .activated 1] := by decide +kernel
  have hkept : ∀ serial, Deed.deactivating serial true ∉ run.record.deeds := by
    rw [hdeeds]
    simp
  have hresult :=
    run_tells_in_turn answers Function.injective_id "user-page".toList none 1 operations
  exact ⟨Function.injective_id, hdeeds, hkept, hresult.2.2.2 hkept, by decide +kernel⟩

end ElementCache

end PageRouter

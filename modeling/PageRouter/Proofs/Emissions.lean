import Mathlib.Tactic.Lemma
import Mathlib.Data.List.Range
import PageRouter.Signal

/-!
# Emissions that overlap

Whoever holds a signal may do anything with it at any moment, and so may each listener while it is
called: add listeners, cancel any subscription, emit, ask for the number of listeners, and let the
signal go.  `Stage` is a signal in such hands.  What is done next is up to a script, which may look
at everything that has happened so far, so that no listener body is left out; `perform` runs it with
the signal's own operations.

The stage is at each moment what the events so far make of it (`Stage.of`), and the events of a run
follow a grammar (`Goes`): an emission walks through the listeners that stood when it began, and
each of them is skipped or called.  `delivery_is_exact` reads off the grammar who is called.
-/

namespace PageRouter.Signal

variable {V : Type}

/-! ## Stages -/

/-- What can be done next on a stage. -/
inductive Act (V : Type) where
  | subscribe
  /-- Cancel the subscription of a number. -/
  | cancel (number : Nat)
  | emit (value : V)
  | count
  /-- Let the signal go, for good. -/
  | letGo
  deriving DecidableEq, Repr

/-- What happens on a stage. -/
inductive Event (V : Type) where
  | subscribed (number : Nat)
  /-- A subscription was cancelled, and the signal has these listeners left, if it is there. -/
  | cancelled (number : Nat) (left : Option (List Nat))
  | counted (count : Nat)
  | letGo
  | began (emission : Nat) (value : V)
  /-- An emission calls a listener. -/
  | called (emission number : Nat) (value : V)
  | ended (emission : Nat)
  deriving DecidableEq, Repr

/-- **A signal in the hands of its users.** -/
structure Stage (V : Type) where
  /-- The signal, as long as it is there.  It knows each listener by its number. -/
  signal : Option (Signal Nat)
  /-- Whether anyone still holds the signal. -/
  held : Bool
  /-- The subscriptions that have not been cancelled. -/
  handles : List Nat
  /-- How many emissions have begun. -/
  begun : Nat
  /-- How many of them are not over. -/
  underWay : Nat
  /-- What has happened, the earliest first. -/
  events : List (Event V)
  deriving DecidableEq, Repr

namespace Stage

def start : Stage V := ⟨some .empty, true, [], 0, 0, []⟩

/-- The signal as those find it who hold it. -/
def inHand (stage : Stage V) : Option (Signal Nat) :=
  if stage.held then stage.signal else none

def note (stage : Stage V) (event : Event V) : Stage V :=
  { stage with events := stage.events ++ [event] }

def subscribed (stage : Stage V) (signal : Signal Nat) : Stage V :=
  { stage.note (.subscribed signal.nextNumber) with
    signal := some (signal.subscribe signal.nextNumber)
    handles := stage.handles ++ [signal.nextNumber] }

/-- The stage after a subscription was cancelled.  A signal that has gone is out of its reach. -/
def cancelled (stage : Stage V) (number : Nat) : Stage V :=
  let signal := stage.signal.map (·.cancel number)
  { stage.note (.cancelled number (signal.map fun signal => signal.listeners.map Prod.fst)) with
    signal := signal
    handles := stage.handles.filter (· ≠ number) }

/-- The stage without a signal that nobody holds and that does not emit. -/
def swept (stage : Stage V) : Stage V :=
  { stage with signal := if stage.held || stage.underWay ≠ 0 then stage.signal else none }

def released (stage : Stage V) : Stage V :=
  { stage.note .letGo with held := false }.swept

def began (stage : Stage V) (value : V) : Stage V :=
  { stage.note (.began stage.begun value) with
    begun := stage.begun + 1
    underWay := stage.underWay + 1 }

def ended (stage : Stage V) (emission : Nat) : Stage V :=
  { stage.note (.ended emission) with underWay := stage.underWay - 1 }.swept

end Stage

/-- Computations on a stage that may take too long. -/
abbrev StageM (V : Type) := StateT (Stage V) Option

/-- The signal that emits. -/
def emitting : StageM V (Signal Nat) := return (← get).signal.getD .empty

section

variable (body : StageM V Unit)

/-- Calling a listener, with what it does then. -/
def callOne (emission : Nat) (value : V) (number : Nat) : StageM V Unit := do
  modify (·.note (.called emission number value))
  body

def enact : Act V → StageM V Unit
  | .subscribe => do
    let stage ← get
    match stage.inHand with
    | some signal => set (stage.subscribed signal)
    | none => pure ()
  | .cancel number => do
    let stage ← get
    if number ∈ stage.handles then set (stage.cancelled number)
  | .emit value => do
    let stage ← get
    if stage.held then
      set (stage.began value)
      Signal.emit emitting (callOne body stage.begun value)
      modify (·.ended stage.begun)
  | .count => do
    let stage ← get
    match stage.inHand with
    | some signal => set (stage.note (.counted signal.count))
    | none => pure ()
  | .letGo => do
    let stage ← get
    if stage.held then set stage.released

end

/-- **A run of a script**: what it says is done until it says nothing, by whoever is at work. -/
def perform (script : List (Event V) → Option (Act V)) : Nat → StageM V Unit
  | 0 => failure
  | fuel + 1 => do
    match script (← get).events with
    | none => pure ()
    | some act => do
      enact (perform script fuel) act
      perform script fuel

/-! ## Events -/

/-- The subscriptions made, in order. -/
def made (events : List (Event V)) : List Nat :=
  events.filterMap fun
    | .subscribed number => some number
    | _ => none

def cancellations (events : List (Event V)) : List Nat :=
  events.filterMap fun
    | .cancelled number _ => some number
    | _ => none

/-- **The subscriptions made and not yet cancelled**, in order. -/
def standing (events : List (Event V)) : List Nat :=
  (made events).filter (· ∉ cancellations events)

/-- Nobody has let the signal go. -/
def isHeld (events : List (Event V)) : Bool :=
  events.all fun
    | .letGo => false
    | _ => true

/-- How many emissions have begun. -/
def beginnings (events : List (Event V)) : Nat :=
  events.countP fun
    | .began .. => true
    | _ => false

/-- How many emissions are over. -/
def endings (events : List (Event V)) : Nat :=
  events.countP fun
    | .ended _ => true
    | _ => false

/-- **The signal has gone**: it was let go, and it does not emit. -/
def isGone (events : List (Event V)) : Bool :=
  !isHeld events && beginnings events = endings events

/-- The calls of an emission, in order: who was called, with which value. -/
def callsOf (emission : Nat) (events : List (Event V)) : List (Nat × V) :=
  events.filterMap fun
    | .called other number value => if other = emission then some (number, value) else none
    | _ => none

/-- The turn of a listener in an emission has come: the emission calls it or a later one, or ends. -/
def Event.reaches (emission number : Nat) : Event V → Bool
  | .called other listener _ => other = emission ∧ number ≤ listener
  | .ended other => other = emission
  | _ => false

/-- What happens in an emission before the turn of a listener. -/
def untilTurn (emission number : Nat) (events : List (Event V)) : List (Event V) :=
  events.takeWhile (!·.reaches emission number)

section

variable (events later : List (Event V))

@[simp] lemma made_append : made (events ++ later) = made events ++ made later :=
  List.filterMap_append ..

@[simp] lemma cancellations_append :
    cancellations (events ++ later) = cancellations events ++ cancellations later :=
  List.filterMap_append ..

@[simp] lemma isHeld_append : isHeld (events ++ later) = (isHeld events && isHeld later) :=
  List.all_append ..

@[simp] lemma beginnings_append : beginnings (events ++ later) = beginnings events + beginnings later :=
  List.countP_append ..

@[simp] lemma beginnings_nil : beginnings ([] : List (Event V)) = 0 := rfl

@[simp] lemma beginnings_began (emission : Nat) (value : V) :
    beginnings (.began emission value :: events) = beginnings events + 1 := by
  simp [beginnings]

@[simp] lemma beginnings_called (emission number : Nat) (value : V) :
    beginnings (.called emission number value :: events) = beginnings events := by
  simp [beginnings]

@[simp] lemma endings_append : endings (events ++ later) = endings events + endings later :=
  List.countP_append ..

@[simp] lemma callsOf_append (emission : Nat) :
    callsOf emission (events ++ later) = callsOf emission events ++ callsOf emission later :=
  List.filterMap_append ..

end

/-! ## The grammar of events -/

/-- **The stage that events lead to.** -/
def Stage.of (events : List (Event V)) : Stage V where
  signal := if isGone events then none
    else some ⟨(standing events).map fun number => (number, number), (made events).length⟩
  held := isHeld events
  handles := standing events
  begun := beginnings events
  underWay := beginnings events - endings events
  events := events

/-- The subscriptions are numbered in order, only those made are cancelled, and only emissions that
have begun are over. -/
structure Proper (events : List (Event V)) : Prop where
  made_eq : made events = List.range (made events).length
  cancelled : ∀ number ∈ cancellations events, number < (made events).length
  endings_le : endings events ≤ beginnings events

/-- An event that is no part of an emission is in order after others. -/
def Lawful (events : List (Event V)) : Event V → Prop
  | .subscribed number => isHeld events ∧ number = (made events).length
  | .cancelled number left => number ∈ standing events ∧
    left = if isGone events then none else some ((standing events).filter (· ≠ number))
  | .counted count => isHeld events ∧ count = (standing events).length
  | .letGo => isHeld events
  | _ => False

/-- What is under way: acts, or a walk through the listeners that an emission has still to call. -/
inductive Task (V : Type) where
  | acts
  | walk (emission : Nat) (value : V) (pending : List Nat)

/-- **The grammar of events**: what carrying out a task can add to events. -/
inductive Goes : Task V → List (Event V) → List (Event V) → Prop where
  | rest {before} : Goes .acts before []
  | act {before event events} (lawful : Lawful before event)
      (others : Goes .acts (before ++ [event]) events) : Goes .acts before (event :: events)
  | emit {before value called events} (held : isHeld before)
      (walk : Goes (.walk (beginnings before) value (standing before))
        (before ++ [.began (beginnings before) value]) called)
      (others : Goes .acts
        (before ++ .began (beginnings before) value :: called ++ [.ended (beginnings before)]) events) :
      Goes .acts before (.began (beginnings before) value :: called ++ .ended (beginnings before) :: events)
  | walked {before emission value} : Goes (.walk emission value []) before []
  | skip {before emission value number pending events} (gone : number ∉ standing before)
      (others : Goes (.walk emission value pending) before events) :
      Goes (.walk emission value (number :: pending)) before events
  | call {before emission value number pending body events} (stands : number ∈ standing before)
      (acts : Goes .acts (before ++ [.called emission number value]) body)
      (others : Goes (.walk emission value pending)
        (before ++ .called emission number value :: body) events) :
      Goes (.walk emission value (number :: pending)) before
        (.called emission number value :: body ++ events)

/-! ## What is in order -/

section

variable {before events later : List (Event V)} {number : Nat}

lemma Proper.lt_of_mem (h : Proper events) (hmem : number ∈ made events) :
    number < (made events).length := by
  rw [h.made_eq] at hmem
  exact List.mem_range.1 hmem

lemma mem_standing : number ∈ standing events ↔
    number ∈ made events ∧ number ∉ cancellations events := by
  simp only [standing, List.mem_filter, decide_eq_true_eq]

/-- What changes no subscription leaves those standing as they are. -/
lemma standing_append (hmade : made later = []) (hcancelled : cancellations later = []) :
    standing (events ++ later) = standing events := by
  simp only [standing, made_append, cancellations_append, hmade, hcancelled, List.append_nil]

/-- A new subscription comes last. -/
lemma Proper.standing_subscribed (h : Proper events) :
    standing (events ++ [.subscribed (made events).length])
      = standing events ++ [(made events).length] := by
  have hnew : (made events).length ∉ cancellations events :=
    fun hmem => Nat.lt_irrefl _ (h.cancelled _ hmem)
  simpa [standing, made, cancellations] using hnew

/-- A cancelled subscription is the only one that no longer stands. -/
lemma standing_cancelled (left : Option (List Nat)) :
    standing (events ++ [.cancelled number left]) = (standing events).filter (· ≠ number) := by
  simp only [standing, made_append, cancellations_append, List.filter_filter]
  simp [made, cancellations, and_comm]

lemma isGone_append (hheld : isHeld later) (hbalance : beginnings later = endings later) :
    isGone (events ++ later) = isGone events := by
  simp only [isGone, isHeld_append, beginnings_append, endings_append, hheld, hbalance,
    Bool.and_true, Nat.add_right_cancel_iff]

lemma Proper.append (h : Proper events) (hmade : made later = [])
    (hcancelled : cancellations later = [])
    (hle : endings (events ++ later) ≤ beginnings (events ++ later)) :
    Proper (events ++ later) where
  made_eq := by rw [made_append, hmade, List.append_nil]; exact h.made_eq
  cancelled := by
    rw [cancellations_append, made_append, hcancelled, hmade, List.append_nil, List.append_nil]
    exact h.cancelled
  endings_le := hle

lemma Proper.act {event : Event V} (h : Proper events) (hlawful : Lawful events event) :
    Proper (events ++ [event]) := by
  have hle := h.endings_le
  cases event with
  | subscribed number =>
    obtain ⟨-, rfl⟩ := hlawful
    refine ⟨?_, fun number hmem => ?_, by simpa [beginnings, endings] using hle⟩
    · simpa [made, List.range_succ] using h.made_eq
    · have := h.cancelled number (by simpa [cancellations] using hmem)
      simp only [made_append, List.length_append]
      omega
  | cancelled number left =>
    refine ⟨by simpa [made] using h.made_eq, fun other hmem => ?_,
      by simpa [beginnings, endings] using hle⟩
    have hother : other ∈ cancellations events ∨ other = number := by
      simpa [cancellations] using hmem
    simp only [made_append, List.length_append]
    obtain hother | rfl := hother
    · exact Nat.lt_add_right _ (h.cancelled other hother)
    · exact Nat.lt_add_right _ (h.lt_of_mem (mem_standing.1 hlawful.1).1)
  | counted count => exact h.append rfl rfl (by simpa [beginnings, endings] using hle)
  | letGo => exact h.append rfl rfl (by simpa [beginnings, endings] using hle)
  | began emission value => exact hlawful.elim
  | called emission number value => exact hlawful.elim
  | ended emission => exact hlawful.elim

end

/-! ## What tasks add -/

section

variable {task : Task V} {before events : List (Event V)}

lemma Lawful.balanced {event : Event V} (h : Lawful before event) :
    beginnings [event] = endings [event] := by
  cases event with
  | subscribed | cancelled | counted | letGo => rfl
  | began | called | ended => exact h.elim

/-- A task ends each emission that it begins. -/
lemma Goes.balanced (h : Goes task before events) : beginnings events = endings events := by
  induction h with
  | rest | walked => rfl
  | skip _ _ ih => exact ih
  | @act _ event others lawful _ ih =>
    rw [← List.singleton_append, beginnings_append, endings_append, lawful.balanced, ih]
  | emit _ _ _ walk others =>
    simp only [beginnings, endings, List.cons_append, List.countP_cons, List.countP_append]
      at walk others ⊢
    simp only [walk, others]
    rfl
  | call _ _ _ body others =>
    simp only [beginnings, endings, List.cons_append, List.countP_cons, List.countP_append]
      at body others ⊢
    simp only [body, others]

/-- An emission that is under way before a task is under way after it. -/
lemma Goes.isOpen (h : Goes task before events) (hlt : endings before < beginnings before) :
    endings (before ++ events) < beginnings (before ++ events) := by
  rw [endings_append, beginnings_append, h.balanced]
  exact Nat.add_lt_add_right hlt _

lemma isOpen_began (h : Proper before) (emission : Nat) (value : V) :
    endings (before ++ [.began emission value]) < beginnings (before ++ [.began emission value]) := by
  simpa [beginnings, endings] using Nat.lt_succ_of_le h.endings_le

lemma isOpen_called (hlt : endings before < beginnings before) (emission number : Nat) (value : V) :
    endings (before ++ [.called emission number value])
      < beginnings (before ++ [.called emission number value]) := by
  simpa [beginnings, endings] using hlt

lemma Proper.began (h : Proper before) (emission : Nat) (value : V) :
    Proper (before ++ [.began emission value]) :=
  h.append rfl rfl (by simpa [beginnings, endings] using Nat.le_succ_of_le h.endings_le)

lemma Proper.called (h : Proper before) (emission number : Nat) (value : V) :
    Proper (before ++ [.called emission number value]) :=
  h.append rfl rfl (by simpa [beginnings, endings] using h.endings_le)

lemma Proper.ended (h : Proper before) (hlt : endings before < beginnings before) (emission : Nat) :
    Proper (before ++ [.ended emission]) :=
  h.append rfl rfl (by simpa [beginnings, endings] using Nat.succ_le_of_lt hlt)

lemma Goes.proper (h : Goes task before events) (hp : Proper before) :
    Proper (before ++ events) := by
  induction h with
  | rest | walked => simpa using hp
  | skip _ _ ih => exact ih hp
  | @act before event events lawful _ ih => simpa using ih (hp.act lawful)
  | @emit before value called events _ walk _ ihWalk ihOthers =>
    have hwalked := ihWalk (hp.began _ value)
    have hlt : endings (before ++ [.began (beginnings before) value] ++ called)
        < beginnings (before ++ [.began (beginnings before) value] ++ called) :=
      walk.isOpen (isOpen_began hp ..)
    simpa using ihOthers (by simpa using hwalked.ended hlt (beginnings before))
  | @call before emission value number _ body _ _ _ _ ihBody ihOthers =>
    have hbody := ihBody (hp.called emission number value)
    simpa using ihOthers (by simpa using hbody)

end

/-! ## Runs -/

namespace Stage

variable {before : List (Event V)} {number : Nat}

lemma inHand_of (hheld : isHeld before) : (of before).inHand
    = some ⟨(standing before).map fun number => (number, number), (made before).length⟩ := by
  simp [inHand, of, isGone, hheld]

lemma inHand_of_not (hheld : isHeld before = false) : (of before).inHand = none := by
  simp [inHand, of, hheld]

lemma note_of (event : Event V) (hmade : made [event] = []) (hcancelled : cancellations [event] = [])
    (hheld : isHeld [event]) (hbegun : beginnings [event] = 0) (hended : endings [event] = 0) :
    (of before).note event = of (before ++ [event]) := by
  simp only [of, note, standing_append hmade hcancelled, made_append, hmade, List.append_nil,
    isHeld_append, hheld, Bool.and_true, beginnings_append, endings_append, hbegun, hended,
    Nat.add_zero, isGone_append hheld (hbegun.trans hended.symm)]

lemma subscribed_of (hp : Proper before) (hheld : isHeld before) :
    (of before).subscribed
        ⟨(standing before).map fun number => (number, number), (made before).length⟩
      = of (before ++ [.subscribed (made before).length]) := by
  have hgone : isGone before = false := by simp only [isGone, hheld, Bool.not_true, Bool.false_and]
  have hsame : isGone (before ++ [.subscribed (made before).length]) = isGone before :=
    isGone_append rfl rfl
  simp only [of, subscribed, note, subscribe, hp.standing_subscribed, hsame, hgone, made_append,
    isHeld_append, beginnings_append, endings_append, List.map_append, List.length_append]
  simp [made, isHeld, beginnings, endings]

lemma cancelled_of : (of before).cancelled number = of (before ++ [.cancelled number
    (if isGone before then none else some ((standing before).filter (· ≠ number)))]) := by
  simp only [of, cancelled, note, standing_cancelled, made_append,
    isHeld_append, beginnings_append, endings_append]
  rw [isGone_append rfl rfl]
  cases isGone before <;>
    simp [cancel, made, isHeld, beginnings, endings, List.filter_map, Function.comp_def]

lemma released_of (hp : Proper before) (hheld : isHeld before) :
    (of before).released = of (before ++ [.letGo]) := by
  have hle := hp.endings_le
  have hstands : standing (before ++ [.letGo]) = standing before := standing_append rfl rfl
  have hbegun : beginnings [(.letGo : Event V)] = 0 := rfl
  have hended : endings [(.letGo : Event V)] = 0 := rfl
  have hletGo : isHeld [(.letGo : Event V)] = false := rfl
  have hmade : made [(.letGo : Event V)] = [] := rfl
  simp only [of, released, swept, note, isGone, hstands, made_append, hmade, isHeld_append, hheld,
    hletGo, beginnings_append, endings_append, hbegun, hended]
  by_cases hover : beginnings before = endings before
  · simp [hover]
  · have hlt : beginnings before - endings before ≠ 0 := by omega
    simp [hover, hlt]

lemma began_of (hp : Proper before) (hheld : isHeld before) (value : V) :
    (of before).began value = of (before ++ [.began (beginnings before) value]) := by
  have hle := hp.endings_le
  have hstands : standing (before ++ [.began (beginnings before) value]) = standing before :=
    standing_append rfl rfl
  have hstill : isHeld [(.began (beginnings before) value : Event V)] = true := rfl
  have hbegun : beginnings [(.began (beginnings before) value : Event V)] = 1 := rfl
  have hended : endings [(.began (beginnings before) value : Event V)] = 0 := rfl
  have hmade : made [(.began (beginnings before) value : Event V)] = [] := rfl
  have hnumber : beginnings before - endings before + 1
      = beginnings before + 1 - endings before := by omega
  simp [of, began, note, isGone, hstands, hheld, hmade, hbegun, hended, hstill, hnumber]

lemma ended_of {emission : Nat} (hlt : endings before < beginnings before) :
    (of before).ended emission = of (before ++ [.ended emission]) := by
  have hstands : standing (before ++ [.ended emission]) = standing before := standing_append rfl rfl
  have hbegun : beginnings [(.ended emission : Event V)] = 0 := rfl
  have hended : endings [(.ended emission : Event V)] = 1 := rfl
  have hheld : isHeld [(.ended emission : Event V)] = true := rfl
  have hmade : made [(.ended emission : Event V)] = [] := rfl
  have hne : beginnings before ≠ endings before := by omega
  have hnumber : beginnings before - endings before - 1
      = beginnings before - (endings before + 1) := by omega
  have hover : (beginnings before - (endings before + 1) = 0)
      ↔ beginnings before = endings before + 1 := by omega
  cases hstill : isHeld before <;>
    simp [of, ended, swept, note, isGone, hstands, hmade, hbegun, hended, hheld, hne, hnumber,
      hover, hstill]

end Stage

lemma bind_eq_some_iff {α β : Type} {x : StageM V α} {f : α → StageM V β} {stage : Stage V}
    {result : β × Stage V} : (x >>= f) stage = some result ↔
      ∃ a mid, x stage = some (a, mid) ∧ f a mid = some result := by
  show (x stage).bind (fun p => f p.1 p.2) = some result ↔ _
  rw [Option.bind_eq_some_iff, Prod.exists]

/-- A computation carries tasks out. -/
def CarriesOut (body : StageM V Unit) : Prop :=
  ∀ before after, Proper before → body (Stage.of before) = some ((), after) →
    ∃ events, Goes .acts before events ∧ after = Stage.of (before ++ events)

section

variable {body : StageM V Unit} {before : List (Event V)} {after : Stage V}

lemma isGone_of_lt (hlt : endings before < beginnings before) : isGone before = false := by
  have hne : beginnings before ≠ endings before := by omega
  simp [isGone, hne]

lemma isSubscribed_of {number : Nat} (hgone : isGone before = false) :
    ((Stage.of before).signal.getD .empty).isSubscribed number = true ↔ number ∈ standing before := by
  simp [Stage.of, hgone, isSubscribed]

lemma callOne_of (emission number : Nat) (value : V) :
    callOne body emission value number (Stage.of before)
      = body (Stage.of (before ++ [.called emission number value])) := by
  show body ((Stage.of before).note _) = _
  rw [Stage.note_of _ rfl rfl rfl rfl rfl]

lemma callEach_cons {call : Nat → StageM V Unit} (number : Nat) (pending : List (Nat × Nat))
    (stage : Stage V) : callEach emitting call ((number, number) :: pending) stage
      = if (stage.signal.getD .empty).isSubscribed number then
          (call number >>= fun _ => callEach emitting call pending) stage
        else callEach emitting call pending stage := by
  rw [callEach]
  show (if (stage.signal.getD .empty).isSubscribed number then
      call number >>= fun _ => callEach emitting call pending
    else callEach emitting call pending) stage = _
  split <;> rfl

/-- **A walk** through the listeners that an emission has still to call. -/
lemma callEach_goes (hbody : CarriesOut body) {emission : Nat} {value : V}
    {pending : List Nat} (hp : Proper before) (hlt : endings before < beginnings before)
    (h : callEach emitting (callOne body emission value)
      (pending.map fun number => (number, number)) (Stage.of before) = some ((), after)) :
    ∃ events, Goes (.walk emission value pending) before events
      ∧ after = Stage.of (before ++ events) := by
  induction pending generalizing before with
  | nil =>
    obtain rfl : Stage.of before = after := congrArg Prod.snd (Option.some.inj h)
    exact ⟨[], .walked, by rw [List.append_nil]⟩
  | cons number pending ih =>
    rw [List.map_cons, callEach_cons] at h
    simp only [isSubscribed_of (isGone_of_lt hlt)] at h
    split at h
    · next hstands =>
      obtain ⟨⟨⟩, mid, hcall, h⟩ := bind_eq_some_iff.1 h
      rw [callOne_of] at hcall
      obtain ⟨events, hacts, rfl⟩ := hbody _ _ (hp.called emission number value) hcall
      have hproper := hacts.proper (hp.called emission number value)
      have hstill := hacts.isOpen (isOpen_called hlt emission number value)
      rw [List.append_assoc, List.singleton_append] at h hproper hstill
      obtain ⟨others, hothers, rfl⟩ := ih hproper hstill h
      exact ⟨_, .call hstands hacts hothers, by simp⟩
    · next hgone =>
      obtain ⟨events, hothers, rfl⟩ := ih hp hlt h
      exact ⟨events, .skip hgone hothers, rfl⟩

/-- What one act may add to events: more acts can follow. -/
def Adds (before : List (Event V)) (after : Stage V) : Prop :=
  ∃ events, after = Stage.of (before ++ events) ∧ Proper (before ++ events) ∧
    ∀ others, Goes .acts (before ++ events) others → Goes .acts before (events ++ others)

lemma Adds.nothing (hp : Proper before) : Adds before (Stage.of before) :=
  ⟨[], by rw [List.append_nil], by rwa [List.append_nil], fun others h => by simpa using h⟩

lemma Adds.one (hp : Proper before) {event : Event V} (hlawful : Lawful before event) :
    Adds before (Stage.of (before ++ [event])) :=
  ⟨[event], rfl, hp.act hlawful, fun _ h => .act hlawful h⟩

/-- Emitting, from its beginning to its end. -/
lemma emit_adds (hbody : CarriesOut body) {value : V} (hp : Proper before) (hheld : isHeld before)
    (h : Signal.emit emitting (callOne body (beginnings before) value)
      (Stage.of (before ++ [.began (beginnings before) value])) = some ((), after)) :
    Adds before (after.ended (beginnings before)) := by
  have hp' := hp.began (beginnings before) value
  have hlt := isOpen_began hp (beginnings before) value
  have hstands : standing (before ++ [.began (beginnings before) value]) = standing before :=
    standing_append rfl rfl
  have hsignal : ((Stage.of (before ++ [.began (beginnings before) value])).signal.getD
      .empty).listeners = (standing before).map fun number => (number, number) := by
    simp [Stage.of, isGone_of_lt hlt, hstands]
  obtain ⟨_, _, hread, h⟩ := bind_eq_some_iff.1 h
  cases hread
  rw [hsignal] at h
  obtain ⟨called, hwalk, rfl⟩ := callEach_goes hbody hp' hlt h
  have hstill := hwalk.isOpen hlt
  refine ⟨.began (beginnings before) value :: called ++ [.ended (beginnings before)], ?_, ?_,
    fun others h => ?_⟩
  · rw [Stage.ended_of hstill]
    simp
  · simpa using (hwalk.proper hp').ended hstill (beginnings before)
  · have hgoes := Goes.emit hheld hwalk (by simpa using h)
    simpa using hgoes

lemma enact_subscribe (stage : Stage V) : enact body .subscribe stage
    = some ((), match stage.inHand with
      | some signal => stage.subscribed signal
      | none => stage) := by
  show (match stage.inHand with
    | some signal => set (stage.subscribed signal)
    | none => pure () : StageM V Unit) stage = _
  cases stage.inHand <;> rfl

lemma enact_count (stage : Stage V) : enact body .count stage
    = some ((), match stage.inHand with
      | some signal => stage.note (.counted signal.count)
      | none => stage) := by
  show (match stage.inHand with
    | some signal => set (stage.note (.counted signal.count))
    | none => pure () : StageM V Unit) stage = _
  cases stage.inHand <;> rfl

lemma enact_cancel (number : Nat) (stage : Stage V) : enact body (.cancel number) stage
    = some ((), if number ∈ stage.handles then stage.cancelled number else stage) := by
  show (if number ∈ stage.handles then set (stage.cancelled number) else pure () : StageM V Unit)
    stage = _
  split <;> rfl

lemma enact_letGo (stage : Stage V) : enact body .letGo stage
    = some ((), if stage.held then stage.released else stage) := by
  show (if stage.held then set stage.released else pure () : StageM V Unit) stage = _
  split <;> rfl

lemma enact_emit (value : V) (stage : Stage V) : enact body (.emit value) stage
    = if stage.held then
        (Signal.emit emitting (callOne body stage.begun value) (stage.began value)).map
          fun result => ((), result.2.ended stage.begun)
      else some ((), stage) := by
  show (if stage.held then (do
      set (stage.began value)
      Signal.emit emitting (callOne body stage.begun value)
      modify (·.ended stage.begun)) else pure () : StageM V Unit) stage = _
  split
  · show (Signal.emit emitting (callOne body stage.begun value) (stage.began value)).bind _ = _
    cases Signal.emit emitting (callOne body stage.begun value) (stage.began value) <;> rfl
  · rfl

/-- **One act** adds events that more acts can follow. -/
lemma enact_adds (hbody : CarriesOut body) {act : Act V} (hp : Proper before)
    (h : enact body act (Stage.of before) = some ((), after)) : Adds before after := by
  cases act with
  | subscribe =>
    rw [enact_subscribe] at h
    cases hheld : isHeld before with
    | false =>
      rw [Stage.inHand_of_not hheld] at h
      cases h
      exact .nothing hp
    | true =>
      rw [Stage.inHand_of hheld] at h
      cases h
      show Adds before ((Stage.of before).subscribed _)
      rw [Stage.subscribed_of hp hheld]
      exact .one hp ⟨hheld, rfl⟩
  | cancel number =>
    rw [enact_cancel] at h
    split at h
    · next hstands =>
      cases h
      rw [Stage.cancelled_of]
      exact .one hp ⟨hstands, rfl⟩
    · cases h
      exact .nothing hp
  | emit value =>
    rw [enact_emit] at h
    split at h
    · next hheld =>
      obtain ⟨⟨⟨⟩, mid⟩, hemit, hafter⟩ := Option.map_eq_some_iff.1 h
      cases hafter
      rw [Stage.began_of hp hheld] at hemit
      exact emit_adds hbody hp hheld hemit
    · cases h
      exact .nothing hp
  | count =>
    rw [enact_count] at h
    cases hheld : isHeld before with
    | false =>
      rw [Stage.inHand_of_not hheld] at h
      cases h
      exact .nothing hp
    | true =>
      rw [Stage.inHand_of hheld] at h
      cases h
      show Adds before ((Stage.of before).note (.counted _))
      rw [Stage.note_of _ rfl rfl rfl rfl rfl]
      exact .one hp ⟨hheld, by simp [count]⟩
  | letGo =>
    rw [enact_letGo] at h
    split at h
    · next hheld =>
      cases h
      rw [Stage.released_of hp hheld]
      exact .one hp hheld
    · cases h
      exact .nothing hp

end

/-- **A run** of a script follows the grammar. -/
lemma perform_carriesOut (script : List (Event V) → Option (Act V)) (fuel : Nat) :
    CarriesOut (perform script fuel) := by
  induction fuel with
  | zero => intro before after _ h; cases h
  | succ fuel ih =>
    intro before after hp h
    have hrun : perform script (fuel + 1) (Stage.of before)
        = (match script before with
          | none => pure ()
          | some act => do
            enact (perform script fuel) act
            perform script fuel : StageM V Unit) (Stage.of before) := rfl
    rw [hrun] at h
    cases hact : script before with
    | none =>
      rw [hact] at h
      cases h
      exact ⟨[], .rest, by rw [List.append_nil]⟩
    | some act =>
      rw [hact] at h
      obtain ⟨⟨⟩, mid, henact, h⟩ := bind_eq_some_iff.1 h
      obtain ⟨events, rfl, hproper, hgoes⟩ := enact_adds ih hp henact
      obtain ⟨others, hothers, rfl⟩ := ih _ _ hproper h
      exact ⟨events ++ others, hgoes others hothers, by rw [List.append_assoc]⟩

/-! ## Who is called -/

/-- What an event says of the events before it is true. -/
def IsTrue (before : List (Event V)) : Event V → Prop
  | .called emission number _ => endings before < beginnings before ∧
    emission < beginnings before ∧ number ∈ standing before
  | .began emission _ => isHeld before ∧ emission = beginnings before
  | .ended _ => endings before < beginnings before
  | event => Lawful before event

/-- Each event says the truth of those before it. -/
def AllTrue : List (Event V) → List (Event V) → Prop
  | _, [] => True
  | before, event :: events => IsTrue before event ∧ AllTrue (before ++ [event]) events

lemma allTrue_append {before events others : List (Event V)} :
    AllTrue before (events ++ others) ↔ AllTrue before events ∧ AllTrue (before ++ events) others := by
  induction events generalizing before with
  | nil => simp [AllTrue]
  | cons event events ih =>
    simp only [List.cons_append, AllTrue, ih, and_assoc, List.append_assoc, List.nil_append]

lemma Lawful.isTrue {before : List (Event V)} {event : Event V} (h : Lawful before event) :
    IsTrue before event := by
  cases event with
  | subscribed | cancelled | counted | letGo => exact h
  | began | called | ended => exact h.elim

/-- The emission that a task belongs to is under way. -/
def Task.IsOpen (before : List (Event V)) : Task V → Prop
  | .acts => True
  | .walk emission _ _ => endings before < beginnings before ∧ emission < beginnings before

lemma Task.IsOpen.later {task : Task V} {before events : List (Event V)} (h : task.IsOpen before)
    (hlt : endings before < beginnings before → endings (before ++ events)
      < beginnings (before ++ events)) : task.IsOpen (before ++ events) := by
  cases task with
  | acts => trivial
  | walk emission value pending =>
    exact ⟨hlt h.1, Nat.lt_of_lt_of_le h.2 (by rw [beginnings_append]; exact Nat.le_add_right ..)⟩

lemma Task.isOpen_began {before : List (Event V)} (hp : Proper before) (value : V)
    (pending : List Nat) : Task.IsOpen (before ++ [.began (beginnings before) value])
      (.walk (beginnings before) value pending) :=
  ⟨Signal.isOpen_began hp _ value, by simp [beginnings]⟩

lemma Goes.allTrue {task : Task V} {before events : List (Event V)} (h : Goes task before events)
    (hp : Proper before) (hopen : task.IsOpen before) : AllTrue before events := by
  induction h with
  | rest | walked => trivial
  | skip _ _ ih => exact ih hp hopen
  | act lawful _ ih => exact ⟨lawful.isTrue, ih (hp.act lawful) trivial⟩
  | @emit before value called events held walk _ ihWalk ihOthers =>
    have hwalk := ihWalk (hp.began _ value) (Task.isOpen_began hp ..)
    have hstill := walk.isOpen (isOpen_began hp ..)
    have hproper := (walk.proper (hp.began _ value)).ended hstill (beginnings before)
    refine ⟨⟨held, rfl⟩, allTrue_append.2 ⟨hwalk, hstill, ?_⟩⟩
    simpa using ihOthers (by simpa using hproper) trivial
  | @call before emission value number pending body _ stands acts _ ihBody ihOthers =>
    have hproper := acts.proper (hp.called emission number value)
    have hstill : (Task.walk emission value pending).IsOpen
        (before ++ .called emission number value :: body) :=
      Task.IsOpen.later hopen fun hlt => by
        simpa using acts.isOpen (isOpen_called hlt emission number value)
    refine ⟨⟨hopen.1, hopen.2, stands⟩, allTrue_append.2 ⟨ihBody (hp.called ..) trivial, ?_⟩⟩
    simpa using ihOthers (by simpa using hproper) (by simpa using hstill)

/-- An event of a run, with those before it. -/
lemma AllTrue.at {before earlier later : List (Event V)} {event : Event V}
    (h : AllTrue before (earlier ++ event :: later)) : IsTrue (before ++ earlier) event :=
  (allTrue_append.1 h).2.1

/-- **A signal that has gone** only has its subscriptions cancelled. -/
lemma AllTrue.of_isGone {before events : List (Event V)} (h : AllTrue before events)
    (hgone : isGone before) : ∀ event ∈ events, ∃ number, event = .cancelled number none := by
  induction events generalizing before with
  | nil => simp
  | cons event events ih =>
    obtain ⟨hevent, hevents⟩ := h
    have hnot : isHeld before = false ∧ beginnings before = endings before := by
      simpa [isGone] using hgone
    cases event with
    | cancelled number left =>
      obtain ⟨-, hleft⟩ := hevent
      rw [if_pos hgone] at hleft
      have hstill : isGone (before ++ [.cancelled number left]) :=
        (isGone_append rfl rfl).trans hgone
      simpa [hleft] using ih hevents hstill
    | subscribed number => simp [IsTrue, Lawful, hnot.1] at hevent
    | counted count => simp [IsTrue, Lawful, hnot.1] at hevent
    | letGo => simp [IsTrue, Lawful, hnot.1] at hevent
    | began emission value => simp [IsTrue, hnot.1] at hevent
    | called emission number value => simp [IsTrue, hnot.2] at hevent
    | ended emission => simp [IsTrue, hnot.2] at hevent

/-- An event is no part of an emission, or not of that one. -/
def Event.IsOutside (emission : Nat) : Event V → Prop
  | .called other _ _ => other ≠ emission
  | .ended other => other ≠ emission
  | _ => True

lemma Event.IsOutside.reaches {emission number : Nat} {event : Event V} (h : event.IsOutside emission) :
    event.reaches emission number = false := by
  cases event <;> simp_all [IsOutside, Event.reaches]

lemma callsOf_of_isOutside {emission : Nat} {events : List (Event V)}
    (h : ∀ event ∈ events, event.IsOutside emission) : callsOf emission events = [] := by
  rw [callsOf, List.filterMap_eq_nil_iff]
  intro event hmem
  cases event with
  | called other number value => exact if_neg (h _ hmem)
  | _ => rfl

/-- Emissions that have not begun have called nobody. -/
lemma AllTrue.callsOf_eq_nil {before events : List (Event V)} {emission : Nat} (h : AllTrue before events)
    (hle : beginnings (before ++ events) ≤ emission) : callsOf emission events = [] := by
  induction events generalizing before with
  | nil => rfl
  | cons event events ih =>
    have hrest := ih h.2 (by simpa using hle)
    cases event with
    | called other number value =>
      have hne : other ≠ emission := by
        have hlt := h.1.2.1
        rw [beginnings_append] at hle
        omega
      simpa [callsOf, hne] using hrest
    | _ => simpa [callsOf] using hrest

/-- A task is another one than the walk of an emission. -/
def Task.IsOutside (emission : Nat) : Task V → Prop
  | .acts => True
  | .walk other _ _ => other ≠ emission

/-- A task adds nothing to other emissions that have begun. -/
lemma Goes.isOutside {task : Task V} {before events : List (Event V)} {emission : Nat}
    (h : Goes task before events) (hlt : emission < beginnings before)
    (htask : task.IsOutside emission) : ∀ event ∈ events, event.IsOutside emission := by
  have hmore (before later : List (Event V)) (hlt : emission < beginnings before) :
      emission < beginnings (before ++ later) := by
    rw [beginnings_append]
    exact Nat.lt_add_right _ hlt
  induction h with
  | rest | walked => simp
  | skip _ _ ih => exact ih hlt htask
  | @act before event events lawful _ ih =>
    have hevent : event.IsOutside emission := by
      cases event with
      | called | ended => exact lawful.elim
      | _ => trivial
    exact List.forall_mem_cons.2 ⟨hevent, ih (hmore _ _ hlt) trivial⟩
  | @emit before value called events _ walk _ ihWalk ihOthers =>
    have hne : beginnings before ≠ emission := Nat.ne_of_gt hlt
    have hwalk := ihWalk (hmore _ _ hlt) hne
    have hothers := ihOthers (by rw [List.append_assoc]; exact hmore _ _ hlt) trivial
    simp only [List.cons_append, List.forall_mem_cons, List.forall_mem_append]
    exact ⟨trivial, hwalk, hne, hothers⟩
  | @call before other value number _ body events _ _ _ ihBody ihOthers =>
    simp only [List.cons_append, List.forall_mem_cons, List.forall_mem_append]
    exact ⟨htask, ihBody (hmore _ _ hlt) trivial, ihOthers (hmore _ _ hlt) htask⟩

section

variable {before events : List (Event V)} {emission : Nat} {value : V} {pending : List Nat}

/-- A walk adds nothing, or calls a listener first. -/
lemma Goes.walk_head (h : Goes (.walk emission value pending) before events) :
    events = [] ∨ ∃ number later, number ∈ pending ∧
      events = .called emission number value :: later := by
  generalize htask : Task.walk emission value pending = task at h
  induction h generalizing pending with
  | rest | act | emit => cases htask
  | walked => exact .inl rfl
  | skip gone _ ih =>
    cases htask
    obtain hnil | ⟨number, later, hmem, hevents⟩ := ih rfl
    · exact .inl hnil
    · exact .inr ⟨number, later, List.mem_cons_of_mem _ hmem, hevents⟩
  | @call _ _ _ number _ body events =>
    cases htask
    exact .inr ⟨number, body ++ events, List.mem_cons_self, rfl⟩

/-- The events before a turn that has come are none. -/
lemma Goes.untilTurn_eq_nil (h : Goes (.walk emission value pending) before events) {number : Nat}
    (hlt : ∀ other ∈ pending, number < other) : untilTurn emission number events = [] := by
  obtain rfl | ⟨other, later, hmem, rfl⟩ := h.walk_head
  · rfl
  · have hreaches : (Event.called emission other value).reaches emission number = true := by
      simpa [Event.reaches] using Nat.le_of_lt (hlt other hmem)
    simp [untilTurn, hreaches]

/-- **Who is called in a walk**: those who stand when their turn comes. -/
lemma Goes.callsOf_walk (h : Goes (.walk emission value pending) before events)
    (hbegun : emission < beginnings before) (hsorted : pending.Pairwise (· < ·)) :
    callsOf emission events
      = (pending.filter fun number =>
          number ∈ standing (before ++ untilTurn emission number events)).map (·, value) := by
  generalize htask : Task.walk emission value pending = task at h
  induction h generalizing pending with
  | rest | act | emit => cases htask
  | walked =>
    cases htask
    rfl
  | @skip before _ _ number pending events gone walk ih =>
    cases htask
    obtain ⟨hfirst, hsorted⟩ := List.pairwise_cons.1 hsorted
    have hnot : number ∉ standing (before ++ untilTurn emission number events) := by
      rwa [walk.untilTurn_eq_nil hfirst, List.append_nil]
    rw [ih hbegun hsorted rfl, List.filter_cons_of_neg (by simpa using hnot)]
  | @call before _ _ number pending body events stands acts walk ihBody ih =>
    cases htask
    obtain ⟨hfirst, hsorted⟩ := List.pairwise_cons.1 hsorted
    have houtside : ∀ event ∈ body, event.IsOutside emission :=
      acts.isOutside (by simpa [beginnings] using hbegun) trivial
    have hbegun' : emission < beginnings (before ++ .called emission number value :: body) := by
      rw [beginnings_append]
      exact Nat.lt_add_right _ hbegun
    have hnow : untilTurn emission number (.called emission number value :: body ++ events) = [] := by
      simp [untilTurn, Event.reaches]
    have hlater : ∀ other ∈ pending,
        untilTurn emission other (.called emission number value :: body ++ events)
          = .called emission number value :: body ++ untilTurn emission other events := by
      intro other hmem
      have hnot : (Event.called emission number value).reaches emission other = false := by
        simpa [Event.reaches] using hfirst other hmem
      have hbody : ∀ event ∈ body, (!event.reaches emission other) = true := fun event hevent => by
        rw [(houtside event hevent).reaches]; rfl
      rw [untilTurn, List.cons_append, List.takeWhile_cons, hnot,
        List.takeWhile_append_of_pos hbody]
      rfl
    have hcalls : callsOf emission (.called emission number value :: body ++ events)
        = (number, value) :: callsOf emission events := by
      rw [List.cons_append, ← List.singleton_append, callsOf_append, callsOf_append,
        callsOf_of_isOutside houtside, List.nil_append]
      simp [callsOf]
    have hstands : number ∈ standing (before ++ untilTurn emission number
        (.called emission number value :: body ++ events)) := by rwa [hnow, List.append_nil]
    rw [hcalls, ih hbegun' hsorted rfl, List.filter_cons, if_pos (decide_eq_true hstands),
      List.map_cons]
    congr 2
    refine List.filter_congr fun other hmem => ?_
    rw [hlater other hmem, List.append_assoc]

end

/-- Where an event of two lists in a row is. -/
lemma split_append {first second earlier later : List (Event V)} {event : Event V}
    (h : first ++ second = earlier ++ event :: later) :
    (∃ rest, first = earlier ++ event :: rest ∧ later = rest ++ second) ∨
      ∃ rest, earlier = first ++ rest ∧ second = rest ++ event :: later := by
  obtain ⟨rest, rfl, hsecond⟩ | ⟨rest, rfl, hlater⟩ := List.append_eq_append_iff.1 h
  · exact .inr ⟨rest, rfl, hsecond⟩
  · cases rest with
    | nil => exact .inr ⟨[], by simp, by simpa using hlater.symm⟩
    | cons _ rest =>
      obtain ⟨rfl, rfl⟩ := List.cons.inj hlater
      exact .inl ⟨rest, rfl, rfl⟩

/-- **An emission that begins** goes through the listeners that stand, and is over then. -/
lemma Goes.exists_walk {task : Task V} {before events earlier later : List (Event V)}
    {emission : Nat} {value : V} (h : Goes task before events) (hp : Proper before)
    (hopen : task.IsOpen before) (heq : events = earlier ++ .began emission value :: later) :
    emission = beginnings (before ++ earlier) ∧
      ∃ walk others, later = walk ++ .ended emission :: others ∧
        Goes (.walk emission value (standing (before ++ earlier)))
          (before ++ earlier ++ [.began emission value]) walk ∧
        ∀ event ∈ others, event.IsOutside emission := by
  induction h generalizing earlier later with
  | rest | walked => simp at heq
  | skip _ _ ih => exact ih hp hopen heq
  | @act before event events lawful _ ih =>
    obtain ⟨rfl, heq⟩ | ⟨earlier, rfl, rfl⟩ := List.cons_eq_append_iff.1 heq
    · cases heq
      exact lawful.elim
    · simpa using ih (hp.act lawful) trivial rfl
  | @emit before outer called events held walk acts ihWalk ihOthers =>
    have hp' := hp.began (beginnings before) outer
    have hopen' := Task.isOpen_began hp outer (standing before)
    have hended := (walk.proper hp').ended (walk.isOpen hopen'.1) (beginnings before)
    obtain ⟨rfl, hhead⟩ | ⟨front, rfl, htail⟩ := List.cons_eq_append_iff.1 heq
    · cases hhead
      refine ⟨by rw [List.append_nil], called, events, rfl, by simpa using walk, ?_⟩
      exact acts.isOutside (by simp [beginnings]) trivial
    obtain ⟨rest, rfl, rfl⟩ | ⟨rest, rfl, hrest⟩ := split_append htail
    -- The emission is one of those inside the outer one.
    · obtain ⟨hnumber, inner, others, rfl, hinner, hothers⟩ := ihWalk hp' hopen' rfl
      have hnumber' : emission = beginnings before + (beginnings front + 1) := by
        simpa using hnumber
      have hlt : beginnings before < emission := by omega
      refine ⟨by simpa using hnumber, inner, others ++ .ended (beginnings before) :: events,
        by simp, by simpa using hinner, ?_⟩
      refine List.forall_mem_append.2 ⟨hothers, List.forall_mem_cons.2 ⟨Nat.ne_of_lt hlt, ?_⟩⟩
      refine acts.isOutside ?_ trivial
      simp only [beginnings_append, beginnings_began]
      omega
    -- It comes after the outer one.
    · obtain ⟨rfl, hhead⟩ | ⟨rest, rfl, rfl⟩ := List.cons_eq_append_iff.1 hrest
      · cases hhead
      · simpa using ihOthers (by simpa using hended) trivial rfl
  | @call before other outer number pending body events _ acts walk ihBody ihOthers =>
    have hp' := hp.called other number outer
    have hstill : (Task.walk other outer pending).IsOpen
        (before ++ [.called other number outer] ++ body) :=
      (Task.IsOpen.later hopen (isOpen_called · ..)).later acts.isOpen
    obtain ⟨rfl, hhead⟩ | ⟨front, rfl, htail⟩ := List.cons_eq_append_iff.1 heq
    · cases hhead
    obtain ⟨rest, rfl, rfl⟩ | ⟨rest, rfl, rfl⟩ := split_append htail
    · obtain ⟨hnumber, inner, others, rfl, hinner, hothers⟩ := ihBody hp' trivial rfl
      have hnumber' : emission = beginnings before + beginnings front := by simpa using hnumber
      refine ⟨by simpa using hnumber, inner, others ++ events, by simp, by simpa using hinner,
        List.forall_mem_append.2 ⟨hothers, walk.isOutside ?_ ?_⟩⟩
      · rw [hnumber']
        simp only [beginnings_append, beginnings_called, beginnings_began]
        omega
      · exact Nat.ne_of_lt (Nat.lt_of_lt_of_le hopen.2 (hnumber' ▸ Nat.le_add_right ..))
    · simpa using ihOthers (by simpa using acts.proper hp') (by simpa using hstill) rfl

/-- The emissions that have begun are all there. -/
lemma AllTrue.exists_began {before events : List (Event V)} {emission : Nat}
    (h : AllTrue before events) (hle : beginnings before ≤ emission)
    (hlt : emission < beginnings (before ++ events)) : ∃ value, .began emission value ∈ events := by
  induction events generalizing before with
  | nil =>
    rw [List.append_nil] at hlt
    omega
  | cons event events ih =>
    have hmore (hle : beginnings (before ++ [event]) ≤ emission) :
        ∃ value, .began emission value ∈ event :: events := by
      obtain ⟨value, hmem⟩ := ih h.2 hle (by simpa using hlt)
      exact ⟨value, List.mem_cons_of_mem _ hmem⟩
    cases event with
    | began other value =>
      obtain rfl | hne := eq_or_ne other emission
      · exact ⟨value, List.mem_cons_self⟩
      · have hother : other = beginnings before := h.1.2
        refine hmore ?_
        simp only [beginnings_append, beginnings_began, beginnings_nil]
        omega
    | _ => exact hmore (by simpa [beginnings] using hle)

/-! ## The result -/

/-- **Exact delivery**, as the events of a run show it. -/
structure Exact (events : List (Event V)) : Prop where
  /-- A subscription gets the number of those made before it, so no number is given twice. -/
  numbered : ∀ {before number later}, events = before ++ .subscribed number :: later →
    number = (made before).length
  /-- Cancelling a subscription takes its own listener away and no other, and there is none to take
  away from a signal that has gone. -/
  cancelled : ∀ {before number left later}, events = before ++ .cancelled number left :: later →
    number ∈ standing before ∧
      left = if isGone before then none else some ((standing before).filter (· ≠ number))
  /-- Nothing happens to a signal that has gone. -/
  gone : ∀ {before later}, events = before ++ later → isGone before →
    ∀ event ∈ later, ∃ number, event = .cancelled number none
  /-- The listeners are as many as the subscriptions made and not yet cancelled. -/
  counted : ∀ {before count later}, events = before ++ .counted count :: later →
    count = (standing before).length
  /-- An emission calls the listeners that stood when it began and still stand at their turn, each
  once, in the order of their subscriptions, and with its value.  It comes to an end, and calls
  nobody after it. -/
  delivered : ∀ {before emission value later}, events = before ++ .began emission value :: later →
    emission = beginnings before ∧
    callsOf emission events = ((standing before).filter fun number => number ∈
      standing (before ++ .began emission value :: untilTurn emission number later)).map (·, value) ∧
    ∃ walk others, later = walk ++ .ended emission :: others ∧
      callsOf emission walk = callsOf emission events
  /-- Nobody is called but in an emission. -/
  called : ∀ {before emission number value later},
    events = before ++ .called emission number value :: later →
      ∃ value, .began emission value ∈ before

lemma Proper.pairwise_standing {events : List (Event V)} (h : Proper events) :
    (standing events).Pairwise (· < ·) := by
  rw [standing, h.made_eq]
  exact List.pairwise_lt_range.filter _

/-- The end of an emission is everyone's turn that has not come. -/
lemma untilTurn_append (emission number : Nat) (walk others : List (Event V)) :
    untilTurn emission number (walk ++ .ended emission :: others)
      = untilTurn emission number walk := by
  rw [untilTurn, List.takeWhile_append]
  split
  · next hall =>
    have hwalk := List.IsPrefix.eq_of_length (List.takeWhile_prefix _) hall
    rw [untilTurn, hwalk, List.takeWhile_cons_of_neg (by simp [Event.reaches]), List.append_nil]
  · rfl

lemma AllTrue.proper {before events : List (Event V)} (h : AllTrue before events)
    (hp : Proper before) : Proper (before ++ events) := by
  induction events generalizing before with
  | nil => rwa [List.append_nil]
  | cons event events ih =>
    have hevent : Proper (before ++ [event]) := by
      cases event with
      | subscribed | cancelled | counted | letGo => exact hp.act h.1
      | began emission value => exact hp.began emission value
      | called emission number value => exact hp.called emission number value
      | ended emission => exact hp.ended h.1 emission
    simpa using ih h.2 hevent

/-- The events of a run are those of an exact delivery. -/
lemma Goes.exact {events : List (Event V)} (h : Goes .acts [] events) : Exact events := by
  have hp : Proper ([] : List (Event V)) := ⟨rfl, by simp [cancellations], Nat.le_refl _⟩
  have hall := h.allTrue hp trivial
  refine ⟨?_, ?_, ?_, ?_, ?_, ?_⟩
  · rintro before number later rfl
    exact hall.at.2
  · rintro before number left later rfl
    exact hall.at
  · rintro before later rfl hgone
    exact (allTrue_append.1 hall).2.of_isGone hgone
  · rintro before count later rfl
    exact hall.at.2
  · rintro before emission value later rfl
    obtain ⟨hnumber, walk, others, rfl, hwalk, hothers⟩ := h.exists_walk hp trivial rfl
    rw [List.nil_append] at hnumber hwalk
    obtain ⟨hbefore, -⟩ := allTrue_append.1 hall
    have hbegun : emission < beginnings (before ++ [.began emission value]) := by simp [hnumber]
    have hcalls := hwalk.callsOf_walk hbegun (hbefore.proper hp).pairwise_standing
    have hsame : callsOf emission (before ++ .began emission value
        :: (walk ++ .ended emission :: others)) = callsOf emission walk := by
      have hothers : callsOf emission (.ended emission :: others) = [] := by
        simpa [callsOf] using callsOf_of_isOutside hothers
      have hcons : callsOf emission (.began emission value :: (walk ++ .ended emission :: others))
          = callsOf emission (walk ++ .ended emission :: others) := by simp [callsOf]
      rw [callsOf_append, hbefore.callsOf_eq_nil (by simp [hnumber]), hcons, callsOf_append,
        hothers, List.append_nil, List.nil_append]
    refine ⟨hnumber, ?_, walk, others, rfl, hsame.symm⟩
    rw [hsame, hcalls]
    refine congrArg _ (List.filter_congr fun number _ => ?_)
    rw [untilTurn_append, List.append_assoc, List.singleton_append]
  · rintro before emission number value later rfl
    exact (allTrue_append.1 hall).1.exists_began (Nat.zero_le _) hall.at.2.1

/-- **Delivery is exact under re-entrancy.**  Whatever the listeners of a signal and its other users
do in a run that comes to an end, each emission calls those who stood when it began and still stand
at their turn, each cancellation takes one listener away, and the signal's listeners are those whose
subscriptions stand. -/
theorem delivery_is_exact (script : List (Event V) → Option (Act V)) (fuel : Nat) (stage : Stage V)
    (h : perform script fuel .start = some ((), stage)) :
    Exact stage.events ∧
      stage.signal.map (fun signal => signal.listeners.map Prod.fst)
        = (if isGone stage.events then none else some (standing stage.events)) ∧
      stage.signal.map count
        = (if isGone stage.events then none else some (standing stage.events).length) := by
  have hp : Proper ([] : List (Event V)) := ⟨rfl, by simp [cancellations], Nat.le_refl _⟩
  obtain ⟨events, hgoes, rfl⟩ := perform_carriesOut script fuel [] stage hp h
  refine ⟨hgoes.exact, ?_, ?_⟩
  · show (Stage.of events).signal.map _ = if isGone events then none else some (standing events)
    cases hgone : isGone events <;> simp [Stage.of, hgone, Function.comp_def]
  · show (Stage.of events).signal.map _ = if isGone events then none else some _
    cases hgone : isGone events <;> simp [Stage.of, hgone, count]

/-- What is done after so many events, by whoever is at work. -/
def scheduled (acts : List (Option (Act V))) (events : List (Event V)) : Option (Act V) :=
  acts[events.length]?.join

/-- Three listeners, of which the first one takes the second away while it is called, adds a fourth
and emits again; the third one then takes itself away. -/
def entangled : List (Option (Act Nat)) :=
  [some .subscribe, some .subscribe, some .subscribe, some (.emit 7), none, some (.cancel 1),
    some .subscribe, some (.emit 8), none, none, some (.cancel 2), none, none, some .count, none,
    some .letGo, some (.cancel 0)]

theorem delivery_is_exact_entangled : ∃ stage,
    perform (scheduled entangled) 20 .start = some ((), stage) ∧
      callsOf 0 stage.events = [(0, 7)] ∧
      callsOf 1 stage.events = [(0, 8), (2, 8), (3, 8)] ∧ Exact stage.events := by
  refine ⟨((perform (scheduled entangled) 20 .start).get (by decide +kernel)).2, ?_, ?_, ?_, ?_⟩
  · decide +kernel
  · decide +kernel
  · decide +kernel
  · exact (delivery_is_exact (scheduled entangled) 20 _ (by decide +kernel)).1

end PageRouter.Signal

import Mathlib.Data.Nat.Find
import PageRouter.Proofs.Lineage

/-!
# What listeners hear of the location

A listener that stays hears of every change once.  But one that navigates tells everyone of it before
those after it have heard of the change that it reacts to; they hear of the two changes the other way
round.  A listener hears of the changes in the order in which they are made if nobody navigates who is
called before it: no hook and no listener for a tail, for these act while routes are matched, and no
listener for the location that came before it (`Page.QuietBefore`).

All listeners with numbers below a bound hear in order if it is quiet before each of them; with the
bound at zero nothing is asked of anyone.  While those are called before which it is quiet, nothing
happens to the history and nobody hears of it (`still`).  Everything else that happens adds changes to
the history, and the same ones to what each listener has heard (`inOrder`).
-/

namespace PageRouter

open Page

/-! ## Changes of the history -/

/-- A change of the history: the history after it, and what is told with its location. -/
structure Change where
  history : History
  kind : NavigationKind
  source : Option Text

/-- What is told of a change. -/
def Change.event (change : Change) : LocationEvent :=
  ⟨change.history.location, change.kind, change.source⟩

/-- **Changes made one after the other** lead from one history to another. -/
inductive Made : History → List Change → History → Prop
  | nil (history : History) : Made history [] history
  | cons {before after : History} {change : Change} {changes : List Change} :
      History.Step change.kind before change.history → Made change.history changes after →
      Made before (change :: changes) after

lemma Made.append {before mid after : History} {changes later : List Change}
    (h : Made before changes mid) (h' : Made mid later after) :
    Made before (changes ++ later) after := by
  induction h with
  | nil => exact h'
  | cons hstep _ ih => exact .cons hstep (ih h')

/-- The last change leaves the history as it is in the end. -/
lemma Made.history_of_getLast {before after : History} {changes : List Change} {change : Change}
    (h : Made before changes after) (hlast : changes.getLast? = some change) :
    change.history = after := by
  induction h with
  | nil => cases hlast
  | @cons _ _ first rest _ hrest ih =>
      cases hrest with
      | nil => rw [List.getLast?_singleton, Option.some.injEq] at hlast; rw [hlast]
      | cons => exact ih (by rwa [List.getLast?_cons_cons] at hlast)

/-! ## Commands that bring no disturbance -/

namespace Command

/-- What the command brings along acts while routes are matched. -/
def joinsMatching : Command → Bool
  | .watchTail _ _ _ | .setHooks _ => true
  | _ => false

/-- The commands that reactions may give which a command brings along. -/
def brought : Command → List Command
  | .watchLocation _ reactions | .watchTail _ _ reactions =>
    (reactions.filter (0 < ·.runs)).flatMap (·.commands)
  | .setHooks hooks => (hooks.filter (0 < ·.runs)).flatMap (·.commands)
  | _ => []

/-- **A considerate command** brings nothing along, at any depth, that navigates while routes are
matched. -/
inductive Considerate : Command → Prop
  | intro {command : Command} :
      (command.joinsMatching → ∀ given ∈ command.brought, given.navigates = false) →
      (∀ given ∈ command.brought, Considerate given) → Considerate command

/-- A considerate command that does not navigate. -/
def Still (command : Command) : Prop := command.navigates = false ∧ command.Considerate

variable {command : Command}

lemma Considerate.of_brought (h : command.brought = []) : command.Considerate :=
  .intro (by simp [h]) (by simp [h])

lemma Considerate.brought (h : command.Considerate) : ∀ given ∈ command.brought, given.Considerate := by
  obtain ⟨-, hgiven⟩ := h
  exact hgiven

lemma Considerate.still (h : command.Considerate) (hjoins : command.joinsMatching) :
    ∀ given ∈ command.brought, given.Still := by
  obtain ⟨hstill, hgiven⟩ := h
  exact fun given hmem => ⟨hstill hjoins given hmem, hgiven given hmem⟩

lemma gives_of_brought {τ : Type} {reactions : List (Reaction τ Command)} {kind : Command → Prop}
    (h : ∀ given ∈ (reactions.filter (0 < ·.runs)).flatMap (·.commands), kind given) :
    ∀ reaction ∈ reactions, reaction.Gives kind := by
  intro reaction hmem hruns command hcommand
  refine h command (List.mem_flatMap.2 ⟨reaction, List.mem_filter.2 ⟨hmem, ?_⟩, hcommand⟩)
  exact decide_eq_true hruns

end Command

namespace Page

variable {page mid after : Page} {number bound place : Nat}

/-! ## Hearing -/

/-- **What was heard from one time to another**: all that was told, each of it once, and in order if it
is told in order. -/
def Hears (ordered : Prop) (before after told : List LocationEvent) : Prop :=
  ∃ heard, after = before ++ heard ∧ heard.Perm told ∧ (ordered → heard = told)

section Hears

variable {ordered : Prop} {first between last told later : List LocationEvent}

lemma Hears.nil (ordered : Prop) (heard : List LocationEvent) : Hears ordered heard heard [] :=
  ⟨[], (List.append_nil _).symm, .refl _, fun _ => rfl⟩

lemma Hears.append (h : Hears ordered first between told) (h' : Hears ordered between last later) :
    Hears ordered first last (told ++ later) := by
  obtain ⟨heard, rfl, hperm, horder⟩ := h
  obtain ⟨heard', rfl, hperm', horder'⟩ := h'
  refine ⟨heard ++ heard', List.append_assoc .., hperm.append hperm', fun hordered => ?_⟩
  rw [horder hordered, horder' hordered]

/-- Whoever hears of something late has heard of what came of it already. -/
lemma Hears.late (h : Hears ordered first last told) (hnothing : ordered → told = [])
    (event : LocationEvent) : Hears ordered first (last ++ [event]) (event :: told) := by
  obtain ⟨heard, rfl, hperm, horder⟩ := h
  refine ⟨heard ++ [event], List.append_assoc .., ?_, fun hordered => ?_⟩
  · exact (List.perm_append_singleton event heard).trans (hperm.cons event)
  · rw [horder hordered, hnothing hordered]
    rfl

end Hears

/-- **What the listener at a place has been told of the location**, the earliest first. -/
def heard (page : Page) (place : Nat) : List LocationEvent :=
  page.hearings.filterMap fun (spot, event) => if spot = place then some event else none

lemma heard_congr (h : after.hearings = page.hearings) (place : Nat) :
    after.heard place = page.heard place := by rw [heard, h, heard]

/-- The page once the listener at a place has written down what it was told. -/
def toldAt (page : Page) (place : Nat) (name : Text) (event : LocationEvent) : Page :=
  { page with events := .location place name event :: page.events }

lemma hearings_toldAt (page : Page) (place : Nat) (name : Text) (event : LocationEvent) :
    (page.toldAt place name event).hearings = page.hearings ++ [(place, event)] := by
  simp [hearings, toldAt, PageEvent.hearing?]

lemma heard_toldAt (page : Page) (place : Nat) (name : Text) (event : LocationEvent) (spot : Nat) :
    (page.toldAt place name event).heard spot
      = page.heard spot ++ if place = spot then [event] else [] := by
  rw [heard, hearings_toldAt, List.filterMap_append, heard]
  congr 1
  split
  · next hspot => simp [hspot]
  · next hspot => simp [hspot]

/-! ## Who listens -/

/-- **The listeners are in good order**: numbers rise, and each listener has one of its own. -/
structure Listed (page : Page) : Prop where
  orderly : page.locationChanged.Orderly
  once : ∀ {number number' place}, (number, Listener.watcher place) ∈ page.locationChanged.listeners →
    (number', Listener.watcher place) ∈ page.locationChanged.listeners → number = number'
  /-- Who listens to a signal is one of the listeners that there are. -/
  there : ∀ ref {number place}, (number, Listener.watcher place) ∈ (page.signal ref).listeners →
    place < page.watchers.length

/-- **Nobody navigates who is called before the listener of a number**; and nothing that comes along
does so while routes are matched. -/
structure QuietBefore (number : Nat) (page : Page) : Prop where
  /-- The hooks in force do not navigate. -/
  hooks : ∀ index, page.firstHook ≤ index → page.HookGives Command.Still index
  tails : ∀ id number place, (number, Listener.watcher place) ∈ (page.signal (.tailOf id)).listeners →
    page.ListenerGives Command.Still place
  before : ∀ earlier place, (earlier, Listener.watcher place) ∈ page.locationChanged.listeners →
    earlier < number → page.ListenerGives Command.Still place
  /-- The listener itself and those after it may navigate. -/
  others : ∀ later place, (later, Listener.watcher place) ∈ page.locationChanged.listeners →
    number ≤ later → page.ListenerGives Command.Considerate place

/-- If it is quiet before a listener, it is so before those that came earlier. -/
lemma QuietBefore.mono {earlier : Nat} (h : page.QuietBefore number) (hle : earlier ≤ number) :
    page.QuietBefore earlier where
  hooks := h.hooks
  tails := h.tails
  before := fun _ _ hmem hlt => h.before _ _ hmem (Nat.lt_of_lt_of_le hlt hle)
  others := by
    intro later place hmem _
    rcases Nat.lt_or_ge later number with hlt | hge
    · exact (h.before later place hmem hlt).mono fun _ => And.right
    · exact h.others later place hmem hge

/-- It is quiet before all listeners with numbers below a bound. -/
def QuietBelow (bound : Nat) (page : Page) : Prop := ∀ number < bound, page.QuietBefore number

lemma quietBelow_zero (page : Page) : page.QuietBelow 0 := fun _ hlt => absurd hlt (Nat.not_lt_zero _)

/-- A page on which it is quiet before all listeners below a bound, who have come already. -/
structure Poised (bound : Nat) (page : Page) : Prop where
  listed : page.Listed
  came : bound ≤ page.locationChanged.nextNumber
  quiet : page.QuietBelow bound

/-- Only signals and listeners have a part in this. -/
lemma Listed.congr (h : page.Listed) (hsignal : ∀ ref, after.signal ref = page.signal ref)
    (hwatchers : after.watchers = page.watchers) : after.Listed := by
  have hlocation : after.locationChanged = page.locationChanged := hsignal .location
  refine ⟨hlocation ▸ h.orderly, hlocation ▸ h.once, fun ref _ _ hmem => ?_⟩
  exact hwatchers ▸ h.there ref (hsignal ref ▸ hmem)

/-- Neither the history nor what was told has a part in this. -/
lemma QuietBefore.congr (h : page.QuietBefore number)
    (hsignal : ∀ ref, after.signal ref = page.signal ref)
    (hwatchers : after.watchers = page.watchers) (hhooks : after.hooks = page.hooks)
    (hfirst : after.firstHook = page.firstHook) : after.QuietBefore number := by
  have hlocation : after.locationChanged = page.locationChanged := hsignal .location
  have hgives : ∀ kind place, page.ListenerGives kind place → after.ListenerGives kind place := by
    simp only [ListenerGives, hwatchers]; exact fun _ _ => id
  refine ⟨?_, ?_, ?_, ?_⟩
  · simp only [HookGives, hhooks, hfirst]; exact h.hooks
  · exact fun id _ _ hmem => hgives _ _ (h.tails id _ _ (hsignal (.tailOf id) ▸ hmem))
  · exact fun _ _ hmem hlt => hgives _ _ (h.before _ _ (hlocation ▸ hmem) hlt)
  · exact fun _ _ hmem hle => hgives _ _ (h.others _ _ (hlocation ▸ hmem) hle)

lemma Poised.congr (h : page.Poised bound) (hsignal : ∀ ref, after.signal ref = page.signal ref)
    (hwatchers : after.watchers = page.watchers) (hhooks : after.hooks = page.hooks)
    (hfirst : after.firstHook = page.firstHook) : after.Poised bound where
  listed := h.listed.congr hsignal hwatchers
  came := (show after.locationChanged = page.locationChanged from hsignal .location) ▸ h.came
  quiet := fun number hlt => (h.quiet number hlt).congr hsignal hwatchers hhooks hfirst

section Giving

variable {kind : Command → Prop}

/-- Hooks and those who listen for a tail give nothing that disturbs, if anyone is to hear in order. -/
lemma Poised.hooks {index : Nat} (h : page.Poised bound)
    (hkind : ∀ command, (0 < bound → command.Still) → kind command)
    (hforce : page.firstHook ≤ index) : page.HookGives kind index := by
  rcases Nat.eq_zero_or_pos bound with hzero | hpos
  · exact fun _ _ _ command _ => hkind command fun hpos => absurd hzero (Nat.ne_of_gt hpos)
  · exact ((h.quiet 0 hpos).hooks index hforce).mono fun command hstill => hkind command fun _ => hstill

lemma Poised.tails {id : NodeId} (h : page.Poised bound)
    (hkind : ∀ command, (0 < bound → command.Still) → kind command)
    (hmem : (number, Listener.watcher place) ∈ (page.signal (.tailOf id)).listeners) :
    page.ListenerGives kind place := by
  rcases Nat.eq_zero_or_pos bound with hzero | hpos
  · exact fun _ _ _ _ _ command _ => hkind command fun hpos => absurd hzero (Nat.ne_of_gt hpos)
  · exact ((h.quiet 0 hpos).tails id number place hmem).mono fun command hstill =>
      hkind command fun _ => hstill

lemma Poised.others (h : page.Poised bound)
    (hmem : (number, Listener.watcher place) ∈ page.locationChanged.listeners) :
    page.ListenerGives (fun command => 0 < bound → command.Considerate) place := by
  rcases Nat.eq_zero_or_pos bound with hzero | hpos
  · exact fun _ _ _ _ _ _ _ hpos => absurd hzero (Nat.ne_of_gt hpos)
  · exact ((h.quiet 0 hpos).others number place hmem (Nat.zero_le _)).mono fun _ hgiven _ => hgiven

end Giving

/-- **There is a bound** below which are all those before whom it is quiet, or no one if the command
is not considerate. -/
lemma Listed.exists_poised (h : page.Listed) (command : Command) : ∃ bound, page.Poised bound ∧
    (0 < bound → command.Considerate) ∧ ∀ number < page.locationChanged.nextNumber,
      page.QuietBefore number → command.Considerate → number < bound := by
  classical
  by_cases hconsiderate : command.Considerate
  · have hquiet := Nat.findGreatest_spec (P := page.QuietBelow)
      (Nat.zero_le page.locationChanged.nextNumber) page.quietBelow_zero
    refine ⟨_, ⟨h, Nat.findGreatest_le _, hquiet⟩, fun _ => hconsiderate, ?_⟩
    intro number hcame hbefore _
    exact Nat.le_findGreatest hcame fun earlier hlt => hbefore.mono (Nat.le_of_lt_succ hlt)
  · refine ⟨0, ⟨h, Nat.zero_le _, page.quietBelow_zero⟩, fun hlt => ?_, fun _ _ _ hgentle => ?_⟩
    · exact absurd hlt (Nat.lt_irrefl _)
    · exact absurd hgentle hconsiderate

/-! ## What edits leave -/

section Edits

variable {may : Command → Prop}

/-- **Every edit leaves the listeners in good order.** -/
lemma Listed.edit (h : page.Listed) (hedit : Edit may page after) : after.Listed where
  orderly := hedit.location.orderly h.orderly
  once := by
    intro number number' place hmem hmem'
    have hlately := hedit.listens .location hmem'
    obtain hold | ⟨_, ⟨hplace, hnumber, -⟩, -⟩ := hedit.listens .location hmem
    · obtain hold' | ⟨_, ⟨hplace', -⟩, -⟩ := hlately
      · exact h.once hold hold'
      · exact absurd (h.there .location hold) (hplace' ▸ Nat.lt_irrefl _)
    · obtain hold' | ⟨_, ⟨-, hnumber', -⟩, -⟩ := hlately
      · exact absurd (h.there .location hold') (hplace ▸ Nat.lt_irrefl _)
      · rw [hnumber, hnumber']
  there := by
    intro ref number place hmem
    obtain hold | ⟨_, ⟨hplace, -, name, hwatchers⟩, -⟩ := hedit.listens ref hmem
    · exact Nat.lt_of_lt_of_le (h.there ref hold) hedit.worn.watchers
    · rw [hwatchers, hplace, List.length_append]
      exact Nat.lt_succ_self _

/-- **It stays quiet** before a listener who has come already, if what comes is considerate. -/
lemma QuietBefore.edit (h : page.QuietBefore number) (hlisted : page.Listed)
    (hcame : number < page.locationChanged.nextNumber)
    (hmay : ∀ command, may command → command.Considerate) (hedit : Edit may page after) :
    after.QuietBefore number where
  hooks := by
    intro index hforce hook hhook
    obtain ⟨hfirst, hlength⟩ | ⟨hooks, hset, hfirst, hhooks⟩ := hedit.hooks
    · have hindex : index < page.hooks.length := hlength ▸ (List.getElem?_eq_some_iff.1 hhook).1
      exact hedit.worn.hook _ index hindex (h.hooks index (hfirst ▸ hforce)) hook hhook
    · rw [hhooks, List.getElem?_append_right (hfirst ▸ hforce)] at hhook
      have hgives := Command.gives_of_brought ((hmay _ hset).still rfl)
      exact hgives hook (List.mem_of_getElem? hhook)
  tails := by
    intro id number place hmem
    obtain hold | ⟨_, hcomes, ⟨href, -⟩ | ⟨_, _, hset⟩⟩ := hedit.listens (.tailOf id) hmem
    · exact hedit.worn.listener _ place (hlisted.there _ hold) (h.tails id number place hold)
    · cases href
    · exact hcomes.gives (Command.gives_of_brought ((hmay _ hset).still rfl))
  before := by
    intro earlier place hmem hearlier
    obtain hold | ⟨_, ⟨-, hnumber, -⟩, -⟩ := hedit.listens .location hmem
    · exact hedit.worn.listener _ place (hlisted.there .location hold)
        (h.before earlier place hold hearlier)
    · rw [hnumber] at hearlier
      exact absurd hcame (Nat.lt_asymm hearlier)
  others := by
    intro later place hmem hlater
    obtain hold | ⟨_, hcomes, ⟨-, _, hset⟩ | ⟨_, _, hset⟩⟩ := hedit.listens .location hmem
    · exact hedit.worn.listener _ place (hlisted.there .location hold)
        (h.others later place hold hlater)
    · exact hcomes.gives (Command.gives_of_brought (hmay _ hset).brought)
    · exact hcomes.gives (Command.gives_of_brought (hmay _ hset).brought)

lemma Poised.edit (h : page.Poised bound)
    (hmay : 0 < bound → ∀ command, may command → command.Considerate)
    (hedit : Edit may page after) : after.Poised bound where
  listed := h.listed.edit hedit
  came := Nat.le_trans h.came hedit.worn.numbers
  quiet := fun number hlt => (h.quiet number hlt).edit h.listed (Nat.lt_of_lt_of_le hlt h.came)
    (hmay (Nat.zero_lt_of_lt hlt)) hedit

end Edits

/-! ## Two regimes -/

/-- **Nothing is heard of** as long as nobody navigates. -/
def still (bound : Nat) : Regime where
  holds := Poised bound
  becomes page after := after.history = page.history ∧ after.hearings = page.hearings
  may command := 0 < bound → command.Still
  refl _ := ⟨rfl, rfl⟩
  trans _ _ h h' := ⟨h'.1.trans h.1, h'.2.trans h.2⟩
  edit h hedit := ⟨h.edit (fun hpos _ hstill => (hstill hpos).2) hedit, hedit.silent⟩
  hooks h hforce hindex := (h.hooks (fun _ => id) hforce).bound hindex
  listeners h hmem := (h.tails (fun _ => id) hmem).bound (h.listed.there _ hmem)

/-- **Changes are made, and heard of** by all listeners who stay; those with numbers below the bound
hear of them in order. -/
structure HearsOf (bound : Nat) (changes : List Change) (page after : Page) : Prop where
  made : Made page.history changes after.history
  heard : ∀ {number place}, number < page.locationChanged.nextNumber →
    (number, Listener.watcher place) ∈ after.locationChanged.listeners →
    Hears (number < bound) (page.heard place) (after.heard place) (changes.map Change.event)

lemma HearsOf.of_silent (hhistory : after.history = page.history)
    (hhearings : after.hearings = page.hearings) : HearsOf bound [] page after where
  made := hhistory ▸ .nil _
  heard _ _ := by rw [heard_congr hhearings]; exact .nil _ _

lemma HearsOf.trans {changes later : List Change} (h : HearsOf bound changes page mid)
    (h' : HearsOf bound later mid after) (hworn : Worn page mid) (hworn' : Worn mid after) :
    HearsOf bound (changes ++ later) page after where
  made := h.made.append h'.made
  heard := by
    intro number place hcame hmem
    have hcame' := Nat.lt_of_lt_of_le hcame hworn.numbers
    rw [List.map_append]
    exact (h.heard hcame (hworn'.listening _ hmem hcame')).append (h'.heard hcame' hmem)

/-- **Changes are heard of**, in order where it is quiet before the listener. -/
def inOrder (bound : Nat) : Regime where
  holds := Poised bound
  becomes page after := ∃ changes, HearsOf bound changes page after
  may command := 0 < bound → command.Considerate
  refl _ := ⟨[], .of_silent rfl rfl⟩
  trans hworn hworn' := fun ⟨_, h⟩ ⟨_, h'⟩ => ⟨_, h.trans h' hworn hworn'⟩
  edit h hedit :=
    ⟨h.edit (fun hpos _ hmay => hmay hpos) hedit, [], .of_silent hedit.silent.1 hedit.silent.2⟩
  hooks h hforce hindex := (h.hooks (fun _ hstill hpos => (hstill hpos).2) hforce).bound hindex
  listeners h hmem :=
    (h.tails (fun _ hstill hpos => (hstill hpos).2) hmem).bound (h.listed.there _ hmem)

/-- As long as nobody navigates, calls of any depth are not heard of. -/
lemma exec_still (hpos : 0 < bound) (depth : Nat) (call : Call)
    (hcall : (still bound).Permits call) : (still bound).Keeps (exec depth call) := by
  refine Regime.keeps_exec (fun _ _ command hmay hnavigates => ?_) depth hcall
  rw [(hmay hpos).1] at hnavigates
  cases hnavigates

/-! ## Telling a change -/

/-- **While a change is told** and `rest` is still to be called: all have heard of what was changed
since, and whoever has been called has heard of the change itself; as long as a listener waits that is
to hear in order, nothing was changed since. -/
structure Midway (bound : Nat) (event : LocationEvent) (page : Page) (rest : List (Nat × Listener))
    (now : Page) : Prop where
  remaining : rest <:+ page.locationChanged.listeners
  poised : now.Poised bound
  worn : Worn page now
  told : ∃ changes, Made page.history changes now.history ∧
    ((∃ entry ∈ rest, entry.1 < bound) → changes = []) ∧
    ∀ number place, (number, Listener.watcher place) ∈ page.locationChanged.listeners →
      (number, Listener.watcher place) ∈ now.locationChanged.listeners →
      Hears (number < bound) (page.heard place) (now.heard place)
        ((if (number, Listener.watcher place) ∈ rest then [] else [event]) ++
          changes.map Change.event)

namespace Midway

variable {event : LocationEvent} {rest : List (Nat × Listener)} {now : Page} {entry : Nat × Listener}

lemma start (h : page.Poised bound) (event : LocationEvent) :
    Midway bound event page page.locationChanged.listeners page where
  remaining := List.suffix_rfl
  poised := h
  worn := .refl page
  told := by
    refine ⟨[], .nil _, fun _ => rfl, fun number place hmem _ => ?_⟩
    rw [if_pos hmem]
    exact .nil _ _

lemma mem (h : Midway bound event page (entry :: rest) now) :
    entry ∈ page.locationChanged.listeners := h.remaining.subset (List.mem_cons_self ..)

/-- Whoever is still to be called came later. -/
lemma later (h : Midway bound event page (entry :: rest) now) (hlisted : page.Listed) :
    ∀ other ∈ rest, entry.1 < other.1 :=
  (List.pairwise_cons.1 (hlisted.orderly.rising.sublist h.remaining.sublist)).1

/-- Whoever has gone, or is a node, has nothing to hear. -/
lemma pass (h : Midway bound event page (entry :: rest) now)
    (hentry : ∀ number place, entry = (number, Listener.watcher place) →
      entry ∉ now.locationChanged.listeners) : Midway bound event page rest now where
  remaining := (List.suffix_cons ..).trans h.remaining
  poised := h.poised
  worn := h.worn
  told := by
    obtain ⟨changes, hmade, hwaits, hheard⟩ := h.told
    refine ⟨changes, hmade, fun ⟨other, hother, hlt⟩ =>
      hwaits ⟨other, List.mem_cons_of_mem _ hother, hlt⟩, fun number place hmem hnow => ?_⟩
    have hne : (number, Listener.watcher place) ≠ entry := by
      rintro rfl
      exact hentry number place rfl hnow
    have hbefore := hheard number place hmem hnow
    simpa only [List.mem_cons, hne, false_or] using hbefore

/-- A stretch in which nobody navigates. -/
lemma after_still (h : Midway bound event page rest now) (hlisted : page.Listed)
    (hkept : (still bound).Kept now after) : Midway bound event page rest after where
  remaining := h.remaining
  poised := hkept.holds
  worn := h.worn.trans hkept.worn
  told := by
    obtain ⟨changes, hmade, hwaits, hheard⟩ := h.told
    refine ⟨changes, hkept.becomes.1 ▸ hmade, hwaits, fun number place hmem hafter => ?_⟩
    have hcame := Nat.lt_of_lt_of_le (hlisted.orderly.beyond _ hmem) h.worn.numbers
    rw [heard_congr hkept.becomes.2]
    exact hheard number place hmem (hkept.worn.listening _ hafter hcame)

/-- A stretch in which others navigate, once nobody waits that is to hear in order. -/
lemma after_inOrder (h : Midway bound event page rest now) (hlisted : page.Listed)
    (hkept : (inOrder bound).Kept now after) (hnone : ∀ entry ∈ rest, bound ≤ entry.1) :
    Midway bound event page rest after where
  remaining := h.remaining
  poised := hkept.holds
  worn := h.worn.trans hkept.worn
  told := by
    obtain ⟨changes, hmade, -, hheard⟩ := h.told
    obtain ⟨later, hhears⟩ := hkept.becomes
    refine ⟨changes ++ later, hmade.append hhears.made, fun ⟨entry, hentry, hlt⟩ => ?_,
      fun number place hmem hafter => ?_⟩
    · exact absurd (hnone entry hentry) (Nat.not_le.2 hlt)
    · have hcame := Nat.lt_of_lt_of_le (hlisted.orderly.beyond _ hmem) h.worn.numbers
      have hbefore := hheard number place hmem (hkept.worn.listening _ hafter hcame)
      rw [List.map_append, ← List.append_assoc]
      exact hbefore.append (hhears.heard hcame hafter)

/-- **The next listener writes down what it is told.** -/
lemma tell {called spot : Nat}
    (h : Midway bound event page ((called, Listener.watcher spot) :: rest) now)
    (hlisted : page.Listed) (name : Text) :
    Midway bound event page rest (now.toldAt spot name event) where
  remaining := (List.suffix_cons ..).trans h.remaining
  poised := h.poised.congr (signal_congr rfl rfl) rfl rfl rfl
  worn := h.worn.trans (.of_eq rfl rfl (.inl rfl))
  told := by
    obtain ⟨changes, hmade, hwaits, hheard⟩ := h.told
    refine ⟨changes, hmade, fun ⟨other, hother, hlt⟩ =>
      hwaits ⟨other, List.mem_cons_of_mem _ hother, hlt⟩, fun number place hmem hnow => ?_⟩
    have hbefore := hheard number place hmem hnow
    rw [heard_toldAt]
    by_cases hspot : spot = place
    · -- the listener that is called hears of what was changed since before it hears of the change
      subst hspot
      obtain rfl : number = called := hlisted.once hmem h.mem
      have hgone : (number, Listener.watcher spot) ∉ rest :=
        fun hrest => absurd (h.later hlisted _ hrest) (Nat.lt_irrefl _)
      rw [if_pos (List.mem_cons_self ..)] at hbefore
      rw [if_pos rfl, if_neg hgone]
      refine hbefore.late (fun hlt => ?_) event
      rw [hwaits ⟨_, List.mem_cons_self .., hlt⟩]
      rfl
    · have hne : (number, Listener.watcher place) ≠ (called, Listener.watcher spot) := by
        intro heq
        simp only [Prod.mk.injEq, Listener.watcher.injEq] at heq
        exact hspot heq.2.symm
      rw [if_neg hspot, List.append_nil]
      simpa only [List.mem_cons, hne, false_or] using hbefore

/-- Who is called still listens, since numbers are given out once. -/
lemma listens {called : Nat} {listener : Listener}
    (h : Midway bound event page ((called, listener) :: rest) now) (hlisted : page.Listed)
    (hon : now.locationChanged.isSubscribed called) :
    (called, listener) ∈ now.locationChanged.listeners := by
  obtain ⟨other, hother, hnumber⟩ := List.any_eq_true.1 hon
  have hcame : other.1 < page.locationChanged.nextNumber := by
    rw [of_decide_eq_true hnumber]
    exact hlisted.orderly.beyond _ h.mem
  have hold := h.worn.listening other hother hcame
  rwa [← hlisted.orderly.eq_of_mem hold h.mem (of_decide_eq_true hnumber)]

end Midway

section Navigating

variable {deeper : Deeper}
  (hstill : 0 < bound → ∀ call, (still bound).Permits call → (still bound).Keeps (deeper call))
  (hinOrder : ∀ call, (inOrder bound).Permits call → (inOrder bound).Keeps (deeper call))

include hstill hinOrder

/-- **A change is told to everyone.** -/
lemma notify_midway (h : page.Poised bound) (kind : NavigationKind) (source : Option Text) :
    Leads false (notify deeper kind source) page fun _ after =>
      Midway bound ⟨page.url, kind, source⟩ page [] after := by
  have hlisted := h.listed
  simp only [notify, leads_bind, leads_get]
  show Leads false (Signal.emit (return (← get).signal .location) (tellLocation deeper _)) page _
  refine leads_emit (Midway bound ⟨page.url, kind, source⟩ page) ?_ ?_ (.start h _)
  · intro called listener rest now hmid hon
    have hlater := hmid.later hlisted
    cases listener with
    | node id =>
        have hpassed := hmid.pass fun _ _ heq => by cases heq
        rcases Nat.lt_or_ge (called + 1) bound with hlt | hge
        · have hquiet := hstill (Nat.zero_lt_of_lt hlt) (.refresh id) trivial
          refine Leads.mono (hquiet.discard now hpassed.poised) fun _ after hkept => ?_
          exact hpassed.after_still hlisted hkept
        · refine Leads.mono ((hinOrder (.refresh id) trivial).discard now hpassed.poised) ?_
          exact fun _ after hkept => hpassed.after_inOrder hlisted hkept fun entry hentry =>
            Nat.le_trans hge (hlater entry hentry)
    | watcher spot =>
        have hthere : spot < now.watchers.length :=
          Nat.lt_of_lt_of_le (hlisted.there .location hmid.mem) hmid.worn.watchers
        have hlistens := hmid.listens hlisted hon
        simp only [tellLocation, tellWatcher, leads_bind, leads_get, List.getElem?_eq_getElem hthere,
          leads_note]
        have htold := hmid.tell hlisted now.watchers[spot].name
        rcases Nat.lt_or_ge (called + 1) bound with hlt | hge
        · -- someone comes after it that is to hear in order, so it does not navigate
          have hquiet := (htold.poised.quiet _ hlt).before called spot hlistens (Nat.lt_succ_self _)
          have hbound := (hquiet.mono fun _ hgiven (_ : 0 < bound) => hgiven).bound hthere
          refine Leads.mono (Regime.at_react (.of_forall (hstill (Nat.zero_lt_of_lt hlt))) hbound _ _
            htold.poised) fun _ after hkept => ?_
          exact htold.after_still hlisted hkept
        · have hbound := (htold.poised.others hlistens).bound hthere
          refine Leads.mono (Regime.at_react (.of_forall hinOrder) hbound _ _ htold.poised)
            fun _ after hkept => ?_
          exact htold.after_inOrder hlisted hkept fun entry hentry =>
            Nat.le_trans hge (hlater entry hentry)
  · intro called listener rest now hmid hoff
    refine hmid.pass fun number place heq hnow => hoff ?_
    exact Signal.isSubscribed_of_mem hnow

/-- **A command that navigates** is refused, or the change that it makes is heard of first. -/
lemma perform_hears {command : Command} (h : page.Poised bound) (hnavigates : command.navigates) :
    Leads false (perform deeper command) page fun answer after =>
      after.Poised bound ∧ Worn page after ∧ ∃ changes, HearsOf bound changes page after ∧
        (answer.isRefusal = false → changes ≠ []) := by
  rcases perform_makes deeper page hnavigates with
    ⟨answer, hrefusal, hrun⟩ | ⟨history, kind, source, answer, hstep, -, hrun⟩
  · simp only [Leads, hrun]
    refine ⟨h, .refl page, [], .of_silent rfl rfl, fun hdone => ?_⟩
    rw [hrefusal] at hdone
    cases hdone
  · have hmoved : (page.withHistory history).Poised bound :=
      h.congr (signal_congr rfl rfl) rfl rfl rfl
    rw [leads_congr hrun]
    simp only [announce, leads_bind, leads_pure]
    refine (notify_midway hstill hinOrder hmoved kind source).mono fun _ after hmid => ?_
    obtain ⟨changes, hmade, -, hheard⟩ := hmid.told
    have hworn : Worn page (page.withHistory history) := .of_eq rfl rfl (.inl rfl)
    refine ⟨hmid.poised, hworn.trans hmid.worn, ⟨history, kind, source⟩ :: changes,
      ⟨.cons hstep hmade, fun {number place} hcame hmem => ?_⟩, fun _ => by simp⟩
    have hall := hheard number place (hmid.worn.listening _ hmem hcame) hmem
    rwa [if_neg (List.not_mem_nil)] at hall

end Navigating

/-- **Calls of any depth** are heard of. -/
theorem exec_inOrder (bound depth : Nat) (call : Call) (hcall : (inOrder bound).Permits call) :
    (inOrder bound).Keeps (exec depth call) := by
  refine Regime.keeps_exec (fun depth hinOrder command _ hnavigates page hpoised => ?_) depth hcall
  have hstill (hpos : 0 < bound) := exec_still hpos depth
  refine (perform_hears hstill hinOrder hpoised hnavigates).mono ?_
  exact fun _ after ⟨hafter, hworn, changes, hhears, _⟩ => ⟨hafter, ⟨changes, hhears⟩, hworn⟩

/-! ## Pages that commands lead to -/

/-- Listeners are in good order, whatever commands there are. -/
def listing : Regime where
  holds := Listed
  becomes _ _ := True
  may _ := True
  refl _ := trivial
  trans _ _ _ _ := trivial
  edit h hedit := ⟨h.edit hedit, trivial⟩
  hooks _ _ _ := .of_forall fun _ => trivial
  listeners _ _ := .of_forall fun _ => trivial

lemma listing_unbounded : listing.Unbounded where
  may _ := trivial
  history _ h := ⟨h.congr (signal_congr rfl rfl) rfl, trivial, .of_eq rfl rfl (.inl rfl)⟩
  told _ _ _ h := ⟨h.congr (signal_congr rfl rfl) rfl, trivial, .of_eq rfl rfl (.inl rfl)⟩

/-- **On the pages that commands lead to, listeners are in good order.** -/
theorem Reached.listed (h : page.Reached) : page.Listed := by
  induction h with
  | start history =>
      refine ⟨.empty, fun hmem => absurd hmem List.not_mem_nil, fun ref _ _ hmem => ?_⟩
      cases ref with
      | location => cases hmem
      | tailOf id => cases hmem
  | configured config _ _ ih => exact ih.congr (signal_congr rfl rfl) rfl
  | counting count _ ih => exact ih.congr (signal_congr rfl rfl) rfl
  | step _ hrun ih =>
      exact ((listing_unbounded.keeps_exec _ _ _ ih).of_eq hrun).holds

variable {command : Command} {answer : Answer}

/-- A command, whether it navigates or not, is heard of. -/
lemma run_hears (hpoised : page.Poised bound) (hconsiderate : 0 < bound → command.Considerate)
    (hrun : page.run command = some (answer, after)) : Worn page after ∧
      ∃ changes, HearsOf bound changes page after ∧
        (command.navigates → answer.isRefusal = false → changes ≠ []) := by
  obtain ⟨depth, hperform⟩ := run_eq_some hrun
  cases hnavigates : command.navigates with
  | true =>
      have hstill (hpos : 0 < bound) := exec_still hpos depth
      obtain ⟨-, hworn, changes, hhears, hdone⟩ := (perform_hears hstill
        (exec_inOrder bound depth) hpoised hnavigates).of_eq hperform
      exact ⟨hworn, changes, hhears, fun _ => hdone⟩
  | false =>
      obtain ⟨-, ⟨changes, hhears⟩, hworn⟩ := (Regime.keeps_perform
        (.of_forall (exec_inOrder bound depth)) hconsiderate hnavigates page hpoised).of_eq hperform
      exact ⟨hworn, changes, hhears, fun h => by cases h⟩

/-- **Listeners hear of every change once, and in order where it is quiet before them.**  However
listeners navigate when they are told, each one that stays hears of all changes that a command leads
to, of each of them once.  If nobody navigates who is called before the listener, it hears of them in
the order in which they are made; so the last one that it hears of is the one that led to the current
location. -/
theorem heard_in_order (hreached : page.Reached)
    (hrun : page.run command = some (answer, after)) :
    ∃ changes, Made page.history changes after.history ∧
      (command.navigates → answer.isRefusal = false → changes ≠ []) ∧
      ∀ number place, (number, Listener.watcher place) ∈ page.locationChanged.listeners →
        after.locationChanged.isSubscribed number →
        ∃ heard, after.heard place = page.heard place ++ heard ∧
          heard.Perm (changes.map Change.event) ∧
          (page.QuietBefore number → command.Considerate →
            heard = changes.map Change.event ∧
            ∀ event, heard.getLast? = some event → event.url = after.url) := by
  have hlisted := hreached.listed
  obtain ⟨bound, hpoised, hconsiderate, hbelow⟩ := hlisted.exists_poised command
  obtain ⟨hworn, changes, hhears, hnavigated⟩ := run_hears hpoised hconsiderate hrun
  refine ⟨changes, hhears.made, hnavigated, fun number place hmem hstays => ?_⟩
  have hcame := hlisted.orderly.beyond _ hmem
  have hlistens : (number, Listener.watcher place) ∈ after.locationChanged.listeners := by
    obtain ⟨entry, hentry, hnumber⟩ := List.any_eq_true.1 hstays
    have hold : entry ∈ page.locationChanged.listeners :=
      hworn.listening entry hentry (by rw [of_decide_eq_true hnumber]; exact hcame)
    rwa [← hlisted.orderly.eq_of_mem hold hmem (of_decide_eq_true hnumber)]
  obtain ⟨heard, hheard, honce, horder⟩ := hhears.heard hcame hlistens
  refine ⟨heard, hheard, honce, fun hquiet hgentle => ?_⟩
  have hall := horder (hbelow number hcame hquiet hgentle)
  refine ⟨hall, fun event hlast => ?_⟩
  rw [hall, List.getLast?_map, Option.map_eq_some_iff] at hlast
  obtain ⟨change, hchange, rfl⟩ := hlast
  show change.history.location = after.history.location
  rw [hhears.made.history_of_getLast hchange]

/-- A page with two listeners, the first of which goes on to `/two` when it hears of `/one`. -/
def relaying : Page :=
  (Page.start (.start History.localOrigin "/".toList true)).plays
    [.watchLocation "first".toList
      [⟨some "/one".toList, 1, [.push "/two".toList none]⟩],
     .watchLocation "second".toList []]

lemma quietBefore_relaying : relaying.QuietBefore 0 := by
  have hhooks : relaying.hooks.length = 0 := by decide +kernel
  have hnodes : relaying.nodes.length = 0 := by decide +kernel
  have hbring : relaying.watchers.all fun watcher => watcher.reactions.all fun reaction =>
      reaction.commands.all fun command => command.brought.isEmpty := by decide +kernel
  refine ⟨fun index _ hook hhook => ?_, fun id _ _ hmem => ?_, fun _ _ _ hlt => absurd hlt (Nat.not_lt_zero _),
    ?_⟩
  · rw [List.length_eq_zero_iff.1 hhooks] at hhook
    cases hhook
  · rw [signal, List.length_eq_zero_iff.1 hnodes] at hmem
    cases hmem
  · intro later place _ _ watcher hwatcher reaction hreaction _ command hcommand
    have hwatcher := List.all_eq_true.1 hbring watcher (List.mem_of_getElem? hwatcher)
    have hreaction := List.all_eq_true.1 hwatcher reaction hreaction
    exact .of_brought (List.isEmpty_iff.1 (List.all_eq_true.1 hreaction command hcommand))

/-- Both listeners hear of both changes, the first one in order. -/
theorem heard_in_order_relaying : ∃ answer after changes,
    relaying.run (.push "/one".toList none) = some (answer, after) ∧
      Made relaying.history changes after.history ∧
      (∃ heard, after.heard 1 = relaying.heard 1 ++ heard ∧
        heard.Perm (changes.map Change.event)) ∧
      ∃ heard, after.heard 0 = relaying.heard 0 ++ heard ∧ heard = changes.map Change.event ∧
        ∀ event, heard.getLast? = some event → event.url = after.url := by
  have hreached : relaying.Reached := (Reached.start _).plays _
  have hlisten : (0, Listener.watcher 0) ∈ relaying.locationChanged.listeners ∧
      (1, Listener.watcher 1) ∈ relaying.locationChanged.listeners := by
    decide +kernel
  have hstay : (relaying.play (.push "/one".toList none)).locationChanged.isSubscribed 0 ∧
      (relaying.play (.push "/one".toList none)).locationChanged.isSubscribed 1 := by
    decide +kernel
  obtain ⟨answer, hrun⟩ : ∃ answer, relaying.run (.push "/one".toList none)
      = some (answer, relaying.play (.push "/one".toList none)) := run_play (by decide +kernel)
  obtain ⟨changes, hmade, -, hheard⟩ := heard_in_order hreached hrun
  obtain ⟨first, hfirst, -, horder⟩ := hheard 0 0 hlisten.1 hstay.1
  obtain ⟨second, hsecond, honce, -⟩ := hheard 1 1 hlisten.2 hstay.2
  exact ⟨answer, _, changes, hrun, hmade, ⟨second, hsecond, honce⟩,
    first, hfirst, horder quietBefore_relaying (.of_brought rfl)⟩

/-- **The second listener hears of them the other way round**: last of `/one`, though the page is at
`/two`. -/
theorem heard_backwards : relaying.Reached ∧
    (1, Listener.watcher 1) ∈ relaying.locationChanged.listeners ∧
    relaying.heard 1 = [] ∧
    (relaying.run (.push "/one".toList none)).map (fun (_, after) =>
        (after.locationChanged.isSubscribed 1, after.history.entries, after.url,
          (after.heard 1).map (·.url))) =
      some (true, ["/".toList, "/one".toList, "/two".toList], "/two".toList,
        ["/two".toList, "/one".toList]) :=
  ⟨(Reached.start _).plays _, by decide +kernel⟩

end Page

end PageRouter

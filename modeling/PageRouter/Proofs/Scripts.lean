import PageRouter.Proofs.Sound

/-!
# What hooks and listeners may do

The commands of a page fall into kinds.  `isInert` commands change nothing that matching looks at;
`navigates` holds of those that tell a location, if they are not refused; and the commands that
`roam` are of one of these kinds: they leave the forest as it is.

A kind is asked of everything that hooks and listeners may ever do: of the commands of their
reactions, and of those that these commands bring along (`Command.brings`).  `Obeys kind scope page`
says so of a page.  Its scope names the hooks and listeners that are meant — all of them, or those
that are in force at some moment together with all that come later — and stays the same while
commands are carried out.
-/

namespace PageRouter

open Page

/-! ## Kinds of commands -/

namespace Command

/-- The command changes nothing that matching looks at. -/
def isInert : Command → Bool
  | .intercept _ | .setCacheCount _ _ | .lastMatch _ | .store _ _ | .showRoute _
  | .setPattern _ _ | .register _ | .unregister _ | .matchRoute _ | .watchLocation _ _
  | .watchTail _ _ _ | .unwatch _ | .veto _ | .setHooks _ | .describe _ => true
  | _ => false

/-- The command tells a location, if it is not refused. -/
def navigates : Command → Bool
  | .push _ _ | .replace _ _ | .updateQuery _ | .follow _ _ | .back | .forward | .popState
  | .pageLoad | .click _ | .navigate _ _ => true
  | _ => false

/-- The command leaves the forest as it is and matches nothing but by telling a location. -/
def roams (command : Command) : Bool := command.isInert || command.navigates

/-! ## What a command brings along -/

mutual

/-- Whether the reactions that a command brings along give only commands of a kind, and so on. -/
def brings (kind : Command → Bool) : Command → Bool
  | .watchLocation _ reactions => bringsWatches kind reactions
  | .watchTail _ _ reactions => bringsWatches kind reactions
  | .setHooks hooks => bringsHooks kind hooks
  | _ => true

/-- `brings` for the reactions of a listener; one without a run left does nothing. -/
def bringsWatches (kind : Command → Bool) : List (Reaction (Option Text) Command) → Bool
  | [] => true
  | ⟨_, runs, commands⟩ :: rest =>
    (runs == 0 || bringsList kind commands) && bringsWatches kind rest

def bringsHooks (kind : Command → Bool) : List (Reaction HookTrigger Command) → Bool
  | [] => true
  | ⟨_, runs, commands⟩ :: rest =>
    (runs == 0 || bringsList kind commands) && bringsHooks kind rest

/-- Commands of a kind that bring along only such. -/
def bringsList (kind : Command → Bool) : List Command → Bool
  | [] => true
  | command :: rest => kind command && command.brings kind && bringsList kind rest

end

end Command

/-- **A reaction keeps to a kind of commands** as long as it has a run left. -/
def Reaction.KeepsTo {τ : Type} (reaction : Reaction τ Command) (kind : Command → Bool) : Prop :=
  0 < reaction.runs → ∀ command ∈ reaction.commands, kind command ∧ command.brings kind

namespace Command

variable {kind : Command → Bool}

lemma bringsList_iff {commands : List Command} :
    bringsList kind commands ↔ ∀ command ∈ commands, kind command ∧ command.brings kind := by
  induction commands with
  | nil => simp [bringsList]
  | cons command rest ih => simp [bringsList, ih]

lemma bringsWatches_iff {reactions : List (Reaction (Option Text) Command)} :
    bringsWatches kind reactions ↔ ∀ reaction ∈ reactions, reaction.KeepsTo kind := by
  induction reactions with
  | nil => simp [bringsWatches]
  | cons reaction rest ih =>
      obtain ⟨_, runs, commands⟩ := reaction
      cases runs with
      | zero => simp [bringsWatches, ih, Reaction.KeepsTo]
      | succ _ => simp [bringsWatches, bringsList_iff, ih, Reaction.KeepsTo]

lemma bringsHooks_iff {hooks : List (Reaction HookTrigger Command)} :
    bringsHooks kind hooks ↔ ∀ hook ∈ hooks, hook.KeepsTo kind := by
  induction hooks with
  | nil => simp [bringsHooks]
  | cons hook rest ih =>
      obtain ⟨_, runs, commands⟩ := hook
      cases runs with
      | zero => simp [bringsHooks, ih, Reaction.KeepsTo]
      | succ _ => simp [bringsHooks, bringsList_iff, ih, Reaction.KeepsTo]

mutual

/-- Every command brings along only commands. -/
lemma brings_all (command : Command) : command.brings fun _ => true := by
  cases command with
  | watchLocation name reactions => exact bringsWatches_all reactions
  | watchTail name route reactions => exact bringsWatches_all reactions
  | setHooks hooks => exact bringsHooks_all hooks
  | _ => rfl

lemma bringsWatches_all (reactions : List (Reaction (Option Text) Command)) :
    bringsWatches (fun _ => true) reactions := by
  match reactions with
  | [] => rfl
  | ⟨_, runs, commands⟩ :: rest =>
      simp only [bringsWatches, bringsWatches_all rest, bringsList_all commands, Bool.or_true, Bool.and_self]

lemma bringsHooks_all (hooks : List (Reaction HookTrigger Command)) :
    bringsHooks (fun _ => true) hooks := by
  match hooks with
  | [] => rfl
  | ⟨_, runs, commands⟩ :: rest =>
      simp only [bringsHooks, bringsHooks_all rest, bringsList_all commands, Bool.or_true, Bool.and_self]

lemma bringsList_all (commands : List Command) : bringsList (fun _ => true) commands := by
  match commands with
  | [] => rfl
  | command :: rest => simp only [bringsList, brings_all command, bringsList_all rest, Bool.and_self]

end

variable {wider : Command → Bool}

mutual

/-- What gives only commands of a kind gives only commands of a wider one. -/
lemma brings_mono (hwider : ∀ command, kind command → wider command) (command : Command)
    (h : command.brings kind) : command.brings wider := by
  cases command with
  | watchLocation name reactions => exact bringsWatches_mono hwider reactions h
  | watchTail name route reactions => exact bringsWatches_mono hwider reactions h
  | setHooks hooks => exact bringsHooks_mono hwider hooks h
  | _ => rfl

lemma bringsWatches_mono (hwider : ∀ command, kind command → wider command)
    (reactions : List (Reaction (Option Text) Command)) (h : bringsWatches kind reactions) :
    bringsWatches wider reactions := by
  match reactions with
  | [] => rfl
  | ⟨_, runs, commands⟩ :: rest =>
      simp only [bringsWatches, Bool.and_eq_true, Bool.or_eq_true] at h ⊢
      exact ⟨h.1.imp_right (bringsList_mono hwider commands), bringsWatches_mono hwider rest h.2⟩

lemma bringsHooks_mono (hwider : ∀ command, kind command → wider command)
    (hooks : List (Reaction HookTrigger Command)) (h : bringsHooks kind hooks) :
    bringsHooks wider hooks := by
  match hooks with
  | [] => rfl
  | ⟨_, runs, commands⟩ :: rest =>
      simp only [bringsHooks, Bool.and_eq_true, Bool.or_eq_true] at h ⊢
      exact ⟨h.1.imp_right (bringsList_mono hwider commands), bringsHooks_mono hwider rest h.2⟩

lemma bringsList_mono (hwider : ∀ command, kind command → wider command) (commands : List Command)
    (h : bringsList kind commands) : bringsList wider commands := by
  match commands with
  | [] => rfl
  | command :: rest =>
      simp only [bringsList, Bool.and_eq_true] at h ⊢
      exact ⟨⟨hwider command h.1.1, brings_mono hwider command h.1.2⟩, bringsList_mono hwider rest h.2⟩

end

end Command

lemma Reaction.KeepsTo.mono {τ : Type} {reaction : Reaction τ Command} {kind wider : Command → Bool}
    (h : reaction.KeepsTo kind) (hwider : ∀ command, kind command → wider command) :
    reaction.KeepsTo wider := by
  intro hruns command hmem
  obtain ⟨hkind, hbrings⟩ := h hruns command hmem
  exact ⟨hwider command hkind, Command.brings_mono hwider command hbrings⟩

lemma Reaction.KeepsTo.usedOnce {τ : Type} {reaction : Reaction τ Command}
    {kind : Command → Bool} (h : reaction.KeepsTo kind) : reaction.usedOnce.KeepsTo kind :=
  fun hruns => h (Nat.lt_of_lt_of_le hruns (Nat.sub_le _ _))

lemma Reaction.keepsTo_useUp {τ : Type} {reactions : List (Reaction τ Command)}
    {kind : Command → Bool} {index : Nat} (h : ∀ reaction ∈ reactions, reaction.KeepsTo kind) :
    ∀ reaction ∈ Reaction.useUp index reactions, reaction.KeepsTo kind := by
  intro reaction hmem
  obtain ⟨place, hplace⟩ := List.mem_iff_getElem?.1 hmem
  simp only [Reaction.useUp, List.getElem?_modify] at hplace
  obtain ⟨old, hold, rfl⟩ := Option.map_eq_some_iff.1 hplace
  have hkeeps := h old (List.mem_of_getElem? hold)
  split
  · exact hkeeps.usedOnce
  · exact hkeeps

/-! ## Pages -/

/-- The hooks and listeners that are meant. -/
structure Scope where
  hooksFrom : Nat
  watchers : Nat → Prop

def Scope.all : Scope := ⟨0, fun _ => True⟩

namespace Page

/-- **Hooks and listeners keep to a kind of commands.** -/
structure Obeys (kind : Command → Bool) (scope : Scope) (page : Page) : Prop where
  /-- The hooks that are meant keep to it. -/
  hooks : ∀ index hook, scope.hooksFrom ≤ index → page.hooks[index]? = some hook →
    hook.KeepsTo kind
  /-- The listeners that are meant keep to it. -/
  watchers : ∀ place watcher, scope.watchers place → page.watchers[place]? = some watcher →
    ∀ reaction ∈ watcher.reactions, reaction.KeepsTo kind
  /-- The hooks in force are meant. -/
  inForce : scope.hooksFrom ≤ page.firstHook
  /-- The hooks in force are among those that there are. -/
  firstHook : page.firstHook ≤ page.hooks.length
  listening : ∀ ref number place, (number, Listener.watcher place) ∈ (page.signal ref).listeners →
    scope.watchers place
  coming : ∀ place, page.watchers.length ≤ place → scope.watchers place

variable {kind : Command → Bool} {scope : Scope} {page after : Page}

/-- Nothing changes for a page with the same hooks and no other listeners from outside. -/
lemma Obeys.of_eq (h : Obeys kind scope page) (hhooks : after.hooks = page.hooks)
    (hfirst : after.firstHook = page.firstHook) (hwatchers : after.watchers = page.watchers)
    (hsignal : ∀ ref number place, (number, Listener.watcher place) ∈ (after.signal ref).listeners →
      (number, Listener.watcher place) ∈ (page.signal ref).listeners) : Obeys kind scope after where
  hooks := by rw [hhooks]; exact h.hooks
  watchers := by rw [hwatchers]; exact h.watchers
  inForce := by rw [hfirst]; exact h.inForce
  firstHook := by rw [hfirst, hhooks]; exact h.firstHook
  listening := fun ref number place hmem => h.listening ref number place (hsignal _ _ _ hmem)
  coming := by rw [hwatchers]; exact h.coming

/-- One run of a hook used up. -/
lemma Obeys.useHook (h : Obeys kind scope page) (index : Nat) :
    Obeys kind scope { page with hooks := Reaction.useUp index page.hooks } where
  hooks := by
    intro other hook hfrom hother
    simp only [Reaction.useUp, List.getElem?_modify] at hother
    obtain ⟨old, hold, rfl⟩ := Option.map_eq_some_iff.1 hother
    have hkeeps := h.hooks other old hfrom hold
    split
    · exact hkeeps.usedOnce
    · exact hkeeps
  watchers := h.watchers
  inForce := h.inForce
  firstHook := by simpa [Reaction.useUp] using h.firstHook
  listening := h.listening
  coming := h.coming

/-- One run of a reaction of a listener used up. -/
lemma Obeys.useWatch (h : Obeys kind scope page) (place index : Nat) :
    Obeys kind scope { page with
      watchers := page.watchers.modify place fun watcher =>
        { watcher with reactions := Reaction.useUp index watcher.reactions } } where
  hooks := h.hooks
  watchers := by
    intro other watcher hmeant hother
    simp only [List.getElem?_modify] at hother
    obtain ⟨old, hold, rfl⟩ := Option.map_eq_some_iff.1 hother
    have hkeeps := h.watchers other old hmeant hold
    split
    · exact Reaction.keepsTo_useUp hkeeps
    · exact hkeeps
  inForce := h.inForce
  firstHook := h.firstHook
  listening := h.listening
  coming := by simpa using h.coming

/-- New hooks in the place of all others. -/
lemma Obeys.setHooks (h : Obeys kind scope page) {hooks : List Hook}
    (hnew : ∀ hook ∈ hooks, hook.KeepsTo kind) :
    Obeys kind scope
      { page with hooks := page.hooks ++ hooks, firstHook := page.hooks.length } where
  hooks := by
    intro index hook hfrom hindex
    rcases Nat.lt_or_ge index page.hooks.length with hlt | hge
    · rw [List.getElem?_append_left hlt] at hindex
      exact h.hooks index hook hfrom hindex
    · rw [List.getElem?_append_right hge] at hindex
      exact hnew hook (List.mem_of_getElem? hindex)
  watchers := h.watchers
  inForce := Nat.le_trans h.inForce h.firstHook
  firstHook := by simp
  listening := h.listening
  coming := h.coming

end Page

end PageRouter

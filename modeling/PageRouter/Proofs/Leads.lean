import Mathlib.Tactic.Lemma
import PageRouter.Page.Run

/-!
# What a computation on a page leads to

A computation on a page either runs out of depth or ends with an answer and a page.
`Leads must c page post` says that `c`, started on `page`, ends in a way that satisfies `post`;
running out of depth is a failure if it `must` end and is let pass otherwise.  One set of rules
therefore serves both for what holds whenever a command has returned and for the proof that it
does return.

The rules take a computation apart along its text: `leads_bind` and its companions are equivalences
and make up a simp set, and the three loops of a page — telling listeners, offering an occasion to
reactions, carrying out a list of commands — have one rule each, with an invariant.
-/

namespace PageRouter.Page

variable {α β : Type} {must : Bool}

/-- **What a computation leads to.** -/
def Leads (must : Bool) (c : PageM α) (page : Page) (post : α → Page → Prop) : Prop :=
  match c page with
  | none => must = false
  | some (a, after) => post a after

/-! ## Rules -/

lemma bind_apply (c : PageM α) (f : α → PageM β) (page : Page) :
    (c >>= f) page = (c page).bind fun r => f r.1 r.2 := rfl

lemma get_apply (page : Page) : (get : PageM Page) page = some (page, page) := rfl

lemma Leads.mono {c : PageM α} {page : Page} {post post' : α → Page → Prop}
    (h : Leads must c page post) (himp : ∀ a after, post a after → post' a after) :
    Leads must c page post' := by
  unfold Leads at h ⊢
  split at h
  · exact h
  · exact himp _ _ h

/-- What has been led to holds of the outcome. -/
lemma Leads.of_eq {c : PageM α} {page after : Page} {a : α} {post : α → Page → Prop}
    (h : Leads must c page post) (hrun : c page = some (a, after)) : post a after := by
  simpa only [Leads, hrun] using h

/-- What holds of every outcome is led to. -/
lemma leads_of_forall {c : PageM α} {page : Page} {post : α → Page → Prop}
    (h : ∀ a after, c page = some (a, after) → post a after) : Leads false c page post := by
  unfold Leads
  split
  · rfl
  · next a after hrun => exact h a after hrun

/-- The outcome of a computation is known. -/
lemma leads_of_eq {c : PageM α} {page after : Page} {a : α} {post : α → Page → Prop}
    (h : c page = some (a, after)) : Leads must c page post ↔ post a after := by
  simp only [Leads, h]

lemma Leads.exists_eq {c : PageM α} {page : Page} {post : α → Page → Prop}
    (h : Leads true c page post) : ∃ a after, c page = some (a, after) ∧ post a after := by
  unfold Leads at h
  split at h
  · simp at h
  · next a after hrun => exact ⟨a, after, hrun, h⟩

/-- A computation that must end also satisfies what holds when it ends. -/
lemma Leads.weaken {c : PageM α} {page : Page} {post : α → Page → Prop}
    (h : Leads true c page post) : Leads must c page post := by
  unfold Leads at h ⊢
  split at h
  · simp at h
  · exact h

/-- What ends in one way, and in another if it ends, ends in both. -/
lemma Leads.and {c : PageM α} {page : Page} {post post' : α → Page → Prop}
    (h : Leads must c page post) (h' : Leads false c page post') :
    Leads must c page fun a after => post a after ∧ post' a after := by
  unfold Leads at h h' ⊢
  cases hrun : c page with
  | none => rwa [hrun] at h
  | some result =>
      rw [hrun] at h h'
      exact ⟨h, h'⟩

lemma leads_congr {c d : PageM α} {page page' : Page} (h : c page = d page')
    (post : α → Page → Prop) : Leads must c page post ↔ Leads must d page' post := by
  simp only [Leads, h]

@[simp] lemma leads_pure (a : α) (page : Page) (post : α → Page → Prop) :
    Leads must (pure a) page post ↔ post a page := Iff.rfl

@[simp] lemma leads_bind (c : PageM α) (f : α → PageM β) (page : Page) (post : β → Page → Prop) :
    Leads must (c >>= f) page post
      ↔ Leads must c page fun a after => Leads must (f a) after post := by
  cases hc : c page with
  | none => simp [Leads, bind_apply, hc]
  | some r => simp [Leads, bind_apply, hc]

@[simp] lemma leads_get (page : Page) (post : Page → Page → Prop) :
    Leads must get page post ↔ post page page := Iff.rfl

@[simp] lemma leads_set (new page : Page) (post : PUnit → Page → Prop) :
    Leads must (set new) page post ↔ post ⟨⟩ new := Iff.rfl

@[simp] lemma leads_modify (f : Page → Page) (page : Page) (post : PUnit → Page → Prop) :
    Leads must (modify f) page post ↔ post ⟨⟩ (f page) := Iff.rfl

@[simp] lemma leads_discard (c : PageM α) (page : Page) (post : Unit → Page → Prop) :
    Leads must (discard c) page post ↔ Leads must c page fun _ after => post () after := by
  have hmap : (discard c : PageM Unit) page = (c page).map fun r => ((), r.2) := by
    show ((c page).bind fun r => some (Function.const α () r.1, r.2)) = _
    cases c page <;> rfl
  cases hc : c page with
  | none => simp [Leads, hmap, hc]
  | some r => simp [Leads, hmap, hc]

@[simp] lemma leads_note (event : PageEvent) (page : Page) (post : Unit → Page → Prop) :
    Leads must (note event) page post ↔ post () { page with events := event :: page.events } :=
  Iff.rfl

lemma leads_ite {P : Prop} [Decidable P] {c d : PageM α} {page : Page} {post : α → Page → Prop}
    (hc : P → Leads must c page post) (hd : ¬P → Leads must d page post) :
    Leads must (if P then c else d) page post := by
  split
  · next h => exact hc h
  · next h => exact hd h

/-! ## Loops -/

/-- **Calling listeners**: the invariant says what holds while `rest` is still to be called. -/
lemma leads_callEach {ref : SignalRef} {call : Listener → PageM Unit}
    (inv : List (Nat × Listener) → Page → Prop)
    (hcall : ∀ number listener rest page, inv ((number, listener) :: rest) page →
      (page.signal ref).isSubscribed number →
      Leads must (call listener) page fun _ after => inv rest after)
    (hskip : ∀ number listener rest page, inv ((number, listener) :: rest) page →
      ¬(page.signal ref).isSubscribed number → inv rest page) :
    ∀ (listeners : List (Nat × Listener)) (page : Page), inv listeners page →
      Leads must (Signal.callEach (return (← get).signal ref) call listeners) page
        fun _ after => inv [] after
  | [], _, h => h
  | (number, listener) :: rest, page, h => by
    have ih := leads_callEach inv hcall hskip rest
    simp only [Signal.callEach, leads_bind, leads_get, leads_pure]
    refine leads_ite (fun hon => ?_) (fun hoff => ?_)
    · rw [leads_bind]
      exact (hcall number listener rest page h hon).mono fun _ after hafter => ih after hafter
    · exact ih page (hskip number listener rest page h hoff)

/-- **Telling everyone**: the invariant says what holds while `rest` is still to be called. -/
lemma leads_emit {ref : SignalRef} {call : Listener → PageM Unit}
    (inv : List (Nat × Listener) → Page → Prop)
    (hcall : ∀ number listener rest page, inv ((number, listener) :: rest) page →
      (page.signal ref).isSubscribed number →
      Leads must (call listener) page fun _ after => inv rest after)
    (hskip : ∀ number listener rest page, inv ((number, listener) :: rest) page →
      ¬(page.signal ref).isSubscribed number → inv rest page)
    {page : Page} (h : inv (page.signal ref).listeners page) :
    Leads must (Signal.emit (return (← get).signal ref) call) page fun _ after => inv [] after := by
  simp only [Signal.emit, leads_bind, leads_get, leads_pure]
  exact leads_callEach inv hcall hskip _ page h

/-- **Offering an occasion to reactions**: the invariant survives each reaction that acts. -/
lemma leads_offer {τ : Type} {current : PageM (List (Reaction τ Command))}
    {reactions : Page → List (Reaction τ Command)} {use : Nat → PageM Unit}
    {perform : List Command → PageM Unit} (due : τ → Bool) (inv : Page → Prop)
    (hcurrent : ∀ page, current page = some (reactions page, page)) :
    ∀ (indices : List Nat),
      (∀ index ∈ indices, ∀ page reaction, inv page → (reactions page)[index]? = some reaction →
        0 < reaction.runs →
        Leads must (do use index; perform reaction.commands) page fun _ after => inv after) →
      ∀ page, inv page →
        Leads must (Reaction.offer current use due perform indices) page fun _ after => inv after
  | [], _, _, h => h
  | index :: rest, hact, page, h => by
    have ih := leads_offer due inv hcurrent rest
      fun other hother => hact other (List.mem_cons_of_mem _ hother)
    have hread : ∀ post : List (Reaction τ Command) → Page → Prop,
        Leads must current page post ↔ post (reactions page) page := by
      intro post
      simp only [Leads, hcurrent]
    simp only [Reaction.offer, leads_bind, hread]
    split
    · next reaction hreaction =>
      refine leads_ite (fun hdue => ?_) (fun _ => ih page h)
      have := hact index (List.mem_cons_self ..) page reaction h hreaction hdue.1
      simp only [leads_bind] at this ⊢
      exact this.mono fun _ used hused => hused.mono fun _ after hafter => ih after hafter
    · exact ih page h

/-- **Carrying out commands**: the invariant survives each command and the note of its answer. -/
lemma leads_performAll {deeper : Deeper} (inv : Page → Prop) :
    ∀ (commands : List Command),
      (∀ command ∈ commands, ∀ page, inv page →
        Leads must (deeper (.command command)) page fun answer after =>
          inv { after with events := .answered command answer :: after.events }) →
      ∀ page, inv page → Leads must (performAll deeper commands) page fun _ after => inv after
  | [], _, _, h => h
  | command :: rest, hcommand, page, h => by
    have ih := leads_performAll inv rest
      fun other hother => hcommand other (List.mem_cons_of_mem _ hother)
    simp only [performAll, leads_bind, leads_note]
    exact (hcommand command (List.mem_cons_self ..) page h).mono fun _ after hafter =>
      ih _ hafter

end PageRouter.Page

import Mathlib.Tactic.Lemma
import PageRouter.Pattern.Reading

/-!
# Which reading is the best

A way to read a text is told by the **choices** that it makes, from left to right.  Of two ways that
part somewhere, the one that makes the better choice there precedes the other (`Precedes`), whatever
comes later.

`IsBest ways entry` says that an entry of a column is the way that precedes all others, or that
there is none, and `Bests` says so of a whole column.  Each step that makes a column from another
one — a character, a run of characters, a group — turns columns of best ways into such columns.
-/

namespace PageRouter

open Text

variable {α β : Type}

/-! ## Choices -/

/-- What is chosen at one point of a pattern. -/
inductive Choice where
  | taken
  | skipped
  | named (value : Text)
  | splat (value : Text)
  | query
  | noQuery
  deriving DecidableEq, Repr

/-- **The better of two choices** at one point: a group is rather taken than skipped, a named
parameter longer, a splat shorter, and the query rather present than absent. -/
def Choice.Better : Choice → Choice → Prop
  | .taken, .skipped => True
  | .named value, .named other => other.length < value.length
  | .splat value, .splat other => value.length < other.length
  | .query, .noQuery => True
  | _, _ => False

/-- **The first point at which choices differ decides.** -/
def Precedes : List Choice → List Choice → Prop
  | choice :: choices, other :: others =>
    choice.Better other ∨ choice = other ∧ Precedes choices others
  | _, _ => False

lemma Choice.Better.asymm {choice other : Choice} (h : choice.Better other) :
    ¬other.Better choice := by
  cases choice <;> cases other <;> simp_all only [Choice.Better, not_false_eq_true]
  · omega
  · omega

lemma Choice.Better.ne {choice other : Choice} (h : choice.Better other) : choice ≠ other := by
  rintro rfl
  exact h.asymm h

/-- No two ways precede each other. -/
lemma Precedes.asymm {choices others : List Choice} (h : Precedes choices others) :
    ¬Precedes others choices := by
  induction choices generalizing others with
  | nil => exact h.elim
  | cons choice choices ih =>
      cases others with
      | nil => exact h.elim
      | cons other others =>
          rcases h with hbetter | ⟨rfl, hrest⟩
          · rintro (hworse | ⟨rfl, -⟩)
            · exact hbetter.asymm hworse
            · exact hbetter.ne rfl
          · rintro (hworse | ⟨-, hback⟩)
            · exact hworse.ne rfl
            · exact ih hrest hback

/-- What comes after the point that decides does not matter. -/
lemma Precedes.append {choices others : List Choice} (h : Precedes choices others)
    (later later' : List Choice) : Precedes (choices ++ later) (others ++ later') := by
  induction choices generalizing others with
  | nil => exact h.elim
  | cons choice choices ih =>
      cases others with
      | nil => exact h.elim
      | cons other others => exact h.imp_right fun hrest => ⟨hrest.1, ih hrest.2⟩

/-- Common choices in front decide nothing. -/
lemma Precedes.append_left (common : List Choice) {choices others : List Choice}
    (h : Precedes choices others) : Precedes (common ++ choices) (common ++ others) := by
  induction common with
  | nil => exact h
  | cons choice common ih => exact .inr ⟨rfl, ih⟩

/-- What comes after as many choices, if it is the same, does not decide. -/
lemma Precedes.of_append {choices others later : List Choice}
    (hlength : choices.length = others.length)
    (h : Precedes (choices ++ later) (others ++ later)) : Precedes choices others := by
  induction choices generalizing others with
  | nil =>
      obtain rfl : others = [] := List.length_eq_zero_iff.1 hlength.symm
      exact h.asymm h
  | cons choice choices ih =>
      cases others with
      | nil => cases hlength
      | cons other others =>
          exact h.imp_right fun hrest => ⟨hrest.1, ih (Nat.succ.inj hlength) hrest.2⟩

/-! ## The best of some ways -/

/-- **An entry is the best of some ways**: no other one precedes it, or there is none at all. -/
def IsBest (ways : List Choice → α → Prop) : Option α → Prop
  | none => ∀ choices a, ¬ways choices a
  | some a => ∃ choices, ways choices a ∧ ∀ others b, ways others b →
    (others = choices ∧ b = a) ∨ Precedes choices others

lemma IsBest.congr {ways ways' : List Choice → α → Prop} {entry : Option α} (h : IsBest ways entry)
    (hways : ∀ choices a, ways' choices a ↔ ways choices a) : IsBest ways' entry := by
  have heq : ways' = ways := funext fun choices => funext fun a => propext (hways choices a)
  exact heq ▸ h

/-- Ways that go on in the same manner have the same best one. -/
lemma IsBest.map {ways : List Choice → α → Prop} {ways' : List Choice → β → Prop} {entry : Option α}
    (h : IsBest ways entry) (f : α → β) (longer : List Choice → List Choice)
    (hlonger : ∀ choices others, Precedes choices others → Precedes (longer choices) (longer others))
    (hways : ∀ choices b, ways' choices b ↔
      ∃ before a, ways before a ∧ choices = longer before ∧ b = f a) :
    IsBest ways' (entry.map f) := by
  cases entry with
  | none =>
      intro choices b hb
      obtain ⟨before, a, ha, -, -⟩ := (hways choices b).1 hb
      exact h before a ha
  | some a =>
      obtain ⟨choices, ha, hbest⟩ := h
      refine ⟨longer choices, (hways _ _).2 ⟨choices, a, ha, rfl, rfl⟩, fun others b hb => ?_⟩
      obtain ⟨before, a', ha', rfl, rfl⟩ := (hways others b).1 hb
      rcases hbest before a' ha' with ⟨rfl, rfl⟩ | hprecedes
      · exact .inl ⟨rfl, rfl⟩
      · exact .inr (hlonger _ _ hprecedes)

/-- The better of two entries, if all ways of the first kind precede those of the second. -/
lemma IsBest.orElse {ways ways' all : List Choice → α → Prop} {first second : Option α}
    (h : IsBest ways first) (h' : IsBest ways' second)
    (hall : ∀ choices a, all choices a ↔ ways choices a ∨ ways' choices a)
    (hfirst : ∀ choices a others b, ways choices a → ways' others b → Precedes choices others) :
    IsBest all (Column.orElse first second) := by
  cases first with
  | none =>
      refine h'.congr fun choices a => (hall choices a).trans ?_
      exact or_iff_right (h choices a)
  | some a =>
      obtain ⟨choices, ha, hbest⟩ := h
      refine ⟨choices, (hall _ _).2 (.inl ha), fun others b hb => ?_⟩
      rcases (hall others b).1 hb with hb | hb
      · exact hbest others b hb
      · exact .inr (hfirst choices a others b ha hb)

lemma isBest_none {ways : List Choice → α → Prop} (h : ∀ choices a, ¬ways choices a) :
    IsBest ways none := h

/-- The entry is any way that precedes all others. -/
lemma IsBest.eq_some {ways : List Choice → α → Prop} {entry : Option α} (h : IsBest ways entry)
    {choices : List Choice} {a : α} (ha : ways choices a)
    (hfirst : ∀ others b, ways others b → others = choices ∨ Precedes choices others) :
    entry = some a := by
  cases entry with
  | none => exact absurd ha (h choices a)
  | some b =>
      obtain ⟨others, hb, hbest⟩ := h
      rcases hbest choices a ha with ⟨-, hab⟩ | hprecedes
      · rw [hab]
      · -- two ways cannot both precede each other
        rcases hfirst others b hb with rfl | hback
        · exact absurd hprecedes hprecedes.asymm
        · exact absurd hback hprecedes.asymm

/-! ## Columns -/

/-- **A column of best ways**: one entry for each rest of a text. -/
inductive Bests (ways : Text → List Choice → α → Prop) : Text → Column α → Prop
  | nil {entry : Option α} : IsBest (ways []) entry → Bests ways [] [entry]
  | cons {c : Char} {text : Text} {entry : Option α} {column : Column α} :
    IsBest (ways (c :: text)) entry → Bests ways text column → Bests ways (c :: text) (entry :: column)

variable {ways : Text → List Choice → α → Prop} {text : Text} {column : Column α}

lemma Bests.best (h : Bests ways text column) : IsBest (ways text) (Column.best column) := by
  cases h with
  | nil hentry => exact hentry
  | cons hentry _ => exact hentry

lemma Bests.congr {ways' : Text → List Choice → α → Prop} (h : Bests ways text column)
    (hways : ∀ text choices a, ways' text choices a ↔ ways text choices a) :
    Bests ways' text column := by
  induction h with
  | nil hentry => exact .nil (hentry.congr (hways []))
  | cons hentry _ ih => exact .cons (hentry.congr (hways _)) ih

/-- What is done to each entry is done to the column. -/
lemma Bests.map {ways' : Text → List Choice → β → Prop} (h : Bests ways text column)
    (f : Option α → Option β) (hf : ∀ text entry, IsBest (ways text) entry → IsBest (ways' text) (f entry)) :
    Bests ways' text (column.map f) := by
  induction h with
  | nil hentry => exact .nil (hf _ _ hentry)
  | cons hentry _ ih => exact .cons (hf _ _ hentry) ih

lemma Bests.zipWith {ways' all : Text → List Choice → α → Prop} {column' : Column α}
    (h : Bests ways text column) (h' : Bests ways' text column') (f : Option α → Option α → Option α)
    (hf : ∀ text entry entry', IsBest (ways text) entry → IsBest (ways' text) entry' →
      IsBest (all text) (f entry entry')) :
    Bests all text (List.zipWith f column column') := by
  induction h generalizing column' with
  | nil hentry =>
      cases h' with
      | nil hentry' => exact .nil (hf _ _ _ hentry hentry')
  | cons hentry _ ih =>
      cases h' with
      | cons hentry' hrest => exact .cons (hf _ _ _ hentry hentry') (ih hrest)

end PageRouter

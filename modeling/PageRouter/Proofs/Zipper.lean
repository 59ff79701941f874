import Mathlib.Tactic.Lemma
import PageRouter.History

/-!
# A history as a zipper

What a page remembers is where it is, what lies behind it and what lies ahead: a **zipper**.  Each
move changes a zipper at its middle only (`Zipper.move`).  Pushing a location puts the current one
behind and forgets what is ahead, and a step back or forward is refused where nothing lies there.

A history keeps the same locations in one list, with the position of the current one
(`Zipper.history`), and every move does the same to both (`Zipper.history_move`).  So a history that
moves from its first location on is a zipper that moves from there (`History.runs_as_zipper`): a
push forgets exactly what is ahead, the position never leaves the list, and a step and the step the
other way change nothing together.
-/

namespace PageRouter

open Text

/-! ## Moves -/

/-- What can be asked of a history. -/
inductive Move where
  | push (url : Text)
  | replace (url : Text)
  | back
  | forward
  deriving DecidableEq, Repr

/-- The answers to moves that are made one after the other, and where they lead. -/
def Move.run {α : Type} (move : α → Move → Option Bool × α) : α → List Move → List (Option Bool) × α
  | state, [] => ([], state)
  | state, first :: moves =>
    let (answer, next) := move state first
    let (answers, last) := run move next moves
    (answer :: answers, last)

/-- **A move of a history**, and for a step whether there was one. -/
def History.move (history : History) : Move → Option Bool × History
  | .push url => (none, history.push url)
  | .replace url => (none, history.replace url)
  | .back => (some history.back?.isSome, history.back?.getD history)
  | .forward => (some history.forward?.isSome, history.forward?.getD history)

/-- **A zipper**: the current location, those behind it and those ahead, the nearest first. -/
structure Zipper where
  past : List Text
  current : Text
  future : List Text
  deriving DecidableEq, Repr

namespace Zipper

def start (url : Text) : Zipper := ⟨[], url, []⟩

/-- **A move of a zipper**, and for a step whether there was one. -/
def move : Zipper → Move → Option Bool × Zipper
  | ⟨past, current, _⟩, .push url => (none, ⟨current :: past, url, []⟩)
  | ⟨past, _, future⟩, .replace url => (none, ⟨past, url, future⟩)
  | ⟨[], current, future⟩, .back => (some false, ⟨[], current, future⟩)
  | ⟨url :: past, current, future⟩, .back => (some true, ⟨past, url, current :: future⟩)
  | ⟨past, current, []⟩, .forward => (some false, ⟨past, current, []⟩)
  | ⟨past, current, url :: future⟩, .forward => (some true, ⟨current :: past, url, future⟩)

variable {zipper other : Zipper} {origin : Text}

lemma back_refused_iff : zipper.move .back = (some false, zipper) ↔ zipper.past = [] := by
  obtain ⟨past, current, future⟩ := zipper
  cases past <;> simp [move]

lemma forward_refused_iff : zipper.move .forward = (some false, zipper) ↔ zipper.future = [] := by
  obtain ⟨past, current, future⟩ := zipper
  cases future <;> simp [move]

/-- **A step back is undone by a step forward**, and the other way round. -/
lemma back_iff_forward :
    zipper.move .back = (some true, other) ↔ other.move .forward = (some true, zipper) := by
  obtain ⟨past, current, future⟩ := zipper
  obtain ⟨past', current', future'⟩ := other
  constructor
  · intro hback
    cases past with
    | nil => cases hback
    | cons url past => cases hback; rfl
  · intro hforward
    cases future' with
    | nil => cases hforward
    | cons url future' => cases hforward; rfl

/-! ## The history of a zipper -/

/-- **The history of a zipper**: its locations in the order of their visits. -/
def history (zipper : Zipper) (origin : Text) : History where
  origin := origin
  entries := zipper.past.reverse ++ zipper.current :: zipper.future
  position := zipper.past.length
  position_lt := by simp
  travels := true

lemma history_start (origin url : Text) :
    (start url).history (dropTrailing '/' origin) = .start origin url true := rfl

lemma current_entry (zipper : Zipper) (origin : Text) :
    (zipper.history origin).entries[(zipper.history origin).position]? = some zipper.current := by
  simp [history]

lemma location_history (zipper : Zipper) (origin : Text) :
    (zipper.history origin).location = zipper.current := by
  simp [history, History.location]

lemma history_injective (h : zipper.history origin = other.history origin) : zipper = other := by
  obtain ⟨past, current, future⟩ := zipper
  obtain ⟨past', current', future'⟩ := other
  obtain ⟨hentries, hposition⟩ : past.reverse ++ current :: future =
      past'.reverse ++ current' :: future' ∧ past.length = past'.length := by
    simpa [history] using h
  obtain ⟨hpast, hrest⟩ := List.append_inj hentries (by simpa using hposition)
  obtain ⟨rfl, rfl⟩ := List.cons.inj hrest
  rw [List.reverse_inj.1 hpast]

/-- A push keeps the entries up to the current one. -/
lemma history_push (past : List Text) (current : Text) (future : List Text) (origin url : Text) :
    ((⟨past, current, future⟩ : Zipper).history origin).push url =
      (⟨current :: past, url, []⟩ : Zipper).history origin := by
  have hbehind : (past.reverse ++ current :: future).take (past.length + 1) =
      past.reverse ++ [current] := by
    rw [← List.length_reverse, List.take_length_add_append]
    rfl
  simp [history, History.push, hbehind]

/-- **One move** is answered alike, and leads to the history of where it leads the zipper. -/
lemma history_move (zipper : Zipper) (origin : Text) (move : Move) :
    (zipper.history origin).move move =
      ((zipper.move move).1, (zipper.move move).2.history origin) := by
  obtain ⟨past, current, future⟩ := zipper
  cases move with
  | push url => exact congrArg (none, ·) (history_push past current future origin url)
  | replace url => simp [Zipper.move, History.move, history, History.replace]
  | back =>
      cases past with
      | nil => simp [Zipper.move, History.move, history, History.back?]
      | cons url past => simp [Zipper.move, History.move, history, History.back?]
  | forward =>
      cases future with
      | nil => simp [Zipper.move, History.move, history, History.forward?]
      | cons url future => simp [Zipper.move, History.move, history, History.forward?]

/-- **Moves one after the other** are answered alike and stay side by side. -/
lemma history_run (zipper : Zipper) (origin : Text) (moves : List Move) :
    Move.run History.move (zipper.history origin) moves =
      ((Move.run Zipper.move zipper moves).1,
        (Move.run Zipper.move zipper moves).2.history origin) := by
  induction moves generalizing zipper with
  | nil => rfl
  | cons move moves ih => simp only [Move.run, history_move, ih]

/-- What a move of the history says about the zipper. -/
lemma history_move_eq_iff {move : Move} {answer : Option Bool} :
    (zipper.history origin).move move = (answer, other.history origin) ↔
      zipper.move move = (answer, other) := by
  rw [history_move, Prod.mk.injEq, Prod.ext_iff]
  exact and_congr_right' ⟨history_injective, congrArg fun (next : Zipper) => next.history origin⟩

/-- A move leads to the history of a zipper. -/
lemma exists_of_history_move {move : Move} {answer : Option Bool} {next : History}
    (h : (zipper.history origin).move move = (answer, next)) :
    ∃ other, next = other.history origin ∧ zipper.move move = (answer, other) := by
  rw [history_move, Prod.mk.injEq] at h
  obtain ⟨rfl, rfl⟩ := h
  exact ⟨_, rfl, rfl⟩

end Zipper

namespace History

/-- **A history that moves is a zipper that moves.**  Whatever moves are made from the first
location on, the answers are those of the zipper, and the history is that of the zipper.  Its
position is one of its list, where the current location stands.  A step is refused, and changes
nothing, exactly if nothing lies there; if it is not, a step the other way leads back. -/
theorem runs_as_zipper (origin url : Text) (moves : List Move) :
    ∃ answers zipper history, Move.run Zipper.move (.start url) moves = (answers, zipper) ∧
      Move.run History.move (.start origin url true) moves = (answers, history) ∧
      history = zipper.history (dropTrailing '/' origin) ∧
      history.entries[history.position]? = some zipper.current ∧
      history.location = zipper.current ∧
      (history.move .back = (some false, history) ↔ zipper.past = []) ∧
      (history.move .forward = (some false, history) ↔ zipper.future = []) ∧
      (∀ before, history.move .back = (some true, before) →
        before.move .forward = (some true, history)) ∧
      ∀ after, history.move .forward = (some true, after) →
        after.move .back = (some true, history) := by
  have hrun := Zipper.history_run (.start url) (dropTrailing '/' origin) moves
  rw [Zipper.history_start] at hrun
  refine ⟨_, _, _, rfl, hrun, rfl, Zipper.current_entry .., Zipper.location_history ..,
    Zipper.history_move_eq_iff.trans Zipper.back_refused_iff,
    Zipper.history_move_eq_iff.trans Zipper.forward_refused_iff, ?_, ?_⟩
  · intro before hback
    obtain ⟨other, rfl, hmove⟩ := Zipper.exists_of_history_move hback
    exact Zipper.history_move_eq_iff.2 (Zipper.back_iff_forward.1 hmove)
  · intro after hforward
    obtain ⟨other, rfl, hmove⟩ := Zipper.exists_of_history_move hforward
    exact Zipper.history_move_eq_iff.2 (Zipper.back_iff_forward.2 hmove)

/-- A push in the middle forgets what was ahead. -/
example : Move.run History.move (.start localOrigin "/".toList true)
    [.push "/a".toList, .push "/b".toList, .back, .push "/c".toList, .forward] =
      ([none, none, some true, none, some false],
        (⟨["/a".toList, "/".toList], "/c".toList, []⟩ : Zipper).history localOrigin) := by
  decide

end History

end PageRouter

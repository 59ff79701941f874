import PageRouter.Text.Basic

/-!
# History

The locations that a page has been at, in the order of their visits, and where in them it is now.
Pushing a location forgets those ahead; replacing one leaves the others alone; going back and
forward moves the position and changes no entry.  There always is a current location: the position
is one of the list (`position_lt`), so `History.location` needs no default.

Not every page can move: where going back is the browser's business alone, `travels` is false and
both moves are refused.
-/

namespace PageRouter

open Text

structure History where
  /-- The page's scheme, host and port. -/
  origin : Text
  entries : List Text
  /-- Where the current location stands among them. -/
  position : Nat
  position_lt : position < entries.length
  /-- Whether the page can move back and forward. -/
  travels : Bool
  deriving DecidableEq

namespace History

/-- The history of a page that has been nowhere else.  An origin has no slash at its end. -/
def start (origin url : Text) (travels : Bool) : History :=
  ⟨dropTrailing '/' origin, [url], 0, by simp, travels⟩

/-- The origin of a page that names none. -/
def localOrigin : Text := "http://localhost".toList

def location (history : History) : Text :=
  history.entries.get ⟨history.position, history.position_lt⟩

/-- The history after a visit: the locations ahead are gone, and the new one is current. -/
def push (history : History) (url : Text) : History :=
  { history with
    entries := history.entries.take (history.position + 1) ++ [url]
    position := history.position + 1
    position_lt := by
      have := history.position_lt
      rw [List.length_append, List.length_take, List.length_singleton]
      omega }

/-- The history with another current location. -/
def replace (history : History) (url : Text) : History :=
  { history with
    entries := history.entries.set history.position url
    position_lt := by simpa using history.position_lt }

/-- One step back, if there is a location behind. -/
def back? (history : History) : Option History :=
  if history.travels ∧ 0 < history.position then
    some { history with
      position := history.position - 1
      position_lt := by have := history.position_lt; omega }
  else none

/-- One step forward, if there is a location ahead. -/
def forward? (history : History) : Option History :=
  if h : history.travels = true ∧ history.position + 1 < history.entries.length then
    some { history with
      position := history.position + 1
      position_lt := h.2 }
  else none

end History

end PageRouter

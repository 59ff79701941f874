import PageRouter.Element.Basic

/-!
# A document

The plainest document that elements can live in: it numbers the elements it makes, knows which of
them are put in, and answers every question whether one may be taken out in the same way until it is
told to change its mind.  It writes down what happens to it.
-/

namespace PageRouter

structure Document where
  /-- How many elements have been made. -/
  made : Nat
  /-- The elements that are put in, in the order in which they came. -/
  attached : List Nat
  /-- Whether elements are kept when they become inactive. -/
  veto : Bool
  deriving DecidableEq, Repr

namespace Document

def empty : Document := ⟨0, [], false⟩

/-- One more element; its number is how many there are now. -/
def create (document : Document) : Document :=
  { document with made := document.made + 1 }

/-- An element put in, at the end unless it is there already. -/
def append (document : Document) (serial : Nat) : Document :=
  if serial ∈ document.attached then document
  else { document with attached := document.attached ++ [serial] }

def remove (document : Document) (serial : Nat) : Document :=
  { document with attached := document.attached.filter (· ≠ serial) }

end Document

/-! ## A document that only keeps a record -/

/-- A document and what has happened in it, the latest first. -/
structure RecordedDocument where
  document : Document
  /-- What has happened, the latest first. -/
  events : List HostEvent
  deriving DecidableEq, Repr

namespace RecordedDocument

/-- The record after a change and an event. -/
def note (event : HostEvent) (change : Document → Document) : StateM RecordedDocument Unit :=
  modify fun record => ⟨change record.document, event :: record.events⟩

/-- **What the router asks, answered and recorded.**  A document that is not `watchful` does not
notice that elements become active or inactive, and never keeps one. -/
def host (watchful : Bool) : ElementHost (StateM RecordedDocument) where
  create tag := do
    let serial := (← get).document.made + 1
    note (.created tag serial) Document.create
    return serial
  append target serial := note (.appended target serial) (·.append serial)
  remove serial := note (.removed serial) (·.remove serial)
  activated element := do
    if watchful then note (.activated element.serial) id
  deactivating element := do
    if watchful then
      note (.deactivating element.serial) id
      return !(← get).document.veto
    else return true

end RecordedDocument

end PageRouter

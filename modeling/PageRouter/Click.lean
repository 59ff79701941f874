import PageRouter.Address.Link
import PageRouter.Text.Blank

/-!
# Clicks

A click on a link is the browser's business unless it is plain: the primary button, no key held, and
a link without an attribute that asks for something else.  `Click.screen` gives the link of a plain
click, or the first reason, in a fixed order, to leave the click alone.
-/

namespace PageRouter

open Text

/-- The link that a click landed on. -/
structure Anchor where
  href : Text
  target : Option Text
  /-- Whether it has a `download` attribute. -/
  download : Bool
  rel : Option Text
  /-- Whether following it replaces the current location. -/
  replaces : Bool
  deriving DecidableEq, Repr

structure Click where
  /-- The button; the primary one is 0. -/
  button : Int
  /-- Whether the meta key is held. -/
  metaKey : Bool
  /-- Whether the control key is held. -/
  ctrlKey : Bool
  /-- Whether the shift key is held. -/
  shiftKey : Bool
  /-- Whether the alt key is held. -/
  altKey : Bool
  anchor : Option Anchor
  /-- Whether the browser has been told not to act. -/
  prevented : Bool
  deriving DecidableEq, Repr

/-- Why a click is left to the browser. -/
inductive IgnoreReason where
  /-- The router does not follow links. -/
  | interceptionDisabled
  | defaultPrevented
  /-- It is not the primary button. -/
  | notPrimaryButton
  | modifierKey
  | noAnchor
  | targetAttribute
  | download
  | externalRel
  | mailto
  /-- The link has no location on the page. -/
  | link (fault : LinkFault)
  /-- No route matches the link's location. -/
  | noMatchingRoute
  deriving DecidableEq, Repr

namespace Anchor

/-- Whether one of the words of the relation is `external`. -/
def isExternal (anchor : Anchor) : Bool :=
  match anchor.rel with
  | some rel => (words rel).any (sameIgnoringCase "external".toList)
  | none => false

/-- Whether the link opens a mail. -/
def isMailto (anchor : Anchor) : Bool :=
  sameIgnoringCase "mailto:".toList (anchor.href.take 7)

end Anchor

namespace Click

/-- The link of a plain click, or why the click is left to the browser. -/
def screen (click : Click) : Except IgnoreReason Anchor :=
  if click.prevented then .error .defaultPrevented
  else if click.button ≠ 0 then .error .notPrimaryButton
  else if click.metaKey || click.ctrlKey || click.shiftKey || click.altKey then .error .modifierKey
  else match click.anchor with
    | none => .error .noAnchor
    | some anchor =>
      if anchor.target.isSome then .error .targetAttribute
      else if anchor.download then .error .download
      else if anchor.isExternal then .error .externalRel
      else if anchor.isMailto then .error .mailto
      else .ok anchor

end Click

end PageRouter

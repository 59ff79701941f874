import PageRouter.Address.Basic

/-!
# Where a link leads

The router follows a link itself only if its target comes from the same place as the page.  The
page's address is its origin with the current location; the link is read relative to it.  What the
router needs of the target is its location, the path with the query.
-/

namespace PageRouter

/-- Why a link has no location on the page. -/
inductive LinkFault where
  /-- The link, or the page's own address, is no address. -/
  | invalid
  | otherOrigin
  deriving DecidableEq, Repr

def pageAddress? (origin current : Text) : Option Address :=
  (Address.parse origin).bind (·.join current)

/-- **The location that a link leads to**, if it stays on the page's origin.  An address whose
origin equals no other leads elsewhere even from itself. -/
def resolveLink (href origin current : Text) : Except LinkFault Text :=
  match pageAddress? origin current with
  | none => .error .invalid
  | some page =>
    match page.join href with
    | none => .error .invalid
    | some target =>
      match target.origin, page.origin with
      | some there, some here =>
        if there = here then .ok target.location else .error .otherOrigin
      | _, _ => .error .otherOrigin

end PageRouter

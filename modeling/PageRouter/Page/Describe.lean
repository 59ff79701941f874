import PageRouter.Page.Basic
import PageRouter.Text.Quoted

/-!
# Descriptions

What a page, its router and a mounted route look like to a developer: the name of the thing and its
fields between braces.
-/

namespace PageRouter

open Text

/-- A thing with fields: its name, and each field with its value. -/
def describeFields (name : Text) (fields : List (Text × Text)) : Text :=
  name ++ " \x7b ".toList ++
    ", ".toList.intercalate (fields.map fun (field, value) => field ++ ": ".toList ++ value) ++
    " \x7d".toList

def describeFlag (value : Bool) : Text :=
  if value then "true".toList else "false".toList

/-- An id that may be missing. -/
def describeId : Option RouteId → Text
  | none => "None".toList
  | some id => "Some(RouteId(".toList ++ quoted id.text ++ "))".toList

namespace Page

def describeController (page : Page) : Text :=
  describeFields "NavigationController".toList
    [("root".toList, quoted page.root), ("url".toList, quoted page.url),
      ("routes".toList, ofNat page.registry.entries.length),
      ("intercept_links".toList, describeFlag page.interceptsLinks)]

/-- What the routes of a page have in common. -/
def describeRouter (page : Page) : Text :=
  describeFields "Router".toList
    [("controller".toList, page.describeController),
      ("default_cache_count".toList, ofNat page.defaultCacheCount)]

def describeNode (node : Node) : Text :=
  describeFields "MountedRoute".toList
    [("id".toList, describeId node.route.id),
      ("pattern".toList, quoted (node.route.pattern.getD [])),
      ("mounted".toList, describeFlag node.mounted)]

end Page

end PageRouter

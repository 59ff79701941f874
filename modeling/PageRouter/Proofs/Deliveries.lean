import PageRouter.Proofs.Sound

/-!
# How tails arrive

A node that is matched tells its tail to its children one after the other, and before the last of
them has heard of it the node may be matched again and tell another tail.  Tellings nest: the inner
one is over before the outer one goes on.  A child that still has to hear both therefore hears the
newer tail first, and the older one after it.

`deliver` reads this off the record of visits.  Each match of the parent puts a tail under way, and
each match of the child takes the one that was put under way last.  `Delivers` says that a stretch
of a run leaves a child where its visits say, and that no tail stays under way.
-/

namespace PageRouter.Page

variable {page mid after : Page} {parent child : NodeId} {first second : List Visit}

def placeOf (page : Page) (id : NodeId) : ParentLink :=
  match page.standings[id]? with
  | some standing => standing.place
  | none => .root

/-- The tail that a node has published. -/
def tailOf (page : Page) (id : NodeId) : Option Tail :=
  match page.standings[id]? with
  | some standing => standing.lastMatch.tail
  | none => none

/-- **What one visit does** to the tails of a parent that are under way to a child, the newest
first, and to the child's place. -/
def deliver (parent child : NodeId) :
    List (Option Tail) × ParentLink → Visit → List (Option Tail) × ParentLink
  | (underWay, place), visit =>
    if visit.node = parent then (visit.outcome.tail :: underWay, place)
    else if visit.node = child then
      match underWay with
      | tail :: others => (others, .child tail)
      | [] => ([], place)
    else (underWay, place)

/-- The place that visits leave a child, from the place it had before. -/
def settledPlace (parent child : NodeId) (place : ParentLink) (visits : List Visit) : ParentLink :=
  (visits.foldl (deliver parent child) ([], place)).2

/-- The tail that visits leave a node with. -/
def publish (id : NodeId) (tail : Option Tail) (visit : Visit) : Option Tail :=
  if visit.node = id then visit.outcome.tail else tail

/-- **A stretch of a run, seen from a child**: the visits leave the child where it is, and each tail
that they put under way arrives. -/
def Delivers (parent child : NodeId) (page after : Page) (visits : List Visit) : Prop :=
  ∀ underWay, visits.foldl (deliver parent child) (underWay, page.placeOf child)
    = (underWay, after.placeOf child)

/-- The visits tell what a node has published. -/
def Publishes (id : NodeId) (page after : Page) (visits : List Visit) : Prop :=
  visits.foldl (publish id) (page.tailOf id) = after.tailOf id

/-- **A stretch of a run in which a child is told one tail more** than its visits put under way. -/
def Arrives (tail : Option Tail) (parent child : NodeId) (page after : Page)
    (visits : List Visit) : Prop :=
  ∀ underWay, visits.foldl (deliver parent child) (tail :: underWay, page.placeOf child)
    = (underWay, after.placeOf child)

/-- **Visits account for a stretch of a run**: they tell what each node has published, and the place
of each nested one. -/
structure Accounts (page after : Page) (visits : List Visit) : Prop where
  published : ∀ id, Publishes id page after visits
  delivered : ∀ parent child seat, page.seats[child]? = some seat → seat.isIn parent →
    Delivers parent child page after visits

lemma Delivers.nil (h : after.placeOf child = page.placeOf child) :
    Delivers parent child page after [] := fun underWay => by rw [List.foldl_nil, h]

lemma Delivers.append (h : Delivers parent child page mid first)
    (h' : Delivers parent child mid after second) :
    Delivers parent child page after (first ++ second) :=
  fun underWay => by rw [List.foldl_append, h, h']

lemma Arrives.append {tail : Option Tail} (h : Arrives tail parent child page mid first)
    (h' : Delivers parent child mid after second) :
    Arrives tail parent child page after (first ++ second) :=
  fun underWay => by rw [List.foldl_append, h, h']

lemma Publishes.nil {id : NodeId} (h : after.tailOf id = page.tailOf id) :
    Publishes id page after [] := h.symm

lemma Publishes.append {id : NodeId} (h : Publishes id page mid first)
    (h' : Publishes id mid after second) : Publishes id page after (first ++ second) := by
  rw [Publishes, List.foldl_append, h, h']

/-- A visit of another node delivers nothing to a child. -/
lemma deliver_of_ne {visit : Visit} (hparent : visit.node ≠ parent) (hchild : visit.node ≠ child)
    (state : List (Option Tail) × ParentLink) : deliver parent child state visit = state := by
  simp only [deliver, hparent, hchild, if_false]

lemma deliver_parent {visit : Visit} (hparent : visit.node = parent)
    (underWay : List (Option Tail)) (place : ParentLink) :
    deliver parent child (underWay, place) visit = (visit.outcome.tail :: underWay, place) := by
  simp only [deliver, hparent, if_true]

lemma deliver_child {visit : Visit} (hchild : visit.node = child) (hne : child ≠ parent)
    (tail : Option Tail) (underWay : List (Option Tail)) (place : ParentLink) :
    deliver parent child (tail :: underWay, place) visit = (underWay, .child tail) := by
  simp only [deliver, hchild, hne, if_true, if_false]

lemma placeOf_congr (h : after.standings = page.standings) (id : NodeId) :
    after.placeOf id = page.placeOf id := by simp only [placeOf, h]

lemma tailOf_congr (h : after.standings = page.standings) (id : NodeId) :
    after.tailOf id = page.tailOf id := by simp only [tailOf, h]

lemma Accounts.append (h : Accounts page mid first) (hseats : mid.seats = page.seats)
    (h' : Accounts mid after second) : Accounts page after (first ++ second) where
  published := fun id => (h.published id).append (h'.published id)
  delivered := fun parent child seat hseat hin =>
    (h.delivered parent child seat hseat hin).append
      (h'.delivered parent child seat (hseats ▸ hseat) hin)

/-- A stretch without visits that leaves all standings as they are. -/
lemma Delivers.of_standings (h : after.standings = page.standings) :
    Delivers parent child page after [] := .nil (placeOf_congr h child)

lemma Publishes.of_standings {id : NodeId} (h : after.standings = page.standings) :
    Publishes id page after [] := .nil (tailOf_congr h id)

lemma Accounts.of_standings (h : after.standings = page.standings) : Accounts page after [] :=
  ⟨fun _ => .of_standings h, fun _ _ _ _ _ => .of_standings h⟩

end PageRouter.Page

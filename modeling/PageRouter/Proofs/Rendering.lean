import PageRouter.Pattern.Fill
import PageRouter.Proofs.Grammar

/-!
# What a pattern is filled in to

Filling in goes through the groups of a pattern from the inside to the outside: each group is filled
in on its own, and left out if something is missing in it.  The rule that it follows can be said of
the leaves alone.  `Token.placed` walks over the tokens once and notes for each leaf the groups
around it.  A group is **complete** if all parameters that stand directly in it have a value; a leaf
is shown if all groups around it are complete; and a parameter is missed if it has no value and
stands in no group.

`Pattern.fill_eq` says that a pattern is filled in to its shown leaves, and that the missed
parameters are reported.  Groups are told apart by the places of their `(`, so what is said of a
group does not change when tokens are put in front of it or behind it, or around it.
-/

namespace PageRouter

open Text

namespace Token

variable {value? : Text → Option Text} {tokens body : List Token} {leaves : List (Token × List Nat)}
  {group place : Nat}

/-! ## The rule -/

/-- **The leaves with the groups around them**, the innermost group first.  A group goes by the
place of its `(`; `around` are the groups that are open in front of the tokens. -/
def placed (place : Nat) (around : List Nat) : List Token → List (Token × List Nat)
  | [] => []
  | .groupOpen :: tokens => placed (place + 1) (place :: around) tokens
  | .groupClose :: tokens => placed (place + 1) around.tail tokens
  | token :: tokens => (token, around) :: placed (place + 1) around tokens

/-- The named parameters that stand directly in a group, or in no group, from left to right. -/
def namesIn (group : Option Nat) (leaves : List (Token × List Nat)) : List Text :=
  leaves.filterMap fun
    | (.named name, around) => if around.head? = group then some name else none
    | _ => none

/-- All parameters that stand directly in a group have a value. -/
def Complete (value? : Text → Option Text) (leaves : List (Token × List Nat)) (group : Nat) :
    Prop :=
  ∀ name ∈ namesIn (some group) leaves, (value? name).isSome

instance : DecidablePred (Complete value? leaves) := fun _ =>
  inferInstanceAs (Decidable (∀ name ∈ _, _))

/-- What a leaf is filled in to.  A parameter without a value stays as it is written. -/
def rendered (value? : Text → Option Text) : Token → Text
  | .literal text => text
  | .named name => match value? name with
    | some value => encodeComponent value
    | none => ':' :: name
  | .splat _ | .groupOpen | .groupClose => []

/-- **The leaves that are shown** are those around which all groups are complete. -/
def shown (value? : Text → Option Text) (leaves : List (Token × List Nat)) :
    List (Token × List Nat) :=
  leaves.filter fun leaf => ∀ group ∈ leaf.2, Complete value? leaves group

/-- What is shown, filled in. -/
def rendering (value? : Text → Option Text) (leaves : List (Token × List Nat)) : Text :=
  (shown value? leaves).flatMap (·.1.rendered value?)

/-- **The parameters that are missed**: they have no value and stand in no group. -/
def missed (value? : Text → Option Text) (leaves : List (Token × List Nat)) : List Text :=
  (namesIn none leaves).filter fun name => (value? name).isNone

/-! ## Leaves of a group -/

/-- A leaf with more groups around it. -/
def enclosed (outer : List Nat) (leaf : Token × List Nat) : Token × List Nat :=
  (leaf.1, leaf.2 ++ outer)

lemma map_enclosed (outer outer' : List Nat) (leaves : List (Token × List Nat)) :
    (leaves.map (enclosed outer)).map (enclosed outer') =
      leaves.map (enclosed (outer ++ outer')) := by
  simp [enclosed]

lemma placed_leaf {token : Token} (hleaf : token.isLeaf) (place : Nat) (around : List Nat)
    (tokens : List Token) :
    placed place around (token :: tokens) =
      (token, around) :: placed (place + 1) around tokens := by
  cases token
  case groupOpen | groupClose => cases hleaf
  all_goals rfl

/-- **Balanced tokens leave open the groups around them**, and those only. -/
lemma Balanced.placed_append (h : Balanced tokens) (place : Nat) (outer : List Nat)
    (rest : List Token) :
    placed place outer (tokens ++ rest) =
      (placed place [] tokens).map (enclosed outer) ++
        placed (place + tokens.length) outer rest := by
  induction h generalizing place outer rest with
  | nil => rfl
  | @leaf token tokens hleaf _ ih =>
      have hplace : place + 1 + tokens.length = place + (token :: tokens).length := by
        rw [List.length_cons]
        omega
      rw [List.cons_append, placed_leaf hleaf, placed_leaf hleaf, ih, hplace]
      rfl
  | @group body tokens _ _ ihBody ih =>
      have hplace : place + 1 + body.length + 1 + tokens.length =
          place + (Token.groupOpen :: (body ++ .groupClose :: tokens)).length := by
        simp only [List.length_cons, List.length_append]
        omega
      have halone : placed place [] (.groupOpen :: (body ++ .groupClose :: tokens)) =
          (placed (place + 1) [] body).map (enclosed [place]) ++
            placed (place + 1 + body.length + 1) [] tokens := by
        rw [placed, ihBody, placed, List.tail_cons]
      rw [halone, List.map_append, map_enclosed, List.append_assoc, ← hplace, ← ih,
        List.cons_append, List.append_assoc, List.cons_append, placed, ihBody, placed]
      rfl

/-- The leaves of a group are those of its body, with the group around them all. -/
lemma Balanced.placed_group (hbody : Balanced body) (place : Nat) :
    placed place [] (.groupOpen :: (body ++ .groupClose :: tokens)) =
      (placed (place + 1) [] body).map (enclosed [place]) ++
        placed (place + 1 + body.length + 1) [] tokens := by
  rw [placed, hbody.placed_append, placed, List.tail_cons]

/-- Groups go by places among the tokens. -/
lemma Balanced.bounds (h : Balanced tokens) {leaf : Token × List Nat}
    (hleaf : leaf ∈ placed place [] tokens) (hgroup : group ∈ leaf.2) :
    place ≤ group ∧ group < place + tokens.length := by
  induction h generalizing place leaf with
  | nil => cases hleaf
  | @leaf token tokens htoken _ ih =>
      rw [placed_leaf htoken] at hleaf
      rw [List.length_cons]
      rcases List.mem_cons.1 hleaf with rfl | hleaf
      · cases hgroup
      · have := ih hleaf hgroup
        omega
  | @group body tokens hbody _ ihBody ih =>
      rw [hbody.placed_group, List.mem_append, List.mem_map] at hleaf
      simp only [List.length_cons, List.length_append]
      rcases hleaf with ⟨inner, hinner, rfl⟩ | hleaf
      · rcases List.mem_append.1 hgroup with hgroup | hgroup
        · have := ihBody hinner hgroup
          omega
        · obtain rfl := List.mem_singleton.1 hgroup
          omega
      · have := ih hleaf hgroup
        omega

/-! ## Names in groups -/

lemma namesIn_append (group : Option Nat) (leaves leaves' : List (Token × List Nat)) :
    namesIn group (leaves ++ leaves') = namesIn group leaves ++ namesIn group leaves' :=
  List.filterMap_append

/-- Nothing stands in a group that is around no leaf. -/
lemma namesIn_eq_nil (h : ∀ leaf ∈ leaves, group ∉ leaf.2) : namesIn (some group) leaves = [] := by
  refine List.filterMap_eq_nil_iff.2 fun ⟨token, around⟩ hleaf => ?_
  cases token
  case named name => exact if_neg fun hhead => h _ hleaf (List.mem_of_head? hhead)
  all_goals rfl

/-- What stands in a group does not stand outside all groups. -/
lemma namesIn_none_enclosed : namesIn none (leaves.map (enclosed [group])) = [] := by
  rw [namesIn, List.filterMap_map]
  refine List.filterMap_eq_nil_iff.2 fun ⟨token, around⟩ _ => ?_
  cases token
  case named name => cases around <;> rfl
  all_goals rfl

/-- Directly in a group stands what stands in no group of its body. -/
lemma namesIn_enclosed_self (h : ∀ leaf ∈ leaves, group ∉ leaf.2) :
    namesIn (some group) (leaves.map (enclosed [group])) = namesIn none leaves := by
  rw [namesIn, List.filterMap_map]
  refine List.filterMap_congr fun ⟨token, around⟩ hleaf => ?_
  cases token
  case named name =>
      cases around with
      | nil => simp [enclosed]
      | cons inner around =>
          have hne : inner ≠ group := fun heq => h _ hleaf (heq ▸ List.mem_cons_self ..)
          simp [enclosed, hne]
  all_goals rfl

/-- A group inside another one keeps what stands in it. -/
lemma namesIn_enclosed_of_ne (hne : group ≠ place) :
    namesIn (some group) (leaves.map (enclosed [place])) = namesIn (some group) leaves := by
  rw [namesIn, List.filterMap_map]
  refine List.filterMap_congr fun ⟨token, around⟩ _ => ?_
  cases token
  case named name => cases around <;> simp [enclosed, hne.symm]
  all_goals rfl

/-! ## A group and what follows it

The group that opens at a place holds some leaves, and others follow it. -/

section Groups

variable {inner next : List (Token × List Nat)} {bound : Nat}
  (hinner : ∀ leaf ∈ inner, ∀ group ∈ leaf.2, place < group ∧ group < bound)
  (hnext : ∀ leaf ∈ next, ∀ group ∈ leaf.2, bound ≤ group)

include hinner hnext

lemma namesIn_self (hplace : place < bound) :
    namesIn (some place) (inner.map (enclosed [place]) ++ next) = namesIn none inner := by
  have hinside : ∀ leaf ∈ inner, place ∉ leaf.2 :=
    fun leaf hleaf hmem => Nat.lt_irrefl _ (hinner leaf hleaf place hmem).1
  have hbehind : ∀ leaf ∈ next, place ∉ leaf.2 :=
    fun leaf hleaf hmem => Nat.not_lt.2 (hnext leaf hleaf place hmem) hplace
  rw [namesIn_append, namesIn_enclosed_self hinside, namesIn_eq_nil hbehind, List.append_nil]

lemma namesIn_inner {leaf : Token × List Nat} (hleaf : leaf ∈ inner) (hgroup : group ∈ leaf.2) :
    namesIn (some group) (inner.map (enclosed [place]) ++ next) = namesIn (some group) inner := by
  obtain ⟨hinside, hbound⟩ := hinner leaf hleaf group hgroup
  have hbehind : ∀ leaf ∈ next, group ∉ leaf.2 :=
    fun leaf hleaf hmem => Nat.not_lt.2 (hnext leaf hleaf group hmem) hbound
  rw [namesIn_append, namesIn_enclosed_of_ne (Nat.ne_of_gt hinside), namesIn_eq_nil hbehind,
    List.append_nil]

lemma namesIn_next (hplace : place < bound) {leaf : Token × List Nat} (hleaf : leaf ∈ next)
    (hgroup : group ∈ leaf.2) :
    namesIn (some group) (inner.map (enclosed [place]) ++ next) = namesIn (some group) next := by
  have hbound := hnext leaf hleaf group hgroup
  have hinside : ∀ leaf ∈ inner, group ∉ leaf.2 :=
    fun leaf hleaf hmem => Nat.not_lt.2 hbound (hinner leaf hleaf group hmem).2
  have hne : group ≠ place := Nat.ne_of_gt (Nat.lt_of_lt_of_le hplace hbound)
  rw [namesIn_append, namesIn_enclosed_of_ne hne, namesIn_eq_nil hinside, List.nil_append]

/-- The group is complete if nothing is missed in its body. -/
lemma complete_self (hplace : place < bound) :
    Complete value? (inner.map (enclosed [place]) ++ next) place ↔ missed value? inner = [] := by
  rw [Complete, namesIn_self hinner hnext hplace, missed, List.filter_eq_nil_iff]
  exact forall₂_congr fun name _ => by cases value? name <;> simp

/-- **A group is shown or left out as a whole**, and what follows does not depend on it. -/
lemma shown_group (hplace : place < bound) :
    shown value? (inner.map (enclosed [place]) ++ next) =
      (if missed value? inner = [] then (shown value? inner).map (enclosed [place]) else []) ++
        shown value? next := by
  rw [shown, List.filter_append, List.filter_map]
  congr 1
  · have hself : Complete value? (inner.map (enclosed [place]) ++ next) place ↔ _ :=
      complete_self hinner hnext hplace
    split
    · next hcomplete =>
        refine congrArg _ (List.filter_congr fun leaf hleaf => decide_eq_decide.2 ?_)
        simp only [enclosed, List.forall_mem_append, List.forall_mem_singleton, hself, hcomplete,
          and_true]
        exact forall₂_congr fun group hgroup => by
          rw [Complete, Complete, namesIn_inner hinner hnext hleaf hgroup]
    · next hmissing =>
        rw [List.map_eq_nil_iff, List.filter_eq_nil_iff]
        intro leaf _ hshown
        have hall := of_decide_eq_true hshown
        exact hmissing (hself.1 (hall place (List.mem_append_right _ (List.mem_singleton_self _))))
  · refine List.filter_congr fun leaf hleaf => decide_eq_decide.2 (forall₂_congr ?_)
    intro group hgroup
    rw [Complete, Complete, namesIn_next hinner hnext hplace hleaf hgroup]

lemma rendering_group (hplace : place < bound) :
    rendering value? (inner.map (enclosed [place]) ++ next) =
      (if missed value? inner = [] then rendering value? inner else []) ++
        rendering value? next := by
  rw [rendering, shown_group hinner hnext hplace, List.flatMap_append]
  split
  · rw [List.flatMap_map]
    rfl
  · rfl

end Groups

/-- Whoever misses something outside all groups misses it behind the group. -/
lemma missed_group (inner next : List (Token × List Nat)) :
    missed value? (inner.map (enclosed [place]) ++ next) = missed value? next := by
  rw [missed, namesIn_append, namesIn_none_enclosed]
  rfl

/-! ## Filling in -/

/-- A leaf outside all groups is shown, and nothing else changes. -/
lemma rendering_cons (token : Token) (leaves : List (Token × List Nat)) :
    rendering value? ((token, []) :: leaves) =
      token.rendered value? ++ rendering value? leaves := by
  have hnames : ∀ group, namesIn (some group) ((token, []) :: leaves) =
      namesIn (some group) leaves := by
    intro group
    cases token <;> rfl
  have hshown : shown value? ((token, []) :: leaves) = (token, []) :: shown value? leaves := by
    rw [shown, List.filter_cons_of_pos (by simp)]
    refine congrArg _ (List.filter_congr fun leaf _ => decide_eq_decide.2 (forall₂_congr ?_))
    intro group _
    rw [Complete, Complete, hnames]
  rw [rendering, hshown, List.flatMap_cons]
  rfl

/-- **What balanced tokens are filled in to**: the leaves that are shown.  What is missing is what
is missed. -/
theorem Balanced.fill_ofTokens (h : Balanced tokens) (values : Params Text) (place : Nat) :
    (Shape.ofTokens tokens).fill values =
      ⟨rendering values.get? (placed place [] tokens),
        missed values.get? (placed place [] tokens)⟩ := by
  induction h generalizing place with
  | nil => rfl
  | @leaf token tokens hleaf _ ih =>
      rw [placed_leaf hleaf, rendering_cons]
      cases token
      case groupOpen | groupClose => cases hleaf
      case literal text =>
          show Shape.fill values (.literal text (Shape.ofTokens tokens)) = _
          rw [Shape.fill, ih (place + 1)]
          rfl
      case splat name =>
          show Shape.fill values (.splat name (Shape.ofTokens tokens)) = _
          rw [Shape.fill, ih (place + 1)]
          rfl
      case named name =>
          show Shape.fill values (.named name (Shape.ofTokens tokens)) = _
          rw [Shape.fill, ih (place + 1)]
          cases hvalue : values.get? name <;> simp [rendered, missed, namesIn, hvalue]
  | @group body tokens hbody htokens ihBody ih =>
      have hinner : ∀ leaf ∈ placed (place + 1) [] body, ∀ group ∈ leaf.2,
          place < group ∧ group < place + 1 + body.length :=
        fun leaf hleaf group hgroup => hbody.bounds hleaf hgroup
      have hnext : ∀ leaf ∈ placed (place + 1 + body.length + 1) [] tokens, ∀ group ∈ leaf.2,
          place + 1 + body.length ≤ group :=
        fun leaf hleaf group hgroup => Nat.le_of_succ_le (htokens.bounds hleaf hgroup).1
      rw [hbody.ofTokens_group htokens, Shape.fill, ihBody (place + 1),
        ih (place + 1 + body.length + 1), hbody.placed_group,
        rendering_group hinner hnext (by omega), missed_group]
      split <;> rfl

end Token

namespace Pattern

/-- **What a pattern is filled in to** where values are given in some way. -/
def rendering (value? : Text → Option Text) (text : Text) : Text :=
  Token.rendering value? (Token.placed 0 [] (tokenize text))

/-- The named parameters outside all groups of a pattern that have no value, from left to right. -/
def missed (value? : Text → Option Text) (text : Text) : List Text :=
  Token.missed value? (Token.placed 0 [] (tokenize text))

/-- **A pattern is filled in to its leaves** around which all groups are complete, and reports the
parameters without a value that stand in no group. -/
theorem fill_eq (pattern : Pattern) (values : Params Text) :
    fill pattern.text values =
      ⟨rendering values.get? pattern.text, missed values.get? pattern.text⟩ :=
  pattern.balanced.fill_ofTokens values 0

/-- The inner group is complete, but the group around it is not. -/
example : rendering (Params.get? (.ofList [("a".toList, "x".toList), ("c".toList, "z".toList)]))
    "/:a(/:b(/:c))/*rest".toList = "/x/".toList := by decide +kernel

/-- Whatever is missing in a group inside it, the group around it is shown. -/
example : rendering (Params.get? (.ofList [("a".toList, "x".toList), ("b".toList, "y y".toList)]))
    "/:a(/:b(/:c))/:d".toList = "/x/y%20y/:d".toList := by decide +kernel

end Pattern

end PageRouter

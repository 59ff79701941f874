import PageRouter.Proofs.Captures
import PageRouter.Proofs.Spelling

/-!
# Patterns that go on

A pattern that ends with a slash and a splat leaves the rest of a path to another pattern, and one
that begins with a slash can take it.  Written as one, without the splat, the two make a single
pattern (`Pattern.exists_joint`): the tokens of its text are those of the two, apart from the
literals that meet at the slash.

What stands in front of the slash has no groups.  Such a part is read by its values alone
(`Token.Spells`), and the number of slashes that it spells is always the same, so in a given path it
spells the same text by all readings (`Token.Spells.unique`).
-/

namespace PageRouter

open Text

/-! ## Texts that meet -/

namespace Token

variable {front tokens tokens' : List Token} {text : Text}

lemma Canonical.right (h : Canonical (front ++ tokens)) : Canonical tokens := by
  induction front with
  | nil => exact h
  | cons token front ih =>
      cases token with
      | literal text => exact ih h.2.2.2
      | named name => exact ih h.2.2
      | splat name => exact ih h.2.2
      | groupOpen => exact ih h
      | groupClose => exact ih h

/-- The end of a canonical list may be changed, if it begins with the same character. -/
lemma Canonical.change_end (h : Canonical (front ++ tokens)) (h' : Canonical tokens')
    (hhead : (literalHead tokens').head? = (literalHead tokens).head?) :
    Canonical (front ++ tokens') := by
  induction front with
  | nil => exact h'
  | cons token front ih =>
      have hfront :
          (literalHead (front ++ tokens')).head? = (literalHead (front ++ tokens)).head? := by
        cases front with
        | nil => exact hhead
        | cons next front => cases next <;> rfl
      cases token with
      | literal text =>
          obtain ⟨htext, hplain, hnone, hrest⟩ := h
          refine ⟨htext, hplain, List.head?_eq_none_iff.1 (hfront.trans ?_), ih hrest⟩
          exact List.head?_eq_none_iff.2 hnone
      | named name => exact ⟨h.1, hfront ▸ h.2.1, ih h.2.2⟩
      | splat name => exact ⟨h.1, hfront ▸ h.2.1, ih h.2.2⟩
      | groupOpen => exact ih h
      | groupClose => exact ih h

/-- A text that ends in a slash ends in a literal. -/
lemma exists_concat_slash (h : Canonical tokens) (hlast : (write tokens).getLast? = some '/') :
    ∃ front text, tokens = front ++ [.literal (text ++ ['/'])] := by
  have hname : ∀ name, IsName name → '/' ∉ name := by
    intro name hname hmem
    have hchar := hname.2 _ hmem
    revert hchar
    decide
  rcases List.eq_nil_or_concat' tokens with rfl | ⟨front, token, rfl⟩
  · cases hlast
  · have htoken := h.right
    have hslash : token.text.getLast? = some '/' := by
      rw [write, List.flatMap_append, List.flatMap_singleton, List.getLast?_append] at hlast
      cases htext : token.text.getLast? with
      | none =>
          rw [List.getLast?_eq_none_iff] at htext
          cases token
          case literal => exact absurd htext htoken.1
          all_goals cases htext
      | some c => rwa [htext, Option.some_or] at hlast
    cases token with
    | literal text =>
        obtain ⟨start, rfl⟩ := List.getLast?_eq_some_iff.1 hslash
        exact ⟨front, start, rfl⟩
    | named name | splat name =>
        have hmem := List.mem_of_getLast? hslash
        rw [Token.text, List.mem_cons] at hmem
        exact absurd (hmem.resolve_left (by decide)) (hname name htoken.1)
    | groupOpen | groupClose => cases hslash

/-- A text that begins with a slash begins with a literal. -/
lemma tokenize_slash (text : Text) : ∃ start tokens,
    tokenize ('/' :: text) = .literal ('/' :: start) :: tokens := by
  have hpush : push '/' (tokenize text) = pushLiteral ['/'] (tokenize text) :=
    push_of_ordinary (by decide) (by decide)
  rw [tokenize, List.foldr_cons, ← tokenize, hpush, pushLiteral_of_ne_nil (by simp)]
  exact ⟨_, _, rfl⟩

/-- The text in front of a slash at the end, spelled by the tokens in front of it. -/
lemma write_start {start : Text}
    (h : tokenize (text ++ ['/']) = front ++ [.literal (start ++ ['/'])]) :
    write front ++ start = text := by
  have hwritten := write_tokenize (text ++ ['/'])
  rw [h, write, List.flatMap_append, List.flatMap_singleton, Token.text, ← List.append_assoc]
    at hwritten
  exact List.append_cancel_right hwritten

/-- **Texts that meet at a slash** join their literals there. -/
theorem tokenize_join {start start' rest : Text}
    (h : tokenize (text ++ ['/']) = front ++ [.literal (start ++ ['/'])])
    (h' : tokenize ('/' :: rest) = .literal ('/' :: start') :: tokens) :
    tokenize (text ++ '/' :: rest) = front ++ .literal (start ++ '/' :: start') :: tokens := by
  have hcanonical := canonical_tokenize (text ++ ['/'])
  have hcanonical' := canonical_tokenize ('/' :: rest)
  rw [h] at hcanonical
  rw [h'] at hcanonical'
  obtain ⟨-, hplain, -⟩ := hcanonical.right
  obtain ⟨-, hplain', hhead, hrest⟩ := hcanonical'
  have hmeet : Canonical (.literal (start ++ '/' :: start') :: tokens) := by
    refine ⟨by simp, hplain.left_of_append.append hplain' ?_, hhead, hrest⟩
    simp [isNameChar, isLetter, isDigit]
  have hwrite :
      write (front ++ .literal (start ++ '/' :: start') :: tokens) = text ++ '/' :: rest := by
    have hrest : start' ++ write tokens = rest := by
      have hwritten := write_tokenize ('/' :: rest)
      rw [h'] at hwritten
      exact (List.cons.inj hwritten).2
    rw [← write_start h, ← hrest]
    simp [write, Token.text]
  rw [← hwrite]
  refine tokenize_write (hcanonical.change_end hmeet ?_)
  cases start <;> rfl

end Token

/-! ## Parts without groups -/

namespace Token

/-- A token that stands for text in one way only: no splat and no parenthesis. -/
def isFlat : Token → Bool
  | .literal _ | .named _ => true
  | .splat _ | .groupOpen | .groupClose => false

/-- **What tokens without groups and splats spell**, with these values for the named parameters. -/
inductive Spells : List Token → List Text → Text → Prop
  | nil : Spells [] [] []
  | literal {text path : Text} {tokens : List Token} {values : List Text} :
      Spells tokens values path → Spells (.literal text :: tokens) values (text ++ path)
  | named {name value path : Text} {tokens : List Token} {values : List Text} : value ≠ [] →
      (∀ c ∈ value, c ≠ '/' ∧ c ≠ '?') → Spells tokens values path →
      Spells (.named name :: tokens) (value :: values) (value ++ path)

/-- The named parameters, none of them in a group. -/
def ownParams (tokens : List Token) : List Param :=
  tokens.filterMap fun
    | .named name => some ⟨name, .named, false⟩
    | _ => none

variable {front tokens : List Token} {values values' : List Text} {text path path' : Text}

namespace Spells

lemma concat_literal (h : Spells tokens values path) (text : Text) :
    Spells (tokens ++ [.literal text]) values (path ++ text) := by
  induction h with
  | nil => simpa using (Spells.literal .nil : Spells [.literal text] [] (text ++ []))
  | literal _ ih => rw [List.append_assoc]; exact .literal ih
  | named hne hvalue _ ih => rw [List.append_assoc]; exact .named hne hvalue ih

lemma of_concat_literal (h : Spells (tokens ++ [.literal text]) values path) :
    ∃ before, Spells tokens values before ∧ path = before ++ text := by
  induction tokens generalizing values path with
  | nil =>
      cases h with
      | literal h =>
          cases h
          exact ⟨[], .nil, List.append_nil text⟩
  | cons token tokens ih =>
      cases h with
      | literal h =>
          obtain ⟨before, hbefore, rfl⟩ := ih h
          exact ⟨_, .literal hbefore, (List.append_assoc ..).symm⟩
      | named hne hvalue h =>
          obtain ⟨before, hbefore, rfl⟩ := ih h
          exact ⟨_, .named hne hvalue hbefore, (List.append_assoc ..).symm⟩

lemma length_values (h : Spells tokens values path) : values.length = (ownParams tokens).length := by
  induction h with
  | nil => rfl
  | literal _ ih => exact ih
  | named _ _ _ ih => exact congrArg (· + 1) ih

/-- The values do not change the number of slashes. -/
lemma count_slash (h : Spells tokens values path) (h' : Spells tokens values' path') :
    path.count '/' = path'.count '/' := by
  have hnone : ∀ value : Text, (∀ c ∈ value, c ≠ '/' ∧ c ≠ '?') → value.count '/' = 0 :=
    fun value hvalue => List.count_eq_zero.2 fun hmem => (hvalue _ hmem).1 rfl
  induction h generalizing values' path' with
  | nil =>
      cases h'
      rfl
  | literal _ ih =>
      cases h' with
      | literal h' => rw [List.count_append, List.count_append, ih h']
  | named _ hvalue _ ih =>
      cases h' with
      | named _ hvalue' h' =>
          rw [List.count_append, List.count_append, hnone _ hvalue, hnone _ hvalue', ih h']

/-- **In one path it is always the same text** that is spelled up to a certain slash. -/
theorem unique (h : Spells tokens values path) (h' : Spells tokens values' path')
    {rest rest' : Text} (heq : path ++ '/' :: rest = path' ++ '/' :: rest') :
    path = path' ∧ rest = rest' := by
  have hcount := h.count_slash h'
  rcases List.append_eq_append_iff.1 heq with ⟨more, rfl, hrest⟩ | ⟨more, rfl, hrest⟩
  · cases more with
    | nil => exact ⟨(List.append_nil _).symm, List.cons.inj hrest |>.2⟩
    | cons c more =>
        obtain ⟨rfl, -⟩ := List.cons.inj hrest
        simp at hcount
  · cases more with
    | nil => exact ⟨List.append_nil _, (List.cons.inj hrest).2.symm⟩
    | cons c more =>
        obtain ⟨rfl, -⟩ := List.cons.inj hrest
        simp at hcount

lemma write_eq_nil (h : Spells tokens values path) (hpath : path = []) : write tokens = [] := by
  induction h with
  | nil => rfl
  | literal _ ih =>
      obtain ⟨rfl, hrest⟩ := List.append_eq_nil_iff.1 hpath
      exact ih hrest
  | named hne => exact absurd (List.append_eq_nil_iff.1 hpath).1 hne

/-- What is spelled ends in a slash only if the tokens do. -/
lemma getLast?_write (h : Spells tokens values path) (hlast : path.getLast? = some '/') :
    (write tokens).getLast? = some '/' := by
  induction h with
  | nil => cases hlast
  | @literal text path tokens _ h ih =>
      have hwrite : write (.literal text :: tokens) = text ++ write tokens := rfl
      rw [List.getLast?_append] at hlast
      rw [hwrite, List.getLast?_append]
      cases hpath : path.getLast? with
      | none =>
          rw [hpath, Option.none_or] at hlast
          rw [h.write_eq_nil (List.getLast?_eq_none_iff.1 hpath)]
          exact hlast
      | some c => rw [ih (by rwa [hpath, Option.some_or, ← hpath] at hlast), Option.some_or]
  | @named name value path tokens _ hne hvalue h ih =>
      have hwrite : write (.named name :: tokens) = (':' :: name) ++ write tokens := rfl
      rw [List.getLast?_append] at hlast
      rw [hwrite, List.getLast?_append]
      cases hpath : path.getLast? with
      | none =>
          rw [hpath, Option.none_or] at hlast
          exact absurd rfl (hvalue _ (List.mem_of_getLast? hlast)).1
      | some c => rw [ih (by rwa [hpath, Option.some_or, ← hpath] at hlast), Option.some_or]

end Spells

end Token

/-! ## Sequences that go on -/

namespace Shape

/-- **A sequence that goes on** with `rest` behind tokens without groups and splats. -/
structure Extends (whole : Shape) (front : List Token) (rest : Shape) : Prop where
  reads : ∀ {choices captures path}, whole.Reads choices captures path ↔
    ∃ values before choices' captures' after, Token.Spells front values before ∧
      rest.Reads choices' captures' after ∧ choices = values.map .named ++ choices' ∧
      captures = values.map some ++ captures' ∧ path = before ++ after
  params : whole.params false = Token.ownParams front ++ rest.params false

variable {whole rest : Shape} {front tokens : List Token}

namespace Extends

lemma refl (shape : Shape) : shape.Extends [] shape := by
  refine ⟨⟨fun h => ⟨[], [], _, _, _, .nil, h, rfl, rfl, rfl⟩, ?_⟩, rfl⟩
  rintro ⟨_, _, _, _, _, ⟨⟩, hreads, rfl, rfl, rfl⟩
  exact hreads

lemma literal (h : whole.Extends front rest) (text : Text) :
    (Shape.literal text whole).Extends (.literal text :: front) rest := by
  refine ⟨⟨fun hreads => ?_, ?_⟩, h.params⟩
  · cases hreads with
    | literal hreads =>
        obtain ⟨values, before, _, _, after, hspells, hrest, rfl, rfl, rfl⟩ := h.reads.1 hreads
        exact ⟨values, _, _, _, after, .literal hspells, hrest, rfl, rfl,
          (List.append_assoc ..).symm⟩
  · rintro ⟨values, _, _, _, after, hspells, hrest, rfl, rfl, rfl⟩
    cases hspells with
    | literal hspells =>
        rw [List.append_assoc]
        exact .literal (h.reads.2 ⟨values, _, _, _, after, hspells, hrest, rfl, rfl, rfl⟩)

lemma named (h : whole.Extends front rest) (name : Text) :
    (Shape.named name whole).Extends (.named name :: front) rest := by
  refine ⟨⟨fun hreads => ?_, ?_⟩, congrArg (List.cons (⟨name, .named, false⟩ : Param)) h.params⟩
  · cases hreads with
    | named hne hvalue hreads =>
        obtain ⟨values, before, _, _, after, hspells, hrest, rfl, rfl, rfl⟩ := h.reads.1 hreads
        exact ⟨_, _, _, _, after, .named hne hvalue hspells, hrest, rfl, rfl,
          (List.append_assoc ..).symm⟩
  · rintro ⟨_, _, _, _, after, hspells, hrest, rfl, rfl, rfl⟩
    cases hspells with
    | named hne hvalue hspells =>
        rw [List.append_assoc]
        exact .named hne hvalue (h.reads.2 ⟨_, _, _, _, after, hspells, hrest, rfl, rfl, rfl⟩)

/-- A literal that begins what follows can be cut in two. -/
lemma cut {text text' : Text} (h : whole.Extends front (.literal (text ++ text') rest)) :
    whole.Extends (front ++ [.literal text]) (.literal text' rest) := by
  refine ⟨⟨fun hreads => ?_, ?_⟩, ?_⟩
  · obtain ⟨values, before, _, _, _, hspells, hrest, rfl, rfl, rfl⟩ := h.reads.1 hreads
    cases hrest with
    | literal hrest =>
        exact ⟨values, _, _, _, _, hspells.concat_literal text, .literal hrest, rfl, rfl,
          by simp only [List.append_assoc]⟩
  · rintro ⟨values, _, _, _, _, hspells, hrest, rfl, rfl, rfl⟩
    obtain ⟨before, hfront, rfl⟩ := hspells.of_concat_literal
    cases hrest with
    | literal hrest =>
        exact h.reads.2 ⟨values, before, _, _, _, hfront, .literal hrest, rfl, rfl,
          by simp only [List.append_assoc]⟩
  · rw [h.params, Token.ownParams, Token.ownParams, List.filterMap_append, List.append_assoc]
    rfl

end Extends

lemma ofTokens_literal (text : Text) (tokens : List Token) :
    ofTokens (.literal text :: tokens) = .literal text (ofTokens tokens) := rfl

/-- The shape of a list goes on behind its part without groups and splats. -/
lemma extends_ofTokens (hfront : ∀ token ∈ front, token.isFlat) :
    (ofTokens (front ++ tokens)).Extends front (ofTokens tokens) := by
  induction front with
  | nil => exact .refl _
  | cons token front ih =>
      have ih := ih fun other hother => hfront other (List.mem_cons_of_mem _ hother)
      cases token with
      | literal text => exact ih.literal text
      | named name => exact ih.named name
      | splat name | groupOpen | groupClose => cases hfront _ (List.mem_cons_self ..)

lemma nesting_ofTokens (hfront : ∀ token ∈ front, token.isFlat) :
    (ofTokens (front ++ tokens)).nesting =
      max (ofTokens front).nesting (ofTokens tokens).nesting := by
  induction front with
  | nil => exact (Nat.zero_max _).symm
  | cons token front ih =>
      have ih := ih fun other hother => hfront other (List.mem_cons_of_mem _ hother)
      cases token with
      | literal text => exact ih
      | named name => exact (congrArg (max 4) ih).trans (Nat.max_assoc ..).symm
      | splat name | groupOpen | groupClose => cases hfront _ (List.mem_cons_self ..)

end Shape

section Faults

variable {front tokens : List Token}

/-- Tokens without groups and splats are no offence. -/
lemma faultOf_append (hfront : ∀ token ∈ front, token.isFlat) (depth : Nat) :
    faultOf false depth (front ++ tokens) = faultOf false depth tokens := by
  induction front with
  | nil => rfl
  | cons token front ih =>
      have ih := ih fun other hother => hfront other (List.mem_cons_of_mem _ hother)
      cases token with
      | literal text | named name => exact ih
      | splat name | groupOpen | groupClose => cases hfront _ (List.mem_cons_self ..)

/-- In front of a splat, what has no parenthesis has no groups and no splats. -/
lemma isFlat_of_faultOf {text name : Text} {depth : Nat}
    (h : faultOf false depth (front ++ [.literal text, .splat name]) = none)
    (hopen : '(' ∉ Token.write front) (hclose : ')' ∉ Token.write front) :
    ∀ token ∈ front, token.isFlat := by
  intro token htoken
  have hmem : ∀ c ∈ token.text, c ∈ Token.write front :=
    fun c hc => List.mem_flatMap.2 ⟨token, htoken, hc⟩
  cases token with
  | literal text | named name => rfl
  | splat other =>
      have hlast := (splatLast_of_faultOf h).2
      rw [List.filter_append] at hlast
      cases hlast.eq_nil (List.mem_filter.2 ⟨htoken, rfl⟩)
  | groupOpen => exact absurd (hmem '(' (by simp [Token.text])) hopen
  | groupClose => exact absurd (hmem ')' (by simp [Token.text])) hclose

end Faults

/-! ## Two patterns as one -/

namespace Pattern

/-- **Two patterns as one.**  Behind `front` the outer pattern has a slash and a splat, and the flat
one has all of the inner pattern, which begins with a slash. -/
structure Joint (front : List Token) (outer inner flat : Pattern) : Prop where
  outer_eq : outer.shape.Extends front (.literal ['/'] (.splat ['r'] .done))
  flat_eq : flat.shape.Extends front inner.shape
  slash : ∃ text next, inner.shape = .literal ('/' :: text) next
  /-- In front of the slash there is no other one. -/
  last : (Token.write front).getLast? ≠ some '/'

/-- **Texts that meet at a slash** make one pattern. -/
theorem exists_joint {text rest : Text} {outer inner : Pattern} (hopen : '(' ∉ text)
    (hclose : ')' ∉ text) (hlast : text.getLast? ≠ some '/')
    (houter : outer.text = text ++ "/*r".toList) (hinner : inner.text = '/' :: rest) :
    ∃ front flat, flat.text = text ++ '/' :: rest ∧ Joint front outer inner flat := by
  obtain ⟨front, start, htokens⟩ := Token.exists_concat_slash
    (Token.canonical_tokenize (text ++ ['/'])) (by rw [Token.write_tokenize]; simp)
  obtain ⟨start', tokens', htokens'⟩ := Token.tokenize_slash rest
  have hwrite := Token.write_start htokens
  have houterTokens : tokenize outer.text = front ++ [.literal (start ++ ['/']), .splat ['r']] := by
    have hsplat : tokenize "/*r".toList = [.literal ['/'], .splat ['r']] := by decide
    rw [houter]
    exact Token.tokenize_join htokens hsplat
  have hinnerTokens : tokenize inner.text = .literal ('/' :: start') :: tokens' := by
    rw [hinner, htokens']
  have hflatTokens := Token.tokenize_join htokens htokens'
  have hfront : ∀ token ∈ front, token.isFlat :=
    isFlat_of_faultOf (houterTokens ▸ outer.faultless)
      (fun hmem => hopen (hwrite ▸ List.mem_append_left _ hmem))
      fun hmem => hclose (hwrite ▸ List.mem_append_left _ hmem)
  have hfault : faultOf false 0 (tokenize (text ++ '/' :: rest)) = none := by
    rw [hflatTokens, faultOf_append hfront]
    have hinnerFault := inner.faultless
    rw [hinnerTokens] at hinnerFault
    exact hinnerFault
  have houterShape : outer.shape.Extends front (.literal (start ++ ['/']) (.splat ['r'] .done)) := by
    rw [outer.shape_eq, Shape.ofText, houterTokens]
    exact Shape.extends_ofTokens hfront
  have hinnerShape : inner.shape = .literal ('/' :: start') (Shape.ofTokens tokens') := by
    rw [inner.shape_eq, Shape.ofText, hinnerTokens]
    rfl
  have hflatShape : (Shape.ofText (text ++ '/' :: rest)).Extends front
      (.literal (start ++ '/' :: start') (Shape.ofTokens tokens')) := by
    rw [Shape.ofText, hflatTokens]
    exact Shape.extends_ofTokens hfront
  have hnesting : 1 + (Shape.ofText (text ++ '/' :: rest)).nesting ≤ nestingLimit := by
    have houterNesting := outer.shallow
    have hinnerNesting := inner.shallow
    rw [outer.shape_eq, Shape.ofText, houterTokens, Shape.nesting_ofTokens hfront] at houterNesting
    rw [hinnerShape, Shape.nesting] at hinnerNesting
    rw [Shape.ofText, hflatTokens, Shape.nesting_ofTokens hfront, Shape.ofTokens_literal,
      Shape.nesting]
    omega
  refine ⟨front ++ [.literal start], ⟨_, _, rfl, by simp, hfault, hnesting⟩, rfl, houterShape.cut, ?_,
    ⟨_, _, hinnerShape⟩, ?_⟩
  · rw [hinnerShape]
    exact hflatShape.cut
  · rw [Token.write, List.flatMap_append, List.flatMap_singleton, Token.text]
    exact hwrite ▸ hlast

end Pattern

end PageRouter

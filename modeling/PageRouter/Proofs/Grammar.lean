import PageRouter.Proofs.Captures

/-!
# The grammar of patterns

A pattern is a sequence of units, and then a tail or nothing.  A unit is a literal, a named
parameter, or a group of units; a tail is a splat, or a group of units that ends in a tail.
`faultOf` reads the tokens once, with the number of open groups and whether the splat has passed;
`faultOf_eq_none_iff` says that it accepts the grammar.

The reading is one token at a time, so a fault is found at the first token behind which nothing can
follow: what comes before it has a continuation that is accepted, and no continuation of the token
is (`faultOf_leftmost`).  Only where there is no such token is a group left open, and as many `)` as
are reported would complete the pattern (`faultOf_unclosed`).

A pattern that is accepted is read token by token (`Token.ReadAs`), and its parameters, the capturing
groups of its regular expression and their captures are those of the parameter tokens, from left to
right.  `Pattern.compile_grammar` puts this together.
-/

namespace PageRouter

open Text

namespace Token

/-! ## The grammar -/

/-- **Units**: literals, named parameters and groups of units. -/
inductive Units : List Token → Prop
  | nil : Units []
  | literal {text : Text} {tokens : List Token} : Units tokens → Units (.literal text :: tokens)
  | named {name : Text} {tokens : List Token} : Units tokens → Units (.named name :: tokens)
  | group {body tokens : List Token} : Units body → Units tokens →
      Units (.groupOpen :: (body ++ .groupClose :: tokens))

/-- **A tail**: the splat, in any number of groups that end with it. -/
inductive Tail : List Token → Prop
  | splat {name : Text} : Tail [.splat name]
  | group {units tail : List Token} : Units units → Tail tail →
      Tail (.groupOpen :: (units ++ tail ++ [.groupClose]))

/-- The tokens of a pattern. -/
def Accepted (tokens : List Token) : Prop :=
  Units tokens ∨ ∃ units tail, Units units ∧ Tail tail ∧ tokens = units ++ tail

/-- The tokens at which a pattern can begin. -/
def Viable (tokens : List Token) : Prop :=
  ∃ more, Accepted (tokens ++ more)

/-- Why a token that cannot follow what precedes it cannot do so. -/
def offence : Token → PatternFault
  | .literal _ => .literalAfterSplat
  | .named name => .namedAfterSplat name
  | .splat name => .secondSplat name
  | .groupOpen => .groupAfterSplat
  | .groupClose => .unmatchedClose

variable {tokens tokens' units tail : List Token} {depth : Nat} {seen : Bool}

lemma Units.append (h : Units units) (h' : Units tokens) : Units (units ++ tokens) := by
  induction h with
  | nil => exact h'
  | literal _ ih => exact .literal ih
  | named _ ih => exact .named ih
  | group hbody _ _ ih =>
      rw [List.cons_append, List.append_assoc, List.cons_append]
      exact .group hbody ih

/-! ## The check accepts the grammar -/

/-- Units change nothing. -/
lemma Units.faultOf (h : Units units) (depth : Nat) (rest : List Token) :
    faultOf false depth (units ++ rest) = PageRouter.faultOf false depth rest := by
  induction h generalizing depth rest with
  | nil => rfl
  | literal _ ih | named _ ih => exact ih depth rest
  | @group body tokens _ _ ihBody ih =>
      calc PageRouter.faultOf false depth (.groupOpen :: (body ++ .groupClose :: tokens) ++ rest)
          = PageRouter.faultOf false (depth + 1) (body ++ .groupClose :: (tokens ++ rest)) := by
            simp [PageRouter.faultOf]
        _ = PageRouter.faultOf false depth (tokens ++ rest) := ihBody ..
        _ = _ := ih ..

/-- Behind a tail the splat has passed. -/
lemma Tail.faultOf (h : Tail tail) (depth : Nat) (rest : List Token) :
    faultOf false depth (tail ++ rest) = PageRouter.faultOf true depth rest := by
  induction h generalizing depth rest with
  | splat => rfl
  | @group units tail hunits _ ih =>
      calc PageRouter.faultOf false depth (.groupOpen :: (units ++ tail ++ [.groupClose]) ++ rest)
          = PageRouter.faultOf false (depth + 1) (units ++ (tail ++ .groupClose :: rest)) := by
            simp [PageRouter.faultOf]
        _ = PageRouter.faultOf false (depth + 1) (tail ++ .groupClose :: rest) := hunits.faultOf ..
        _ = _ := ih ..

/-- What may follow inside `depth` groups: units up to the end of the innermost group, and the same
for the groups around it, until a tail after which only the ends of groups follow. -/
inductive Completes : Nat → List Token → Prop
  | last {units : List Token} : Units units → Completes 0 units
  | close {depth : Nat} {units tokens : List Token} : Units units → Completes depth tokens →
      Completes (depth + 1) (units ++ .groupClose :: tokens)
  | tail {depth : Nat} {units tail : List Token} : Units units → Tail tail →
      Completes depth (units ++ tail ++ List.replicate depth .groupClose)

lemma Completes.prepend (hunits : Units units) (h : Completes depth tokens) :
    Completes depth (units ++ tokens) := by
  cases h with
  | last hmore => exact .last (hunits.append hmore)
  | close hmore hrest =>
      rw [← List.append_assoc]
      exact .close (hunits.append hmore) hrest
  | tail hmore htail =>
      rw [← List.append_assoc, ← List.append_assoc]
      exact .tail (hunits.append hmore) htail

/-- A group that opens in front is the innermost one of what follows. -/
lemma Completes.open (h : Completes (depth + 1) tokens) : Completes depth (.groupOpen :: tokens) := by
  cases h with
  | close hbody hrest =>
      have hgroup := hrest.prepend (Units.group hbody .nil)
      rwa [List.cons_append, List.append_assoc] at hgroup
  | @tail _ units tail hunits htail =>
      have hgroup : Completes depth ([] ++ _ ++ List.replicate depth .groupClose) :=
        .tail .nil (Tail.group hunits htail)
      simpa [List.replicate_succ] using hgroup

lemma completes_zero_iff : Completes 0 tokens ↔ Accepted tokens := by
  constructor
  · intro h
    cases h with
    | last hunits => exact .inl hunits
    | tail hunits htail => exact .inr ⟨_, _, hunits, htail, List.append_nil _⟩
  · rintro (hunits | ⟨units, tail, hunits, htail, rfl⟩)
    · exact .last hunits
    · simpa using (Completes.tail hunits htail : Completes 0 _)

/-- Behind the splat only the ends of the open groups may follow. -/
lemma faultOf_true_eq_none_iff :
    faultOf true depth tokens = none ↔ tokens = List.replicate depth .groupClose := by
  induction tokens generalizing depth with
  | nil => cases depth <;> simp [faultOf, List.replicate_succ]
  | cons token tokens ih =>
      cases token
      case groupClose => cases depth <;> simp [faultOf, List.replicate_succ, ih]
      all_goals cases depth <;> simp [faultOf, List.replicate_succ]

/-- **The check accepts what may follow.** -/
theorem faultOf_false_eq_none_iff : faultOf false depth tokens = none ↔ Completes depth tokens := by
  constructor
  · intro h
    induction tokens generalizing depth with
    | nil =>
        rw [faultOf] at h
        split at h
        · next hdepth => exact hdepth ▸ .last .nil
        · cases h
    | cons token tokens ih =>
        cases token with
        | literal text => exact (ih h).prepend (Units.literal .nil)
        | named name => exact (ih h).prepend (Units.named .nil)
        | splat name =>
            rw [faultOf_true_eq_none_iff.1 h]
            exact .tail .nil .splat
        | groupOpen => exact (ih h).open
        | groupClose =>
            cases depth with
            | zero => cases h
            | succ depth => exact .close .nil (ih h)
  · intro h
    induction h with
    | last hunits => exact (congrArg (faultOf false 0) (List.append_nil _).symm).trans (hunits.faultOf 0 [])
    | close hunits _ ih => rw [hunits.faultOf]; exact ih
    | tail hunits htail =>
        rw [List.append_assoc, hunits.faultOf, htail.faultOf]
        exact faultOf_true_eq_none_iff.2 rfl

/-- **The check accepts the grammar.** -/
theorem faultOf_eq_none_iff : faultOf false 0 tokens = none ↔ Accepted tokens :=
  faultOf_false_eq_none_iff.trans completes_zero_iff

/-! ## The first fault -/

/-- A check can succeed whatever groups are open. -/
lemma faultOf_replicate_close (seen : Bool) (depth : Nat) :
    faultOf seen depth (List.replicate depth .groupClose) = none := by
  induction depth with
  | zero => rfl
  | succ depth ih => exact ih

/-- **A fault at a token** is found whatever follows the token, and not before the token. -/
theorem faultOf_leftmost {fault : PatternFault} (h : faultOf seen depth tokens = some fault)
    (hopen : ∀ count, fault ≠ .unclosed count) : ∃ before token after,
      tokens = before ++ token :: after ∧ fault = token.offence ∧
      (∃ more, faultOf seen depth (before ++ more) = none) ∧
      ∀ more, faultOf seen depth (before ++ token :: more) = some fault := by
  induction tokens generalizing seen depth with
  | nil =>
      rw [faultOf] at h
      split at h
      · cases h
      · cases h
        exact absurd rfl (hopen depth)
  | cons token tokens ih =>
      -- the token is at fault, or it leads to the check of what follows it
      have hstep : (fault = token.offence ∧
            ∀ more, faultOf seen depth (token :: more) = some fault) ∨
          ∃ seen' depth', ∀ more, faultOf seen depth (token :: more) = faultOf seen' depth' more := by
        cases token with
        | groupClose =>
            cases depth with
            | zero => exact .inl ⟨(Option.some.inj h).symm, fun _ => h⟩
            | succ depth => exact .inr ⟨seen, depth, fun _ => rfl⟩
        | literal text | named name | splat name | groupOpen =>
            cases seen with
            | true => exact .inl ⟨(Option.some.inj h).symm, fun _ => h⟩
            | false => exact .inr ⟨_, _, fun _ => rfl⟩
      rcases hstep with ⟨hoffence, hfault⟩ | ⟨seen', depth', hstep⟩
      · exact ⟨[], token, tokens, rfl, hoffence, ⟨_, faultOf_replicate_close seen depth⟩, hfault⟩
      · rw [hstep] at h
        obtain ⟨before, offender, after, rfl, hoffence, ⟨more, hmore⟩, hfault⟩ := ih h
        refine ⟨token :: before, offender, after, rfl, hoffence, ⟨more, ?_⟩, fun more => ?_⟩
        · exact (hstep _).trans hmore
        · exact (hstep _).trans (hfault more)

/-- **Groups left open** are as many as there are `(` without a `)`, and as many `)` complete the
pattern. -/
theorem faultOf_unclosed {count : Nat} (h : faultOf seen depth tokens = some (.unclosed count)) :
    0 < count ∧ depth + tokens.count .groupOpen = tokens.count .groupClose + count ∧
      faultOf seen depth (tokens ++ List.replicate count .groupClose) = none := by
  induction tokens generalizing seen depth with
  | nil =>
      rw [faultOf] at h
      split at h
      · cases h
      · next hdepth =>
          cases h
          exact ⟨Nat.pos_of_ne_zero hdepth, by simp, faultOf_replicate_close seen _⟩
  | cons token tokens ih =>
      cases token with
      | groupClose =>
          cases depth with
          | zero => cases h
          | succ depth =>
              obtain ⟨hpos, hcount, hmore⟩ := ih h
              refine ⟨hpos, ?_, hmore⟩
              rw [List.count_cons_self, List.count_cons_of_ne (by decide)]
              omega
      | groupOpen =>
          cases seen with
          | true => cases h
          | false =>
              obtain ⟨hpos, hcount, hmore⟩ := ih h
              refine ⟨hpos, ?_, hmore⟩
              rw [List.count_cons_self, List.count_cons_of_ne (by decide)]
              omega
      | literal text | named name | splat name =>
          cases seen with
          | true => cases h
          | false =>
              obtain ⟨hpos, hcount, hmore⟩ := ih h
              exact ⟨hpos, by simpa [List.count_cons] using hcount, hmore⟩

/-- **Where a fault lies**: at the first token behind which nothing can follow, or at the end, where
groups are open. -/
theorem viable_of_faultOf {fault : PatternFault} (h : faultOf false 0 tokens = some fault) :
    (∃ before token after, tokens = before ++ token :: after ∧ Viable before ∧
      ¬Viable (before ++ [token]) ∧ fault = token.offence) ∨
    (Viable tokens ∧ ∃ count, 0 < count ∧ fault = .unclosed count ∧
      tokens.count .groupOpen = tokens.count .groupClose + count) := by
  by_cases hopen : ∃ count, fault = .unclosed count
  · obtain ⟨count, rfl⟩ := hopen
    obtain ⟨hpos, hcount, hmore⟩ := faultOf_unclosed h
    rw [Nat.zero_add] at hcount
    exact .inr ⟨⟨_, faultOf_eq_none_iff.1 hmore⟩, count, hpos, rfl, hcount⟩
  · obtain ⟨before, token, after, htokens, hoffence, ⟨more, hmore⟩, hstays⟩ :=
      faultOf_leftmost h fun count hcount => hopen ⟨count, hcount⟩
    refine .inl ⟨before, token, after, htokens, ⟨more, faultOf_eq_none_iff.1 hmore⟩, ?_, hoffence⟩
    rintro ⟨rest, hrest⟩
    rw [List.append_assoc, List.singleton_append, ← faultOf_eq_none_iff, hstays] at hrest
    cases hrest

/-! ## Groups -/

/-- Tokens whose parentheses pair. -/
inductive Balanced : List Token → Prop
  | nil : Balanced []
  | leaf {token : Token} {tokens : List Token} : token.isLeaf → Balanced tokens →
      Balanced (token :: tokens)
  | group {body tokens : List Token} : Balanced body → Balanced tokens →
      Balanced (.groupOpen :: (body ++ .groupClose :: tokens))

lemma Balanced.append (h : Balanced tokens) (h' : Balanced tokens') :
    Balanced (tokens ++ tokens') := by
  induction h with
  | nil => exact h'
  | leaf hleaf _ ih => exact .leaf hleaf ih
  | group hbody _ _ ih =>
      rw [List.cons_append, List.append_assoc, List.cons_append]
      exact .group hbody ih

lemma Units.balanced (h : Units units) : Balanced units := by
  induction h with
  | nil => exact .nil
  | literal _ ih | named _ ih => exact .leaf rfl ih
  | group _ _ ihBody ih => exact .group ihBody ih

lemma Tail.balanced (h : Tail tail) : Balanced tail := by
  induction h with
  | splat => exact .leaf rfl .nil
  | group hunits _ ih => exact .group (hunits.balanced.append ih) .nil

lemma Accepted.balanced (h : Accepted tokens) : Balanced tokens := by
  obtain hunits | ⟨units, tail, hunits, htail, rfl⟩ := h
  · exact hunits.balanced
  · exact hunits.balanced.append htail.balanced

/-- Balanced tokens close the groups that they open, and no others. -/
lemma Balanced.foldr_push (h : Balanced tokens) (outer : List Shape) :
    tokens.foldr Shape.push (.done, outer) = (Shape.ofTokens tokens, outer) := by
  induction h generalizing outer with
  | nil => rfl
  | @leaf token tokens hleaf _ ih =>
      rw [Shape.ofTokens, List.foldr_cons, List.foldr_cons, ih, ih]
      cases token
      case groupOpen | groupClose => cases hleaf
      all_goals rfl
  | @group body tokens _ _ ihBody ih =>
      have hstep : ∀ outer, (Token.groupOpen :: (body ++ .groupClose :: tokens)).foldr Shape.push
          (.done, outer) = (.group (Shape.ofTokens body) (Shape.ofTokens tokens), outer) := by
        intro outer
        rw [List.foldr_cons, List.foldr_append, List.foldr_cons, ih]
        simp only [Shape.push, ihBody]
      rw [Shape.ofTokens, hstep, hstep]

/-- The shape of a group is a group. -/
lemma Balanced.ofTokens_group {body : List Token} (hbody : Balanced body)
    (htokens : Balanced tokens) :
    Shape.ofTokens (.groupOpen :: (body ++ .groupClose :: tokens)) =
      .group (Shape.ofTokens body) (Shape.ofTokens tokens) := by
  rw [Shape.ofTokens, List.foldr_cons, List.foldr_append, List.foldr_cons, htokens.foldr_push]
  simp only [Shape.push, hbody.foldr_push]

lemma Balanced.leaves_ofTokens (h : Balanced tokens) :
    (Shape.ofTokens tokens).leaves = tokens.filter isLeaf := by
  have hleaves := Shape.leaves_foldr tokens
  rwa [h.foldr_push, List.flatMap_nil, List.append_nil] at hleaves

/-- A shape has as many parameters as there are parameter tokens. -/
lemma Balanced.map_leaf_params (h : Balanced tokens) (optional : Bool) :
    ((Shape.ofTokens tokens).params optional).map Param.leaf = tokens.filter isParam := by
  rw [Shape.map_leaf_params, h.leaves_ofTokens, List.filter_filter]
  refine List.filter_congr fun token _ => ?_
  cases token <;> rfl

/-! ## Parameters -/

/-- The parameters of a list of tokens that stands in `depth` groups. -/
def parameters (depth : Nat) : List Token → List Param
  | [] => []
  | .literal _ :: tokens => parameters depth tokens
  | .named name :: tokens => ⟨name, .named, 0 < depth⟩ :: parameters depth tokens
  | .splat name :: tokens => ⟨name, .splat, 0 < depth⟩ :: parameters depth tokens
  | .groupOpen :: tokens => parameters (depth + 1) tokens
  | .groupClose :: tokens => parameters (depth - 1) tokens

lemma Balanced.parameters_append (h : Balanced tokens) (depth : Nat) (rest : List Token) :
    parameters depth (tokens ++ rest) =
      (Shape.ofTokens tokens).params (0 < depth) ++ parameters depth rest := by
  induction h generalizing depth rest with
  | nil => rfl
  | @leaf token tokens hleaf _ ih =>
      cases token
      case groupOpen | groupClose => cases hleaf
      case literal => exact ih depth rest
      case named name => exact congrArg (⟨name, .named, 0 < depth⟩ :: ·) (ih depth rest)
      case splat name => exact congrArg (⟨name, .splat, 0 < depth⟩ :: ·) (ih depth rest)
  | @group body tokens hbody htokens ihBody ih =>
      calc parameters depth (.groupOpen :: (body ++ .groupClose :: tokens) ++ rest)
          = parameters (depth + 1) (body ++ .groupClose :: (tokens ++ rest)) := by
            simp [parameters]
        _ = (Shape.ofTokens body).params true ++ parameters depth (tokens ++ rest) := by
            rw [ihBody]
            simp [parameters]
        _ = _ := by
            rw [ih, hbody.ofTokens_group htokens, Shape.params, List.append_assoc]

/-- The parameter of a token stands where the token stands among the parameter tokens, and it is
optional if more groups open than close in front of it. -/
lemma parameters_getElem? {before after : List Token} {token : Token}
    (h : faultOf seen depth (before ++ token :: after) = none) (hparam : token.isParam) :
    ∃ param, (parameters depth (before ++ token :: after))[before.countP isParam]? = some param ∧
      param.leaf = token ∧
      (param.optional ↔ before.count .groupClose < depth + before.count .groupOpen) := by
  induction before generalizing seen depth with
  | nil =>
      cases token
      case named name => exact ⟨_, rfl, rfl, by simp⟩
      case splat name => exact ⟨_, rfl, rfl, by simp⟩
      all_goals cases hparam
  | cons first before ih =>
      cases first with
      | groupClose =>
          cases depth with
          | zero => cases h
          | succ depth =>
              obtain ⟨param, hget, hleaf, hoptional⟩ := ih h
              refine ⟨param, hget, hleaf, hoptional.trans ?_⟩
              rw [List.count_cons_self, List.count_cons_of_ne (by decide)]
              omega
      | groupOpen =>
          cases seen with
          | true => cases h
          | false =>
              obtain ⟨param, hget, hleaf, hoptional⟩ := ih h
              refine ⟨param, hget, hleaf, hoptional.trans ?_⟩
              rw [List.count_cons_self, List.count_cons_of_ne (by decide)]
              omega
      | literal text =>
          cases seen with
          | true => cases h
          | false => exact ih h
      | named name | splat name =>
          cases seen with
          | true => cases h
          | false =>
              obtain ⟨param, hget, hleaf, hoptional⟩ := ih h
              refine ⟨param, ?_, hleaf, by simpa [List.count_cons] using hoptional⟩
              rw [List.countP_cons_of_pos rfl]
              exact hget

/-! ## Readings -/

/-- **A reading token by token**: each token with what it stands for.  A parenthesis stands for
nothing, and so does everything in a group that is skipped. -/
inductive ReadAs : List (Token × Option Text) → Prop
  | nil : ReadAs []
  | literal {text : Text} {parts : List (Token × Option Text)} : ReadAs parts →
      ReadAs ((.literal text, some text) :: parts)
  | named {name value : Text} {parts : List (Token × Option Text)} : value ≠ [] →
      (∀ c ∈ value, c ≠ '/' ∧ c ≠ '?') → ReadAs parts → ReadAs ((.named name, some value) :: parts)
  | splat {name value : Text} {parts : List (Token × Option Text)} : (∀ c ∈ value, c ≠ '?') →
      ReadAs parts → ReadAs ((.splat name, some value) :: parts)
  | taken {body parts : List (Token × Option Text)} : ReadAs body → ReadAs parts →
      ReadAs ((.groupOpen, some []) :: (body ++ (.groupClose, some []) :: parts))
  | skipped {body : List Token} {parts : List (Token × Option Text)} : Balanced body →
      ReadAs parts →
      ReadAs ((.groupOpen, none) :: (body.map (·, none) ++ (.groupClose, none) :: parts))

/-- The text that the tokens stand for together. -/
def spelled (parts : List (Token × Option Text)) : Text :=
  parts.flatMap (·.2.getD [])

/-- What the parameter tokens stand for. -/
def captured (parts : List (Token × Option Text)) : List (Option Text) :=
  (parts.filter (·.1.isParam)).map (·.2)

lemma captured_append (parts parts' : List (Token × Option Text)) :
    captured (parts ++ parts') = captured parts ++ captured parts' := by
  rw [captured, List.filter_append, List.map_append]
  rfl

lemma captured_skipped (tokens : List Token) :
    captured (tokens.map (·, none)) = List.replicate (tokens.filter isParam).length none := by
  induction tokens with
  | nil => rfl
  | cons token tokens ih =>
      cases token
      case named | splat => exact congrArg (none :: ·) ih
      all_goals exact ih

/-- **What a shape generates is read token by token.** -/
theorem Balanced.exists_readAs (h : Balanced tokens) {choices : List Choice}
    {captures : List (Option Text)} {path : Text}
    (hreads : (Shape.ofTokens tokens).Reads choices captures path) :
    ∃ parts, parts.map Prod.fst = tokens ∧ ReadAs parts ∧ path = spelled parts ∧
      captures = captured parts := by
  induction h generalizing choices captures path with
  | nil =>
      cases hreads
      exact ⟨[], rfl, .nil, rfl, rfl⟩
  | @leaf token tokens hleaf _ ih =>
      cases token
      case groupOpen | groupClose => cases hleaf
      case literal text =>
          cases hreads with
          | literal hnext =>
              obtain ⟨parts, rfl, hparts, rfl, rfl⟩ := ih hnext
              exact ⟨(.literal text, some text) :: parts, rfl, .literal hparts, rfl, rfl⟩
      case named name =>
          cases hreads with
          | named hne hvalue hnext =>
              obtain ⟨parts, rfl, hparts, rfl, rfl⟩ := ih hnext
              exact ⟨(.named name, some _) :: parts, rfl, .named hne hvalue hparts, rfl, rfl⟩
      case splat name =>
          cases hreads with
          | splat hvalue hnext =>
              obtain ⟨parts, rfl, hparts, rfl, rfl⟩ := ih hnext
              exact ⟨(.splat name, some _) :: parts, rfl, .splat hvalue hparts, rfl, rfl⟩
  | @group body tokens hbody htokens ihBody ih =>
      rw [hbody.ofTokens_group htokens] at hreads
      cases hreads with
      | taken hinner hnext =>
          obtain ⟨inner, rfl, hinnerParts, rfl, rfl⟩ := ihBody hinner
          obtain ⟨parts, rfl, hparts, rfl, rfl⟩ := ih hnext
          refine ⟨_, ?_, .taken hinnerParts hparts, ?_, ?_⟩
          · simp
          · simp [spelled]
          · exact (captured_append inner ((.groupClose, some []) :: parts)).symm
      | skipped hnext =>
          obtain ⟨parts, rfl, hparts, rfl, rfl⟩ := ih hnext
          refine ⟨_, ?_, .skipped hbody hparts, ?_, ?_⟩
          · simp [Function.comp_def]
          · simp [spelled]
          · have hlength := congrArg List.length (hbody.map_leaf_params true)
            rw [List.length_map] at hlength
            rw [hlength, ← captured_skipped]
            exact (captured_append (body.map (·, none)) ((.groupClose, none) :: parts)).symm

/-! ## Regular expressions -/

/-- What a token contributes to the regular expression of a pattern: one capturing group if it is a
parameter, and none otherwise. -/
def expression : Token → Text
  | .literal text => text.flatMap fun c => if isMeta c then ['\\', c] else [c]
  | .named _ => "([^/?]+)".toList
  | .splat _ => "([^?]*?)".toList
  | .groupOpen => "(?:".toList
  | .groupClose => ")?".toList

lemma Balanced.expression_ofTokens (h : Balanced tokens) :
    (Shape.ofTokens tokens).expression = tokens.flatMap expression := by
  induction h with
  | nil => rfl
  | @leaf token tokens hleaf _ ih =>
      rw [List.flatMap_cons, ← ih]
      cases token
      case groupOpen | groupClose => cases hleaf
      all_goals rfl
  | @group body tokens hbody htokens ihBody ih =>
      calc (Shape.ofTokens (.groupOpen :: (body ++ .groupClose :: tokens))).expression
          = "(?:".toList ++ (Shape.ofTokens body).expression ++ ")?".toList ++
              (Shape.ofTokens tokens).expression := by
            rw [hbody.ofTokens_group htokens]
            rfl
        _ = expression .groupOpen ++ (body.flatMap expression ++
              (expression .groupClose ++ tokens.flatMap expression)) := by
            rw [ihBody, ih, List.append_assoc, List.append_assoc]
            rfl
        _ = _ := by rw [List.flatMap_cons, List.flatMap_append, List.flatMap_cons]

end Token

/-! ## Patterns -/

namespace Pattern

variable {text : Text}

lemma balanced (pattern : Pattern) : Token.Balanced (tokenize pattern.text) :=
  (Token.faultOf_eq_none_iff.1 pattern.faultless).balanced

lemma params_eq_parameters (pattern : Pattern) :
    pattern.params = Token.parameters 0 (tokenize pattern.text) := by
  have happend := pattern.balanced.parameters_append 0 []
  rw [List.append_nil, Token.parameters, List.append_nil] at happend
  rw [happend, params, pattern.shape_eq]
  rfl

/-- The parameter of a token, by the tokens in front of it. -/
lemma params_getElem? {pattern : Pattern} {before after : List Token} {token : Token}
    (htokens : tokenize pattern.text = before ++ token :: after) (hparam : token.isParam) :
    ∃ param, pattern.params[before.countP Token.isParam]? = some param ∧ param.leaf = token ∧
      (param.optional ↔ before.count .groupClose < before.count .groupOpen) := by
  have hfaultless := pattern.faultless
  rw [htokens] at hfaultless
  rw [params_eq_parameters, htokens]
  simpa using Token.parameters_getElem? hfaultless hparam

lemma map_leaf_params (pattern : Pattern) :
    pattern.params.map Param.leaf = (tokenize pattern.text).filter Token.isParam := by
  rw [params, pattern.shape_eq]
  exact pattern.balanced.map_leaf_params false

lemma expression_eq_flatMap (pattern : Pattern) :
    pattern.expression = '^' :: ((tokenize pattern.text).flatMap Token.expression ++
      "(?:\\?((?s:.*)))?$".toList) := by
  rw [expression, pattern.shape_eq, Shape.ofText, pattern.balanced.expression_ofTokens]

/-- A match is that of a reading token by token. -/
lemma exists_readAs_of_matchPath {pattern : Pattern} {url : Text} {found : Match}
    (hfound : pattern.matchPath url = some found) : ∃ parts query,
      parts.map Prod.fst = tokenize pattern.text ∧ Token.ReadAs parts ∧
      url = Token.spelled parts ++ searchOf query ∧
      found = Match.ofReading pattern.params
        ⟨Token.captured parts, Token.spelled parts, query⟩ := by
  obtain ⟨choices, ⟨captures, path, query⟩, ⟨hderives, -⟩, rfl⟩ := exists_of_matchPath hfound
  obtain ⟨before, hreads, rfl, -⟩ := derives_iff.1 hderives
  rw [pattern.shape_eq] at hreads
  obtain ⟨parts, hparts, hreadAs, rfl, rfl⟩ := pattern.balanced.exists_readAs hreads
  exact ⟨parts, query, hparts, hreadAs, rfl, rfl⟩

lemma exists_compile_iff : (∃ pattern, compile text = .ok pattern) ↔
    text ≠ [] ∧ faultOf false 0 (tokenize text) = none ∧
      1 + (Shape.ofText text).nesting ≤ nestingLimit := by
  constructor
  · rintro ⟨pattern, hcompile⟩
    obtain rfl := compile_eq_ok_iff.1 hcompile
    exact ⟨pattern.text_ne_nil, pattern.faultless, pattern.shape_eq ▸ pattern.shallow⟩
  · rintro ⟨hne, hfault, hdeep⟩
    exact ⟨⟨text, _, rfl, hne, hfault, hdeep⟩, compile_eq_ok_iff.2 rfl⟩

/-- The reason that is given is the first that applies. -/
lemma compile_eq_error {fault : PatternFault} (h : compile text = .error fault) :
    (text = [] ∧ fault = .empty) ∨ (text ≠ [] ∧ faultOf false 0 (tokenize text) = some fault) ∨
      (text ≠ [] ∧ faultOf false 0 (tokenize text) = none ∧
        nestingLimit < 1 + (Shape.ofText text).nesting ∧ fault = .tooDeep) := by
  unfold compile at h
  split at h
  · next hnil =>
      cases h
      exact .inl ⟨hnil, rfl⟩
  · next hne =>
      split at h
      · next hfault =>
          cases h
          exact .inr (.inl ⟨hne, hfault⟩)
      · next hfault =>
          simp only at h
          split at h
          · cases h
          · next hdeep =>
              cases h
              exact .inr (.inr ⟨hne, hfault, Nat.lt_of_not_le hdeep, rfl⟩)

/-- **The grammar of patterns.**  A text is a pattern exactly if it is not empty, the grammar accepts
its tokens and they do not nest too deeply.  The parameters of a pattern are its parameter tokens
from left to right, those in groups being optional; its regular expression has a capturing group for
each of them, and in a match each captures what its token stands for.

A text that is no pattern is rejected for its first token behind which nothing can follow; for the
groups that are open at its end, where there is no such token; and for its depth, where there is
nothing else to blame. -/
theorem compile_grammar (text : Text) :
    ((∃ pattern, compile text = .ok pattern) ↔
      text ≠ [] ∧ Token.Accepted (tokenize text) ∧
        1 + (Shape.ofText text).nesting ≤ nestingLimit) ∧
    (∀ pattern, compile text = .ok pattern →
      pattern.params.map Param.leaf = (tokenize text).filter Token.isParam ∧
      (∀ before token after, tokenize text = before ++ token :: after → token.isParam →
        ∃ param, pattern.params[before.countP Token.isParam]? = some param ∧ param.leaf = token ∧
          (param.optional ↔ before.count .groupClose < before.count .groupOpen)) ∧
      pattern.expression = '^' :: ((tokenize text).flatMap Token.expression ++
        "(?:\\?((?s:.*)))?$".toList) ∧
      ∀ url found, pattern.matchPath url = some found → ∃ parts query,
        parts.map Prod.fst = tokenize text ∧ Token.ReadAs parts ∧
        url = Token.spelled parts ++ searchOf query ∧
        found = Match.ofReading pattern.params
          ⟨Token.captured parts, Token.spelled parts, query⟩) ∧
    ∀ fault, compile text = .error fault →
      (text = [] ∧ fault = .empty) ∨
      (text ≠ [] ∧ ∃ before token after, tokenize text = before ++ token :: after ∧
        Token.Viable before ∧ ¬Token.Viable (before ++ [token]) ∧ fault = token.offence) ∨
      (text ≠ [] ∧ Token.Viable (tokenize text) ∧ ∃ count, 0 < count ∧ fault = .unclosed count ∧
        (tokenize text).count .groupOpen = (tokenize text).count .groupClose + count) ∨
      (Token.Accepted (tokenize text) ∧ nestingLimit < 1 + (Shape.ofText text).nesting ∧
        fault = .tooDeep) := by
  refine ⟨?_, fun pattern hcompile => ?_, fun fault hcompile => ?_⟩
  · rw [exists_compile_iff, Token.faultOf_eq_none_iff]
  · obtain rfl := compile_eq_ok_iff.1 hcompile
    exact ⟨pattern.map_leaf_params, fun before token after => params_getElem?,
      pattern.expression_eq_flatMap, fun url found => exists_readAs_of_matchPath⟩
  · rcases compile_eq_error hcompile with hempty | ⟨hne, hfault⟩ | ⟨-, hfault, hdeep, rfl⟩
    · exact .inl hempty
    · rcases Token.viable_of_faultOf hfault with hoffender | hopen
      · exact .inr (.inl ⟨hne, hoffender⟩)
      · exact .inr (.inr (.inl ⟨hne, hopen⟩))
    · exact .inr (.inr (.inr ⟨Token.faultOf_eq_none_iff.1 hfault, hdeep, rfl⟩))

end Pattern

end PageRouter

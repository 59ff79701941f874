import Mathlib.Data.List.Chain
import PageRouter.Proofs.Spelling

/-!
# Texts and their tokens

`tokenize` goes through a text from its end.  A reader from the left has to do more: it keeps the
literal that it has begun, it looks one character ahead at a sigil, and it takes names as long as
they are.  `scan` is that reader, and it finds the same tokens (`scan_nil`).

Whether a list of tokens is canonical can be told from each token by itself (`IsProper`) and each
two neighbours (`MayPrecede`); `canonical_iff` says so.  Texts and canonical lists then correspond
one to one: a text has exactly the canonical tokens that spell it (`tokenize_eq_iff`).
-/

namespace PageRouter

open Text

namespace Token

/-! ## Reading from the left -/

/-- **A reader from the left**, with the literal that it has begun. -/
def scan (begun : Text) : Text → List Token
  | [] => pushLiteral begun []
  | c :: text =>
    if c = '(' then pushLiteral begun (.groupOpen :: scan [] text)
    else if c = ')' then pushLiteral begun (.groupClose :: scan [] text)
    else if (c = ':' ∨ c = '*') ∧ text.head?.any isNameChar then
      pushLiteral begun
        (ofSigil c (text.takeWhile isNameChar) :: scan [] (text.dropWhile isNameChar))
    else scan (begun ++ [c]) text
termination_by text => text.length
decreasing_by
  all_goals simp only [List.length_cons]
  · omega
  · omega
  · exact Nat.lt_succ_of_le (List.dropWhile_sublist isNameChar).length_le
  · omega

variable {text : Text} {tokens : List Token}

/-- The literal at the start of what is read begins as the text does. -/
lemma head?_literalHead_tokenize (hhead : ∀ d ∈ text.head?, ¬isNameChar d) :
    ∀ d ∈ (literalHead (tokenize text)).head?, ¬isNameChar d := by
  intro d hd
  obtain ⟨more, hmore⟩ := List.head?_eq_some_iff.1 hd
  have hspelled := write_tokenize text
  cases htokens : tokenize text with
  | nil => simp [htokens, literalHead] at hmore
  | cons token tokens =>
      cases token with
      | literal literal =>
          rw [htokens, literalHead] at hmore
          subst hmore
          rw [htokens] at hspelled
          exact hhead d (by rw [← hspelled]; rfl)
      | named name | splat name | groupOpen | groupClose => simp [htokens, literalHead] at hmore

/-- A sigil in front of a name reads it up to its end. -/
lemma tokenize_sigil {c : Char} (hsigil : c = ':' ∨ c = '*') (hname : text.head?.any isNameChar) :
    tokenize (c :: text) =
      ofSigil c (text.takeWhile isNameChar) :: tokenize (text.dropWhile isNameChar) := by
  have hisName : IsName (text.takeWhile isNameChar) :=
    isName_takeWhile ((Option.any_eq_true _ _).1 hname)
  have hhead := head?_literalHead_tokenize (head?_dropWhile_isNameChar text)
  calc tokenize (c :: text)
      = ((c :: text.takeWhile isNameChar) ++ text.dropWhile isNameChar).foldr push [] := by
        rw [List.cons_append, List.takeWhile_append_dropWhile]
        rfl
    _ = (c :: text.takeWhile isNameChar).foldr push (tokenize (text.dropWhile isNameChar)) := by
        rw [List.foldr_append, tokenize]
    _ = _ := foldr_push_param (canonical_tokenize _) hsigil hisName hhead

/-- Where neither a parenthesis nor a parameter begins, a character joins the literal behind it. -/
lemma tokenize_ordinary {c : Char} (hparen : c ≠ '(' ∧ c ≠ ')')
    (hsigil : ¬((c = ':' ∨ c = '*') ∧ text.head?.any isNameChar)) :
    tokenize (c :: text) = pushLiteral [c] (tokenize text) := by
  have hpush : tokenize (c :: text) = push c (tokenize text) := rfl
  rw [hpush]
  by_cases hc : c = ':' ∨ c = '*'
  · refine push_of_lone_sigil hc (head?_literalHead_tokenize fun d hd hisName => ?_)
    exact hsigil ⟨hc, (Option.any_eq_true _ _).2 ⟨d, hd, hisName⟩⟩
  · exact push_of_ordinary hparen hc

/-- What a reader from the left has begun stands in front of the tokens of the rest. -/
theorem scan_eq_pushLiteral (begun text : Text) :
    scan begun text = pushLiteral begun (tokenize text) := by
  fun_induction scan begun text with
  | case1 begun => rfl
  | case2 begun text ih =>
      rw [ih, pushLiteral_nil]
      rfl
  | case3 begun text _ ih =>
      rw [ih, pushLiteral_nil]
      rfl
  | case4 begun c text _ _ hsigil ih => rw [ih, pushLiteral_nil, tokenize_sigil hsigil.1 hsigil.2]
  | case5 begun c text hopen hclose hsigil ih =>
      rw [ih, tokenize_ordinary ⟨hopen, hclose⟩ hsigil, pushLiteral_append]

/-- **A reader from the left finds the same tokens.** -/
theorem scan_nil (text : Text) : scan [] text = tokenize text :=
  (scan_eq_pushLiteral [] text).trans (pushLiteral_nil _)

/-! ## Canonical lists, token by token -/

/-- **What a token is by itself**: a literal is not empty, and holds no parenthesis and no sigil
right before a name character; a name is not empty and made of name characters. -/
def IsProper : Token → Prop
  | .literal text =>
      text ≠ [] ∧ '(' ∉ text ∧ ')' ∉ text ∧
        text.IsChain fun c d => c = ':' ∨ c = '*' → ¬isNameChar d
  | .named name | .splat name => IsName name
  | .groupOpen | .groupClose => True

/-- **Whether a token can stand right before another one**: two literals would be one, and a literal
behind a parameter does not go on with its name. -/
def MayPrecede : Token → Token → Prop
  | .literal _, .literal _ => False
  | .named _, .literal text | .splat _, .literal text => ∀ c ∈ text.head?, ¬isNameChar c
  | _, _ => True

instance : DecidablePred IsProper
  | .literal text => inferInstanceAs <| Decidable <|
      text ≠ [] ∧ '(' ∉ text ∧ ')' ∉ text ∧
        text.IsChain fun c d => c = ':' ∨ c = '*' → ¬isNameChar d
  | .named name | .splat name => inferInstanceAs <| Decidable (IsName name)
  | .groupOpen | .groupClose => inferInstanceAs <| Decidable True

lemma isPlain_iff : IsPlain text ↔ '(' ∉ text ∧ ')' ∉ text ∧
    text.IsChain fun c d => c = ':' ∨ c = '*' → ¬isNameChar d := by
  induction text with
  | nil => simp [IsPlain]
  | cons c text ih =>
      rw [IsPlain, ih, List.mem_cons, List.mem_cons, List.isChain_cons]
      grind

/-- What may follow a literal. -/
lemma literalHead_eq_nil_iff (h : Canonical tokens) (literal : Text) :
    literalHead tokens = [] ↔ ∀ next ∈ tokens.head?, MayPrecede (.literal literal) next := by
  rcases tokens with _ | ⟨text | _ | _ | _ | _, tokens⟩
  case cons.literal => simpa [literalHead, MayPrecede] using h.1
  all_goals simp [literalHead, MayPrecede]

/-- What may follow a parameter. -/
lemma head?_literalHead_iff (c : Char) (name : Text) :
    (∀ d ∈ (literalHead tokens).head?, ¬isNameChar d) ↔
      ∀ next ∈ tokens.head?, MayPrecede (ofSigil c name) next := by
  unfold ofSigil
  split
  all_goals rcases tokens with _ | ⟨_ | _ | _ | _ | _, tokens⟩ <;> simp [literalHead, MayPrecede]

/-- **A list is canonical** exactly if its tokens are proper and each can stand behind the one
before it. -/
theorem canonical_iff :
    Canonical tokens ↔ (∀ token ∈ tokens, token.IsProper) ∧ tokens.IsChain MayPrecede := by
  induction tokens with
  | nil => simp [Canonical]
  | cons token tokens ih =>
      have hstep : Canonical (token :: tokens) ↔
          token.IsProper ∧ (∀ next ∈ tokens.head?, token.MayPrecede next) ∧ Canonical tokens := by
        cases token with
        | literal text =>
            rw [Canonical, IsProper, isPlain_iff]
            have hfollows : Canonical tokens → _ := fun h => literalHead_eq_nil_iff h text
            tauto
        | named name => rw [Canonical, IsProper, head?_literalHead_iff ':' name]; rfl
        | splat name => rw [Canonical, IsProper, head?_literalHead_iff '*' name]; rfl
        | groupOpen | groupClose => simp [Canonical, IsProper, MayPrecede]
      rw [hstep, ih, List.forall_mem_cons, List.isChain_cons]
      tauto

/-! ## One to one -/

/-- **A text has exactly the canonical tokens that spell it.** -/
theorem tokenize_eq_iff : tokenize text = tokens ↔ Canonical tokens ∧ write tokens = text := by
  constructor
  · rintro rfl
    exact ⟨canonical_tokenize text, write_tokenize text⟩
  · rintro ⟨hcanonical, rfl⟩
    exact tokenize_write hcanonical

/-- **Reading is one to one onto the canonical lists.**  The tokens of every text spell it and are
canonical, and every canonical list is what is read from its spelling. -/
theorem tokenize_bijective :
    (∀ text, write (tokenize text) = text ∧
      (∀ token ∈ tokenize text, token.IsProper) ∧ (tokenize text).IsChain MayPrecede) ∧
    ∀ tokens, (∀ token ∈ tokens, token.IsProper) → tokens.IsChain MayPrecede →
      tokenize (write tokens) = tokens := by
  refine ⟨fun text => ?_, fun tokens hproper hchain => ?_⟩
  · obtain ⟨hcanonical, hspelled⟩ := tokenize_eq_iff.1 (rfl : tokenize text = tokenize text)
    exact ⟨hspelled, canonical_iff.1 hcanonical⟩
  · exact tokenize_eq_iff.2 ⟨canonical_iff.2 ⟨hproper, hchain⟩, rfl⟩

/-- Sigils that are literal text stand right before a parameter and before a slash. -/
theorem tokenize_bijective_lone_sigils :
    let tokens : List Token := [.literal "/at:".toList, .named "day".toList, .literal "-".toList,
      .groupOpen, .literal "*/".toList, .splat "rest".toList, .groupClose]
    (∀ token ∈ tokens, token.IsProper) ∧ tokens.IsChain MayPrecede ∧
      tokenize "/at::day-(*/*rest)".toList = tokens := by
  intro tokens
  have hproper : ∀ token ∈ tokens, token.IsProper := by decide
  have hend : ¬isNameChar '-' := by decide
  have hchain : tokens.IsChain MayPrecede := by simpa [tokens, MayPrecede] using hend
  exact ⟨hproper, hchain, tokenize_bijective.2 tokens hproper hchain⟩

end Token

end PageRouter

import Mathlib.Tactic.Lemma
import PageRouter.Pattern.Token

/-!
# The spelling of tokens

A pattern's text and its tokens are two forms of one thing.  `Token.write` spells tokens, and it
undoes `tokenize` (`Token.write_tokenize`).  The other way round, only lists in **canonical** form
come back from their spelling: literals are not empty and do not stand side by side, they hold no
parenthesis and no sigil that would start a parameter, and what follows a parameter does not go on
with its name.  `tokenize` yields no other lists (`canonical_tokenize`), and it returns each of them
(`tokenize_write`).

So the tokens of a text that is put together from parts are found by writing them down.
-/

namespace PageRouter

open Text

namespace Token

/-! ## Canonical lists -/

/-- Text that is read as a literal: no parenthesis, and no sigil in front of a name. -/
def IsPlain : Text → Prop
  | [] => True
  | c :: text => (c ≠ '(' ∧ c ≠ ')') ∧
      (c = ':' ∨ c = '*' → ∀ d ∈ text.head?, ¬isNameChar d) ∧ IsPlain text

def IsName (name : Text) : Prop :=
  name ≠ [] ∧ ∀ c ∈ name, isNameChar c

instance : DecidablePred IsName := fun name =>
  decidable_of_iff (name ≠ [] ∧ name.all isNameChar) (by rw [IsName, List.all_eq_true])

/-- The literal that a list begins with, or no text. -/
def literalHead : List Token → Text
  | .literal text :: _ => text
  | _ => []

/-- The list behind the literal that it begins with. -/
def behindHead : List Token → List Token
  | .literal _ :: tokens => tokens
  | tokens => tokens

/-- **Canonical lists of tokens.** -/
def Canonical : List Token → Prop
  | [] => True
  | .literal text :: tokens =>
      text ≠ [] ∧ IsPlain text ∧ literalHead tokens = [] ∧ Canonical tokens
  | .named name :: tokens | .splat name :: tokens =>
      IsName name ∧ (∀ c ∈ (literalHead tokens).head?, ¬isNameChar c) ∧ Canonical tokens
  | .groupOpen :: tokens | .groupClose :: tokens => Canonical tokens

variable {text : Text} {tokens : List Token}

lemma IsPlain.append {text' : Text} (h : IsPlain text) (h' : IsPlain text')
    (hhead : ∀ c ∈ text'.head?, ¬isNameChar c) : IsPlain (text ++ text') := by
  induction text with
  | nil => exact h'
  | cons c text ih =>
      refine ⟨h.1, fun hsigil d hd => ?_, ih h.2.2⟩
      cases text with
      | nil => exact hhead d hd
      | cons e text => exact h.2.1 hsigil d hd

lemma IsPlain.of_append (text : Text) {text' : Text} (h : IsPlain (text ++ text')) :
    IsPlain text' := by
  induction text with
  | nil => exact h
  | cons c text ih => exact ih h.2.2

lemma IsPlain.left_of_append {text' : Text} (h : IsPlain (text ++ text')) : IsPlain text := by
  induction text with
  | nil => trivial
  | cons c text ih =>
      refine ⟨h.1, fun hsigil d hd => h.2.1 hsigil d ?_, ih h.2.2⟩
      cases text with
      | nil => simp at hd
      | cons e text => exact hd

/-- A canonical list that no text stands at the start of begins with no literal. -/
lemma Canonical.ne_literal (h : Canonical tokens) (hhead : literalHead tokens = []) :
    ∀ text more, tokens ≠ .literal text :: more := by
  rintro text more rfl
  exact h.1 hhead

/-! ## Literals in front -/

lemma pushLiteral_nil (tokens : List Token) : pushLiteral [] tokens = tokens := by
  rcases tokens with _ | ⟨_ | _ | _ | _ | _, tokens⟩ <;> simp [pushLiteral]

lemma pushLiteral_append (text text' : Text) (tokens : List Token) :
    pushLiteral text (pushLiteral text' tokens) = pushLiteral (text ++ text') tokens := by
  rcases tokens with _ | ⟨_ | _ | _ | _ | _, tokens⟩ <;> cases text' <;> simp [pushLiteral]

lemma pushLiteral_of_ne_nil (htext : text ≠ []) :
    pushLiteral text tokens = .literal (text ++ literalHead tokens) :: behindHead tokens := by
  rcases tokens with _ | ⟨_ | _ | _ | _ | _, tokens⟩ <;>
    simp [pushLiteral, literalHead, behindHead, htext]

/-- The literal at the start of a list, put in front again. -/
lemma pushLiteral_literalHead (h : Canonical tokens) :
    pushLiteral (literalHead tokens) (behindHead tokens) = tokens := by
  rcases tokens with _ | ⟨text | _ | _ | _ | _, tokens⟩
  case cons.literal =>
      obtain ⟨htext, -, hhead, hcanonical⟩ := h
      rw [literalHead, behindHead, pushLiteral_of_ne_nil htext, hhead, List.append_nil]
      rcases tokens with _ | ⟨more | _ | _ | _ | _, tokens⟩
      · rfl
      · exact absurd rfl (hcanonical.ne_literal hhead more tokens)
      all_goals rfl
  all_goals simp [pushLiteral, literalHead, behindHead]

lemma literalHead_behindHead (h : Canonical tokens) : literalHead (behindHead tokens) = [] := by
  rcases tokens with _ | ⟨text | _ | _ | _ | _, tokens⟩
  case cons.literal => exact h.2.2.1
  all_goals rfl

lemma Canonical.behindHead (h : Canonical tokens) : Canonical (behindHead tokens) := by
  rcases tokens with _ | ⟨text | _ | _ | _ | _, tokens⟩
  case cons.literal => exact h.2.2.2
  all_goals exact h

lemma isPlain_literalHead (h : Canonical tokens) : IsPlain (literalHead tokens) := by
  rcases tokens with _ | ⟨text | _ | _ | _ | _, tokens⟩
  case cons.literal => exact h.2.1
  all_goals trivial

lemma literalHead_pushLiteral (hhead : literalHead tokens = []) :
    literalHead (pushLiteral text tokens) = text := by
  by_cases htext : text = []
  · rw [htext, pushLiteral_nil, hhead]
  · rw [pushLiteral_of_ne_nil htext, hhead, List.append_nil, literalHead]

/-- Plain text in front of a canonical list that begins with no literal. -/
lemma Canonical.pushLiteral (h : Canonical tokens) (hhead : literalHead tokens = [])
    (htext : IsPlain text) : Canonical (pushLiteral text tokens) := by
  by_cases hne : text = []
  · rwa [hne, pushLiteral_nil]
  · rw [pushLiteral_of_ne_nil hne, hhead, List.append_nil]
    exact ⟨hne, htext, literalHead_behindHead h, h.behindHead⟩

/-! ## One more character -/

lemma not_isNameChar_of_sigil {c : Char} (h : c = ':' ∨ c = '*') : ¬isNameChar c := by
  rcases h with rfl | rfl <;> decide

lemma not_paren_of_sigil {c : Char} (h : c = ':' ∨ c = '*') : c ≠ '(' ∧ c ≠ ')' := by
  rcases h with rfl | rfl <;> decide

lemma not_paren_of_isNameChar {c : Char} (h : isNameChar c) : c ≠ '(' ∧ c ≠ ')' := by
  constructor <;> rintro rfl <;> revert h <;> decide

/-- A character that is neither parenthesis nor sigil joins the literal behind it. -/
lemma push_of_ordinary {c : Char} (hparen : c ≠ '(' ∧ c ≠ ')') (hsigil : ¬(c = ':' ∨ c = '*')) :
    push c tokens = pushLiteral [c] tokens := by
  unfold push
  rw [if_neg hparen.1, if_neg hparen.2, if_neg hsigil]

/-- A sigil in front of no name is literal. -/
lemma push_of_lone_sigil {c : Char} (hsigil : c = ':' ∨ c = '*')
    (hhead : ∀ d ∈ (literalHead tokens).head?, ¬isNameChar d) :
    push c tokens = pushLiteral [c] tokens := by
  unfold push
  rw [if_neg (not_paren_of_sigil hsigil).1, if_neg (not_paren_of_sigil hsigil).2, if_pos hsigil]
  rcases tokens with _ | ⟨text | _ | _ | _ | _, tokens⟩
  case cons.literal =>
      have hname : text.takeWhile isNameChar = [] := by
        cases text with
        | nil => rfl
        | cons d text => exact List.takeWhile_cons_of_neg (hhead d rfl)
      simp only [hname]
      rfl
  all_goals simp [pushLiteral]

/-- The parameter that a sigil starts. -/
def ofSigil (c : Char) (name : Text) : Token :=
  if c = ':' then .named name else .splat name

/-- **A sigil takes the whole name** behind it. -/
lemma push_of_sigil {c : Char} {name : Text} (hsigil : c = ':' ∨ c = '*') (hname : IsName name)
    (hhead : ∀ d ∈ (literalHead tokens).head?, ¬isNameChar d) :
    push c (pushLiteral name tokens) =
      ofSigil c name :: pushLiteral (literalHead tokens) (behindHead tokens) := by
  have htake : (name ++ literalHead tokens).takeWhile isNameChar = name := by
    rw [List.takeWhile_append_of_pos hname.2]
    cases htext : literalHead tokens with
    | nil => simp
    | cons d text => rw [htext] at hhead; simp [hhead d rfl]
  have hdrop : (name ++ literalHead tokens).dropWhile isNameChar = literalHead tokens := by
    rw [List.dropWhile_append_of_pos hname.2]
    cases htext : literalHead tokens with
    | nil => simp
    | cons d text => rw [htext] at hhead; simp [hhead d rfl]
  rw [pushLiteral_of_ne_nil hname.1]
  unfold push
  rw [if_neg (not_paren_of_sigil hsigil).1, if_neg (not_paren_of_sigil hsigil).2, if_pos hsigil]
  simp only [htake, hdrop]
  cases name with
  | nil => exact absurd rfl hname.1
  | cons d name => rfl

lemma Canonical.ofSigil {name : Text} (c : Char) (h : Canonical tokens) (hname : IsName name)
    (hhead : ∀ d ∈ (literalHead tokens).head?, ¬isNameChar d) :
    Canonical (ofSigil c name :: tokens) := by
  unfold Token.ofSigil
  split <;> exact ⟨hname, hhead, h⟩

/-! ## What reading yields -/

/-- The name characters at the start of a text are a name, if there are any. -/
lemma isName_takeWhile (h : ∃ d ∈ text.head?, isNameChar d) :
    IsName (text.takeWhile isNameChar) := by
  refine ⟨fun hnil => ?_, List.all_eq_true.1 List.all_takeWhile⟩
  obtain ⟨d, hd, hisName⟩ := h
  obtain ⟨more, rfl⟩ := List.head?_eq_some_iff.1 hd
  simp [hisName] at hnil

/-- Behind them no name character follows. -/
lemma head?_dropWhile_isNameChar (text : Text) :
    ∀ d ∈ (text.dropWhile isNameChar).head?, ¬isNameChar d := by
  intro d hd
  have hnot := List.head?_dropWhile_not isNameChar text
  rw [Option.mem_def.1 hd] at hnot
  exact Bool.not_eq_true _ ▸ hnot

/-- The literal that one more character makes. -/
lemma Canonical.pushLiteral_cons {c : Char} (h : Canonical tokens)
    (hplain : IsPlain (c :: literalHead tokens)) : Canonical (Token.pushLiteral [c] tokens) := by
  have hpush : Token.pushLiteral [c] tokens =
      Token.pushLiteral (c :: literalHead tokens) (Token.behindHead tokens) :=
    calc
      _ = Token.pushLiteral [c] (Token.pushLiteral (literalHead tokens) (Token.behindHead tokens)) :=
        by rw [pushLiteral_literalHead h]
      _ = _ := pushLiteral_append ..
  rw [hpush]
  exact h.behindHead.pushLiteral (literalHead_behindHead h) hplain

/-- The parameter and the rest of the literal whose start is its name. -/
lemma Canonical.push_name {c : Char} (h : Canonical tokens) (hsigil : c = ':' ∨ c = '*')
    (hname : ∃ d ∈ (literalHead tokens).head?, isNameChar d) : Canonical (Token.push c tokens) := by
  let name := (literalHead tokens).takeWhile isNameChar
  let text := (literalHead tokens).dropWhile isNameChar
  let rest := Token.pushLiteral text (Token.behindHead tokens)
  have hsplit : name ++ text = literalHead tokens := List.takeWhile_append_dropWhile
  have hisName : IsName name := isName_takeWhile hname
  have hrest : Canonical rest := h.behindHead.pushLiteral (literalHead_behindHead h)
    (IsPlain.of_append name (hsplit ▸ isPlain_literalHead h))
  have hhead : ∀ d ∈ (literalHead rest).head?, ¬isNameChar d := by
    rw [literalHead_pushLiteral (literalHead_behindHead h)]
    exact head?_dropWhile_isNameChar (literalHead tokens)
  have hpush : Token.push c tokens = Token.ofSigil c name :: rest :=
    calc
      _ = Token.push c (Token.pushLiteral (name ++ text) (Token.behindHead tokens)) := by
        rw [hsplit, pushLiteral_literalHead h]
      _ = Token.push c (Token.pushLiteral name rest) := by rw [← pushLiteral_append]
      _ = _ := by rw [push_of_sigil hsigil hisName hhead, pushLiteral_literalHead hrest]
  rw [hpush]
  exact hrest.ofSigil c hisName hhead

lemma Canonical.push (c : Char) (h : Canonical tokens) : Canonical (push c tokens) := by
  by_cases hopen : c = '('
  · subst hopen
    exact h
  by_cases hclose : c = ')'
  · subst hclose
    exact h
  by_cases hsigil : c = ':' ∨ c = '*'
  · by_cases hname : ∃ d ∈ (literalHead tokens).head?, isNameChar d
    · exact h.push_name hsigil hname
    · have hlone : ∀ d ∈ (literalHead tokens).head?, ¬isNameChar d :=
        fun d hd hisName => hname ⟨d, hd, hisName⟩
      rw [push_of_lone_sigil hsigil hlone]
      exact h.pushLiteral_cons ⟨⟨hopen, hclose⟩, fun _ => hlone, isPlain_literalHead h⟩
  · rw [push_of_ordinary ⟨hopen, hclose⟩ hsigil]
    exact h.pushLiteral_cons
      ⟨⟨hopen, hclose⟩, fun hc => absurd hc hsigil, isPlain_literalHead h⟩

/-- **Reading yields canonical lists.** -/
theorem canonical_tokenize (text : Text) : Canonical (tokenize text) := by
  induction text with
  | nil => trivial
  | cons c text ih => exact ih.push c

/-! ## Reading a spelling -/

lemma foldr_push_plain (hhead : literalHead tokens = [])
    (htext : IsPlain text) : text.foldr push tokens = pushLiteral text tokens := by
  induction text with
  | nil => exact (pushLiteral_nil tokens).symm
  | cons c text ih =>
      rw [List.foldr_cons, ih htext.2.2]
      have hrest : literalHead (pushLiteral text tokens) = text := literalHead_pushLiteral hhead
      have hpush : push c (pushLiteral text tokens) = pushLiteral [c] (pushLiteral text tokens) := by
        by_cases hsigil : c = ':' ∨ c = '*'
        · exact push_of_lone_sigil hsigil (by rw [hrest]; exact htext.2.1 hsigil)
        · exact push_of_ordinary htext.1 hsigil
      rw [hpush, pushLiteral_append, List.singleton_append]

lemma foldr_push_name {name : Text} (hname : ∀ c ∈ name, isNameChar c) :
    name.foldr push tokens = pushLiteral name tokens := by
  induction name with
  | nil => exact (pushLiteral_nil tokens).symm
  | cons c name ih =>
      have hc := hname c (List.mem_cons_self ..)
      rw [List.foldr_cons, ih fun d hd => hname d (List.mem_cons_of_mem c hd),
        push_of_ordinary (not_paren_of_isNameChar hc) fun hsigil => not_isNameChar_of_sigil hsigil hc,
        pushLiteral_append, List.singleton_append]

lemma foldr_push_param {c : Char} {name : Text} (h : Canonical tokens) (hsigil : c = ':' ∨ c = '*')
    (hname : IsName name) (hhead : ∀ d ∈ (literalHead tokens).head?, ¬isNameChar d) :
    (c :: name).foldr push tokens = ofSigil c name :: tokens := by
  rw [List.foldr_cons, foldr_push_name hname.2, push_of_sigil hsigil hname hhead,
    pushLiteral_literalHead h]

/-- The spelling of a token, read in front of what is already read. -/
lemma foldr_push_text {token : Token} (h : Canonical (token :: tokens)) :
    token.text.foldr push tokens = token :: tokens := by
  cases token with
  | literal text =>
      have hpush : pushLiteral text tokens = .literal text :: tokens := pushLiteral_literalHead h
      exact (foldr_push_plain h.2.2.1 h.2.1).trans hpush
  | named name => exact foldr_push_param h.2.2 (.inl rfl) h.1 h.2.1
  | splat name => exact foldr_push_param h.2.2 (.inr rfl) h.1 h.2.1
  | groupOpen => rfl
  | groupClose => rfl

/-- **Canonical lists come back from their spelling.** -/
theorem tokenize_write (h : Canonical tokens) : tokenize (write tokens) = tokens := by
  induction tokens with
  | nil => rfl
  | cons token tokens ih =>
      have hrest : Canonical tokens := by
        cases token with
        | literal text => exact h.2.2.2
        | named name => exact h.2.2
        | splat name => exact h.2.2
        | groupOpen => exact h
        | groupClose => exact h
      rw [write, List.flatMap_cons, tokenize, List.foldr_append]
      rw [write, tokenize] at ih
      rw [ih hrest, foldr_push_text h]

end Token

end PageRouter

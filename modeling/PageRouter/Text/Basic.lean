/-!
# Text

Every text the router handles — URLs, patterns, query strings, configuration — is a list of
characters.  A list has the recursion principle that all the readers and writers of this library
follow, so nothing here speaks of offsets: a position in a text is the rest of the text from there.

* `Text.splitOn` and `Text.joinWith` cut a text at a separator and put the parts back together;
  `joinWith_splitOn` says that nothing is lost.
* `Text.dropTrailing` removes a run of one character from the end.
* `Text.lower` and `Text.sameIgnoringCase` know the case of the ASCII letters only, which is what
  link attributes and schemes are compared by.
-/

namespace PageRouter

abbrev Text := List Char

namespace Text

/-! ## Cutting and joining -/

/-- The parts of a text between the occurrences of `sep`; never empty, and `[[]]` for no text. -/
def splitOn (sep : Char) : Text → List Text
  | [] => [[]]
  | c :: rest =>
    if c = sep then [] :: splitOn sep rest
    else match splitOn sep rest with
      | [] => [[c]]
      | part :: parts => (c :: part) :: parts

/-- The parts with `sep` between each two neighbours. -/
def joinWith (sep : Char) : List Text → Text
  | [] => []
  | [part] => part
  | part :: parts => part ++ sep :: joinWith sep parts

/-- A text before and after the first `sep`, or `none` where there is no `sep`. -/
def cutAt? (sep : Char) : Text → Option (Text × Text)
  | [] => none
  | c :: rest =>
    if c = sep then some ([], rest)
    else (cutAt? sep rest).map fun (before, after) => (c :: before, after)

/-- The text without the run of `c` at its end. -/
def dropTrailing (c : Char) : Text → Text
  | [] => []
  | d :: rest =>
    match dropTrailing c rest with
    | [] => if d = c then [] else [d]
    | kept => d :: kept

/-- The text without the run of `c` at its start. -/
def dropLeading (c : Char) : Text → Text :=
  List.dropWhile (· = c)

/-- What follows `start` in a text that begins with it. -/
def after? : (start : Text) → Text → Option Text
  | [], text => some text
  | _ :: _, [] => none
  | s :: start, c :: text => if s = c then after? start text else none

/-! ## Letters -/

def isLetter (c : Char) : Bool :=
  ('a' ≤ c && c ≤ 'z') || ('A' ≤ c && c ≤ 'Z')

def isDigit (c : Char) : Bool :=
  '0' ≤ c && c ≤ '9'

/-- The text with its ASCII capitals made small. -/
def lower (text : Text) : Text :=
  text.map Char.toLower

/-- Whether two texts differ at most in the case of ASCII letters. -/
def sameIgnoringCase (a b : Text) : Bool :=
  lower a == lower b

def ofNat (n : Nat) : Text :=
  Nat.toDigits 10 n

/-! ## Cutting loses nothing -/

theorem splitOn_ne_nil (sep : Char) : ∀ text : Text, splitOn sep text ≠ []
  | [] => by simp [splitOn]
  | c :: rest => by
    unfold splitOn
    split
    · simp
    · split <;> simp

/-- **Joining undoes cutting.** -/
theorem joinWith_splitOn (sep : Char) : ∀ text : Text, joinWith sep (splitOn sep text) = text
  | [] => rfl
  | c :: rest => by
    have ih := joinWith_splitOn sep rest
    have hne := splitOn_ne_nil sep rest
    unfold splitOn
    split
    · next h =>
      subst h
      match hs : splitOn c rest, hne with
      | part :: parts, _ => rw [hs] at ih; simp [joinWith, ih]
    · match hs : splitOn sep rest, hne with
      | [part], _ => rw [hs] at ih; simpa [joinWith] using ih
      | part :: next :: parts, _ => rw [hs] at ih; simp [joinWith] at ih ⊢; exact ih

/-- Only a run of `c` at the end is lost. -/
theorem exists_dropTrailing_append (c : Char) (text : Text) :
    ∃ count, text = dropTrailing c text ++ List.replicate count c := by
  induction text with
  | nil => exact ⟨0, rfl⟩
  | cons d rest ih =>
    obtain ⟨count, hrest⟩ := ih
    unfold dropTrailing
    cases hkept : dropTrailing c rest with
    | nil =>
      rw [hkept, List.nil_append] at hrest
      by_cases hd : d = c
      · subst hd
        exact ⟨count + 1, by simpa [List.replicate_succ] using hrest⟩
      · exact ⟨count, by simpa [hd] using hrest⟩
    | cons e kept => exact ⟨count, by simpa [hkept] using hrest⟩

theorem getLast?_dropTrailing (c : Char) (text : Text) :
    (dropTrailing c text).getLast? ≠ some c := by
  induction text with
  | nil => simp [dropTrailing]
  | cons d rest ih =>
    unfold dropTrailing
    cases hkept : dropTrailing c rest with
    | nil => by_cases hd : d = c <;> simp [hd]
    | cons e kept => simpa [hkept, List.getLast?_cons_cons] using ih

/-- What does not end in `c` stays as it is in front. -/
theorem dropTrailing_append {c : Char} {text : Text} (h : text.getLast? ≠ some c) (rest : Text) :
    dropTrailing c (text ++ rest) = text ++ dropTrailing c rest := by
  induction text with
  | nil => rfl
  | cons d text ih =>
    rw [List.cons_append, dropTrailing]
    cases text with
    | nil =>
      have hd : d ≠ c := fun heq => h (by simp [heq])
      cases hkept : dropTrailing c rest <;> simp [hd, hkept]
    | cons e text =>
      rw [ih (by simpa [List.getLast?_cons_cons] using h)]
      rfl

/-- A run of `c` behind what does not end in `c` is removed. -/
theorem dropTrailing_append_replicate {c : Char} {text : Text} (h : text.getLast? ≠ some c)
    (count : Nat) : dropTrailing c (text ++ List.replicate count c) = text := by
  have hnothing : dropTrailing c (List.replicate count c) = [] := by
    induction count with
    | zero => rfl
    | succ count ih => rw [List.replicate_succ, dropTrailing, ih]; exact if_pos rfl
  rw [dropTrailing_append h, hnothing, List.append_nil]

theorem after?_eq_some_iff {start text rest : Text} :
    after? start text = some rest ↔ text = start ++ rest := by
  induction start generalizing text with
  | nil => simp [after?]
  | cons s start ih =>
    cases text with
    | nil => simp [after?]
    | cons c text =>
      by_cases h : s = c
      · subst h; simp [after?, ih]
      · simp [after?, h, Ne.symm h]

end Text

end PageRouter

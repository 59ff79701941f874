import PageRouter.Proofs.Columns

/-!
# Leftmost-first matching

`Shape.Reads` says which texts a sequence of items generates, and by which choices: a literal
contributes itself, a named parameter a text without `/` and `?` that is not empty, a splat any text
without `?`, and a group what its body generates, or nothing.

A text can be read exactly if it is a path that is generated, with a query or nothing behind it, and of
all ways to read it the best one is the one whose choices precede those of all others
(`Pattern.isBest_read`).
-/

namespace PageRouter

open Text

/-! ## What a pattern generates -/

/-- **What a sequence generates**: the choices made, what each parameter stands for, and the text. -/
inductive Shape.Reads : Shape → List Choice → List (Option Text) → Text → Prop
  | done : Reads .done [] [] []
  | literal {text path : Text} {next : Shape} {choices : List Choice}
      {captures : List (Option Text)} : next.Reads choices captures path →
      Reads (.literal text next) choices captures (text ++ path)
  | named {name value path : Text} {next : Shape} {choices : List Choice}
      {captures : List (Option Text)} : value ≠ [] → (∀ c ∈ value, c ≠ '/' ∧ c ≠ '?') →
      next.Reads choices captures path →
      Reads (.named name next) (.named value :: choices) (some value :: captures) (value ++ path)
  | splat {name value path : Text} {next : Shape} {choices : List Choice}
      {captures : List (Option Text)} : (∀ c ∈ value, c ≠ '?') → next.Reads choices captures path →
      Reads (.splat name next) (.splat value :: choices) (some value :: captures) (value ++ path)
  | taken {path path' : Text} {body next : Shape} {choices choices' : List Choice}
      {captures captures' : List (Option Text)} : body.Reads choices captures path →
      next.Reads choices' captures' path' →
      Reads (.group body next) (.taken :: (choices ++ choices')) (captures ++ captures')
        (path ++ path')
  | skipped {path : Text} {body next : Shape} {choices : List Choice}
      {captures : List (Option Text)} : next.Reads choices captures path →
      Reads (.group body next) (.skipped :: choices)
        (List.replicate (body.params true).length none ++ captures) path

def Shape.Generates (shape : Shape) (path : Text) : Prop :=
  ∃ choices captures, shape.Reads choices captures path

/-- The choices and the reading derive a text from a pattern: a path that the pattern generates, and
then the query or nothing. -/
def Pattern.Derives (pattern : Pattern) (text : Text) (choices : List Choice) (reading : Reading) :
    Prop :=
  ∃ before, pattern.shape.Reads before reading.captures reading.path ∧
    ((reading.query = none ∧ text = reading.path ∧ choices = before ++ [.noQuery]) ∨
      ∃ query, reading.query = some query ∧ text = reading.path ++ '?' :: query ∧
        choices = before ++ [.query])

/-- **The leftmost-first reading** of a text: its choices precede those of every other one. -/
def Pattern.LeftmostFirst (pattern : Pattern) (text : Text) (choices : List Choice)
    (reading : Reading) : Prop :=
  pattern.Derives text choices reading ∧
    ∀ others other, pattern.Derives text others other → others = choices ∨ Precedes choices others

/-! ## Items, and what follows them -/

namespace Shape

/-- What a sequence generates, and then one of the ways. -/
def ways (shape : Shape) (next : Text → List Choice → Reading → Prop) (text : Text)
    (choices : List Choice) (reading : Reading) : Prop :=
  ∃ before captures path rest after later, shape.Reads before captures path ∧ next rest after later ∧
    text = path ++ rest ∧ choices = before ++ after ∧
    reading = ⟨captures ++ later.captures, path ++ later.path, later.query⟩

variable {next : Text → List Choice → Reading → Prop} {body rest : Shape} {name literal text : Text}
  {choices : List Choice} {reading : Reading}

lemma ways_done : Shape.done.ways next text choices reading ↔ next text choices reading := by
  constructor
  · rintro ⟨_, _, _, rest, after, later, ⟨⟩, hlater, rfl, rfl, rfl⟩
    exact hlater
  · exact fun hreading => ⟨[], [], [], text, choices, reading, .done, hreading, rfl, rfl, rfl⟩

lemma ways_literal : (Shape.literal literal rest).ways next text choices reading ↔
    literalWays (rest.ways next) literal text choices reading := by
  constructor
  · rintro ⟨_, _, _, end', after, later, hliteral, hlater, rfl, rfl, rfl⟩
    cases hliteral with
    | literal hreads =>
        refine ⟨_, _, List.append_assoc .., ⟨_, _, _, _, _, _, hreads, hlater, rfl, rfl, rfl⟩, ?_⟩
        simp only [Reading.after, List.append_assoc]
  · rintro ⟨_, _, rfl, ⟨before, captures, path, end', after, later, hreads, hlater, rfl, rfl, rfl⟩, rfl⟩
    refine ⟨_, _, _, _, _, _, .literal hreads, hlater, (List.append_assoc ..).symm, rfl, ?_⟩
    simp only [Reading.after, List.append_assoc]

lemma ways_named : (Shape.named name rest).ways next text choices reading ↔
    namedWays (rest.ways next) text choices reading := by
  constructor
  · rintro ⟨_, _, _, end', after, later, hnamed, hlater, rfl, rfl, rfl⟩
    cases hnamed with
    | named hne hvalue hreads =>
        refine ⟨_, _, _, _, List.append_assoc .., hne, hvalue,
          ⟨_, _, _, _, _, _, hreads, hlater, rfl, rfl, rfl⟩, rfl, ?_⟩
        simp only [Reading.after, Reading.capturing, List.append_assoc, List.cons_append]
  · rintro ⟨value, _, _, _, rfl, hne, hvalue,
      ⟨before, captures, path, end', after, later, hreads, hlater, rfl, rfl, rfl⟩, rfl, rfl⟩
    refine ⟨_, _, _, _, _, _, .named hne hvalue hreads, hlater, (List.append_assoc ..).symm, rfl, ?_⟩
    simp only [Reading.after, Reading.capturing, List.append_assoc, List.cons_append]

lemma ways_splat : (Shape.splat name rest).ways next text choices reading ↔
    splatWays (rest.ways next) text choices reading := by
  constructor
  · rintro ⟨_, _, _, end', after, later, hsplat, hlater, rfl, rfl, rfl⟩
    cases hsplat with
    | splat hvalue hreads =>
        refine ⟨_, _, _, _, List.append_assoc .., hvalue,
          ⟨_, _, _, _, _, _, hreads, hlater, rfl, rfl, rfl⟩, rfl, ?_⟩
        simp only [Reading.after, Reading.capturing, List.append_assoc, List.cons_append]
  · rintro ⟨value, _, _, _, rfl, hvalue,
      ⟨before, captures, path, end', after, later, hreads, hlater, rfl, rfl, rfl⟩, rfl, rfl⟩
    refine ⟨_, _, _, _, _, _, .splat hvalue hreads, hlater, (List.append_assoc ..).symm, rfl, ?_⟩
    simp only [Reading.after, Reading.capturing, List.append_assoc, List.cons_append]

/-- The body of a group that is taken is followed by what follows the group. -/
lemma ways_group : (Shape.group body rest).ways next text choices reading ↔
    groupWays (body.params true).length (body.ways (rest.ways next)) (rest.ways next) text choices
      reading := by
  constructor
  · rintro ⟨_, _, _, end', after, later, hgroup, hlater, rfl, rfl, rfl⟩
    cases hgroup with
    | taken hbody hreads =>
        refine .inl ⟨_, rfl, _, _, _, _, _, _, hbody,
          ⟨_, _, _, _, _, _, hreads, hlater, rfl, rfl, rfl⟩, ?_, ?_, ?_⟩
        · exact List.append_assoc ..
        · exact List.append_assoc ..
        · simp only [List.append_assoc]
    | skipped hreads =>
        refine .inr ⟨_, _, rfl, ⟨_, _, _, _, _, _, hreads, hlater, rfl, rfl, rfl⟩, ?_⟩
        simp only [Reading.skipping, List.append_assoc]
  · rintro (⟨_, rfl, before, captures, path, _, _, _, hbody,
      ⟨before', captures', path', end', after, later, hreads, hlater, rfl, rfl, rfl⟩, rfl, rfl, rfl⟩ |
      ⟨_, _, rfl, ⟨before, captures, path, end', after, later, hreads, hlater, rfl, rfl, rfl⟩, rfl⟩)
    · refine ⟨_, _, _, _, _, _, .taken hbody hreads, hlater, ?_, ?_, ?_⟩
      all_goals simp only [List.append_assoc, List.cons_append]
    · refine ⟨_, _, _, _, _, _, .skipped hreads, hlater, rfl, rfl, ?_⟩
      simp only [Reading.skipping, List.append_assoc]

/-- **The column of a sequence** holds the best readings of the sequence with what follows. -/
theorem column_bests (shape : Shape) {column : Column Reading} (h : Bests next text column) :
    Bests (shape.ways next) text (shape.column text column) := by
  induction shape generalizing next column with
  | done => exact h.congr fun _ _ _ => ways_done
  | literal literal rest ih => exact ((ih h).literal literal).congr fun _ _ _ => ways_literal
  | named name rest ih => exact (ih h).named.congr fun _ _ _ => ways_named
  | splat name rest ih => exact (ih h).splat.congr fun _ _ _ => ways_splat
  | group body rest ihBody ih =>
      exact ((ihBody (ih h)).group (ih h) _).congr fun _ _ _ => ways_group

end Shape

/-! ## Patterns -/

namespace Pattern

variable {pattern : Pattern} {text : Text}

/-- The patterns are those that compile. -/
lemma compile_eq_ok_iff {text : Text} {pattern : Pattern} :
    compile text = .ok pattern ↔ pattern.text = text := by
  constructor
  · intro h
    unfold compile at h
    split at h
    · cases h
    · split at h
      · cases h
      · simp only at h
        split at h
        · cases h
          rfl
        · cases h
  · rintro rfl
    obtain ⟨text, shape, rfl, hne, hfault, hdeep⟩ := pattern
    unfold compile
    rw [dif_neg hne]
    split
    · next h => rw [hfault] at h; cases h
    · rw [dif_pos hdeep]

lemma ways_endWays {choices : List Choice} {reading : Reading} :
    pattern.shape.ways endWays text choices reading ↔ pattern.Derives text choices reading := by
  constructor
  · rintro ⟨before, captures, path, rest, _, _, hreads, ⟨rfl, rfl, rfl⟩ | ⟨query, rfl, rfl, rfl⟩,
      rfl, rfl, rfl⟩
    · exact ⟨before, by simpa using hreads, .inl ⟨rfl, rfl, rfl⟩⟩
    · exact ⟨before, by simpa using hreads, .inr ⟨query, rfl, by simp, rfl⟩⟩
  · obtain ⟨captures, path, query⟩ := reading
    rintro ⟨before, hreads, ⟨rfl, rfl, rfl⟩ | ⟨query', rfl, rfl, rfl⟩⟩
    · exact ⟨before, captures, text, [], _, _, hreads, .inl ⟨rfl, rfl, rfl⟩, by simp, rfl, by simp⟩
    · exact ⟨before, captures, path, _, _, _, hreads, .inr ⟨query', rfl, rfl, rfl⟩, rfl, rfl, by simp⟩

/-- What a pattern reads is the best of its derivations. -/
theorem isBest_read (pattern : Pattern) (text : Text) :
    IsBest (pattern.Derives text) (pattern.read? text) :=
  (pattern.shape.column_bests (.atEnd text)).best.congr fun _ _ => ways_endWays.symm

/-- A text that is derived is a path that the pattern generates and a query or nothing. -/
lemma exists_derives : (∃ choices reading, pattern.Derives text choices reading) ↔
    ∃ path rest, text = path ++ rest ∧ (rest = [] ∨ ∃ query, rest = '?' :: query) ∧
      pattern.shape.Generates path := by
  constructor
  · rintro ⟨_, ⟨captures, path, _⟩, before, hreads, ⟨-, rfl, -⟩ | ⟨query, -, rfl, -⟩⟩
    · exact ⟨text, [], (List.append_nil _).symm, .inl rfl, before, captures, hreads⟩
    · exact ⟨path, _, rfl, .inr ⟨query, rfl⟩, before, captures, hreads⟩
  · rintro ⟨path, _, rfl, rfl | ⟨query, rfl⟩, before, captures, hreads⟩
    · exact ⟨_, ⟨captures, path, none⟩, before, hreads, .inl ⟨rfl, List.append_nil _, rfl⟩⟩
    · exact ⟨_, ⟨captures, path, some query⟩, before, hreads, .inr ⟨query, rfl, rfl, rfl⟩⟩

end Pattern

end PageRouter

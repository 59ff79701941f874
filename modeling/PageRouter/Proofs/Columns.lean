import PageRouter.Proofs.Priority

/-!
# Columns of best readings

Each item of a pattern turns the best readings of what follows into the best readings of the item
with what follows.  `literalWays`, `runWays` and their companions say which ways there are, in terms of
the text alone: some of it is the item's, and the rest is read in one of the `ways` that there are for
it.
-/

namespace PageRouter

open Text

/-- A reading with text in front of its path. -/
def Reading.after (reading : Reading) (text : Text) : Reading :=
  { reading with path := text ++ reading.path }

variable {ways : Text → List Choice → Reading → Prop} {text : Text} {column : Column Reading}

/-! ## Literals -/

/-- Some text, and then one of the ways. -/
def literalWays (ways : Text → List Choice → Reading → Prop) (literal text : Text)
    (choices : List Choice) (reading : Reading) : Prop :=
  ∃ rest later, text = literal ++ rest ∧ ways rest choices later ∧ reading = later.after literal

lemma Bests.character (h : Bests ways text column) (c : Char) :
    Bests (literalWays ways [c]) text (Column.character c text column) := by
  induction h with
  | nil _ =>
      refine .nil (isBest_none fun choices reading => ?_)
      rintro ⟨rest, later, hnil, -, -⟩
      cases hnil
  | @cons d text entry column hentry hcolumn ih =>
      refine .cons ?_ ih
      by_cases hd : d = c
      · subst hd
        rw [if_pos rfl]
        refine hcolumn.best.map (·.precededBy d) id (fun _ _ hprecedes => hprecedes) ?_
        intro choices reading
        constructor
        · rintro ⟨rest, later, hrest, hlater, rfl⟩
          obtain rfl : text = rest := (List.cons.inj hrest).2
          exact ⟨choices, later, hlater, rfl, rfl⟩
        · rintro ⟨_, later, hlater, rfl, rfl⟩
          exact ⟨text, later, rfl, hlater, rfl⟩
      · rw [if_neg hd]
        refine isBest_none fun choices reading => ?_
        rintro ⟨rest, later, hrest, -, -⟩
        exact hd (List.cons.inj hrest).1

lemma Bests.literal (h : Bests ways text column) (literal : Text) :
    Bests (literalWays ways literal) text (Column.literal literal text column) := by
  induction literal with
  | nil =>
      refine h.congr fun text choices reading => ?_
      constructor
      · rintro ⟨rest, later, rfl, hlater, rfl⟩
        exact hlater
      · exact fun hreading => ⟨text, reading, rfl, hreading, rfl⟩
  | cons c literal ih =>
      refine (ih.character c).congr fun text choices reading => ?_
      constructor
      · rintro ⟨rest, later, rfl, hlater, rfl⟩
        exact ⟨literal ++ rest, later.after literal, rfl, ⟨rest, later, rfl, hlater, rfl⟩, rfl⟩
      · rintro ⟨_, _, rfl, ⟨rest, later, rfl, hlater, rfl⟩, rfl⟩
        exact ⟨rest, later, rfl, hlater, rfl⟩

/-! ## Runs of characters -/

/-- The choice of a run: as many characters as possible, or as few. -/
def Choice.ofRun (greedy : Bool) (value : Text) : Choice :=
  if greedy then .named value else .splat value

/-- A run that starts with some text, and then one of the ways. -/
def runWays (ways : Text → List Choice → Reading → Prop) (inside : Char → Bool) (greedy : Bool)
    (start text : Text) (choices : List Choice) (found : Text × Reading) : Prop :=
  ∃ value rest before later, text = value ++ rest ∧ (∀ c ∈ start ++ value, inside c) ∧
    ways rest before later ∧ choices = .ofRun greedy (start ++ value) :: before ∧
    found = (start ++ value, later.after (start ++ value))

/-- One character more at the start of the run that is chosen first. -/
def lengthen (c : Char) : List Choice → List Choice
  | .named value :: choices => .named (c :: value) :: choices
  | .splat value :: choices => .splat (c :: value) :: choices
  | choices => choices

lemma Precedes.lengthen (c : Char) {choices others : List Choice} (h : Precedes choices others) :
    Precedes (lengthen c choices) (lengthen c others) := by
  cases choices with
  | nil => exact h.elim
  | cons choice choices =>
      cases others with
      | nil => exact h.elim
      | cons other others =>
          rcases h with hbetter | ⟨rfl, hrest⟩
          · cases choice <;> cases other <;>
              simp_all only [Choice.Better, PageRouter.lengthen, Precedes, true_or,
                List.length_cons, Nat.add_lt_add_iff_right]
          · cases choice <;> exact .inr ⟨rfl, hrest⟩

section Runs

variable {inside : Char → Bool} {greedy : Bool}

/-- A run that goes on with one more character. -/
lemma IsBest.further {entry : Option (Text × Reading)}
    (h : IsBest (runWays ways inside greedy [] text) entry) (c : Char) :
    IsBest (runWays ways inside greedy [c] text)
      (if inside c then
        entry.map fun found => (c :: found.1, found.2.precededBy c) else none) := by
  by_cases hc : inside c
  · rw [if_pos hc]
    refine h.map _ (lengthen c) (fun _ _ hprecedes => hprecedes.lengthen c) fun choices found => ?_
    constructor
    · rintro ⟨value, rest, before, later, rfl, hvalue, hlater, rfl, rfl⟩
      refine ⟨.ofRun greedy value :: before, (value, later.after value),
        ⟨value, rest, before, later, rfl, ?_, hlater, rfl, rfl⟩, ?_, rfl⟩
      · exact fun d hd => hvalue d (List.mem_cons_of_mem c hd)
      · cases greedy <;> rfl
    · rintro ⟨_, _, ⟨value, rest, before, later, rfl, hvalue, hlater, rfl, rfl⟩, rfl, rfl⟩
      refine ⟨value, rest, before, later, rfl, ?_, hlater, ?_, rfl⟩
      · intro d hd
        rcases List.mem_cons.1 hd with rfl | hd
        · exact hc
        · exact hvalue d hd
      · cases greedy <;> rfl
  · rw [if_neg hc]
    refine isBest_none fun choices found => ?_
    rintro ⟨value, rest, before, later, -, hvalue, -⟩
    exact hc (hvalue c (List.mem_cons_self ..))

/-- A run that stops before it starts. -/
lemma IsBest.stop {entry : Option Reading} (h : IsBest (ways text) entry) (greedy : Bool) :
    IsBest (fun choices found => ∃ before later, ways text before later ∧
      choices = Choice.ofRun greedy [] :: before ∧ found = (([], later) : Text × Reading))
      (entry.map ([], ·)) := by
  refine h.map _ (.ofRun greedy [] :: ·) (fun _ _ hprecedes => .inr ⟨rfl, hprecedes⟩) ?_
  exact fun choices found => Iff.rfl

/-- A run stops at once or goes on with the first character. -/
lemma runWays_cons {c : Char} {choices : List Choice} {found : Text × Reading} :
    runWays ways inside greedy [] (c :: text) choices found ↔
      runWays ways inside greedy [c] text choices found ∨
      ∃ before later, ways (c :: text) before later ∧
        choices = .ofRun greedy [] :: before ∧ found = ([], later) := by
  constructor
  · rintro ⟨value, rest, before, later, htext, hvalue, hlater, rfl, rfl⟩
    cases value with
    | nil =>
        obtain rfl : c :: text = rest := htext
        exact .inr ⟨before, later, hlater, rfl, rfl⟩
    | cons d value =>
        obtain ⟨rfl, rfl⟩ := List.cons.inj htext
        exact .inl ⟨value, rest, before, later, rfl, hvalue, hlater, rfl, rfl⟩
  · rintro (⟨value, rest, before, later, rfl, hvalue, hlater, rfl, rfl⟩ |
      ⟨before, later, hlater, rfl, rfl⟩)
    · exact ⟨c :: value, rest, before, later, rfl, hvalue, hlater, rfl, rfl⟩
    · exact ⟨[], c :: text, before, later, rfl, by simp, hlater, rfl, rfl⟩

/-- **A run of characters** is tried longest first or shortest first. -/
lemma Bests.run (h : Bests ways text column) :
    Bests (runWays ways inside greedy []) text (Column.run inside greedy text column) := by
  induction h with
  | nil hentry =>
      refine .nil ((hentry.stop greedy).congr fun choices found => ?_)
      constructor
      · rintro ⟨value, rest, before, later, hnil, -, hlater, rfl, rfl⟩
        obtain ⟨rfl, rfl⟩ := List.append_eq_nil_iff.1 hnil.symm
        exact ⟨before, later, hlater, rfl, rfl⟩
      · rintro ⟨before, later, hlater, rfl, rfl⟩
        exact ⟨[], [], before, later, rfl, by simp, hlater, rfl, rfl⟩
  | @cons c text entry column hentry _ ih =>
      refine .cons ?_ ih
      have hgo := ih.best.further c
      have hstop : IsBest _ (entry.map ([], ·)) := hentry.stop greedy
      cases greedy with
      | true =>
          refine hgo.orElse hstop (fun _ _ => runWays_cons) ?_
          rintro _ _ _ _ ⟨value, rest, before, later, -, -, -, rfl, -⟩ ⟨before', later', -, rfl, -⟩
          exact .inl (Nat.zero_lt_succ _)
      | false =>
          refine hstop.orElse hgo (fun _ _ => runWays_cons.trans or_comm) ?_
          rintro _ _ _ _ ⟨before', later', -, rfl, -⟩ ⟨value, rest, before, later, -, -, -, rfl, -⟩
          exact .inl (Nat.zero_lt_succ _)

/-- A run that is not empty goes on with the first character. -/
lemma Bests.nonEmpty {column : Column (Text × Reading)}
    (h : Bests (runWays ways inside greedy []) text column) :
    Bests (fun text choices found => runWays ways inside greedy [] text choices found ∧ found.1 ≠ [])
      text (Column.nonEmpty inside text column) := by
  induction h with
  | nil _ =>
      refine .nil (isBest_none fun choices found => ?_)
      rintro ⟨⟨value, rest, before, later, hnil, -, -, -, rfl⟩, hne⟩
      exact hne (List.append_eq_nil_iff.1 hnil.symm).1
  | @cons c text entry column _ hcolumn ih =>
      refine .cons ((hcolumn.best.further c).congr fun choices found => ?_) ih
      rw [runWays_cons]
      constructor
      · rintro ⟨hgo | ⟨before, later, -, -, rfl⟩, hne⟩
        · exact hgo
        · exact absurd rfl hne
      · rintro ⟨value, rest, before, later, htext, hvalue, hlater, hchoices, rfl⟩
        exact ⟨.inl ⟨value, rest, before, later, htext, hvalue, hlater, hchoices, rfl⟩, by simp⟩

end Runs

/-! ## Parameters -/

/-- A named parameter, and then one of the ways. -/
def namedWays (ways : Text → List Choice → Reading → Prop) (text : Text) (choices : List Choice)
    (reading : Reading) : Prop :=
  ∃ value rest before later, text = value ++ rest ∧ value ≠ [] ∧
    (∀ c ∈ value, c ≠ '/' ∧ c ≠ '?') ∧ ways rest before later ∧ choices = .named value :: before ∧
    reading = (later.after value).capturing (some value)

/-- A splat, and then one of the ways. -/
def splatWays (ways : Text → List Choice → Reading → Prop) (text : Text) (choices : List Choice)
    (reading : Reading) : Prop :=
  ∃ value rest before later, text = value ++ rest ∧ (∀ c ∈ value, c ≠ '?') ∧ ways rest before later ∧
    choices = .splat value :: before ∧ reading = (later.after value).capturing (some value)

lemma forall_inSegment {value : Text} :
    (∀ c ∈ value, Column.inSegment c) ↔ ∀ c ∈ value, c ≠ '/' ∧ c ≠ '?' := by
  simp only [Column.inSegment, Bool.and_eq_true, bne_iff_ne]

lemma forall_inPath {value : Text} : (∀ c ∈ value, Column.inPath c) ↔ ∀ c ∈ value, c ≠ '?' := by
  simp only [Column.inPath, bne_iff_ne]

/-- What is taken becomes the capture, which changes no choice. -/
lemma Bests.capture {runs : Text → List Choice → Text × Reading → Prop}
    {column : Column (Text × Reading)} (h : Bests runs text column) :
    Bests (fun text choices reading => ∃ found, runs text choices found ∧
      reading = found.2.capturing (some found.1)) text (Column.capture column) := by
  refine h.map _ fun text entry hentry => ?_
  refine hentry.map _ id (fun _ _ hprecedes => hprecedes) fun choices reading => ?_
  constructor
  · rintro ⟨found, hfound, rfl⟩
    exact ⟨choices, found, hfound, rfl, rfl⟩
  · rintro ⟨_, found, hfound, rfl, rfl⟩
    exact ⟨found, hfound, rfl⟩

lemma Bests.named (h : Bests ways text column) :
    Bests (namedWays ways) text (Column.named text column) := by
  refine h.run.nonEmpty.capture.congr fun text choices reading => ?_
  constructor
  · rintro ⟨value, rest, before, later, rfl, hne, hvalue, hlater, rfl, rfl⟩
    exact ⟨_, ⟨⟨value, rest, before, later, rfl, forall_inSegment.2 hvalue, hlater, rfl, rfl⟩, hne⟩,
      rfl⟩
  · rintro ⟨_, ⟨⟨value, rest, before, later, rfl, hvalue, hlater, rfl, rfl⟩, hne⟩, rfl⟩
    exact ⟨value, rest, before, later, rfl, hne, forall_inSegment.1 hvalue, hlater, rfl, rfl⟩

lemma Bests.splat (h : Bests ways text column) :
    Bests (splatWays ways) text (Column.splat text column) := by
  refine h.run.capture.congr fun text choices reading => ?_
  constructor
  · rintro ⟨value, rest, before, later, rfl, hvalue, hlater, rfl, rfl⟩
    exact ⟨_, ⟨value, rest, before, later, rfl, forall_inPath.2 hvalue, hlater, rfl, rfl⟩, rfl⟩
  · rintro ⟨_, ⟨value, rest, before, later, rfl, hvalue, hlater, rfl, rfl⟩, rfl⟩
    exact ⟨value, rest, before, later, rfl, forall_inPath.1 hvalue, hlater, rfl, rfl⟩

/-! ## Groups -/

/-- A reading with some parameters in front that have no part in it. -/
def Reading.skipping (reading : Reading) (count : Nat) : Reading :=
  { reading with captures := List.replicate count none ++ reading.captures }

/-- A group with what follows it, or else only what follows it. -/
def groupWays (count : Nat) (body ways : Text → List Choice → Reading → Prop) (text : Text)
    (choices : List Choice) (reading : Reading) : Prop :=
  (∃ before, choices = .taken :: before ∧ body text before reading) ∨
  ∃ before later, choices = .skipped :: before ∧ ways text before later ∧
    reading = later.skipping count

lemma Bests.group {body : Text → List Choice → Reading → Prop} {taken : Column Reading}
    (hbody : Bests body text taken) (h : Bests ways text column) (count : Nat) :
    Bests (groupWays count body ways) text
      (Column.firstOf taken (Column.skipping count column)) := by
  have hskipped : Bests (fun text choices reading => ∃ before later, choices = .skipped :: before ∧
      ways text before later ∧ reading = later.skipping count) text
      (Column.skipping count column) := by
    refine h.map _ fun text entry hentry => ?_
    refine hentry.map _ (.skipped :: ·) (fun _ _ hprecedes => .inr ⟨rfl, hprecedes⟩) ?_
    intro choices reading
    constructor
    · rintro ⟨before, later, hchoices, hlater, hreading⟩
      exact ⟨before, later, hlater, hchoices, hreading⟩
    · rintro ⟨before, later, hlater, hchoices, hreading⟩
      exact ⟨before, later, hchoices, hlater, hreading⟩
  refine hbody.zipWith hskipped _ fun text entry entry' hentry hentry' => ?_
  have htaken : IsBest (fun choices reading => ∃ before, choices = .taken :: before ∧
      body text before reading) entry := by
    suffices IsBest _ (entry.map id) by simpa using this
    refine hentry.map id (.taken :: ·) (fun _ _ hprecedes => .inr ⟨rfl, hprecedes⟩) ?_
    intro choices reading
    constructor
    · rintro ⟨before, hchoices, hreading⟩
      exact ⟨before, reading, hreading, hchoices, rfl⟩
    · rintro ⟨before, _, hreading, hchoices, rfl⟩
      exact ⟨before, hchoices, hreading⟩
  refine htaken.orElse hentry' (fun _ _ => Iff.rfl) ?_
  rintro _ _ _ _ ⟨before, rfl, -⟩ ⟨before', later, rfl, -, -⟩
  exact .inl trivial

/-! ## The end -/

/-- Behind a pattern there is nothing, or the query. -/
def endWays (text : Text) (choices : List Choice) (reading : Reading) : Prop :=
  (text = [] ∧ choices = [.noQuery] ∧ reading = ⟨[], [], none⟩) ∨
  ∃ query, text = '?' :: query ∧ choices = [.query] ∧ reading = ⟨[], [], some query⟩

lemma Bests.atEnd (text : Text) : Bests endWays text (Column.atEnd text) := by
  induction text with
  | nil =>
      refine .nil ⟨[.noQuery], .inl ⟨rfl, rfl, rfl⟩, ?_⟩
      rintro others reading (⟨-, rfl, rfl⟩ | ⟨query, hquery, -⟩)
      · exact .inl ⟨rfl, rfl⟩
      · cases hquery
  | cons c text ih =>
      refine .cons ?_ ih
      by_cases hc : c = '?'
      · subst hc
        refine ⟨[.query], .inr ⟨text, rfl, rfl, rfl⟩, ?_⟩
        rintro others reading (⟨hnil, -⟩ | ⟨query, hquery, rfl, rfl⟩)
        · cases hnil
        · obtain rfl := (List.cons.inj hquery).2
          exact .inl ⟨rfl, rfl⟩
      · rw [if_neg hc]
        refine isBest_none fun choices reading => ?_
        rintro (⟨hnil, -⟩ | ⟨query, hquery, -⟩)
        · cases hnil
        · exact hc (List.cons.inj hquery).1

end PageRouter

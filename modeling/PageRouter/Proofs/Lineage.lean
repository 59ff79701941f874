import PageRouter.Proofs.Regimes

/-!
# What a node keeps for good

A node is made with a pattern, the patterns of the routes around it and the signal that it listens
to, and none of them ever changes: nodes are only added, at the end of the list.  Nor does the root
change once it is set (`Evolved`).  This holds of all that a page does, whatever its hooks and
listeners do (`evolving`, `exec_evolves`), so it needs neither a session nor a page at rest.

What a node is made with is right when it is made: the route has the pattern's text, and the lineage
of a nested node is that of the node around it and then that node's own text (`Fixture.Fits`).
Hence all pages that commands lead to are `Built` (`Reached.built`).
-/

namespace PageRouter

open Page

/-- **A fixture fits** in with those of the other nodes. -/
structure Fixture.Fits (fixtures : List Fixture) (fixture : Fixture) : Prop where
  /-- The route has the text of the pattern. -/
  text : fixture.text = some fixture.pattern.text
  top : fixture.signal = .location → fixture.lineage = []
  /-- The lineage of a nested node is that of the node around it and the text of that node. -/
  nested : ∀ parent, fixture.signal = .tailOf parent → ∃ around, fixtures[parent]? = some around ∧
    fixture.lineage = around.lineage ++ [around.pattern.text]

lemma getElem?_of_prefix {fixtures fixtures' : List Fixture} {fixture : Fixture} {id : NodeId}
    (h : fixtures <+: fixtures') (hid : fixtures[id]? = some fixture) :
    fixtures'[id]? = some fixture := by
  obtain ⟨more, rfl⟩ := h
  rw [List.getElem?_append_left (List.getElem?_eq_some_iff.1 hid).1, hid]

lemma Fixture.Fits.mono {fixtures fixtures' : List Fixture} {fixture : Fixture}
    (h : fixture.Fits fixtures) (hgrown : fixtures <+: fixtures') : fixture.Fits fixtures' where
  text := h.text
  top := h.top
  nested := by
    intro parent hparent
    obtain ⟨around, haround, hlineage⟩ := h.nested parent hparent
    exact ⟨around, getElem?_of_prefix hgrown haround, hlineage⟩

namespace Page

variable {page mid after : Page} {α β : Type}

/-- **A page that is built as it should be.** -/
structure Built (page : Page) : Prop where
  fits : ∀ fixture ∈ page.fixtures, fixture.Fits page.fixtures
  /-- The root is in its written form. -/
  root : ∀ root, page.root? = some root → ∃ text, root = normalizeRoot text

/-- **What becomes of a page**, as far as it keeps things for good. -/
structure Evolved (page after : Page) : Prop where
  fixtures : page.fixtures <+: after.fixtures
  /-- A root that is set stays. -/
  root : ∀ root, page.root? = some root → after.root? = some root
  built : page.Built → after.Built

lemma Evolved.trans (h : Evolved page mid) (h' : Evolved mid after) : Evolved page after where
  fixtures := h.fixtures.trans h'.fixtures
  root := fun root hroot => h'.root root (h.root root hroot)
  built := fun hbuilt => h'.built (h.built hbuilt)

lemma Evolved.of_eq (hfixtures : after.fixtures = page.fixtures)
    (hroot : after.root? = page.root?) : Evolved page after where
  fixtures := hfixtures ▸ List.prefix_rfl
  root := by rw [hroot]; exact fun _ => id
  built := fun hbuilt => ⟨hfixtures ▸ hbuilt.fits, hroot ▸ hbuilt.root⟩

lemma Evolved.refl (page : Page) : Evolved page page := .of_eq rfl rfl

lemma fixtures_modifySignal (page : Page) (ref : SignalRef)
    (change : Signal Listener → Signal Listener) :
    (page.modifySignal ref change).fixtures = page.fixtures :=
  map_modifySignal Node.fixture (fun _ _ => rfl) page ref change

lemma root?_modifySignal (page : Page) (ref : SignalRef)
    (change : Signal Listener → Signal Listener) :
    (page.modifySignal ref change).root? = page.root? := by cases ref <;> rfl

/-! ## What every edit keeps -/

/-- **A node is made as it should be.** -/
lemma Evolved.planted {route : Route} {pattern : Pattern} {tag : Text}
    {parent : Option (NodeId × Node)} {registry : Registry}
    (hparent : ∀ around ∈ parent, page.nodes[around.1]? = some around.2)
    (hroute : route.pattern = some pattern.text) :
    Evolved page (page.planted route pattern tag parent registry) := by
  have hfixtures : (page.planted route pattern tag parent registry).fixtures =
      page.fixtures ++ [(page.newcomer route pattern tag parent).fixture] := by
    have hheard := fixtures_modifySignal page (signalBelow (parent.map (·.1)))
      (·.subscribe (.node page.nodes.length))
    rw [← hheard]
    exact List.map_append
  have hroot : (page.planted route pattern tag parent registry).root? = page.root? :=
    root?_modifySignal ..
  have hgrown : page.fixtures <+: (page.planted route pattern tag parent registry).fixtures :=
    hfixtures ▸ List.prefix_append ..
  refine ⟨hgrown, by rw [hroot]; exact fun _ => id, fun hbuilt => ⟨?_, hroot ▸ hbuilt.root⟩⟩
  intro fixture hmem
  rw [hfixtures, List.mem_append, List.mem_singleton] at hmem
  rcases hmem with hold | rfl
  · exact (hbuilt.fits fixture hold).mono hgrown
  · cases parent with
    | none => exact ⟨hroute, fun _ => rfl, fun _ hsignal => by cases hsignal⟩
    | some around =>
        have haround : page.fixtures[around.1]? = some around.2.fixture := by
          rw [Page.fixtures, List.getElem?_map, hparent around rfl, Option.map_some]
        have htext := (hbuilt.fits _ (List.mem_of_getElem? haround)).text
        refine ⟨hroute, fun hsignal => ?_, fun id hid => ?_⟩
        · cases hsignal
        · obtain rfl : around.1 = id := SignalRef.tailOf.inj hid
          refine ⟨_, getElem?_of_prefix hgrown haround, ?_⟩
          show around.2.lineage ++ [around.2.route.pattern.getD []] = _
          rw [show around.2.route.pattern = some around.2.pattern.text from htext]
          rfl

/-- **Every edit keeps** what a page keeps for good. -/
lemma Evolved.edit {may : Command → Prop} (h : Edit may page after) : Evolved page after := by
  cases h with
  | minor hminor => exact .of_eq hminor.fixtures hminor.root
  | useHook => exact .of_eq rfl rfl
  | useReaction => exact .of_eq rfl rfl
  | planted hparent hroute => exact .planted hparent hroute
  | cancel => exact .of_eq (fixtures_modifySignal ..) (root?_modifySignal ..)
  | watchLocation => exact .of_eq rfl rfl
  | watchTail => exact .of_eq (fixtures_modifySignal ..) rfl
  | setHooks => exact .of_eq rfl rfl
  | setRoot root hunset =>
      refine ⟨List.prefix_rfl, ?_, fun hbuilt => ⟨hbuilt.fits, ?_⟩⟩
      · intro root hsome
        rw [hunset] at hsome
        cases hsome
      · rintro _ ⟨⟩
        exact ⟨root, rfl⟩

/-- What a page keeps for good, whatever commands there are. -/
def evolving : Regime where
  holds _ := True
  becomes := Evolved
  may _ := True
  refl := .refl
  trans _ _ h h' := h.trans h'
  edit _ h := ⟨trivial, .edit h⟩
  hooks _ _ _ := .of_forall fun _ => trivial
  listeners _ _ := .of_forall fun _ => trivial

lemma evolving_unbounded : evolving.Unbounded where
  may _ := trivial
  history _ _ := ⟨trivial, .of_eq rfl rfl, .of_eq rfl rfl (.inl rfl)⟩
  told _ _ _ _ := ⟨trivial, .of_eq rfl rfl, .of_eq rfl rfl (.inl rfl)⟩

/-- From this page on, what a page keeps for good is kept. -/
def EvolvesAt (page : Page) (c : PageM α) : Prop :=
  ∀ a after, c page = some (a, after) → Evolved page after

/-- **What a page keeps for good is kept** by a computation. -/
def Evolves (c : PageM α) : Prop := ∀ page, EvolvesAt page c

/-- **Nothing that a page does** loses what it keeps for good. -/
theorem exec_evolves (depth : Nat) (call : Call) : Evolves (exec depth call) :=
  fun page _ _ hrun =>
    (evolving_unbounded.keeps_exec depth call page trivial).of_eq hrun |>.becomes

lemma Evolved.run {command : Command} {answer : Answer}
    (h : page.run command = some (answer, after)) : Evolved page after :=
  exec_evolves _ _ page answer after h

/-! ## Sessions -/

/-- **All pages that commands lead to**, whatever hooks and listeners do. -/
inductive Reached : Page → Prop
  | start (history : History) : Reached (.start history)
  | configured {page : Page} (config : Config) : Reached page → page.nodes = [] →
      Reached (page.configured config)
  | counting {page : Page} (count : Nat) : Reached page →
      Reached (page.withDefaultCacheCount count)
  | step {page after : Page} {command : Command} {answer : Answer} : Reached page →
      page.run command = some (answer, after) → Reached after

lemma Reached.play (h : page.Reached) (command : Command) : (page.play command).Reached := by
  cases hrun : page.run command with
  | none => rw [Page.play, hrun]; exact h
  | some result => rw [Page.play, hrun]; exact h.step hrun

lemma Reached.plays (h : page.Reached) (commands : List Command) : (page.plays commands).Reached := by
  induction commands generalizing page with
  | nil => exact h
  | cons command rest ih => exact ih (h.play command)

/-- **The pages that commands lead to are built as they should be.** -/
theorem Reached.built (h : page.Reached) : page.Built := by
  induction h with
  | start history =>
      refine ⟨fun fixture hmem => ?_, fun root hroot => ?_⟩
      · cases hmem
      · cases hroot
  | @configured page config _ hempty ih =>
      refine ⟨ih.fits, fun root hroot => ?_⟩
      obtain ⟨text, -, rfl⟩ := Option.map_eq_some_iff.1 hroot
      exact ⟨text, rfl⟩
  | counting count _ ih => exact ⟨ih.fits, ih.root⟩
  | step _ hrun ih => exact (Evolved.run hrun).built ih

variable {late : Bool}

lemma Session.reached (h : Session late page) : page.Reached := by
  induction h with
  | start history => exact .start history
  | configured config _ hempty ih => exact ih.configured config hempty
  | counting count _ ih => exact ih.counting count
  | step _ _ _ hrun ih => exact ih.step hrun

/-- As long as no root is set or nothing is mounted, no root has been set too late. -/
lemma Session.early (h : Session late page) (hearly : page.root? = none ∨ page.nodes = []) :
    Session false page := by
  induction h with
  | start history => exact .start history
  | configured config _ hempty ih => exact (ih (.inr hempty)).configured config hempty
  | counting count _ ih => exact (ih hearly).counting count
  | @step page after command answer _ hbrings _ hrun ih =>
      have hevolved : Evolved page after := .run hrun
      have hnodes : after.nodes = [] → page.nodes = [] := by
        intro hnil
        have hgrown := hevolved.fixtures
        rw [Page.fixtures, Page.fixtures, hnil] at hgrown
        exact List.map_eq_nil_iff.1 (List.prefix_nil.1 hgrown)
      have hroot : after.root? = none → page.root? = none := by
        intro hnone
        cases hroot : page.root? with
        | none => rfl
        | some root => rw [hevolved.root root hroot] at hnone; cases hnone
      refine (ih (hearly.imp hroot hnodes)).step hbrings (.inr fun hsets hunset => ?_) hrun
      refine hearly.elim (fun hnone => ?_) hnodes
      cases command with
      | setRoot root =>
          obtain ⟨depth, hperform⟩ := run_eq_some hrun
          have hset : Leads false (perform (exec depth) (.setRoot root)) page fun _ after =>
              after.root? = some (normalizeRoot root) := by
            simp only [perform, setRoot, leads_bind, leads_get, hunset, leads_set, leads_pure]
          rw [hset.of_eq hperform] at hnone
          cases hnone
      | _ => cases hsets

end Page

end PageRouter

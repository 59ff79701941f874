import PageRouter.Proofs.Destinations

/-!
# Locations outside the root

A root is taken off a location on a segment boundary, and a location that is not below the root stays
as it is (`stripRoot_of_outside`).  Patterns do not know of a root: they are matched against what is
left.  So a location outside the root is treated as if there were none — whoever accepts it as it
stands matches it — and is not refused for where it lies (`outside_as_it_stands`).
-/

namespace PageRouter

open Text

/-- A location that is neither the root nor below it. -/
def Outside (url root : Text) : Prop :=
  url ≠ root ∧ ¬(root ++ ['/']) <+: url ∧ ¬(root ++ ['?']) <+: url

instance (url root : Text) : Decidable (Outside url root) :=
  inferInstanceAs (Decidable (_ ∧ _))

/-- A location outside the root stays as it is. -/
lemma stripRoot_of_outside {url root : Text} (h : Outside url root) : stripRoot url root = url := by
  obtain ⟨hne, hbelow, hquery⟩ := h
  rw [stripRoot]
  split
  · rfl
  · split
    · next hafter => exact absurd ((after?_eq_some_iff.1 hafter).trans (List.append_nil root)) hne
    · next rest hafter =>
        refine absurd ⟨rest, ?_⟩ hbelow
        rw [after?_eq_some_iff.1 hafter, List.append_assoc, List.singleton_append]
    · next query hafter =>
        refine absurd ⟨query, ?_⟩ hquery
        rw [after?_eq_some_iff.1 hafter, List.append_assoc, List.singleton_append]
    · rfl

/-! ## Acceptance -/

namespace Pattern

/-- The pattern generates the text, or the text in front of a query. -/
def Accepts (pattern : Pattern) (text : Text) : Prop :=
  ∃ path rest, text = path ++ rest ∧ (rest = [] ∨ ∃ query, rest = '?' :: query) ∧
    pattern.shape.Generates path

lemma isSome_matchPath_iff_accepts {pattern : Pattern} {text : Text} :
    (pattern.matchPath text).isSome ↔ pattern.Accepts text := by
  rw [Accepts, ← exists_derives, Option.isSome_iff_ne_none, Ne, matchPath_eq_none_iff]
  simp only [not_forall, not_not]

end Pattern

lemma Registry.handles_iff {registry : Registry} {url root : Text} : registry.handles url root ↔
    ∃ entry ∈ registry.entries, entry.pattern.Accepts (stripRoot url root) := by
  simp only [handles, List.any_eq_true, Pattern.isSome_matchPath_iff_accepts]

/-! ## Clicks -/

/-- A plain click is one on the anchor that it landed on. -/
lemma Click.anchor_of_screen {click : Click} {anchor : Anchor} (h : click.screen = .ok anchor) :
    click.anchor = some anchor := by
  unfold screen at h
  repeat' split at h
  all_goals cases h
  assumption

namespace Page

variable {page : Page} {click : Click} {url : Text} {replaces : Bool}

/-- **A click is followed** if it is plain and some route handles the location of its link. -/
lemma interceptClick_eq_ok_iff : page.interceptClick click = .ok (url, replaces) ↔
    page.interceptsLinks ∧ ∃ anchor, click.screen = .ok anchor ∧ page.resolve anchor.href = .ok url ∧
      page.registry.handles url page.root ∧ replaces = anchor.replaces := by
  constructor
  · intro h
    unfold interceptClick at h
    split at h
    · cases h
    · next hintercepts =>
        split at h
        · cases h
        · next anchor hscreen =>
            split at h
            · cases h
            · next target hresolve =>
                split at h
                · next hhandles =>
                    cases h
                    exact ⟨by simpa using hintercepts, anchor, hscreen, hresolve, hhandles, rfl⟩
                · cases h
  · rintro ⟨hintercepts, anchor, hscreen, hresolve, hhandles, rfl⟩
    simp [interceptClick, hintercepts, hscreen, hresolve, hhandles]

/-- A click that is left to the browser changes nothing. -/
lemma run_click_of_error {reason : IgnoreReason} (h : page.interceptClick click = .error reason) :
    page.run (.click click) = some (.ignored reason click.prevented, page) := by
  obtain ⟨depth, -, hrun⟩ := page.run_eq_perform (.click click)
  rw [hrun]
  show handleClick (exec (depth + 1)) click page = _
  simp only [handleClick, bind_apply, get_apply, Option.bind_some, h]
  rfl

/-! ## Locations outside the root -/

/-- **A location outside the root is matched as it stands**, as if there were no root.  Some route
handles it exactly if the pattern of one accepts it; a link to it is followed exactly if the click
is plain and some pattern accepts it, and otherwise left to the browser; and a top-level route
matches it exactly if its own pattern accepts it. -/
theorem outside_as_it_stands (houtside : Outside url page.root) :
    (page.registry.handles url page.root ↔
      ∃ entry ∈ page.registry.entries, entry.pattern.Accepts url) ∧
    (∀ click anchor, click.anchor = some anchor → page.resolve anchor.href = .ok url →
      (page.interceptClick click = .ok (url, anchor.replaces) ↔ page.interceptsLinks ∧
        click.screen = .ok anchor ∧ ∃ entry ∈ page.registry.entries, entry.pattern.Accepts url) ∧
      ((∀ entry ∈ page.registry.entries, ¬entry.pattern.Accepts url) →
        ∃ reason, page.run (.click click) = some (.ignored reason click.prevented, page))) ∧
    ∀ pattern : Pattern,
      (pattern.matchUnder .root url page.root).isSome ↔ pattern.Accepts url := by
  have hstrip := stripRoot_of_outside houtside
  have hhandles : page.registry.handles url page.root ↔
      ∃ entry ∈ page.registry.entries, entry.pattern.Accepts url := by
    rw [Registry.handles_iff, hstrip]
  refine ⟨hhandles, fun click anchor hanchor hresolve => ⟨?_, fun hnone => ?_⟩, fun pattern => ?_⟩
  · rw [interceptClick_eq_ok_iff, ← hhandles]
    constructor
    · rintro ⟨hintercepts, other, hscreen, -, hhandled, -⟩
      obtain rfl := Option.some.inj (hanchor.symm.trans (Click.anchor_of_screen hscreen))
      exact ⟨hintercepts, hscreen, hhandled⟩
    · rintro ⟨hintercepts, hscreen, hhandled⟩
      exact ⟨hintercepts, anchor, hscreen, hresolve, hhandled, rfl⟩
  · cases hclick : page.interceptClick click with
    | error reason => exact ⟨reason, run_click_of_error hclick⟩
    | ok target =>
        obtain ⟨-, other, hscreen, hother, hhandled, -⟩ := interceptClick_eq_ok_iff.1 hclick
        obtain rfl := Option.some.inj (hanchor.symm.trans (Click.anchor_of_screen hscreen))
        obtain rfl := Except.ok.inj (hresolve.symm.trans hother)
        obtain ⟨entry, hmem, haccepts⟩ := hhandles.1 hhandled
        exact absurd haccepts (hnone entry hmem)
  · rw [Pattern.matchUnder, hstrip, Pattern.isSome_matchPath_iff_accepts]

/-- A plain click on a link. -/
def plainClick (href : String) : Click where
  button := 0
  metaKey := false
  ctrlKey := false
  shiftKey := false
  altKey := false
  anchor := some ⟨href.toList, none, false, none, false⟩
  prevented := false

/-- No pattern of an application below `/app` accepts `/application`. -/
theorem outside_as_it_stands_application : ∃ reason,
    Outside "/application".toList (lone "app/" "/users/:id").root ∧
    (lone "app/" "/users/:id").run (.click (plainClick "/application")) =
      some (.ignored reason false, lone "app/" "/users/:id") := by
  have houtside : Outside "/application".toList (lone "app/" "/users/:id").root := by decide +kernel
  obtain ⟨hhandles, hclicks, -⟩ := outside_as_it_stands houtside
  have hnone : ¬(lone "app/" "/users/:id").registry.handles "/application".toList
      (lone "app/" "/users/:id").root := by decide +kernel
  obtain ⟨reason, hrun⟩ := (hclicks (plainClick "/application") _ rfl (by decide +kernel)).2
    fun entry hmem haccepts => hnone (hhandles.2 ⟨entry, hmem, haccepts⟩)
  exact ⟨reason, houtside, hrun⟩

/-- **What lies outside the root can be routed**: below the root `/app`, a route for `/users/:id` is
found at `/users/1` too, and a link to it is followed. -/
theorem outside_routed : normalizeRoot "/app".toList = "/app".toList ∧
    Outside "/users/1".toList "/app".toList ∧
    (lone "/app" "/users/:id").root = "/app".toList ∧
    (lone "/app" "/users/:id").registry.handles "/users/1".toList "/app".toList ∧
    ((lone "/app" "/users/:id").run (.click (plainClick "/users/1"))).map
        (fun (answer, after) => (answer, after.url)) =
      some (.navigated "/users/1".toList .pushState true, "/users/1".toList) ∧
    ((Pattern.compile "/users/:id".toList).toOption.map
        (·.matchUnder .root "/users/1".toList "/app".toList)).any Option.isSome := by
  decide +kernel

end Page

end PageRouter

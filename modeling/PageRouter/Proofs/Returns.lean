import PageRouter.Proofs.Rounds

/-!
# Back undoes a push

A step back after a push leads to the same location again, and everyone who is matched learns again what
it had learned before.  Its element comes back as well, unless the cache has lost it in between: a cache
`Recalls` what was made for some parameters as long as it is among the first elements, the only one if
nothing else was shown since, and one of two otherwise (`Evolves.returns`).

`back_undoes_push` says so of the whole page, if nobody interferes; `back_uproots` says what listeners
can do that do not navigate.
-/

namespace PageRouter

open Page

/-! ## Elements that come back -/

namespace ElementCache

variable {cache mid after : ElementCache} {make : Make} {room : Nat} {parent : Option Tail}
  {told : List HostEvent} {found : Match}

/-- **An element is in reach** in a cache: it is among the first ones, which the cache has room for, and
none before it was made for the same parameters. -/
structure Recalls (cache : ElementCache) (room : Nat) (make : Make) : Prop where
  fits : room ≤ cache.capacity
  found : ((cache.elements.take room).find? (·.params = make.params)).map Element.make = some make

/-- The active element is the first one. -/
lemma exists_of_activeElement {element : Element} (h : cache.activeElement = some element) :
    cache.active = true ∧ ∃ others, cache.elements = element :: others := by
  cases hactive : cache.active with
  | false => simp [activeElement, hactive] at h
  | true =>
      simp only [activeElement, hactive, if_true] at h
      exact ⟨rfl, List.head?_eq_some_iff.1 h⟩

lemma recalls_of_active (hroom : 1 ≤ cache.capacity)
    (h : cache.activeElement.map Element.make = some make) : cache.Recalls 1 make := by
  obtain ⟨element, helement, rfl⟩ := Option.map_eq_some_iff.1 h
  obtain ⟨-, others, helements⟩ := exists_of_activeElement helement
  refine ⟨hroom, ?_⟩
  simp [helements, Element.make]

/-- The first element is in reach of everyone. -/
lemma Recalls.exists_first (h : cache.Recalls 1 make) :
    ∃ element others, cache.elements = element :: others ∧ element.make = make := by
  have hfound := h.found
  cases helements : cache.elements with
  | nil => simp [helements] at hfound
  | cons element others =>
      rw [helements] at hfound
      by_cases hparams : element.params = make.params
      · exact ⟨element, others, rfl, by simpa [hparams] using hfound⟩
      · simp [hparams] at hfound

/-- There is something to recall. -/
lemma Recalls.pos (h : cache.Recalls room make) : 1 ≤ room := by
  have hfound := h.found
  cases room with
  | zero => simp at hfound
  | succ room => omega

/-- What is in reach is what is taken out for its parameters. -/
lemma Recalls.takeOut (h : cache.Recalls room make) (hparams : found.params = make.params) :
    ∃ element, (takeOut found.params cache.elements).1 = some element ∧ element.make = make := by
  obtain ⟨element, helement, hmake⟩ := Option.map_eq_some_iff.1 h.found
  refine ⟨element, ?_, hmake⟩
  simp only [ElementCache.takeOut, hparams]
  rw [← List.take_append_drop room cache.elements, List.find?_append, helement]
  rfl

lemma Recalls.setCapacity (h : cache.Recalls room make) {count : Nat}
    (hcount : room ≤ clampCacheCount count) : (cache.setCapacity count).Recalls room make where
  fits := hcount
  found := by
    have hfound := h.found
    rwa [ElementCache.setCapacity, List.take_take, Nat.min_eq_left hcount]

/-- Nothing is forgotten while nothing is shown. -/
lemma Recalls.brought_none (h : cache.Recalls room make) (hbrought : cache.Brought parent none told after) :
    after.Recalls room make := by
  cases hbrought with
  | stays => exact h
  | hides => exact ⟨h.fits, h.found⟩

/-- **What is in reach becomes active again** when its parameters come back. -/
lemma Recalls.brought_same (h : cache.Recalls room make) (hparams : found.params = make.params)
    (hbrought : cache.Brought parent (some found) told after) :
    after.activeElement.map Element.make = some make := by
  obtain ⟨old, hold, hmake⟩ := h.takeOut hparams
  cases hbrought with
  | stays hstays =>
      rw [(keeps_freshened hstays parent).activeElement]
      obtain ⟨hactive, element, others, helements, hshown⟩ := exists_of_shows hstays
      have hfirst : (ElementCache.takeOut found.params cache.elements).1 = some element := by
        simp [ElementCache.takeOut, helements, hshown]
      rw [hold, Option.some.injEq] at hfirst
      simp [activeElement, hactive, helements, ← hfirst, hmake]
  | shows _ _ hfinds =>
      have hroom : cache.capacity ≠ 0 := by
        have := h.fits
        have := h.pos
        omega
      cases hfinds with
      | kept hkept =>
          rw [hold, Option.some.injEq] at hkept
          subst hkept
          simpa [activeElement, List.head?_take, hroom, Element.make, Element.refreshed] using hmake
      | made _ hnone =>
          rw [hold] at hnone
          cases hnone

lemma Finds.params {element : Element} {made : List HostEvent}
    (h : cache.Finds found parent element made) : element.params = found.params := by
  cases h with
  | kept hkept =>
      have hparams := params_of_takeOut hkept
      exact hparams
  | made => rfl

/-- **The element that was shown first comes second** when another one is shown, if there is room for
two. -/
lemma Recalls.brought_other (h : cache.Recalls 1 make) (hroom : 2 ≤ cache.capacity)
    (hparams : found.params ≠ make.params)
    (hbrought : cache.Brought parent (some found) told after) : after.Recalls 2 make := by
  obtain ⟨first, others, helements, rfl⟩ := h.exists_first
  have hfirst : first.params ≠ found.params := fun hsame => hparams hsame.symm
  cases hbrought with
  | stays hstays =>
      obtain ⟨-, element, rest, hrest, hshown⟩ := exists_of_shows hstays
      rw [helements, List.cons.injEq] at hrest
      rw [hrest.1] at hfirst
      exact absurd hshown hfirst
  | shows _ _ hfinds =>
      refine ⟨hroom, ?_⟩
      have hnew := hfinds.params
      have hskips : (ElementCache.takeOut found.params cache.elements).2
          = first :: others.eraseP (·.params = found.params) := by
        simp [ElementCache.takeOut, helements, hfirst]
      rw [List.take_take, Nat.min_eq_left hroom, hskips]
      simp [hnew, Ne.symm hfirst, Element.make]

lemma Brought.capacity {outcome : Outcome} (h : cache.Brought parent outcome told after) :
    after.capacity = cache.capacity := by
  cases h with
  | @stays outcome _ =>
      cases outcome with
      | none => rfl
      | some found =>
          simp only [freshened, refreshFirst]
          split <;> rfl
  | hides => rfl
  | shows => rfl

variable {sizes : Nat → Prop}

lemma Evolves.recalls (h : Evolves sizes [] cache after) (hrecalls : cache.Recalls room make)
    (hsizes : ∀ count, sizes count → room ≤ clampCacheCount count) : after.Recalls room make :=
  h.keeps (·.Recalls room make) hrecalls fun _ count hcount hnow => hnow.setCapacity (hsizes count hcount)

/-- **An element comes back** after one round for something else and one for its own parameters: if
nothing was shown for other parameters, or if there is always room for two. -/
theorem Evolves.returns {out back : Round} (hout : Evolves sizes [out] cache mid)
    (hback : Evolves sizes [back] mid after) {element : Element}
    (helement : cache.activeElement = some element) (hroom : 1 ≤ cache.capacity)
    (hfound : back.outcome = some found) (hparams : found.params = element.params)
    (hcase : (∀ other, out.outcome = some other → other.params = element.params) ∨
      2 ≤ cache.capacity ∧ ∀ count, sizes count → 2 ≤ count) :
    after.activeElement.map Element.make = some element.make := by
  have hone : ∀ count, sizes count → 1 ≤ clampCacheCount count := fun count _ => Nat.le_max_left ..
  have hactive : cache.activeElement.map Element.make = some element.make := by rw [helement]; rfl
  obtain ⟨before, shown, parent, hbefore, hbrought, hshown⟩ := hout.exists_brought
  have hfirst : before.Recalls 1 element.make :=
    hbefore.recalls (recalls_of_active hroom hactive) hone
  have hmid : ∃ room, mid.Recalls room element.make ∧
      ∀ count, sizes count → room ≤ clampCacheCount count := by
    cases hother : out.outcome with
    | none =>
        rw [hother] at hbrought
        exact ⟨1, hshown.recalls (hfirst.brought_none hbrought) hone, hone⟩
    | some other =>
        rw [hother] at hbrought
        by_cases hsame : other.params = element.params
        · have hstill := hfirst.brought_same hsame hbrought
          have hshownRoom : 1 ≤ shown.capacity := hbrought.capacity ▸ hfirst.fits
          exact ⟨1, hshown.recalls (recalls_of_active hshownRoom hstill) hone, hone⟩
        · obtain ⟨htwo, hsizes⟩ := hcase.resolve_left fun hnone => hsame (hnone other hother)
          have hclamp : ∀ count, sizes count → 2 ≤ clampCacheCount count := fun count hcount =>
            Nat.le_trans (hsizes count hcount) (Nat.le_max_right ..)
          have hbeforeRoom : 2 ≤ before.capacity :=
            hbefore.keeps (2 ≤ ·.capacity) htwo fun _ count hcount _ => hclamp count hcount
          exact ⟨2, hshown.recalls (hfirst.brought_other hbeforeRoom hsame hbrought) hclamp, hclamp⟩
  obtain ⟨room, hmid, hcount⟩ := hmid
  obtain ⟨again, last, parent', hagain, hbrought', hlast⟩ := hback.exists_brought
  rw [hfound] at hbrought'
  rw [hlast.activeElement_eq]
  exact (hagain.recalls hmid hcount).brought_same hparams hbrought'

/-- If the element that is shown is the one that was shown before, and it shows the same outcome next to
the same tail, then it has not changed. -/
lemma Displays.activeElement_eq {outcome : Outcome} (h : cache.Displays outcome parent)
    (h' : after.Displays outcome parent)
    (hmake : after.activeElement.map Element.make = cache.activeElement.map Element.make) :
    after.activeElement = cache.activeElement := by
  have hproperties := h'.shown.trans h.shown.symm
  cases hold : cache.activeElement with
  | none => rwa [hold, Option.map_none, Option.map_eq_none_iff] at hmake
  | some element =>
      rw [hold, Option.map_some, Option.map_eq_some_iff] at hmake
      obtain ⟨now, hnow, hmade⟩ := hmake
      rw [hold, hnow, Option.map_some, Option.map_some, Option.some.injEq] at hproperties
      obtain ⟨serial, tag, params, read, splats, around⟩ := now
      obtain ⟨serial', tag', params', read', splats', around'⟩ := element
      cases hmade
      cases hproperties
      exact hnow

end ElementCache

/-! ## Out and back -/

/-- A step back after a visit leads to the location before it. -/
lemma History.back?_push {history : History} (h : history.travels = true) (url : Text) :
    ∃ back, (history.push url).back? = some back ∧ back.location = history.location := by
  refine ⟨_, if_pos ⟨h, Nat.succ_pos _⟩, ?_⟩
  have hlt := history.position_lt
  simp [History.location, History.push, hlt]

namespace Page

variable {kind may : Command → Bool} {scope : Scope} {page mid after : Page} {id : NodeId}
  {history : History}

/-- **What becomes of the cache of a node** on a tour: a live node makes one round, with what it is
expected to learn, and any other makes none. -/
lemma Accounted.evolves (h : Accounted kind scope page after)
    (htoured : Toured (preorder page.seats) (page.withHistory history) after)
    (hrising : Rising page.seats) {node : Node} (hnode : page.nodes[id]? = some node) :
    ∃ now, after.nodes[id]? = some now ∧
      (Live page.seats id → ∃ told, ElementCache.Evolves (page.Sizes kind id)
        [⟨id, after.expected id, told⟩] node.cache now.cache) ∧
      (¬Live page.seats id → ElementCache.Evolves (page.Sizes kind id) [] node.cache now.cache) := by
  obtain ⟨rounds, hrounds⟩ := h.rounds
  obtain ⟨_, hcache, hevolves⟩ := hrounds.caches id node.cache (getElem?_caches hnode)
  obtain ⟨now, hnow, rfl⟩ := exists_cached hcache
  have hvisits : after.visits = page.visits ++
      (preorder page.seats).map fun id => ⟨id, after.expected id⟩ := by
    rw [htoured.forest.expected htoured.history]
    exact htoured.visits
  obtain ⟨hlive, hother⟩ := hrounds.round hvisits (nodup_preorder hrising) id
  rw [mem_preorder hrising] at hlive hother
  refine ⟨now, hnow, fun hlives => ?_, fun hnot => ?_⟩
  · obtain ⟨told, hround⟩ := hlive hlives
    exact ⟨told, hround ▸ hevolves⟩
  · exact hother hnot ▸ hevolves

/-- **A quiet navigation that is accepted** ends when the live nodes have been toured. -/
lemma Quiet.accepted (h : page.Quiet) (hled : Led may page) {command : Command}
    {change : NavigationKind} {source : Option Text} {answer : Answer}
    (hperform : ∀ deeper, perform deeper command page
      = announce deeper change source answer (page.withHistory history)) :
    ∃ after, page.run command = some (answer, after) ∧
      Toured (preorder page.seats) (page.withHistory history) after := by
  obtain ⟨depth, hlength, hrun⟩ := page.run_eq_perform command
  obtain ⟨after, hannounce, -, htoured⟩ :=
    h.announces hled.steady hled.queue_eq hlength history change source answer
  exact ⟨after, by rw [hrun, hperform, hannounce], htoured⟩

/-- **Two tours that end where they began**: everyone has the place and the match of before. -/
lemma Aligned.standings_eq (h : page.Aligned) (hsound : page.Sound) (hsoundAfter : after.Sound)
    {away : History} (hout : Toured (preorder page.seats) (page.withHistory away) mid)
    (hback : Toured (preorder page.seats) (mid.withHistory history) after)
    (hexpected : after.expected = page.expected) : after.standings = page.standings := by
  have hseats : after.seats = page.seats := hback.forest.seats.trans hout.forest.seats
  have hlast : (mid.withHistory history).expected = page.expected := by
    rw [← hexpected, hback.forest.expected hback.history]
  refine List.ext_getElem? fun id => ?_
  by_cases hid : id ∈ preorder page.seats
  · obtain ⟨standing, hstanding, hlearned⟩ := hback.learned id hid
    obtain ⟨now, hnow, rfl⟩ : ∃ now, after.nodes[id]? = some now ∧ now.standing = standing := by
      rwa [getElem?_standings, Option.map_eq_some_iff] at hstanding
    have hseatNow : page.seats[id]? = some now.seat := hseats ▸ seats_of_nodes hnow
    obtain ⟨node, hnode, hseat⟩ := exists_node hseatNow
    have hmounted : now.mounted := ((mem_preorder hsound.elder).1 hid).mounted hseatNow
    have hlearned : now.lastMatch = node.lastMatch := by
      rw [h.learned id node hnode ((congrArg Seat.mounted hseat).trans hmounted), ← hlast]
      exact hlearned
    have hplace : now.route.place = node.route.place := by
      cases hsignal : now.subscription.signal with
      | location =>
          have hbefore : node.subscription.signal = .location :=
            (congrArg (·.subscription.signal) hseat).trans hsignal
          rw [hsoundAfter.place_eq_root hnow hsignal, hsound.place_eq_root hnode hbefore]
      | tailOf parent =>
          have hplaced := hback.placed id hid now.seat parent (hout.forest.seats ▸ hseatNow)
            ⟨hmounted, hsignal⟩
          rw [placeOf, hstanding, hlast] at hplaced
          rw [h.placed id node parent hnode ((congrArg Seat.mounted hseat).trans hmounted)
            ((congrArg (·.subscription.signal) hseat).trans hsignal)]
          exact hplaced
    rw [hstanding, standings_of_nodes hnode, Node.standing, Node.standing, hseat, hlearned, hplace]
  · rw [hback.others id hid]
    exact hout.others id hid

/-- **An element comes back** after two tours that end where they began, if there is room for it
meanwhile. -/
lemma Aligned.comes_back {here there : Scope} {away : History} (h : page.Aligned) (hled : Led may page)
    (hledAfter : Led may after) (hfirst : Accounted kind here page mid)
    (hsecond : Accounted kind there mid after)
    (hout : Toured (preorder page.seats) (page.withHistory away) mid)
    (hback : Toured (preorder mid.seats) (mid.withHistory history) after)
    (hexpected : after.expected = page.expected) (hstandings : after.standings = page.standings)
    {node : Node} (hnode : page.nodes[id]? = some node) :
    ∃ left now, mid.nodes[id]? = some left ∧ after.nodes[id]? = some now ∧
      ∀ element, node.cache.activeElement = some element →
        (2 ≤ node.cache.capacity ∧ (∀ count, page.Sizes kind id count → 2 ≤ count) ∨
          ∀ found, left.lastMatch = some found → found.params = element.params) →
        now.cache.activeElement = some element := by
  have hrising : Rising page.seats := hled.sound.elder
  have hseats : mid.seats = page.seats := hout.forest.seats
  have hsizes : mid.Sizes kind = page.Sizes kind := by
    obtain ⟨_, hrounds⟩ := hfirst.rounds
    exact sizes_congr hrounds.named
  obtain ⟨left, hleft, houtLive, houtStill⟩ := hfirst.evolves hout hrising hnode
  obtain ⟨now, hnow, hbackLive, hbackStill⟩ := hsecond.evolves hback (hseats ▸ hrising) hleft
  rw [hseats, hsizes] at hbackLive hbackStill
  refine ⟨left, now, hleft, hnow, fun element helement hcase => ?_⟩
  by_cases hlive : Live page.seats id
  · obtain ⟨told, hgone⟩ := houtLive hlive
    obtain ⟨told', hcame⟩ := hbackLive hlive
    have hinLine := hled.sound.inLine node (List.mem_of_getElem? hnode)
    have hmounted : node.mounted := hlive.mounted (seats_of_nodes hnode)
    have hsame : now.standing = node.standing :=
      standing_congr (congrArg (·[id]?) hstandings) hnode hnow
    -- the node learns the same again
    have hagain : after.expected id = node.lastMatch := by
      rw [hexpected, h.learned id node hnode hmounted]
    have hshown := hinLine.shown
    rw [helement, Option.map_some, eq_comm, Option.map_eq_some_iff] at hshown
    obtain ⟨found, hfound, hparams⟩ := hshown
    have hlearned : left.lastMatch = mid.expected id := by
      obtain ⟨standing, hstanding, hlearned⟩ := hout.learned id ((mem_preorder hrising).2 hlive)
      rw [standings_of_nodes hleft, Option.some.injEq] at hstanding
      rw [hout.forest.expected hout.history, ← hlearned, ← hstanding]
      rfl
    have hmake := hgone.returns hcame helement hinLine.room (hagain.trans hfound) hparams
      (hcase.symm.imp_left fun hsame other hother => hsame other (hlearned.trans hother))
    have hshows := hledAfter.displays hnow ((congrArg (·.seat.mounted) hsame).trans hmounted)
    rw [show now.lastMatch = node.lastMatch from congrArg Standing.lastMatch hsame,
      show now.route.place = node.route.place from congrArg Standing.place hsame] at hshows
    rw [← helement]
    exact (hled.displays hnode hmounted).activeElement_eq hshows (by rw [hmake, helement]; rfl)
  · rw [(hbackStill hlive).activeElement_eq, (houtStill hlive).activeElement_eq, helement]

/-- **Back undoes a push.**  If nobody interferes and the forest is in step with the location, then a
push and a step back lead to the same location again, with everyone in the same place and with the same
match as before, so that the same routes have an active element.  It is the very element of before,
properties and all, if nothing else was shown at the other location, or if its route keeps two
elements, and nobody lets it keep fewer. -/
theorem back_undoes_push (hkind : ∀ command, kind command → command.isInert) (h : page.Reached)
    (hheeds : page.Heeds kind) (hstep : page.Aligned) (htravels : page.history.travels = true)
    (url : Text) (source : Option Text) :
    ∃ mid after, page.run (.push url source) = some (.nothing, mid) ∧ mid.url = url ∧
      mid.run .back = some (.flag true, after) ∧ after.url = page.url ∧
      after.standings = page.standings ∧
      ∀ (id : NodeId) (node : Node), page.nodes[id]? = some node →
        ∃ left now, mid.nodes[id]? = some left ∧ after.nodes[id]? = some now ∧
          now.cache.activeElement.isSome = node.cache.activeElement.isSome ∧
          ∀ element, node.cache.activeElement = some element →
            (2 ≤ node.cache.capacity ∧ (∀ count, page.Sizes kind id count → 2 ≤ count) ∨
              ∀ found, left.lastMatch = some found → found.params = element.params) →
            now.cache.activeElement = some element := by
  have hled := h.led
  have hsound : page.Sound := hled.sound
  obtain ⟨mid, hpush, hout⟩ : ∃ mid, page.run (.push url source) = some (.nothing, mid) ∧
      Toured (preorder page.seats) (page.withHistory (page.history.push url)) mid :=
    (hheeds.quiet hkind).accepted hled fun _ => rfl
  have hfirst : Accounted kind page.present page mid :=
    hheeds.accounts hkind hled.steady hled.queue_eq rfl hpush
  have hheedsMid := hfirst.steady.heeds
  have hreachedMid := h.step hpush
  obtain ⟨history, hhistory, hlocation⟩ := History.back?_push htravels url
  obtain ⟨after, hback, hreturn⟩ : ∃ after, mid.run .back = some (.flag true, after) ∧
      Toured (preorder mid.seats) (mid.withHistory history) after := by
    have hstepBack : History.back? mid.history = some history := by
      rw [hout.history]
      exact hhistory
    exact (hheedsMid.quiet hkind).accepted hreachedMid.led
      fun deeper => travel_announces deeper mid hstepBack
  have hsecond : Accounted kind mid.present mid after :=
    hheedsMid.accounts hkind hreachedMid.led.steady hreachedMid.led.queue_eq rfl hback
  have hledAfter := (hreachedMid.step hback).led
  have hurl : after.url = page.url := by
    rw [Page.url, hreturn.history]
    exact hlocation
  have hexpected : after.expected = page.expected := by
    refine expected_congr hurl ?_ (hreturn.forest.seats.trans hout.forest.seats)
    exact congrArg (·.getD ['/']) (hreturn.forest.root.trans hout.forest.root)
  have hstandings : after.standings = page.standings :=
    hstep.standings_eq hsound hledAfter.sound hout (hout.forest.seats ▸ hreturn) hexpected
  refine ⟨mid, after, hpush, ?_, hback, hurl, hstandings, fun id node hnode => ?_⟩
  · rw [Page.url, hout.history]
    exact page.history.location_arrive false url
  · obtain ⟨left, now, hleft, hnow, hcomes⟩ :=
      hstep.comes_back hled hledAfter hfirst hsecond hout hreturn hexpected hstandings hnode
    have hsame : now.standing = node.standing :=
      standing_congr (congrArg (·[id]?) hstandings) hnode hnow
    have hlearned : now.lastMatch = node.lastMatch := congrArg Standing.lastMatch hsame
    have hlater := (hledAfter.sound.inLine now (List.mem_of_getElem? hnow)).activeElement_isSome
    have hbefore := (hsound.inLine node (List.mem_of_getElem? hnode)).activeElement_isSome
    rw [hlearned, ← hbefore] at hlater
    exact ⟨left, now, hleft, hnow, Bool.eq_iff_iff.2 hlater, hcomes⟩

/-- The page with the routes and the hook, where one route keeps two elements. -/
def widened : Page := grove.play (.setCacheCount "a".toList 2)

/-- The same page, at a location where the routes have elements. -/
def roomy : Page := widened.play (.push "/p/one/two".toList none)

/-- The route shows another element at the other location, and the one of before when it is back. -/
theorem back_undoes_push_roomy : ∃ mid after left now element,
    roomy.run (.push "/p/three/two".toList none) = some (.nothing, mid) ∧
    mid.run .back = some (.flag true, after) ∧ after.url = roomy.url ∧
    mid.nodes[1]? = some left ∧ after.nodes[1]? = some now ∧ element.serial = 2 ∧
    left.cache.activeElement.map (·.serial) = some 4 ∧ now.cache.activeElement = some element := by
  have hgrove : Session true grove := (Session.start _).plays (by decide +kernel)
  have hsession : Session true widened := hgrove.play (by decide +kernel) (.inl rfl)
  have hquiet : widened.Quiet := .of_scripts (by decide +kernel) (by decide +kernel)
  have hreached : roomy.Reached := hsession.reached.play _
  have hheeds : roomy.Heeds Command.isVeto := .of_scripts (by decide +kernel) (by decide +kernel)
  have halign : roomy.Aligned := by
    have haccepts : (widened.run (.push "/p/one/two".toList none)).map (·.1.isRefusal)
        = some false := by decide +kernel
    obtain ⟨⟨answer, after⟩, hrun, haccepted⟩ := Option.map_eq_some_iff.1 haccepts
    have hafter : roomy = after := by
      rw [roomy, Page.play, hrun]
      rfl
    rw [hafter]
    exact navigation_aligns hsession hquiet rfl haccepted hrun
  obtain ⟨mid, after, hpush, -, hback, hurl, -, hnodes⟩ :=
    back_undoes_push Command.isInert_of_isVeto hreached hheeds halign (by decide +kernel) "/p/three/two".toList none
  have hshown : roomy.nodes[1]?.map (fun node =>
      (node.cache.capacity, node.cache.activeElement.map (·.serial))) = some (2, some 2) := by
    decide +kernel
  obtain ⟨node, hnode, hboth⟩ := Option.map_eq_some_iff.1 hshown
  obtain ⟨hcapacity, hserial⟩ := Prod.mk.inj hboth
  obtain ⟨element, helement, hserial⟩ := Option.map_eq_some_iff.1 hserial
  have haway : (roomy.run (.push "/p/three/two".toList none)).map (fun result =>
      result.2.nodes[1]?.map fun node => node.cache.activeElement.map (·.serial))
      = some (some (some 4)) := by decide +kernel
  obtain ⟨left, now, hleft, hnow, -, hcomes⟩ := hnodes 1 node hnode
  rw [hpush, Option.map_some, hleft, Option.map_some, Option.some.injEq, Option.some.injEq] at haway
  have hnobody : ∀ count, roomy.Sizes Command.isVeto 1 count → 2 ≤ count := by
    rintro count ⟨_, -, hmay⟩
    cases hmay
  exact ⟨mid, after, left, now, element, hpush, hback, hurl, hleft, hnow, hserial, haway,
    hcomes element helement (.inl ⟨Nat.le_of_eq hcapacity.symm, hnobody⟩)⟩

/-- The listener lets the route that is visited after it keep one element, where it kept two. -/
def narrowed : Page := interrupted [.setCacheCount "second".toList 1]

/-- **It is not enough that nobody navigates.**  Where the root is set on the way out, a route does not
match any more when the page is back; where a route is left with room for one element, it has another
element when the page is back. -/
theorem back_uproots :
    (∃ mid after, uprooted.Reached ∧ uprooted.Heeds (fun command => !command.navigates) ∧
      uprooted.Aligned ∧ uprooted.history.travels = true ∧
      uprooted.run (.push "/c".toList none) = some (.nothing, mid) ∧
      mid.run .back = some (.flag true, after) ∧ after.url = uprooted.url ∧
      (uprooted.nodes[1]?.map fun node =>
        (node.lastMatch.isSome, node.cache.activeElement.isSome)) = some (true, true) ∧
      (after.nodes[1]?.map fun node => (node.lastMatch.isSome, node.cache.activeElement.isSome))
        = some (false, false)) ∧
    ∃ mid after, narrowed.Reached ∧ narrowed.Heeds (fun command => !command.navigates) ∧
      narrowed.Aligned ∧ narrowed.history.travels = true ∧
      narrowed.run (.push "/c".toList none) = some (.nothing, mid) ∧
      mid.run .back = some (.flag true, after) ∧
      after.nodes.map (·.lastMatch) = narrowed.nodes.map (·.lastMatch) ∧
      (narrowed.nodes[1]?.map fun node =>
        (node.cache.capacity, node.cache.activeElement.map (·.serial))) = some (2, some 2) ∧
      (after.nodes[1]?.map fun node => node.cache.activeElement.map (·.serial)) = some (some 5) := by
  constructor
  · have hends : (uprooted.run (.push "/c".toList none)).any fun out =>
        (out.2.run .back).any fun back => out.1 = .nothing ∧ back.1 = .flag true ∧
          back.2.url = uprooted.url ∧ (back.2.nodes[1]?.map fun node =>
            (node.lastMatch.isSome, node.cache.activeElement.isSome)) = some (false, false) := by
      decide +kernel
    obtain ⟨⟨_, mid⟩, hpush, hrest⟩ := (Option.any_eq_true _ _).1 hends
    obtain ⟨⟨_, after⟩, hback, hafter⟩ := (Option.any_eq_true _ _).1 hrest
    obtain ⟨rfl, rfl, hurl, hgone⟩ := of_decide_eq_true hafter
    exact ⟨mid, after, interrupted_reached _, .of_scripts (by decide +kernel) (by decide +kernel),
      uprooted_aligned, by decide +kernel, hpush, hback, hurl, by decide +kernel, hgone⟩
  · have hends : (narrowed.run (.push "/c".toList none)).any fun out =>
        (out.2.run .back).any fun back => out.1 = .nothing ∧ back.1 = .flag true ∧
          back.2.nodes.map (·.lastMatch) = narrowed.nodes.map (·.lastMatch) ∧
          (back.2.nodes[1]?.map fun node => node.cache.activeElement.map (·.serial))
            = some (some 5) := by
      decide +kernel
    obtain ⟨⟨_, mid⟩, hpush, hrest⟩ := (Option.any_eq_true _ _).1 hends
    obtain ⟨⟨_, after⟩, hback, hafter⟩ := (Option.any_eq_true _ _).1 hrest
    obtain ⟨rfl, rfl, hmatches, hother⟩ := of_decide_eq_true hafter
    exact ⟨mid, after, interrupted_reached _, .of_scripts (by decide +kernel) (by decide +kernel),
      .of_flat (by decide +kernel) (by decide +kernel), by decide +kernel, hpush, hback, hmatches,
      by decide +kernel, hother⟩

end Page

end PageRouter

import Mathlib.Data.List.Nodup
import PageRouter.Proofs.Ledger
import PageRouter.Proofs.Queries
import PageRouter.Proofs.Regimes

/-!
# Registrations

`Registry` is one list of entries, and a `Route` compiles its pattern whenever it is asked to.  A
registry can also be kept as a table by id beside a list of the ids (`Catalog`), and a route can keep
its compiled pattern once it has one (`LazyRoute`).  `Practice` is what both have in common, and
`Practice.run` does any errands with routes that are copied, changed, added and removed, here and in
other registries.

* `Catalog.practice_matches`: the two practices do the same, errand by errand.
* `Bench.Kept.run`: the entries stand in the order in which they came, each with the pattern that its
  route had when it was last added, and the numbers of new ids grow.
* `registry_is_insertion_ordered` puts them together.
-/

namespace PageRouter

open Text

/-! ## Ids as texts -/

/-- The number in front of the first colon of a text, or zero. -/
def sequenceIn (text : Text) : Nat :=
  match cutAt? ':' text with
  | some (digits, _) => if digits.all Char.isDigit then Nat.ofDigitChars 10 digits 0 else 0
  | none => 0

lemma isDigit_of_mem_ofNat {n : Nat} {c : Char} (h : c ∈ ofNat n) : c.isDigit = true :=
  Nat.isDigit_of_mem_toDigits (by decide) (by decide) h

lemma cutAt?_text (id : RouteId) : cutAt? ':' id.text = some (ofNat id.sequence, id.pattern) :=
  cutAt?_append (fun hmem => absurd (isDigit_of_mem_ofNat hmem) (by decide)) _

/-- The number of an id can be read in its text, whatever the pattern is. -/
lemma sequenceIn_text (id : RouteId) : sequenceIn id.text = id.sequence := by
  have hdigits : (ofNat id.sequence).all Char.isDigit = true :=
    List.all_eq_true.2 fun _ => isDigit_of_mem_ofNat
  simp only [sequenceIn, cutAt?_text, hdigits, if_true]
  exact Nat.ofDigitChars_toDigits (by decide) (by decide)

lemma RouteId.text_injective : Function.Injective RouteId.text := by
  intro id other h
  have hsequence : id.sequence = other.sequence := by
    rw [← sequenceIn_text, ← sequenceIn_text, h]
  have hparts : some (ofNat id.sequence, id.pattern)
      = some (ofNat other.sequence, other.pattern) := by
    rw [← cutAt?_text, ← cutAt?_text, h]
  have hpattern : id.pattern = other.pattern := congrArg Prod.snd (Option.some.inj hparts)
  cases id
  cases other
  exact congrArg₂ RouteId.mk hsequence hpattern

/-! ## Routes that keep their compiled pattern -/

/-- **A route with its compiled pattern**, once it has been asked for. -/
structure LazyRoute where
  route : Route
  kept : Option Pattern

namespace LazyRoute

def new : LazyRoute := ⟨.new, none⟩

/-- The route with a pattern; what was kept for an earlier one is gone. -/
def withPattern (lazy : LazyRoute) (text : Text) : LazyRoute :=
  ⟨lazy.route.withPattern text, none⟩

def setPattern (lazy : LazyRoute) (text : Text) : Except RouterError LazyRoute :=
  (lazy.route.setPattern text).map fun route => { lazy with route := route }

/-- The compiled pattern, which is kept from the first time on. -/
def compiled (lazy : LazyRoute) : Except RouterError Pattern × LazyRoute :=
  match lazy.route.pattern with
  | none => (.error .missingPattern, lazy)
  | some text =>
    match lazy.kept with
    | some pattern => (.ok pattern, lazy)
    | none =>
      match Pattern.compile text with
      | .ok pattern => (.ok pattern, { lazy with kept := some pattern })
      | .error fault => (.error (.invalidPattern text fault), lazy)

end LazyRoute

/-- Texts are hashed as strings. -/
instance : Hashable Text where
  hash text := hash (String.ofList text)

/-- **A registry as a table** of the entries by the texts of their ids, with the ids in order. -/
structure Catalog where
  routes : Std.HashMap Text RegisteredRoute
  order : List Text
  /-- The number of the next id. -/
  next : Nat

namespace Catalog

def empty : Catalog := ⟨∅, [], 1⟩

def stored (catalog : Catalog) (entry : RegisteredRoute) : Catalog :=
  { catalog with
    routes := catalog.routes.insert entry.id.text entry
    order := if catalog.routes.contains entry.id.text then catalog.order
      else catalog.order ++ [entry.id.text] }

def add (catalog : Catalog) (lazy : LazyRoute) : Except RouterError RouteId × LazyRoute × Catalog :=
  match lazy.compiled with
  | (.error error, lazy) => (.error error, lazy, catalog)
  | (.ok pattern, lazy) =>
    match lazy.route.id with
    | some id => (.ok id, lazy, catalog.stored ⟨id, pattern⟩)
    | none =>
      let id : RouteId := ⟨catalog.next, pattern.text⟩
      (.ok id, { lazy with route := { lazy.route with id := some id } },
        { catalog with next := catalog.next + 1 }.stored ⟨id, pattern⟩)

def remove (catalog : Catalog) (lazy : LazyRoute) : Bool × Catalog :=
  match lazy.route.id with
  | none => (false, catalog)
  | some id =>
    if catalog.routes.contains id.text then
      (true, { catalog with
        routes := catalog.routes.erase id.text
        order := catalog.order.filter (· ≠ id.text) })
    else (false, catalog)

/-- The entries in order. -/
def iter (catalog : Catalog) : List RegisteredRoute :=
  catalog.order.filterMap fun key => catalog.routes[key]?

def len (catalog : Catalog) : Nat := catalog.routes.size

end Catalog

/-! ## Practices -/

/-- The settings of a route, apart from its id and its pattern, taken from another one. -/
def Route.refitted (route model : Route) : Route :=
  { model with id := route.id, pattern := route.pattern }

/-- **How routes and a registry are kept.** -/
structure Practice (ρ σ : Type) where
  /-- What a kept route says. -/
  view : ρ → Route
  new : ρ
  withPattern : ρ → Text → ρ
  setPattern : ρ → Text → Except RouterError ρ
  refitted : ρ → Route → ρ
  compiled : ρ → Except RouterError Pattern × ρ
  empty : σ
  add : σ → ρ → Except RouterError RouteId × ρ × σ
  remove : σ → ρ → Bool × σ
  /-- Another registry, without entries.  All registries number their ids together. -/
  elsewhere : σ → σ
  /-- A registry after another one has given out ids. -/
  after : σ → σ → σ

/-- Routes that compile whenever they are asked to, and one list of entries. -/
def Registry.practice : Practice Route Registry where
  view := id
  new := .new
  withPattern := .withPattern
  setPattern := Route.setPattern
  refitted := .refitted
  compiled route := (route.compiled, route)
  empty := .empty
  add registry route :=
    match registry.add route with
    | .error error => (.error error, route, registry)
    | .ok (id, route, registry) => (.ok id, route, registry)
  remove := Registry.remove
  elsewhere registry := { registry with entries := [] }
  after registry other := { registry with nextSequence := other.nextSequence }

/-- Routes that keep what they compiled, and a table with a list of ids. -/
def Catalog.practice : Practice LazyRoute Catalog where
  view := LazyRoute.route
  new := .new
  withPattern := .withPattern
  setPattern := LazyRoute.setPattern
  refitted lazy model := { lazy with route := lazy.route.refitted model }
  compiled := LazyRoute.compiled
  empty := .empty
  add := Catalog.add
  remove := Catalog.remove
  elsewhere catalog := { Catalog.empty with next := catalog.next }
  after catalog other := { catalog with next := other.next }

/-- What can be done with the routes that there are, and the registry. -/
inductive Errand where
  /-- One more route. -/
  | create
  /-- One more route, like the one in a place. -/
  | copy (place : Nat)
  | withPattern (place : Nat) (text : Text)
  | setPattern (place : Nat) (text : Text)
  | refit (place : Nat) (model : Route)
  /-- Ask a route for its compiled pattern. -/
  | compile (place : Nat)
  | add (place : Nat)
  | addElsewhere (place : Nat)
  | remove (place : Nat)

/-- What came of an errand. -/
inductive Filing where
  /-- A route was added, as it was then. -/
  | added (id : RouteId) (route : Route)
  | addedElsewhere (id : RouteId) (route : Route)
  | removed (id : RouteId)
  /-- A route that is not there was to be removed. -/
  | absent
  | refused (error : RouterError)
  deriving DecidableEq

/-- The routes that there are, the registry, and what came of the errands so far. -/
structure Bench (ρ σ : Type) where
  routes : List ρ
  registry : σ
  filings : List Filing

namespace Bench

variable {ρ σ : Type} (bench : Bench ρ σ)

/-- What is done with the route in a place, if there is one. -/
def withRoute (place : Nat) (act : ρ → Bench ρ σ) : Bench ρ σ :=
  match bench.routes[place]? with
  | none => bench
  | some route => act route

/-- The bench with another route in a place, and with more filings. -/
def filed (place : Nat) (route : ρ) (filings : List Filing) : Bench ρ σ :=
  { bench with routes := bench.routes.set place route, filings := bench.filings ++ filings }

end Bench

namespace Practice

variable {ρ σ : Type} (practice : Practice ρ σ)

def start : Bench ρ σ := ⟨[], practice.empty, []⟩

def perform (bench : Bench ρ σ) : Errand → Bench ρ σ
  | .create => { bench with routes := bench.routes ++ [practice.new] }
  | .copy place => bench.withRoute place fun route =>
    { bench with routes := bench.routes ++ [route] }
  | .withPattern place text => bench.withRoute place fun route =>
    bench.filed place (practice.withPattern route text) []
  | .setPattern place text => bench.withRoute place fun route =>
    match practice.setPattern route text with
    | .ok route => bench.filed place route []
    | .error error => bench.filed place route [.refused error]
  | .refit place model => bench.withRoute place fun route =>
    bench.filed place (practice.refitted route model) []
  | .compile place => bench.withRoute place fun route =>
    match practice.compiled route with
    | (.ok _, route) => bench.filed place route []
    | (.error error, route) => bench.filed place route [.refused error]
  | .add place => bench.withRoute place fun route =>
    match practice.add bench.registry route with
    | (.ok id, added, registry) =>
      { bench with registry := registry }.filed place added [.added id (practice.view route)]
    | (.error error, route, registry) =>
      { bench with registry := registry }.filed place route [.refused error]
  | .addElsewhere place => bench.withRoute place fun route =>
    match practice.add (practice.elsewhere bench.registry) route with
    | (.ok id, added, other) =>
      { bench with registry := practice.after bench.registry other }.filed place added
        [.addedElsewhere id (practice.view route)]
    | (.error error, route, other) =>
      { bench with registry := practice.after bench.registry other }.filed place route
        [.refused error]
  | .remove place => bench.withRoute place fun route =>
    match practice.remove bench.registry route, (practice.view route).id with
    | (true, registry), some id => { bench with registry := registry }.filed place route [.removed id]
    | (_, registry), _ => { bench with registry := registry }.filed place route [.absent]

/-- **Errands**, one after the other. -/
def run (errands : List Errand) : Bench ρ σ :=
  errands.foldl practice.perform practice.start

end Practice

/-! ## The two practices do the same -/

/-- What a route keeps is its pattern, compiled. -/
def LazyRoute.IsFresh (lazy : LazyRoute) : Prop :=
  ∀ pattern, lazy.kept = some pattern → lazy.route.compiled = .ok pattern

/-- **A table holds the entries of a list**, with their ids in the same order. -/
structure Catalog.Matches (catalog : Catalog) (registry : Registry) : Prop where
  next_eq : catalog.next = registry.nextSequence
  order_eq : catalog.order = registry.entries.map (·.id.text)
  get? : ∀ key, catalog.routes[key]? = registry.entries.find? (·.id.text = key)

/-- **Two benches with the same routes and entries**, the one kept lazily and in a table. -/
structure Bench.Matches (office : Bench LazyRoute Catalog) (bench : Bench Route Registry) : Prop where
  routes_eq : office.routes.map LazyRoute.route = bench.routes
  fresh : ∀ lazy ∈ office.routes, lazy.IsFresh
  registry : office.registry.Matches bench.registry
  filings_eq : office.filings = bench.filings

namespace LazyRoute

variable {lazy : LazyRoute}

lemma IsFresh.of_kept (h : lazy.kept = none) : lazy.IsFresh := fun _ hkept => by
  rw [h] at hkept
  cases hkept

/-- What is asked for is the pattern of the moment, kept or not. -/
lemma IsFresh.compiled (h : lazy.IsFresh) :
    ∃ after : LazyRoute, lazy.compiled = (lazy.route.compiled, after) ∧
      after.route = lazy.route ∧ after.IsFresh := by
  cases hpattern : lazy.route.pattern with
  | none => exact ⟨lazy, by simp [LazyRoute.compiled, Route.compiled, hpattern], rfl, h⟩
  | some text =>
    cases hkept : lazy.kept with
    | some pattern =>
      exact ⟨lazy, by simp [LazyRoute.compiled, hpattern, hkept, h pattern hkept], rfl, h⟩
    | none =>
      have hcompiled : lazy.route.compiled
          = (Pattern.compile text).mapError (.invalidPattern text) := by
        simp only [Route.compiled, hpattern]
      cases hcompile : Pattern.compile text with
      | error fault =>
        rw [hcompile] at hcompiled
        exact ⟨lazy, by rw [hcompiled]; simp [LazyRoute.compiled, hpattern, hkept, hcompile,
          Except.mapError], rfl, h⟩
      | ok pattern =>
        rw [hcompile] at hcompiled
        exact ⟨{ lazy with kept := some pattern }, by
          rw [hcompiled]; simp [LazyRoute.compiled, hpattern, hkept, hcompile, Except.mapError],
          rfl, fun other hother => by cases hother; exact hcompiled⟩

/-- Where there is no compiled pattern, none is kept. -/
lemma compiled_of_error {error : RouterError} (h : lazy.compiled.1 = .error error) :
    lazy.compiled = (.error error, lazy) := by
  refine Prod.ext h ?_
  unfold LazyRoute.compiled at h ⊢
  cases hpattern : lazy.route.pattern with
  | none => rfl
  | some text =>
    cases hkept : lazy.kept with
    | some pattern => rfl
    | none =>
      cases hcompile : Pattern.compile text with
      | error fault => simp only [hcompile]
      | ok pattern => simp [hpattern, hkept, hcompile] at h

/-- A pattern that is set for the first time meets nothing that was kept. -/
lemma IsFresh.setPattern (h : lazy.IsFresh) {text : Text} {route : Route}
    (hset : lazy.route.setPattern text = .ok route) :
    ({ lazy with route := route } : LazyRoute).IsFresh := by
  intro pattern hkept
  have hcompiled := h pattern hkept
  unfold Route.setPattern at hset
  split at hset
  · next hnone => simp [Route.compiled, hnone] at hcompiled
  · split at hset
    · cases hset
      exact hcompiled
    · cases hset

end LazyRoute

namespace Catalog

variable {catalog : Catalog} {registry : Registry}

lemma ids_put (entry : RegisteredRoute) (entries : List RegisteredRoute) :
    (Registry.put entry entries).map (·.id)
      = if entry.id ∈ entries.map (·.id) then entries.map (·.id)
        else entries.map (·.id) ++ [entry.id] := by
  induction entries with
  | nil => rfl
  | cons other entries ih =>
    rw [Registry.put]
    by_cases hsame : other.id = entry.id
    · simp [hsame]
    · rw [if_neg hsame, List.map_cons, ih]
      by_cases hmem : entry.id ∈ entries.map (·.id) <;> simp [hmem, Ne.symm hsame]

lemma find?_put (entry : RegisteredRoute) (entries : List RegisteredRoute) (key : Text) :
    (Registry.put entry entries).find? (·.id.text = key)
      = if entry.id.text = key then some entry else entries.find? (·.id.text = key) := by
  induction entries with
  | nil => by_cases hkey : entry.id.text = key <;> simp [Registry.put, hkey]
  | cons other entries ih =>
    rw [Registry.put]
    by_cases hsame : other.id = entry.id
    · by_cases hkey : entry.id.text = key <;> simp [hsame, hkey]
    · rw [if_neg hsame, List.find?_cons, ih]
      by_cases hother : other.id.text = key
      · have hne : entry.id.text ≠ key := fun h =>
          hsame (RouteId.text_injective (hother.trans h.symm))
        simp [hother, hne]
      · simp [hother]

namespace Matches

lemma contains_iff (h : catalog.Matches registry) (id : RouteId) :
    catalog.routes.contains id.text = true ↔ id ∈ registry.entries.map (·.id) := by
  rw [Std.HashMap.contains_eq_isSome_getElem?, h.get?, List.find?_isSome]
  simp [RouteId.text_injective.eq_iff]

lemma stored (h : catalog.Matches registry) (entry : RegisteredRoute) :
    (catalog.stored entry).Matches
      { registry with entries := Registry.put entry registry.entries } where
  next_eq := h.next_eq
  order_eq := by
    have htexts (entries : List RegisteredRoute) :
        entries.map (·.id.text) = (entries.map (·.id)).map RouteId.text := by
      rw [List.map_map]
      rfl
    simp only [Catalog.stored, h.order_eq, h.contains_iff, htexts, ids_put]
    split <;> simp
  get? := fun key => by
    rw [find?_put, ← h.get?]
    simp [Catalog.stored, Std.HashMap.getElem?_insert]

/-- Adding a route does the same to both, whether the route is refused, comes for the first time or
has its id already. -/
lemma add (h : catalog.Matches registry) {lazy : LazyRoute} (hfresh : lazy.IsFresh) :
    ∃ (after : LazyRoute) (catalog' : Catalog),
      catalog.add lazy = ((Registry.practice.add registry lazy.route).1, after, catalog') ∧
      after.route = (Registry.practice.add registry lazy.route).2.1 ∧ after.IsFresh ∧
      catalog'.Matches (Registry.practice.add registry lazy.route).2.2 := by
  obtain ⟨after, hcompiled, hroute, hafter⟩ := hfresh.compiled
  cases hresult : lazy.route.compiled with
  | error error =>
    rw [hresult] at hcompiled
    have hrefused : Registry.practice.add registry lazy.route = (.error error, lazy.route, registry) := by
      simp [Registry.practice, Registry.add, hresult]
    rw [hrefused]
    exact ⟨after, catalog, by simp only [Catalog.add, hcompiled], hroute, hafter, h⟩
  | ok pattern =>
    rw [hresult] at hcompiled
    cases hid : lazy.route.id with
    | some id =>
      have hadded : Registry.practice.add registry lazy.route = (.ok id, lazy.route,
          { registry with entries := Registry.put ⟨id, pattern⟩ registry.entries }) := by
        simp [Registry.practice, Registry.add, hresult, Registry.issue, hid]
        rw [← hid]
      rw [hadded]
      refine ⟨after, catalog.stored ⟨id, pattern⟩, ?_, hroute, hafter, h.stored _⟩
      simp only [Catalog.add, hcompiled, hroute, hid]
    | none =>
      have hadded : Registry.practice.add registry lazy.route
          = (.ok ⟨registry.nextSequence, pattern.text⟩,
            { lazy.route with id := some ⟨registry.nextSequence, pattern.text⟩ },
            { registry with
              entries := Registry.put ⟨⟨registry.nextSequence, pattern.text⟩, pattern⟩ registry.entries
              nextSequence := registry.nextSequence + 1 }) := by
        simp [Registry.practice, Registry.add, hresult, Registry.issue, hid]
      rw [hadded]
      have hcounted : ({ catalog with next := catalog.next + 1 } : Catalog).Matches
          { registry with nextSequence := registry.nextSequence + 1 } :=
        ⟨by simp only [h.next_eq], h.order_eq, h.get?⟩
      refine ⟨{ after with route := { after.route with
        id := some ⟨registry.nextSequence, pattern.text⟩ } }, _, ?_, by rw [hroute], ?_,
        hcounted.stored _⟩
      · simp only [Catalog.add, hcompiled, hroute, hid, h.next_eq]
      · exact hafter

lemma remove (h : catalog.Matches registry) (lazy : LazyRoute) :
    ∃ catalog', catalog.remove lazy = ((registry.remove lazy.route).1, catalog') ∧
      catalog'.Matches (registry.remove lazy.route).2 := by
  cases hid : lazy.route.id with
  | none =>
    have hnothing : registry.remove lazy.route = (false, registry) := by
      simp only [Registry.remove, hid]
    exact ⟨catalog, by simp only [Catalog.remove, hid, hnothing], by rw [hnothing]; exact h⟩
  | some id =>
    have hremoved : registry.remove lazy.route = (registry.contains id,
        { registry with entries := registry.entries.filter (·.id ≠ id) }) := by
      simp only [Registry.remove, hid]
    have hcontains : registry.contains id = catalog.routes.contains id.text := by
      simp only [Std.HashMap.contains_eq_isSome_getElem?, h.get?, Registry.contains, Registry.get?,
        RouteId.text_injective.eq_iff]
    rw [hremoved, hcontains]
    cases hthere : catalog.routes.contains id.text with
    | true =>
      refine ⟨{ catalog with
        routes := catalog.routes.erase id.text
        order := catalog.order.filter (· ≠ id.text) }, ?_, h.next_eq, ?_, fun key => ?_⟩
      · simp only [Catalog.remove, hid, hthere, if_true]
      · simp only [h.order_eq, List.filter_map, Function.comp_def, ne_eq,
          RouteId.text_injective.eq_iff]
      · rw [Std.HashMap.getElem?_erase, h.get?, List.find?_filter]
        by_cases hkey : id.text = key
        · rw [if_pos (beq_iff_eq.2 hkey), eq_comm, List.find?_eq_none]
          simp [← hkey, RouteId.text_injective.eq_iff]
        · rw [if_neg (by simpa using hkey)]
          congr 1
          funext entry
          by_cases hsame : entry.id = id
          · simp [hsame, hkey]
          · simp [hsame]
    | false =>
      have hall : registry.entries.filter (·.id ≠ id) = registry.entries := by
        refine List.filter_eq_self.2 fun entry hentry => decide_eq_true fun hsame => ?_
        have hmem := h.contains_iff id
        rw [hthere] at hmem
        exact absurd (hmem.2 (List.mem_map.2 ⟨entry, hentry, hsame⟩)) (by simp)
      refine ⟨catalog, by simp [Catalog.remove, hid, hthere], ?_⟩
      rw [hall]
      exact h

end Matches

end Catalog

namespace Bench

variable {office : Bench LazyRoute Catalog} {bench : Bench Route Registry} {place : Nat}

lemma Matches.filed (h : office.Matches bench) {lazy : LazyRoute} (hfresh : lazy.IsFresh)
    (filings : List Filing) :
    (office.filed place lazy filings).Matches (bench.filed place lazy.route filings) where
  routes_eq := by rw [Bench.filed, Bench.filed, List.map_set, h.routes_eq]
  fresh := fun other hother => (List.mem_or_eq_of_mem_set hother).elim (h.fresh other)
    fun hsame => hsame ▸ hfresh
  registry := h.registry
  filings_eq := congrArg (· ++ filings) h.filings_eq

lemma Matches.withRegistry (h : office.Matches bench) {catalog : Catalog} {registry : Registry}
    (hmatches : catalog.Matches registry) :
    ({ office with registry := catalog } : Bench LazyRoute Catalog).Matches
      { bench with registry := registry } :=
  ⟨h.routes_eq, h.fresh, hmatches, h.filings_eq⟩

/-- Both benches have a route in a place, or none has. -/
lemma Matches.withRoute (h : office.Matches bench) {act : LazyRoute → Bench LazyRoute Catalog}
    {act' : Route → Bench Route Registry}
    (hact : ∀ lazy : LazyRoute, lazy.IsFresh → (act lazy).Matches (act' lazy.route)) :
    (office.withRoute place act).Matches (bench.withRoute place act') := by
  have hsame : bench.routes[place]? = office.routes[place]?.map LazyRoute.route := by
    rw [← h.routes_eq, List.getElem?_map]
  rw [Bench.withRoute, Bench.withRoute, hsame]
  cases hlazy : office.routes[place]? with
  | none => exact h
  | some lazy => exact hact lazy (h.fresh lazy (List.mem_of_getElem? hlazy))

lemma Matches.grown (h : office.Matches bench) {lazy : LazyRoute} (hfresh : lazy.IsFresh) :
    ({ office with routes := office.routes ++ [lazy] } : Bench LazyRoute Catalog).Matches
      { bench with routes := bench.routes ++ [lazy.route] } where
  routes_eq := by rw [List.map_append, h.routes_eq]; rfl
  fresh := List.forall_mem_append.2 ⟨h.fresh, by simpa using hfresh⟩
  registry := h.registry
  filings_eq := h.filings_eq

/-- **One errand** does the same in both practices. -/
lemma Matches.perform (h : office.Matches bench) (errand : Errand) :
    (Catalog.practice.perform office errand).Matches (Registry.practice.perform bench errand) := by
  cases errand with
  | create => exact h.grown (.of_kept rfl)
  | copy place => exact h.withRoute fun lazy hfresh => h.grown hfresh
  | withPattern place text => exact h.withRoute fun lazy _ => h.filed (.of_kept rfl) []
  | refit place model =>
    refine h.withRoute fun lazy hfresh => ?_
    have hrefitted : ({ lazy with route := lazy.route.refitted model } : LazyRoute).IsFresh := hfresh
    exact h.filed hrefitted []
  | setPattern place text =>
    refine h.withRoute fun lazy hfresh => ?_
    have hlazy : Catalog.practice.setPattern lazy text
        = (lazy.route.setPattern text).map fun route => { lazy with route := route } := rfl
    have hplain : Registry.practice.setPattern lazy.route text = lazy.route.setPattern text := rfl
    rw [hlazy, hplain]
    cases hset : lazy.route.setPattern text with
    | ok route => exact h.filed (hfresh.setPattern hset) []
    | error error => exact h.filed hfresh _
  | compile place =>
    refine h.withRoute fun lazy hfresh => ?_
    obtain ⟨after, hcompiled, hroute, hafter⟩ := hfresh.compiled
    have hlazy : Catalog.practice.compiled lazy = (lazy.route.compiled, after) := hcompiled
    have hplain : Registry.practice.compiled lazy.route = (lazy.route.compiled, lazy.route) := rfl
    rw [hlazy, hplain, ← hroute]
    cases after.route.compiled with
    | ok pattern => exact h.filed hafter []
    | error error => exact h.filed hafter _
  | add place =>
    refine h.withRoute fun lazy hfresh => ?_
    obtain ⟨after, catalog, hadd, hroute, hafter, hcatalog⟩ := h.registry.add hfresh
    have hlazy : Catalog.practice.add office.registry lazy = _ := hadd
    rw [hlazy]
    generalize Registry.practice.add bench.registry lazy.route = result at hroute hcatalog ⊢
    obtain ⟨answer, route, registry⟩ := result
    obtain rfl : after.route = route := hroute
    cases answer with
    | ok id => exact (h.withRegistry hcatalog).filed hafter _
    | error error => exact (h.withRegistry hcatalog).filed hafter _
  | addElsewhere place =>
    refine h.withRoute fun lazy hfresh => ?_
    have helsewhere : (Catalog.practice.elsewhere office.registry).Matches
        (Registry.practice.elsewhere bench.registry) :=
      ⟨h.registry.next_eq, rfl, fun key => by simp [Catalog.practice, Registry.practice, Catalog.empty]⟩
    obtain ⟨after, catalog, hadd, hroute, hafter, hcatalog⟩ := helsewhere.add hfresh
    have hlazy : Catalog.practice.add (Catalog.practice.elsewhere office.registry) lazy = _ := hadd
    rw [hlazy]
    generalize Registry.practice.add (Registry.practice.elsewhere bench.registry) lazy.route = result
      at hroute hcatalog ⊢
    obtain ⟨answer, route, registry⟩ := result
    obtain rfl : after.route = route := hroute
    have hafterwards : (Catalog.practice.after office.registry catalog).Matches
        (Registry.practice.after bench.registry registry) :=
      ⟨hcatalog.next_eq, h.registry.order_eq, h.registry.get?⟩
    cases answer with
    | ok id => exact (h.withRegistry hafterwards).filed hafter _
    | error error => exact (h.withRegistry hafterwards).filed hafter _
  | remove place =>
    refine h.withRoute fun lazy hfresh => ?_
    obtain ⟨catalog, hremove, hcatalog⟩ := h.registry.remove lazy
    have hlazy : Catalog.practice.remove office.registry lazy = _ := hremove
    have hplain : Registry.practice.remove bench.registry lazy.route
        = bench.registry.remove lazy.route := rfl
    have hview : (Catalog.practice.view lazy).id = (Registry.practice.view lazy.route).id := rfl
    rw [hlazy, hplain, hview]
    generalize bench.registry.remove lazy.route = result at hcatalog ⊢
    obtain ⟨wasThere, registry⟩ := result
    cases wasThere with
    | false => exact (h.withRegistry hcatalog).filed hfresh _
    | true =>
      cases (Registry.practice.view lazy.route).id with
      | none => exact (h.withRegistry hcatalog).filed hfresh _
      | some id => exact (h.withRegistry hcatalog).filed hfresh _

end Bench

/-- **The two practices do the same** with all errands. -/
theorem Catalog.practice_matches (errands : List Errand) :
    (Catalog.practice.run errands).Matches (Registry.practice.run errands) := by
  have hstart : Catalog.practice.start.Matches Registry.practice.start :=
    ⟨rfl, by simp [Practice.start], ⟨rfl, rfl, fun key => by
      simp [Practice.start, Catalog.practice, Registry.practice, Catalog.empty, Registry.empty]⟩, rfl⟩
  have hall (errands : List Errand) (office : Bench LazyRoute Catalog) (bench : Bench Route Registry)
      (h : office.Matches bench) : (errands.foldl Catalog.practice.perform office).Matches
        (errands.foldl Registry.practice.perform bench) := by
    induction errands generalizing office bench with
    | nil => exact h
    | cons errand errands ih => exact ih _ _ (h.perform errand)
  exact hall errands _ _ hstart

/-! ## Filings -/

/-- One more filing, in its place, and what it does to the place where an entry was filed. -/
def refile (id : RouteId) (since : Option Nat) : Filing × Nat → Option Nat
  | (.added other _, place) => if other = id then some (since.getD place) else since
  | (.removed other, _) => if other = id then none else since
  | _ => since

/-- **The place of an entry's latest first registration** among the filings, while it is there. -/
def since (filings : List Filing) (id : RouteId) : Option Nat :=
  filings.zipIdx.foldl (refile id) none

/-- The patterns that a route had when it was added under an id. -/
def patternsOf (filings : List Filing) (id : RouteId) : List (Option Text) :=
  filings.filterMap fun
    | .added other route => if other = id then some route.pattern else none
    | _ => none

/-- The ids that were new when they were given to a route. -/
def issued (filings : List Filing) : List RouteId :=
  filings.filterMap fun
    | .added id route => if route.id.isNone then some id else none
    | .addedElsewhere id route => if route.id.isNone then some id else none
    | _ => none

section

variable {filings : List Filing} {id : RouteId}

lemma since_concat (filing : Filing) :
    since (filings ++ [filing]) id = refile id (since filings id) (filing, filings.length) := by
  simp [since, List.zipIdx_append]

lemma since_lt {place : Nat} (h : since filings id = some place) : place < filings.length := by
  induction filings using List.reverseRecOn generalizing place with
  | nil => cases h
  | append_singleton filings filing ih =>
    rw [since_concat] at h
    rw [List.length_append]
    have hearlier (h : since filings id = some place) : place < filings.length + 1 :=
      Nat.lt_succ_of_lt (ih h)
    cases filing with
    | added other route =>
      rw [refile] at h
      split at h
      · cases hsince : since filings id with
        | none =>
          rw [hsince] at h
          cases h
          exact Nat.lt_succ_self _
        | some earlier =>
          rw [hsince] at h
          cases h
          exact Nat.lt_succ_of_lt (ih hsince)
      · exact hearlier h
    | removed other =>
      rw [refile] at h
      split at h
      · cases h
      · exact hearlier h
    | addedElsewhere | absent | refused => exact hearlier h

lemma patternsOf_concat (filing : Filing) :
    patternsOf (filings ++ [filing]) id = patternsOf filings id ++ patternsOf [filing] id :=
  List.filterMap_append ..

lemma issued_concat (filing : Filing) :
    issued (filings ++ [filing]) = issued filings ++ issued [filing] :=
  List.filterMap_append ..

lemma issued_added (id : RouteId) (route : Route) :
    issued [.added id route] = if route.id.isNone then [id] else [] := by
  cases hid : route.id <;> simp [issued, hid]

lemma issued_addedElsewhere (id : RouteId) (route : Route) :
    issued [.addedElsewhere id route] = if route.id.isNone then [id] else [] := by
  cases hid : route.id <;> simp [issued, hid]

end

/-- One entry was filed before another one. -/
def FiledBefore (filings : List Filing) (first second : RouteId) : Prop :=
  ∃ place other, since filings first = some place ∧ since filings second = some other ∧ place < other

lemma FiledBefore.ne {filings : List Filing} {first second : RouteId}
    (h : FiledBefore filings first second) : first ≠ second := by
  rintro rfl
  obtain ⟨place, other, hplace, hother, hlt⟩ := h
  rw [hplace] at hother
  cases hother
  exact Nat.lt_irrefl _ hlt

/-- The numbers of new ids grow, and the next one is greater. -/
structure Numbered (next : Nat) (filings : List Filing) : Prop where
  growing : (issued filings).Pairwise (·.sequence < ·.sequence)
  below : ∀ id ∈ issued filings, id.sequence < next

/-- **What filings say of a registry.** -/
structure Dated (registry : Registry) (filings : List Filing) : Prop where
  mem_iff : ∀ id, id ∈ registry.ids ↔ (since filings id).isSome
  sorted : registry.ids.Pairwise (FiledBefore filings)
  patterns : ∀ entry ∈ registry.entries,
    (patternsOf filings entry.id).getLast? = some (some entry.pattern.text)

section

variable {registry : Registry} {filings : List Filing} {id : RouteId} {route : Route}

/-- A filing that gives no new id. -/
lemma Numbered.quiet {next : Nat} (h : Numbered next filings) {filing : Filing}
    (hissued : issued [filing] = []) : Numbered next (filings ++ [filing]) := by
  have hsame : issued (filings ++ [filing]) = issued filings := by
    rw [issued_concat, hissued, List.append_nil]
  exact ⟨hsame ▸ h.growing, hsame ▸ h.below⟩

/-- A route that gets an id, which is its own one or a new one. -/
lemma Numbered.issue (h : Numbered registry.nextSequence filings) {filing : Filing}
    (pattern : Pattern) (hfiling : issued [filing]
      = if route.id.isNone then [(registry.issue route pattern).1] else []) :
    Numbered (registry.issue route pattern).2.nextSequence (filings ++ [filing]) := by
  cases hid : route.id with
  | some id =>
    rw [hid] at hfiling
    simpa [Registry.issue, hid] using h.quiet hfiling
  | none =>
    have hnew : issued (filings ++ [filing])
        = issued filings ++ [⟨registry.nextSequence, pattern.text⟩] := by
      rw [issued_concat, hfiling]
      simp [hid, Registry.issue]
    have hnext : (registry.issue route pattern).2.nextSequence = registry.nextSequence + 1 := by
      simp [Registry.issue, hid]
    rw [hnext]
    refine ⟨?_, ?_⟩
    · rw [hnew]
      exact List.pairwise_append.2 ⟨h.growing, List.pairwise_singleton _ _, by simpa using h.below⟩
    · rw [hnew]
      refine List.forall_mem_append.2 ⟨fun id hid => Nat.lt_succ_of_lt (h.below id hid), ?_⟩
      simp

/-- An entry that is put in is there, and those of other ids. -/
lemma mem_put {entry other : RegisteredRoute} {entries : List RegisteredRoute}
    (hnodup : (entries.map (·.id)).Nodup) (h : other ∈ Registry.put entry entries) :
    other = entry ∨ other ∈ entries ∧ other.id ≠ entry.id := by
  induction entries with
  | nil => exact .inl (List.mem_singleton.1 h)
  | cons first entries ih =>
    obtain ⟨hfirst, hnodup⟩ := List.nodup_cons.1 hnodup
    rw [Registry.put] at h
    split at h
    · next hsame =>
      obtain rfl | hmem := List.mem_cons.1 h
      · exact .inl rfl
      · refine .inr ⟨List.mem_cons_of_mem _ hmem, fun hother => hfirst ?_⟩
        exact List.mem_map.2 ⟨other, hmem, hother.trans hsame.symm⟩
    · next hne =>
      obtain rfl | hmem := List.mem_cons.1 h
      · exact .inr ⟨List.mem_cons_self, hne⟩
      · exact (ih hnodup hmem).imp_right (And.imp_left (List.mem_cons_of_mem first))

namespace Dated

lemma empty : Dated .empty [] where
  mem_iff := fun id => by simp [Registry.ids, Registry.empty, since]
  sorted := .nil
  patterns := by simp [Registry.empty]

lemma nodup (h : Dated registry filings) : registry.ids.Nodup :=
  h.sorted.imp FiledBefore.ne

/-- A filing that is about no entry. -/
lemma quiet (h : Dated registry filings) {filing : Filing}
    (hrefile : ∀ id since place, refile id since (filing, place) = since)
    (hpattern : ∀ id, patternsOf [filing] id = []) :
    Dated registry (filings ++ [filing]) := by
  have hsince (id : RouteId) : since (filings ++ [filing]) id = since filings id := by
    rw [since_concat, hrefile]
  have hbefore : FiledBefore (filings ++ [filing]) = FiledBefore filings := by
    funext first second
    simp only [FiledBefore, hsince]
  refine ⟨fun id => by rw [hsince, h.mem_iff], by rw [hbefore]; exact h.sorted,
    fun entry hentry => ?_⟩
  rw [patternsOf_concat, hpattern, List.append_nil]
  exact h.patterns entry hentry

/-- **A route that is added** takes the place of its entry, or comes last. -/
lemma added (h : Dated registry filings) {pattern : Pattern}
    (hpattern : route.pattern = some pattern.text) :
    Dated { registry with entries := Registry.put ⟨id, pattern⟩ registry.entries }
      (filings ++ [.added id route]) := by
  have hsame : since (filings ++ [.added id route]) id
      = some ((since filings id).getD filings.length) := by
    rw [since_concat, refile, if_pos rfl]
  have hother {other : RouteId} (hne : id ≠ other) :
      since (filings ++ [.added id route]) other = since filings other := by
    rw [since_concat, refile, if_neg hne]
  have hids : ({ registry with entries := Registry.put ⟨id, pattern⟩ registry.entries } : Registry).ids
      = if id ∈ registry.ids then registry.ids else registry.ids ++ [id] :=
    Catalog.ids_put ⟨id, pattern⟩ registry.entries
  refine ⟨fun other => ?_, ?_, fun entry hentry => ?_⟩
  · have hmem := h.mem_iff other
    rw [hids]
    by_cases hne : id = other
    · subst hne
      rw [hsame]
      split <;> simp_all
    · rw [hother hne, ← hmem]
      split <;> simp [Ne.symm hne]
  · rw [hids]
    split
    · next hmem =>
      obtain ⟨place, hplace⟩ := Option.isSome_iff_exists.1 ((h.mem_iff id).1 hmem)
      have hall (other : RouteId) :
          since (filings ++ [.added id route]) other = since filings other := by
        by_cases hne : id = other
        · rw [← hne, hsame, hplace]
          rfl
        · exact hother hne
      exact h.sorted.imp fun hbefore => by rwa [FiledBefore, hall, hall]
    · next hnew =>
      have hne {other : RouteId} (hmem : other ∈ registry.ids) : id ≠ other :=
        fun h => hnew (h ▸ hmem)
      have hlast : since (filings ++ [.added id route]) id = some filings.length := by
        have hnone : since filings id = none := by
          rw [← Option.not_isSome_iff_eq_none, ← h.mem_iff]
          exact hnew
        rw [hsame, hnone]
        rfl
      refine List.pairwise_append.2 ⟨?_, List.pairwise_singleton _ _, fun first hfirst second hsecond => ?_⟩
      · exact h.sorted.imp_of_mem fun hfirst hsecond hbefore => by
          rwa [FiledBefore, hother (hne hfirst), hother (hne hsecond)]
      · obtain rfl := List.mem_singleton.1 hsecond
        obtain ⟨place, hplace⟩ := Option.isSome_iff_exists.1 ((h.mem_iff first).1 hfirst)
        exact ⟨place, _, (hother (hne hfirst)).trans hplace, hlast, since_lt hplace⟩
  · rw [patternsOf_concat]
    obtain rfl | ⟨hmem, hne⟩ := mem_put h.nodup hentry
    · simp [patternsOf, hpattern]
    · have hnone : patternsOf [.added id route] entry.id = [] := by
        simp [patternsOf, Ne.symm hne]
      rw [hnone, List.append_nil]
      exact h.patterns entry hmem

/-- **An entry that is removed** leaves the others as they are. -/
lemma removed (h : Dated registry filings) :
    Dated { registry with entries := registry.entries.filter (·.id ≠ id) }
      (filings ++ [.removed id]) := by
  have hsame : since (filings ++ [.removed id]) id = none := by
    rw [since_concat, refile, if_pos rfl]
  have hother {other : RouteId} (hne : id ≠ other) :
      since (filings ++ [.removed id]) other = since filings other := by
    rw [since_concat, refile, if_neg hne]
  have hids : ({ registry with entries := registry.entries.filter (·.id ≠ id) } : Registry).ids
      = registry.ids.filter (· ≠ id) := by
    rw [Registry.ids, Registry.ids, List.filter_map]
    rfl
  refine ⟨fun other => ?_, ?_, fun entry hentry => ?_⟩
  · rw [hids, List.mem_filter, h.mem_iff]
    by_cases hne : id = other
    · simp [← hne, hsame]
    · simp [hother hne, Ne.symm hne]
  · rw [hids]
    refine (h.sorted.filter _).imp_of_mem fun {first second} hfirst hsecond hbefore => ?_
    have hne {other : RouteId} (hmem : other ∈ registry.ids.filter (· ≠ id)) : id ≠ other :=
      Ne.symm (of_decide_eq_true (List.mem_filter.1 hmem).2)
    rwa [FiledBefore, hother (hne hfirst), hother (hne hsecond)]
  · rw [patternsOf_concat]
    exact (congrArg _ (List.append_nil _)).trans (h.patterns entry (List.mem_of_mem_filter hentry))

/-- The number of the next id is of no account. -/
lemma of_entries {other : Registry} (h : Dated registry filings)
    (hentries : other.entries = registry.entries) : Dated other filings where
  mem_iff := by simpa only [Registry.ids, hentries] using h.mem_iff
  sorted := by simpa only [Registry.ids, hentries] using h.sorted
  patterns := by simpa only [hentries] using h.patterns

end Dated

/-- What the filings of a bench say of its registry. -/
structure Bench.Kept (bench : Bench Route Registry) : Prop where
  dated : Dated bench.registry bench.filings
  numbered : Numbered bench.registry.nextSequence bench.filings

namespace Bench.Kept

variable {bench : Bench Route Registry} {place : Nat}

lemma withRoute (h : bench.Kept) {act : Route → Bench Route Registry} (hact : ∀ route, (act route).Kept) :
    (bench.withRoute place act).Kept := by
  unfold Bench.withRoute
  split
  · exact h
  · exact hact _

lemma unfiled (h : bench.Kept) : (bench.filed place route []).Kept := by
  have hfilings : (bench.filed place route []).filings = bench.filings := List.append_nil _
  exact ⟨by rw [hfilings]; exact h.dated, by rw [hfilings]; exact h.numbered⟩

lemma refused (h : bench.Kept) (error : RouterError) :
    (bench.filed place route [.refused error]).Kept :=
  ⟨h.dated.quiet (fun _ _ _ => rfl) fun _ => rfl, h.numbered.quiet rfl⟩

/-- What is known of a route that a registry accepts. -/
lemma exists_of_add {registered : Route} {registry' : Registry}
    (h : registry.add route = .ok (id, registered, registry')) :
    ∃ pattern : Pattern, route.pattern = some pattern.text ∧ id = (registry.issue route pattern).1 ∧
      registry'.entries = Registry.put ⟨id, pattern⟩ registry.entries ∧
      registry'.nextSequence = (registry.issue route pattern).2.nextSequence := by
  cases hcompiled : route.compiled with
  | error error => simp [Registry.add, hcompiled] at h
  | ok pattern =>
    obtain ⟨hid, -, rfl⟩ := Page.add_eq_ok hcompiled h
    exact ⟨pattern, Regime.pattern_of_compiled hcompiled, hid, rfl, rfl⟩

/-- **One errand** keeps what the filings say. -/
lemma perform (h : bench.Kept) (errand : Errand) : (Registry.practice.perform bench errand).Kept := by
  cases errand with
  | create => exact ⟨h.dated, h.numbered⟩
  | copy place => exact h.withRoute fun route => ⟨h.dated, h.numbered⟩
  | withPattern place text => exact h.withRoute fun route => h.unfiled
  | refit place model => exact h.withRoute fun route => h.unfiled
  | setPattern place text =>
    refine h.withRoute fun route => ?_
    cases Registry.practice.setPattern route text with
    | ok route => exact h.unfiled
    | error error => exact h.refused error
  | compile place =>
    refine h.withRoute fun route => ?_
    have hplain : Registry.practice.compiled route = (route.compiled, route) := rfl
    rw [hplain]
    cases route.compiled with
    | ok pattern => exact h.unfiled
    | error error => exact h.refused error
  | add place =>
    refine h.withRoute fun route => ?_
    cases hadd : bench.registry.add route with
    | error error =>
      have hplain : Registry.practice.add bench.registry route
          = (.error error, route, bench.registry) := by simp only [Registry.practice, hadd]
      rw [hplain]
      exact h.refused error
    | ok result =>
      obtain ⟨id, registered, registry⟩ := result
      have hplain : Registry.practice.add bench.registry route
          = (.ok id, registered, registry) := by simp only [Registry.practice, hadd]
      obtain ⟨pattern, hpattern, rfl, hentries, hnext⟩ := exists_of_add hadd
      rw [hplain]
      refine ⟨(h.dated.added hpattern).of_entries hentries, ?_⟩
      show Numbered registry.nextSequence _
      rw [hnext]
      exact h.numbered.issue pattern (issued_added _ route)
  | addElsewhere place =>
    refine h.withRoute fun route => ?_
    cases hadd : Registry.add { bench.registry with entries := [] } route with
    | error error =>
      have hplain : Registry.practice.add (Registry.practice.elsewhere bench.registry) route
          = (.error error, route, { bench.registry with entries := [] }) := by
        simp only [Registry.practice, hadd]
      rw [hplain]
      exact h.refused error
    | ok result =>
      obtain ⟨id, registered, other⟩ := result
      have hplain : Registry.practice.add (Registry.practice.elsewhere bench.registry) route
          = (.ok id, registered, other) := by simp only [Registry.practice, hadd]
      obtain ⟨pattern, -, rfl, -, hnext⟩ := exists_of_add hadd
      rw [hplain]
      refine ⟨(h.dated.quiet (fun _ _ _ => rfl) fun _ => rfl).of_entries rfl, ?_⟩
      show Numbered other.nextSequence _
      rw [hnext]
      have hnumbered : Numbered ({ bench.registry with entries := [] } : Registry).nextSequence
          bench.filings := h.numbered
      exact hnumbered.issue pattern (issued_addedElsewhere _ route)
  | remove place =>
    refine h.withRoute fun route => ?_
    cases hid : route.id with
    | none =>
      have hplain : Registry.practice.remove bench.registry route = (false, bench.registry) := by
        simp only [Registry.practice, Registry.remove, hid]
      rw [hplain]
      exact ⟨h.dated.quiet (fun _ _ _ => rfl) fun _ => rfl, h.numbered.quiet rfl⟩
    | some id =>
      have hplain : Registry.practice.remove bench.registry route = (bench.registry.contains id,
          { bench.registry with entries := bench.registry.entries.filter (·.id ≠ id) }) := by
        simp only [Registry.practice, Registry.remove, hid]
      have hview : (Registry.practice.view route).id = some id := hid
      rw [hplain, hview]
      cases hthere : bench.registry.contains id with
      | true => exact ⟨h.dated.removed, h.numbered.quiet rfl⟩
      | false =>
        have hall : bench.registry.entries.filter (·.id ≠ id) = bench.registry.entries := by
          have hnone : ∀ entry ∈ bench.registry.entries, ¬ entry.id = id := by
            simpa [Registry.contains, Registry.get?] using hthere
          exact List.filter_eq_self.2 fun entry hentry => decide_eq_true (hnone entry hentry)
        rw [hall]
        exact ⟨h.dated.quiet (fun _ _ _ => rfl) fun _ => rfl, h.numbered.quiet rfl⟩

lemma run (errands : List Errand) : (Registry.practice.run errands).Kept := by
  have hall (errands : List Errand) (bench : Bench Route Registry) (h : bench.Kept) :
      (errands.foldl Registry.practice.perform bench).Kept := by
    induction errands generalizing bench with
    | nil => exact h
    | cons errand errands ih => exact ih _ (h.perform errand)
  exact hall errands _ ⟨.empty, .nil, by simp [issued, Practice.start]⟩

end Bench.Kept

end

/-! ## The result -/

/-- **A registry that is a map in the order of registration**, with its table, its ids in order, and
what has come of all errands. -/
structure Catalog.InOrder (catalog : Catalog) (filings : List Filing) : Prop where
  /-- The order has no id twice. -/
  nodup : catalog.order.Nodup
  /-- The order lists the ids that the table has. -/
  keys : ∀ key, key ∈ catalog.order ↔ key ∈ catalog.routes
  /-- Each entry is gone through once, in the order. -/
  iterated : catalog.iter.map (·.id.text) = catalog.order
  len : catalog.len = catalog.iter.length
  /-- The order is that of the latest first registrations. -/
  sorted : catalog.iter.Pairwise fun first second => FiledBefore filings first.id second.id
  /-- An entry is stored under its own id. -/
  own : ∀ (key : Text) (entry : RegisteredRoute), catalog.routes[key]? = some entry → entry.id.text = key
  /-- An entry has the pattern that its route had when it was last added, compiled. -/
  compiled : ∀ (key : Text) (entry : RegisteredRoute), catalog.routes[key]? = some entry →
    ∃ text, (patternsOf filings entry.id).getLast? = some (some text) ∧
      Pattern.compile text = .ok entry.pattern
  /-- New ids are all different, and their numbers grow. -/
  fresh : (issued filings).Pairwise fun first second =>
    first.text ≠ second.text ∧ sequenceIn first.text < sequenceIn second.text

/-- An entry is found under its own id. -/
lemma find?_of_mem {entries : List RegisteredRoute} (hnodup : (entries.map (·.id)).Nodup)
    {entry : RegisteredRoute} (hmem : entry ∈ entries) :
    entries.find? (·.id.text = entry.id.text) = some entry := by
  induction entries with
  | nil => cases hmem
  | cons first entries ih =>
    obtain ⟨hfirst, hnodup⟩ := List.nodup_cons.1 hnodup
    obtain rfl | hmem := List.mem_cons.1 hmem
    · simp
    · have hne : first.id.text ≠ entry.id.text := fun h =>
        hfirst (List.mem_map.2 ⟨entry, hmem, RouteId.text_injective h.symm⟩)
      rw [List.find?_cons_of_neg (by simpa using hne), ih hnodup hmem]

namespace Catalog.Matches

variable {catalog : Catalog} {registry : Registry}

/-- A table that holds the entries of a list goes through them in the same order. -/
lemma iter_eq (h : catalog.Matches registry) (hnodup : registry.ids.Nodup) :
    catalog.iter = registry.entries := by
  rw [Catalog.iter, h.order_eq, List.filterMap_map]
  refine (List.filterMap_congr fun entry hmem => ?_).trans (List.filterMap_some ..)
  rw [Function.comp_apply, h.get?, find?_of_mem hnodup hmem]

lemma nodup_order (h : catalog.Matches registry) (hnodup : registry.ids.Nodup) :
    catalog.order.Nodup := by
  have horder : catalog.order = registry.ids.map RouteId.text := by
    rw [h.order_eq, Registry.ids, List.map_map]
    rfl
  rw [horder]
  exact hnodup.map RouteId.text_injective

lemma mem_order_iff (h : catalog.Matches registry) (key : Text) :
    key ∈ catalog.order ↔ key ∈ catalog.routes := by
  rw [h.order_eq, ← Std.HashMap.isSome_getElem?_iff_mem, h.get?, List.find?_isSome]
  simp

/-- The table has as many entries as there are ids in order. -/
lemma len_eq (h : catalog.Matches registry) (hnodup : registry.ids.Nodup) :
    catalog.len = catalog.order.length := by
  have hperm : catalog.routes.keys.Perm catalog.order :=
    (List.perm_ext_iff_of_nodup Std.HashMap.nodup_keys (h.nodup_order hnodup)).2 fun key => by
      rw [Std.HashMap.mem_keys, h.mem_order_iff]
  rw [Catalog.len, ← Std.HashMap.length_keys, hperm.length_eq]

/-- **A table and its filings are in order**. -/
lemma inOrder {filings : List Filing} (h : catalog.Matches registry)
    (hdated : Dated registry filings) (hnumbered : Numbered registry.nextSequence filings) :
    catalog.InOrder filings where
  nodup := h.nodup_order hdated.nodup
  keys := h.mem_order_iff
  iterated := by rw [h.iter_eq hdated.nodup, h.order_eq]
  len := by rw [h.len_eq hdated.nodup, h.iter_eq hdated.nodup, h.order_eq, List.length_map]
  sorted := by
    rw [h.iter_eq hdated.nodup]
    exact List.pairwise_map.1 hdated.sorted
  own := fun key entry hentry => by
    rw [h.get?] at hentry
    simpa using List.find?_some hentry
  compiled := fun key entry hentry => by
    rw [h.get?] at hentry
    exact ⟨_, hdated.patterns entry (List.mem_of_find?_eq_some hentry), Pattern.compile_eq_ok_iff.2 rfl⟩
  fresh := hnumbered.growing.imp fun {first second} hlt => by
    have hgrowing : sequenceIn first.text < sequenceIn second.text := by
      rwa [sequenceIn_text, sequenceIn_text]
    exact ⟨fun h => Nat.lt_irrefl _ (h ▸ hgrowing), hgrowing⟩

end Catalog.Matches

/-- What keeps a route from having a compiled pattern. -/
lemma exists_compiled_error_iff (route : Route) : (∃ error, route.compiled = .error error) ↔
    route.pattern = none ∨ ∃ text fault,
      route.pattern = some text ∧ Pattern.compile text = .error fault := by
  unfold Route.compiled
  cases hpattern : route.pattern with
  | none => simp
  | some text => cases hcompile : Pattern.compile text <;> simp [Except.mapError, hcompile]

/-- **A registry is an ordered map with fresh ids.**  After any errands, the table and the list of
ids are in order, and they are the list of entries; what comes of the errands is the same either
way.  A route is refused if it has no pattern or one that does not compile, and only then, and
nothing has changed then. -/
theorem registry_is_insertion_ordered (errands : List Errand) :
    let office := Catalog.practice.run errands
    let bench := Registry.practice.run errands
    (office.filings = bench.filings ∧ office.routes.map LazyRoute.route = bench.routes ∧
      office.registry.iter = bench.registry.entries ∧
      office.registry.next = bench.registry.nextSequence) ∧
    office.registry.InOrder office.filings ∧
    ∀ lazy ∈ office.routes,
      ((∃ error, (office.registry.add lazy).1 = .error error) ↔
        lazy.route.pattern = none ∨ ∃ text fault,
          lazy.route.pattern = some text ∧ Pattern.compile text = .error fault) ∧
      ∀ error, (office.registry.add lazy).1 = .error error →
        office.registry.add lazy = (.error error, lazy, office.registry) ∧
          bench.registry.add lazy.route = .error error := by
  intro office bench
  have hmatches := Catalog.practice_matches errands
  have hkept := Bench.Kept.run errands
  have hnodup := hkept.dated.nodup
  refine ⟨⟨hmatches.filings_eq, hmatches.routes_eq, hmatches.registry.iter_eq hnodup,
    hmatches.registry.next_eq⟩, ?_, fun lazy hlazy => ?_⟩
  · rw [show office.filings = bench.filings from hmatches.filings_eq]
    exact hmatches.registry.inOrder hkept.dated hkept.numbered
  · obtain ⟨after, hcompiled, -, -⟩ := (hmatches.fresh lazy hlazy).compiled
    have hadd (error : RouterError) : (office.registry.add lazy).1 = .error error ↔
        lazy.route.compiled = .error error := by
      rw [Catalog.add, hcompiled]
      cases lazy.route.compiled with
      | error fault => simp
      | ok pattern => cases hid : after.route.id <;> simp [hid]
    refine ⟨?_, fun error herror => ?_⟩
    · simp only [hadd, exists_compiled_error_iff]
    · have hresult := (hadd error).1 herror
      have hunchanged := LazyRoute.compiled_of_error (congrArg Prod.fst hcompiled |>.trans hresult)
      refine ⟨by rw [Catalog.add, hunchanged], ?_⟩
      rw [Registry.add, hresult]

/-- A route is added and copied; the copy gets another pattern and is added under the same id, which
is then removed and added again with the first pattern.  Another route has come in between, and a
last one has no pattern. -/
def reused : List Errand :=
  [.create, .withPattern 0 "/a".toList, .add 0, .copy 0, .create, .withPattern 2 "/b".toList, .add 2,
    .withPattern 1 "/c".toList, .add 1, .remove 0, .add 0, .create]

theorem registry_is_insertion_ordered_reused :
    let office := Catalog.practice.run reused
    office.registry.InOrder office.filings ∧
      office.registry.order = ["2:/b".toList, "1:/a".toList] ∧
      ∃ lazy ∈ office.routes, ∃ error, (office.registry.add lazy).1 = .error error := by
  intro office
  obtain ⟨⟨-, hroutes, hiter, -⟩, hinOrder, hall⟩ := registry_is_insertion_ordered reused
  refine ⟨hinOrder, ?_, ?_⟩
  · rw [← hinOrder.iterated, hiter]
    decide +kernel
  · have hnew : Route.new ∈ office.routes.map LazyRoute.route := by
      rw [hroutes]
      decide +kernel
    obtain ⟨lazy, hlazy, hview⟩ := List.mem_map.1 hnew
    exact ⟨lazy, hlazy, (hall lazy hlazy).1.2 (.inl (by rw [hview]; rfl))⟩

end PageRouter

import Nomenclator.Proofs.Contents

/-!
# What survives an invalidation

A request first looks into the partition of its store and reads what is missing,
and only later records what it has read. Between the two steps the graph may
change and the cache may be told so. What has been read before must not be
answered any more then, wherever it is at that moment: in the cache, or under way
to it.

For what is in the cache this is plain. What is under way carries the serial
number of the partition that it was read for. Dropping a partition, or all of
them, takes that number out of use for ever, since numbers only grow; so whatever
was under way to it never arrives. Dropping single resources keeps the partition
and its number. A load of one of these resources that is under way then records
the old value as if nothing had happened, and from then on the cache answers with
it. This is the one way in which a value outlives an invalidation: without such a
load, all that is answered later has been read later.
-/

namespace Nomenclator.Cache

variable {κ ν : Type} [BEq κ]

/-! ## Requests in two steps -/

/-- A load between its two steps: the partition that was looked into, and what was
read for it. -/
structure Flight (κ ν : Type) where
  store : StoreName
  serial : Nat
  values : List (κ × Option ν)

/-- A cache, the graph behind it, and the loads that are under way. -/
structure Traffic (κ ν : Type) where
  cache : Partitioned κ ν
  graph : StoreName → κ → Option ν
  flights : List (Flight κ ν)

/-- What can happen, in any order. -/
inductive Move (κ ν : Type) where
  | begin (store : StoreName) (ks : List κ)
  | finish (place : Nat)
  | update (graph : StoreName → κ → Option ν)
  | flush
  | flushStore (store : StoreName)
  | forget (ids : List ResourceId)

namespace Traffic

/-- The first step of a request: looks keys up, and reads those that are missing. -/
def launch (t : Traffic κ ν) (store : StoreName) (ks : List κ) : Traffic κ ν :=
  let (found, cache) := t.cache.survey store ks
  { t with
    cache
    flights := t.flights ++
      [⟨store, found.serial, found.missing.map fun k => (k, t.graph store k)⟩] }

/-- The second step of a request: records what was read. -/
def land (t : Traffic κ ν) (place : Nat) : Traffic κ ν :=
  match t.flights[place]? with
  | some f =>
      { t with
        cache := t.cache.record f.store f.serial f.values
        flights := t.flights.eraseIdx place }
  | none => t

/-- The traffic after a move. -/
def after (t : Traffic κ ν) : Move κ ν → Traffic κ ν
  | .begin store ks => t.launch store ks
  | .finish place => t.land place
  | .update graph => { t with graph }
  | .flush => { t with cache := t.cache.flush }
  | .flushStore store => { t with cache := t.cache.flushStore store }
  | .forget ids => { t with cache := t.cache.forget ids }

/-- The traffic after a run of moves. -/
def run (t : Traffic κ ν) (moves : List (Move κ ν)) : Traffic κ ν :=
  moves.foldl after t

end Traffic

/-! ### The two steps in one go -/

/-- A loader that reads a graph. -/
structure Loader.Reading {σ : Type} (loader : Loader σ κ ν)
    (graph : StoreName → κ → Option ν) (s : σ) : Prop where
  one : ∀ store k, ((loader.load store k).run s).1 =
    match graph store k with
    | some v => .ok v
    | none => .error .notFound
  several : ∀ store ks, ∃ answers, ((loader.loadAll store ks).run.run s).1 = .ok answers ∧
    ∀ k ∈ ks, Partitioned.loadedValue answers k = graph store k

namespace Traffic

theorem launch_land (t : Traffic κ ν) (store : StoreName) (ks : List κ) :
    ((t.launch store ks).land t.flights.length).cache =
      (t.cache.survey store ks).2.record store (t.cache.survey store ks).1.serial
        ((t.cache.survey store ks).1.missing.map fun k => (k, t.graph store k)) := by
  unfold land launch
  simp

/-- A request for several keys that nothing interrupts takes the two steps. -/
theorem getAllOrLoad_eq {σ : Type} (t : Traffic κ ν) {loader : Loader σ κ ν} {s : σ}
    (hloader : Loader.Reading loader t.graph s) (store : StoreName) (ks : List κ) :
    ((t.cache.getAllOrLoad loader store ks).run s).1.2 =
      (t.run [.begin store ks, .finish t.flights.length]).cache := by
  show _ = ((t.launch store ks).land t.flights.length).cache
  rw [launch_land, Partitioned.run_getAllOrLoad]
  split
  · next hmissing =>
      rw [List.isEmpty_iff.1 hmissing]
      exact (Partitioned.record_nil _ _ _).symm
  · obtain ⟨answers, hanswers, hvalues⟩ :=
      hloader.several store (t.cache.survey store ks).1.missing
    split
    · next e s' hload =>
        rw [hload] at hanswers
        cases hanswers
    · next loaded s' hload =>
        rw [hload] at hanswers
        obtain rfl := Except.ok.inj hanswers
        have hsame : ((t.cache.survey store ks).1.missing.map fun k =>
            (k, Partitioned.loadedValue loaded k)) =
            (t.cache.survey store ks).1.missing.map fun k => (k, t.graph store k) :=
          List.map_congr_left fun k hk => by rw [hvalues k hk]
        dsimp only
        rw [hsame]

theorem getOrLoad_eq [ReflBEq κ] {σ : Type} (t : Traffic κ ν) {loader : Loader σ κ ν}
    {s : σ} (hloader : Loader.Reading loader t.graph s) (store : StoreName) (k : κ) :
    ((t.cache.getOrLoad loader store k).run s).1.2 =
      (t.run [.begin store [k], .finish t.flights.length]).cache := by
  show _ = ((t.launch store [k]).land t.flights.length).cache
  rw [launch_land, Partitioned.run_getOrLoad]
  rcases t.cache.survey_single store k with ⟨hmissing, hkept⟩ | ⟨hmissing, hkept⟩
  · have hone := hloader.one store k
    rw [hmissing, hkept]
    generalize (loader.load store k).run s = out at hone
    obtain ⟨r, s'⟩ := out
    dsimp only at hone ⊢
    rw [hone]
    cases hvalue : t.graph store k <;> simp [hvalue]
  · obtain ⟨kept, hkept⟩ := Option.isSome_iff_exists.1 hkept
    rw [hmissing, hkept]
    exact (Partitioned.record_nil _ _ _).symm

/-! ## Serial numbers

Numbers in use, and numbers that loads still carry, are all smaller than the next
one to be given out. So a number that went out of use stays out of use. -/

/-- The serial numbers were given out in order. -/
structure Ordered (t : Traffic κ ν) : Prop where
  cache : t.cache.Bounded
  flights : ∀ f ∈ t.flights, f.serial < t.cache.serials

variable {t : Traffic κ ν}

theorem Ordered.launch (ht : t.Ordered) (store : StoreName) (ks : List κ) :
    (t.launch store ks).Ordered := by
  have halike := t.cache.alike_survey store ks
  have hcache : (t.cache.survey store ks).2.Bounded :=
    (ht.cache.prepare store).of_alike halike
  refine ⟨hcache, fun f hf => ?_⟩
  rcases List.mem_append.1 hf with hf | hf
  · have hold := ht.flights f hf
    have hgrow := t.cache.serials_le_prepare store
    show f.serial < (t.cache.survey store ks).2.serials
    rw [halike.serials]
    omega
  · rw [List.mem_singleton.1 hf]
    exact hcache store _ (t.cache.serial_survey store ks)

theorem Ordered.land (ht : t.Ordered) (place : Nat) : (t.land place).Ordered := by
  unfold Traffic.land
  split
  · next f hf =>
      have halike := t.cache.alike_record f.store f.serial f.values
      refine ⟨ht.cache.of_alike halike, fun f' hf' => ?_⟩
      show f'.serial < (t.cache.record f.store f.serial f.values).serials
      rw [halike.serials]
      exact ht.flights f' (List.mem_of_mem_eraseIdx hf')
  · exact ht

theorem Ordered.after (ht : t.Ordered) (m : Move κ ν) : (t.after m).Ordered := by
  cases m with
  | begin store ks => exact ht.launch store ks
  | finish place => exact ht.land place
  | update graph => exact ⟨ht.cache, ht.flights⟩
  | flush => exact ⟨t.cache.bounded_flush, ht.flights⟩
  | flushStore store => exact ⟨ht.cache.flushStore store, ht.flights⟩
  | forget ids =>
      have halike := t.cache.alike_forget ids
      refine ⟨ht.cache.of_alike halike, fun f hf => ?_⟩
      show f.serial < (t.cache.forget ids).serials
      rw [halike.serials]
      exact ht.flights f hf

theorem Ordered.run (ht : t.Ordered) (moves : List (Move κ ν)) : (t.run moves).Ordered := by
  induction moves generalizing t with
  | nil => exact ht
  | cons m moves ih => exact ih (ht.after m)

/-! ## What is answered for one key

From here on one store and one key are looked at. Equal keys count as this key. -/

/-- A move reads a value for a key. -/
def ReadsNow (t : Traffic κ ν) (m : Move κ ν) (store : StoreName) (k : κ)
    (v : Option ν) : Prop :=
  match m with
  | .begin name ks => name = store ∧
      ∃ x ∈ (t.cache.survey store ks).1.missing, (x == k) = true ∧ t.graph store x = v
  | _ => False

/-- Some move of a run reads a value for a key. -/
def Reads (t : Traffic κ ν) : List (Move κ ν) → StoreName → κ → Option ν → Prop
  | [], _, _, _ => False
  | m :: moves, store, k, v => t.ReadsNow m store k v ∨ (t.after m).Reads moves store k v

/-- A load of a key is under way to the partition that its store has now. -/
def Awaits (t : Traffic κ ν) (store : StoreName) (k : κ) : Prop :=
  ∃ f ∈ t.flights, f.store = store ∧ t.cache.current store f.serial = true ∧
    ∃ e ∈ f.values, (e.1 == k) = true

instance (t : Traffic κ ν) (store : StoreName) (k : κ) : Decidable (t.Awaits store k) :=
  inferInstanceAs (Decidable (∃ f ∈ t.flights, _ ∧ _ ∧ ∃ e ∈ f.values, _))

/-- The values for a key, in the cache and under way to it, are some values only. -/
structure Clean (store : StoreName) (k : κ) (values : Option ν → Prop)
    (t : Traffic κ ν) : Prop where
  cache : t.cache.Only fun name x v => name = store → (x == k) = true → values v
  flights : ∀ f ∈ t.flights, f.store = store → t.cache.current store f.serial = true →
    ∀ e ∈ f.values, (e.1 == k) = true → values e.2

variable {store : StoreName} {k : κ} {values : Option ν → Prop}

theorem Clean.launch (hc : t.Clean store k values) (ht : t.Ordered) {name : StoreName}
    {ks : List κ} (hread : ∀ v, t.ReadsNow (.begin name ks) store k v → values v) :
    (t.launch name ks).Clean store k values := by
  have halike := t.cache.alike_survey name ks
  refine ⟨(hc.cache.survey name ks).2, fun f hf hname hcurrent e he hkey => ?_⟩
  have hserial : (t.cache.survey name ks).2.serial? store = some f.serial :=
    Partitioned.current_iff.1 hcurrent
  rw [halike.serial?, Partitioned.serial?_prepare] at hserial
  rcases List.mem_append.1 hf with hf | hf
  · -- A new partition has a number that no load carries yet.
    have hold : t.cache.serial? store = some f.serial := by
      split at hserial
      · next hstore =>
          rw [eq_of_beq hstore] at hserial
          cases hkept : t.cache.serial? store with
          | some serial =>
              rw [hkept] at hserial
              exact hserial
          | none =>
              rw [hkept] at hserial
              have hnew : t.cache.serials = f.serial := Option.some.inj hserial
              have hbound := ht.flights f hf
              omega
      · exact hserial
    exact hc.flights f hf hname (Partitioned.current_iff.2 hold) e he hkey
  · obtain rfl := List.mem_singleton.1 hf
    obtain rfl : name = store := hname
    obtain ⟨x, hx, rfl⟩ := List.mem_map.1 he
    exact hread _ ⟨rfl, x, hx, hkey, rfl⟩

theorem Clean.land [PartialEquivBEq κ] (hc : t.Clean store k values) (place : Nat) :
    (t.land place).Clean store k values := by
  unfold Traffic.land
  split
  · next f hf =>
      have hmem : f ∈ t.flights := List.mem_of_getElem? hf
      have halike := t.cache.alike_record f.store f.serial f.values
      -- What lands was on its way to the partition that is there now, so `hc` knows it.
      refine ⟨hc.cache.record fun hcurrent e he => ?_, fun f' hf' hname hcurrent => ?_⟩
      · have hvalue : f.store = store → (e.1 == k) = true → values e.2 := by
          intro hname hkey
          rw [hname] at hcurrent
          exact hc.flights f hmem hname hcurrent e he hkey
        refine ⟨hvalue, fun x _ hx _ hname hkey => ?_⟩
        exact hvalue hname (PartialEquivBEq.trans (BEq.symm hx) hkey)
      · rw [halike.current] at hcurrent
        exact hc.flights f' (List.mem_of_mem_eraseIdx hf') hname hcurrent
  · exact hc

/-- What a move puts into the cache or on its way there, it has read. -/
theorem Clean.after [PartialEquivBEq κ] (hc : t.Clean store k values) (ht : t.Ordered)
    {m : Move κ ν} (hread : ∀ v, t.ReadsNow m store k v → values v) :
    (t.after m).Clean store k values := by
  cases m with
  | begin name ks => exact hc.launch ht hread
  | finish place => exact hc.land place
  | update graph => exact ⟨hc.cache, hc.flights⟩
  | flush =>
      exact ⟨t.cache.only_flush, fun _ _ _ hcurrent => absurd hcurrent Bool.false_ne_true⟩
  | flushStore name =>
      refine ⟨hc.cache.flushStore name, fun f hf hname hcurrent => ?_⟩
      exact hc.flights f hf hname ((t.cache.current_flushStore name store _).1 hcurrent).2
  | forget ids =>
      refine ⟨hc.cache.forget ids, fun f hf hname hcurrent => ?_⟩
      rw [show (t.after (.forget ids)).cache = t.cache.forget ids from rfl,
        (t.cache.alike_forget ids).current] at hcurrent
      exact hc.flights f hf hname hcurrent

theorem Clean.run [PartialEquivBEq κ] (hc : t.Clean store k values) (ht : t.Ordered)
    {moves : List (Move κ ν)} (hread : ∀ v, t.Reads moves store k v → values v) :
    (t.run moves).Clean store k values := by
  induction moves generalizing t with
  | nil => exact hc
  | cons m moves ih =>
      exact ih (hc.after ht fun v hv => hread v (.inl hv)) (ht.after m)
        fun v hv => hread v (.inr hv)

/-! ## Invalidations -/

/-- A move is an invalidation that covers a key of a store. -/
def Covers (resource : κ → ResourceId) (store : StoreName) (k : κ) : Move κ ν → Prop
  | .flush => True
  | .flushStore name => name = store
  | .forget ids => resource k ∈ ids
  | _ => False

/-- Nothing for a key is left after an invalidation that covers it, save for what
single resources leave under way. -/
theorem clean_of_covers (hscopes : t.cache.Scoped) {resource : κ → ResourceId}
    (hscope : t.cache.scope = some resource) {m : Move κ ν}
    (hcovers : Covers resource store k m)
    (hlanded : ∀ ids, m = .forget ids → ¬ t.Awaits store k) :
    (t.after m).Clean store k values := by
  have hall : t.cache.Only fun _ _ _ => True := fun _ _ _ _ => trivial
  cases m with
  | flush =>
      exact ⟨t.cache.only_flush, fun _ _ _ hcurrent => absurd hcurrent Bool.false_ne_true⟩
  | flushStore name =>
      obtain rfl : name = store := hcovers
      refine ⟨fun e he f hf hname => absurd hname (hall.dropped_store name e he f hf).2,
        fun f _ _ hcurrent => ?_⟩
      exact absurd rfl ((t.cache.current_flushStore name name _).1 hcurrent).1
  | forget ids =>
      have hids : resource k ∈ ids := hcovers
      refine ⟨fun e he f hf _ hkey => ?_, fun f hf hname hcurrent e he hkey => ?_⟩
      · -- An equal key belongs to the same resource, so an entry under it is gone.
        have hkept := (hall.dropped_resources hscope ids e he f hf).2
        rw [hscopes resource hscope f.1 k hkey] at hkept
        exact absurd hids hkept
      · rw [show (t.after (.forget ids)).cache = t.cache.forget ids from rfl,
          (t.cache.alike_forget ids).current] at hcurrent
        exact absurd ⟨f, hf, hname, hcurrent, e, he, hkey⟩ (hlanded ids rfl)
  | begin name ks => exact hcovers.elim
  | finish place => exact hcovers.elim
  | update graph => exact hcovers.elim

/-- The cache answers a key with a value, to somebody who only looks or to a
request. -/
def Answers (t : Traffic κ ν) (store : StoreName) (k : κ) (v : Option ν) : Prop :=
  t.cache.peek store k = .ofOption v ∨
    ∃ ks, ∃ e ∈ (t.cache.survey store ks).1.kept, (e.1 == k) = true ∧ e.2 = .ofOption v

theorem Clean.answers [PartialEquivBEq κ] (hc : t.Clean store k values) {v : Option ν}
    (h : t.Answers store k v) : values v := by
  rcases h with hpeek | ⟨ks, e, he, hkey, hvalue⟩
  · obtain ⟨x, hx, hread⟩ := hc.cache.of_peek hpeek
    exact hread rfl hx
  · obtain ⟨x, w, hx, hw, hread⟩ := (hc.cache.survey store ks).1 e he
    obtain rfl := Resolution.ofOption_inj (hw.symm.trans hvalue)
    exact hread rfl (PartialEquivBEq.trans hx hkey)

/-! ## Runs from the start -/

/-- An empty cache over a graph. -/
def start (id : String) (config : Config) (resource : κ → ResourceId)
    (graph : StoreName → κ → Option ν) : Traffic κ ν :=
  ⟨.empty id config (some resource), graph, []⟩

theorem scope_after (t : Traffic κ ν) (m : Move κ ν) :
    (t.after m).cache.scope = t.cache.scope := by
  cases m with
  | begin store ks => exact t.cache.scope_survey store ks
  | finish place =>
      show (t.land place).cache.scope = _
      unfold land
      split
      · exact (t.cache.alike_record _ _ _).scope
      · rfl
  | update graph => rfl
  | flush => rfl
  | flushStore name => rfl
  | forget ids => exact (t.cache.alike_forget ids).scope

theorem scope_run (t : Traffic κ ν) (moves : List (Move κ ν)) :
    (t.run moves).cache.scope = t.cache.scope := by
  induction moves generalizing t with
  | nil => rfl
  | cons m moves ih => exact (ih (t.after m)).trans (t.scope_after m)

omit [BEq κ] in
theorem ordered_start (id : String) (config : Config) (resource : κ → ResourceId)
    (graph : StoreName → κ → Option ν) : (start id config resource graph).Ordered :=
  ⟨fun _ _ h => (nomatch h), fun _ h => absurd h List.not_mem_nil⟩

/-- Some run leads here from an empty cache whose keys have these resources. -/
def Reached (resource : κ → ResourceId) (t : Traffic κ ν) : Prop :=
  ∃ id config graph moves, t = (start id config resource graph).run moves

theorem Reached.ordered {resource : κ → ResourceId} (ht : t.Reached resource) :
    t.Ordered := by
  obtain ⟨id, config, graph, moves, rfl⟩ := ht
  exact (ordered_start id config resource graph).run moves

theorem Reached.scope {resource : κ → ResourceId} (ht : t.Reached resource) :
    t.cache.scope = some resource := by
  obtain ⟨id, config, graph, moves, rfl⟩ := ht
  exact (start id config resource graph).scope_run moves

/-- After an invalidation that covers a key, the cache answers the key with values
that were read afterwards and with no others, however loads, updates and further
invalidations are interleaved. The one condition is that resources are not dropped
while a load of them is under way; to drop stores, or everything, needs none. -/
theorem run_fresh [EquivBEq κ] {resource : κ → ResourceId}
    (hkeys : ∀ x k, (x == k) = true → resource x = resource k)
    (ht : t.Reached resource) {m : Move κ ν} (hcovers : Covers resource store k m)
    (hlanded : ∀ ids, m = .forget ids → ¬ t.Awaits store k) (later : List (Move κ ν))
    {v : Option ν} (hanswers : ((t.after m).run later).Answers store k v) :
    (t.after m).Reads later store k v := by
  have hscopes : t.cache.Scoped := by
    intro resource' hscope x k hx
    obtain rfl : resource = resource' := Option.some.inj (ht.scope.symm.trans hscope)
    exact hkeys x k hx
  have hclean : (t.after m).Clean store k fun v => (t.after m).Reads later store k v :=
    clean_of_covers hscopes ht.scope hcovers hlanded
  exact (hclean.run (ht.ordered.after m) fun _ hv => hv).answers hanswers

/-- Another text is under way while a resource is dropped, and one more load of the
resource itself begins afterwards. -/
theorem run_fresh_two_loads :
    let resource : ResourceId → ResourceId := id
    let before : List (Move ResourceId String) :=
      [.begin "s" ["urn:vase"], .finish 0, .begin "s" ["urn:bowl"]]
    let m : Move ResourceId String := .forget ["urn:vase"]
    let later : List (Move ResourceId String) :=
      [.update fun _ _ => some "Urn", .begin "s" ["urn:vase"], .finish 0, .finish 0]
    let t := (start "labels" {} resource fun _ _ => some "Vase").run before
    (∀ x k, (x == k) = true → resource x = resource k) ∧ t.Reached resource ∧
      Covers resource "s" "urn:vase" m ∧
      (∀ ids, m = .forget ids → ¬ t.Awaits "s" "urn:vase") ∧
      ((t.after m).run later).Answers "s" "urn:vase" (some "Urn") ∧
      (t.after m).Reads later "s" "urn:vase" (some "Urn") := by
  intro resource before m later t
  have hkeys : ∀ x k, (x == k) = true → resource x = resource k :=
    fun _ _ hx => eq_of_beq hx
  have hreached : t.Reached resource := ⟨"labels", {}, fun _ _ => some "Vase", before, rfl⟩
  have hcovers : Covers resource "s" "urn:vase" m := List.mem_singleton.2 rfl
  have hlanded : ∀ ids, m = .forget ids → ¬ t.Awaits "s" "urn:vase" := by
    intro _ _
    decide
  have hanswers : ((t.after m).run later).Answers "s" "urn:vase" (some "Urn") :=
    .inl (by decide)
  exact ⟨hkeys, hreached, hcovers, hlanded, hanswers,
    run_fresh hkeys hreached hcovers hlanded later hanswers⟩

/-- A load of a resource that is under way when the resource is dropped brings back
what it had read before. -/
theorem land_after_forget [ReflBEq κ] {place : Nat} {f : Flight κ ν} {v : Option ν}
    (hflight : t.flights[place]? = some f)
    (hcurrent : t.cache.current f.store f.serial = true)
    (henabled : t.cache.config.enabled = true) (hvalues : f.values = [(k, v)])
    (ids : List ResourceId) :
    ((t.after (.forget ids)).after (.finish place)).Answers f.store k v := by
  have halike := t.cache.alike_forget ids
  have hserial : (t.cache.forget ids).serial? f.store = some f.serial := by
    rw [halike.serial?]
    exact Partitioned.current_iff.1 hcurrent
  have hland : ((t.after (.forget ids)).after (.finish place)).cache =
      (t.cache.forget ids).insert f.store k v := by
    show ((t.after (.forget ids)).land place).cache = _
    unfold land
    rw [show (t.after (.forget ids)).flights[place]? = some f from hflight]
    show (t.cache.forget ids).record f.store f.serial f.values = _
    unfold Partitioned.record
    rw [if_pos (Partitioned.current_iff.2 hserial), hvalues]
    rfl
  have henabled' : (t.cache.forget ids).config.enabled = true := by
    rw [halike.config]
    exact henabled
  refine .inl ?_
  rw [hland]
  exact Partitioned.peek_insert henabled' hserial k v

/-- A text is read, the graph changes, the resource is dropped, and only then the
load is finished: the cache answers with the text of before. -/
theorem land_after_forget_old_text :
    let t : Traffic ResourceId String :=
      (start "labels" {} id fun _ _ => some "Vase").run
        [.begin "s" ["urn:vase"], .update fun _ _ => some "Urn"]
    let m : Move ResourceId String := .forget ["urn:vase"]
    let later : List (Move ResourceId String) := [.finish 0]
    t.Reached id ∧ Covers id "s" "urn:vase" m ∧
      ((t.after m).run later).Answers "s" "urn:vase" (some "Vase") ∧
      ¬ (t.after m).Reads later "s" "urn:vase" (some "Vase") := by
  intro t m later
  refine ⟨⟨"labels", {}, fun _ _ => some "Vase", _, rfl⟩, List.mem_singleton.2 rfl,
    .inl ?_, ?_⟩
  · decide
  · rintro (h | h)
    · exact h
    · exact h

end Traffic

end Nomenclator.Cache

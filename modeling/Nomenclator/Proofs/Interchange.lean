import Nomenclator.Proofs.Contents
import Nomenclator.Proofs.Registration
import Nomenclator.Proofs.Steadiness

/-!
# One resource, or several with only one among them

A text is asked for alone or together with others, and the two ways have
different code at every level. A chain has a loop for one resource that stops at
the first value, and another that narrows a list until it is empty. Yet nobody
can tell which way was taken: the outcome is the same, and so is everything that
is left behind.

Two things have to be known of a delegate. Both of its ways must come to the same
outcome in the same state, and when they succeed, the delegate must have settled
the resource: it is found or confirmed to be absent. A delegate that left it open
would end the narrowing, but not the loop. Resolvers that answer from a cache
settle whatever they are asked, for a request is answered for every key, and a
request for one key is made in the same way by both. Chains hand both properties
on, and what can happen to an application puts no other resolvers into it.
-/

namespace Nomenclator

open Nomenclator.Language (Preference)

variable {η σ α : Type}

/-! ## Requests -/

/-- A request for one key fails, or it is answered for that key alone. -/
theorem Shelf.request_single {ω κ : Type} [BEq κ] (shelf : Shelf σ ω κ α)
    (loader : Loader ω κ α) (store : StoreName) (k : κ) (s : σ) :
    ∃ s', (∃ e, (shelf.request loader store [k]).run.run s = (.error e, s')) ∨
      ∃ v, (shelf.request loader store [k]).run.run s = (.ok [(k, .ofOption v)], s') := by
  have hrun := (shelf.cache s).run_getAllOrLoad loader store [k] (shelf.world s)
  rw [shelf.run_request]
  rcases (shelf.cache s).survey_one store k with ⟨hkept, hmissing⟩ | ⟨v, hkept, hmissing⟩
  · rw [hkept, hmissing, if_neg (by simp)] at hrun
    rw [hrun]
    rcases (loader.loadAll store [k]).run.run (shelf.world s) with ⟨r, w⟩
    cases r with
    | error e => exact ⟨_, .inl ⟨e, rfl⟩⟩
    | ok loaded => exact ⟨_, .inr ⟨Cache.Partitioned.loadedValue loaded k, rfl⟩⟩
  · rw [hkept, hmissing, List.isEmpty_nil, if_pos rfl] at hrun
    rw [hrun]
    exact ⟨_, .inr ⟨v, rfl⟩⟩

/-! ## Resolvers -/

namespace Resolver

/-- The runs of two lookups, of one resource and of several, that say the same of
the resource and end in the same state. -/
inductive Same (id : ResourceId) : Except ResolveError (Option α) × σ →
    Except ResolveError (Answers ResourceId α) × σ → Prop where
  | failed (e : ResolveError) (s : σ) : Same id (.error e, s) (.error e, s)
  | told (v : Option α) (answers : Answers ResourceId α) (s : σ)
      (h : answers.get? id = some (.ofOption v)) : Same id (.ok v, s) (.ok answers, s)

/-- A resolver that is asked for one resource as for several, from any state. -/
def Coherent (r : Resolver η σ α) : Prop :=
  ∀ inquiry id s, Same id ((r.one inquiry id).run.run s) ((r.many inquiry [id]).run.run s)

theorem noop_coherent (name : String) : (noop name : Resolver η σ α).Coherent :=
  fun _ id s => .told none [(id, .notFound)] s (Table.get?_singleton id _)

/-! ### Caches -/

section

variable {ω κ : Type} [BEq κ]

theorem cached_coherent [ReflBEq κ] (name : String) (part : η) (shelf : Shelf σ ω κ α)
    (loader : Loader ω κ α) {key : ResourceId → Preference → κ} {resource : κ → ResourceId}
    (hkey : ∀ id languages, resource (key id languages) = id) :
    (cached name part shelf loader key resource).Coherent := by
  intro inquiry id s
  unfold cached
  obtain ⟨s', ⟨e, hrun⟩ | ⟨v, hrun⟩⟩ :=
    shelf.request_single loader inquiry.store (key id inquiry.languages) s
  · rw [Effect.run_bind_error hrun]
    show Same id _ ((_ >>= _ : Effect σ _).run.run s)
    rw [List.map_singleton, Effect.run_bind_error hrun]
    exact .failed e s'
  · rw [Effect.run_bind_ok hrun]
    show Same id _ ((_ >>= _ : Effect σ _).run.run s)
    rw [List.map_singleton, Effect.run_bind_ok hrun, Table.get?_singleton]
    show Same id (.ok (Resolution.ofOption v).value?, s')
      (.ok [(resource (key id inquiry.languages), .ofOption v)], s')
    rw [hkey, Resolution.value?_ofOption]
    exact .told v _ s' (Table.get?_singleton id _)

/-- A resolver that answers from a cache, under keys that tell their resource. -/
inductive FromCache : Resolver η σ α → Prop where
  | cached {ω κ : Type} [BEq κ] [ReflBEq κ] (name : String) (part : η)
      (shelf : Shelf σ ω κ α) (loader : Loader ω κ α)
      (key : ResourceId → Preference → κ) (resource : κ → ResourceId)
      (h : ∀ id languages, resource (key id languages) = id) :
      FromCache (.cached name part shelf loader key resource)

theorem FromCache.coherent {r : Resolver η σ α} (h : r.FromCache) : r.Coherent := by
  cases h with
  | cached name part shelf loader key resource hkey =>
      exact cached_coherent name part shelf loader hkey

end

/-! ### Chains -/

theorem narrow_nothing (inquiry : Inquiry) (delegates : List (Resolver η σ α)) :
    narrow inquiry [] delegates = pure [] := by
  cases delegates <;> rfl

/-- What a chain finds for one resource: nothing, or a value. -/
theorem same_narrow {delegates : List (Resolver η σ α)}
    (h : ∀ d ∈ delegates, d.Coherent) (inquiry : Inquiry) (id : ResourceId) (s : σ) :
    (∃ e s', (firstValue inquiry id delegates).run.run s = (.error e, s') ∧
      (narrow inquiry [id] delegates).run.run s = (.error e, s')) ∨
    (∃ v s', (firstValue inquiry id delegates).run.run s = (.ok (some v), s') ∧
      (narrow inquiry [id] delegates).run.run s = (.ok [(id, .found v)], s')) ∨
    ∃ s', (firstValue inquiry id delegates).run.run s = (.ok none, s') ∧
      (narrow inquiry [id] delegates).run.run s = (.ok [], s') := by
  induction delegates generalizing s with
  | nil => exact .inr (.inr ⟨s, rfl, rfl⟩)
  | cons d delegates ih =>
      have hrest := ih fun d' hd' => h d' (List.mem_cons_of_mem d hd')
      have hd := h d List.mem_cons_self inquiry id s
      unfold firstValue narrow
      rw [if_neg (by simp), Effect.run_bind, Effect.run_bind]
      generalize (d.one inquiry id).run.run s = alone at hd ⊢
      generalize (d.many inquiry [id]).run.run s = among at hd ⊢
      cases hd with
      | failed e s' => exact .inl ⟨e, s', rfl, rfl⟩
      | told v answers s' hanswer =>
          cases v with
          | some v =>
              have hfound : foundAmong answers [id] = [(id, .found v)] := by
                simp [foundAmong, hanswer, Resolution.ofOption]
              have habsent : absentAmong answers [id] = [] := by
                simp [absentAmong, hanswer, Resolution.ofOption]
              refine .inr (.inl ⟨v, s', rfl, ?_⟩)
              dsimp only
              rw [hfound, habsent, narrow_nothing]
              rfl
          | none =>
              have hfound : foundAmong answers [id] = [] := by
                simp [foundAmong, hanswer, Resolution.ofOption]
              have habsent : absentAmong answers [id] = [id] := by
                simp [absentAmong, hanswer, Resolution.ofOption]
              dsimp only
              rw [hfound, habsent, Effect.run_bind]
              rcases hrest s' with ⟨e, s'', hone, hmany⟩ | ⟨v, s'', hone, hmany⟩ |
                ⟨s'', hone, hmany⟩
              · exact .inl ⟨e, s'', hone, by rw [hmany]⟩
              · exact .inr (.inl ⟨v, s'', hone, by rw [hmany]; rfl⟩)
              · exact .inr (.inr ⟨s'', hone, by rw [hmany]; rfl⟩)

theorem chain_coherent (name : String) {delegates : List (Resolver η σ α)}
    (h : ∀ d ∈ delegates, d.Coherent) : (chain name delegates).Coherent := by
  intro inquiry id s
  have hanswer : ∀ found : Answers ResourceId α,
      (complete found [id]).get? id = some ((found.get? id).getD .notFound) :=
    fun found => Table.get?_singleton id _
  show Same id ((firstValue inquiry id delegates).run.run s)
    ((narrow inquiry [id] delegates >>= fun found => pure (complete found [id])).run.run s)
  rw [Effect.run_bind]
  rcases same_narrow h inquiry id s with ⟨e, s', hone, hmany⟩ | ⟨v, s', hone, hmany⟩ |
    ⟨s', hone, hmany⟩
  · rw [hone, hmany]
    exact .failed e s'
  · rw [hone, hmany]
    refine .told (some v) _ s' ((hanswer _).trans ?_)
    rw [Table.get?_singleton]
    rfl
  · rw [hone, hmany]
    exact .told none _ s' (hanswer [])

end Resolver

/-! ## Services -/

namespace Discovery

/-- A service whose resolvers of texts answer from caches. -/
structure Service.FromCaches (s : Service η σ) : Prop where
  labels : ∀ r, s.labels = .ok r → r.FromCache
  descriptions : ∀ r, s.descriptions = .ok r → r.FromCache

theorem capability_coherent (id : String) (c : Capability)
    {resolver : Service η σ → Except DiscoveryError (Resolver η σ α)}
    {services : List (Service η σ)}
    (h : ∀ s ∈ services, ∀ r, resolver s = .ok r → r.Coherent) :
    (capability id c resolver (.ok services)).Coherent :=
  capability_closed id Resolver.noop_coherent (fun name _ => Resolver.chain_coherent name) h

theorem build_coherent (id : String) {services : List (Service η σ)}
    (h : ∀ s ∈ services, s.FromCaches) (kind : Lookup.TextKind) :
    (kind.resolver (build id (.ok services))).Coherent := by
  cases kind with
  | label =>
      exact capability_coherent id .label fun s hs r hr => ((h s hs).labels r hr).coherent
  | description =>
      exact capability_coherent id .description fun s hs r hr =>
        ((h s hs).descriptions r hr).coherent

end Discovery

/-! ## Applications -/

open Discovery (Service)

variable {γ ε : Type}

/-- The services of texts answer from caches, and the chains that are kept are asked
for one resource as for several. -/
structure Core.Coherent (c : Core γ ε) : Prop where
  services : ∀ s ∈ c.services, s.FromCaches
  chains : ∀ chains, c.memo.chains = some chains →
    ∀ kind : Lookup.TextKind, (kind.resolver chains).Coherent

theorem Core.reactions_keep_coherent :
    Core.reactions.Keep (Core.Coherent : Core γ ε → Prop) where
  flush part _ h := by cases part <;> exact ⟨h.services, h.chains⟩
  forget part _ _ h := by cases part <;> exact ⟨h.services, h.chains⟩
  flushStore part _ _ h := by cases part <;> exact ⟨h.services, h.chains⟩
  reload part _ h := by
    cases part with
    | texts place => exact h
    | types => exact h
    | chains => exact ⟨h.services, fun _ hnone => nomatch hnone⟩

namespace Application

variable {app : Application γ ε}

theorem chains_coherent (h : app.relay.world.Coherent) :
    (∀ kind : Lookup.TextKind, (kind.resolver app.chains.1).Coherent) ∧
      app.chains.2.relay.world.Coherent := by
  unfold Application.chains Discovery.Memo.force
  cases hkept : app.relay.world.memo.chains with
  | some chains => exact ⟨h.chains chains hkept, h.services, h.chains⟩
  | none =>
      have hbuilt := Discovery.build_coherent app.relay.world.memo.id h.services
      refine ⟨hbuilt, h.services, fun chains hchains => ?_⟩
      obtain rfl := Option.some.inj hchains
      exact hbuilt

theorem respond_coherent (h : app.relay.world.Coherent) (q : Request) :
    (app.respond q).2.relay.world.Coherent := by
  have hchains := (chains_coherent h).2
  cases q <;> exact ⟨hchains.services, hchains.chains⟩

theorem act_coherent (h : app.relay.world.Coherent) (a : Action γ ε)
    (ha : ∀ s, a = .register s → s.FromCaches) : (app.act a).relay.world.Coherent := by
  have hpreserve := Invalidation.Relay.preserve_of_keep
    (Core.reactions_keep_coherent (γ := γ) (ε := ε))
  cases a with
  | operate o =>
      cases o with
      | request q => exact respond_coherent h q
      | trigger change now =>
          exact Invalidation.Relay.trigger_keep Core.reactions_keep_coherent change now h
      | consume => exact Invalidation.Relay.consume_keep Core.reactions_keep_coherent h
  | register service =>
      refine Invalidation.Relay.trigger_keep Core.reactions_keep_coherent .services true
        ⟨fun s hs => ?_, h.chains⟩
      rcases List.mem_append.1 hs with hs | hs
      · exact h.services s hs
      · rw [List.mem_singleton.1 hs]
        exact ha service rfl
  | unregister name =>
      show (app.unregister name).2.relay.world.Coherent
      unfold unregister
      dsimp only
      split
      · exact h
      · exact Invalidation.Relay.trigger_keep Core.reactions_keep_coherent .services true
          ⟨fun s hs => h.services s (List.mem_filter.1 hs).1, h.chains⟩
  | graph f => exact ⟨h.services, h.chains⟩
  | outside f => exact ⟨h.services, h.chains⟩
  | lapseText place store k => exact ⟨h.services, h.chains⟩
  | lapseType store id => exact ⟨h.services, h.chains⟩
  | flushAll => exact hpreserve.flushAll app.relay h
  | forgetIds ids => exact hpreserve.forgetIds ids app.relay h
  | flushStore store => exact hpreserve.flushStore store app.relay h
  | reloadAll => exact hpreserve.reloadAll app.relay h

theorem acts_coherent (h : app.relay.world.Coherent) {actions : List (Action γ ε)}
    (hactions : ∀ s, .register s ∈ actions → s.FromCaches) :
    (app.acts actions).relay.world.Coherent := by
  induction actions generalizing app with
  | nil => exact h
  | cons a actions ih =>
      refine ih (act_coherent h a fun s hs => hactions s ?_) fun s hs => hactions s ?_
      · rw [hs]
        exact List.mem_cons_self
      · exact List.mem_cons_of_mem a hs

/-! ### What an application is built with -/

theorem textResolver_fromCache (name : String) (place : Nat)
    (loader : Loader (World γ ε) Cache.Key TextValue) :
    (textResolver name place loader).FromCache :=
  .cached _ _ _ _ _ _ fun _ _ => rfl

variable {send : Peer.Call → StateM ε (Option Peer.Reply)}

theorem offer_fromCache {peer : Settings.PeerSettings} {c : Discovery.Capability}
    {last : String} {names names' : List String}
    {offered : Option (Resolver Part (Backing γ ε) TextValue)}
    (h : offer send peer c last names = .ok (offered, names')) :
    ∀ r, offered = some r → r.FromCache := by
  unfold offer at h
  split at h
  · obtain ⟨url, -, h⟩ := exists_of_bind_eq_ok h
    obtain ⟨rfl, -⟩ := Prod.mk.inj (Except.ok.inj h)
    intro r hr
    obtain rfl := Option.some.inj hr
    exact textResolver_fromCache _ _ _
  · obtain ⟨rfl, -⟩ := Prod.mk.inj (Except.ok.inj h)
    exact fun _ hr => nomatch hr

theorem addPeers_fromCaches {peers : List Settings.PeerSettings} {a a' : Assembly γ ε}
    (ha : ∀ s ∈ a.services, s.FromCaches) (h : addPeers send a peers = .ok a') :
    ∀ s ∈ a'.services, s.FromCaches := by
  induction peers generalizing a with
  | nil => exact Except.ok.inj h ▸ ha
  | cons peer peers ih =>
      unfold addPeers at h
      obtain ⟨⟨labels, names⟩, hlabels, h⟩ := exists_of_bind_eq_ok h
      obtain ⟨⟨descriptions, names'⟩, hdescriptions, h⟩ := exists_of_bind_eq_ok h
      refine ih (fun s hs => ?_) h
      rcases List.mem_append.1 hs with hs | hs
      · exact ha s hs
      · rw [List.mem_singleton.1 hs]
        exact {
          labels := fun r hr => offer_fromCache hlabels r (offered_eq_ok hr)
          descriptions := fun r hr => offer_fromCache hdescriptions r (offered_eq_ok hr) }

variable [Graph.Source γ]

theorem localService_fromCaches (settings : Settings) :
    (localService (γ := γ) (ε := ε) settings).FromCaches where
  labels r hr := by
    obtain rfl := Except.ok.inj hr
    exact textResolver_fromCache _ _ _
  descriptions r hr := by
    obtain rfl := Except.ok.inj hr
    exact textResolver_fromCache _ _ _

variable {settings : Settings} {graph : γ} {outside : ε}

theorem build_fromCaches (hbuild : build settings send graph outside = .ok app) :
    app.relay.world.Coherent := by
  obtain ⟨a, hassembly, happ⟩ := exists_of_bind_eq_ok hbuild
  obtain rfl := Except.ok.inj happ
  refine ⟨addPeers_fromCaches (fun s hs => ?_) hassembly, fun _ h => nomatch h⟩
  rw [List.mem_singleton.1 hs]
  exact localService_fromCaches settings

/-! ### Lookups -/

omit [Graph.Source γ] in
/-- A lookup of several resources with only one among them. -/
theorem texts_of_coherent (h : app.relay.world.Coherent) (store : StoreName)
    (id : ResourceId) (preferred : Option String) (kind : Lookup.TextKind) :
    app.texts store [id] preferred kind =
      ((app.text store id preferred kind).1.map fun value => [(id, value)],
        (app.text store id preferred kind).2) := by
  have hsame := (chains_coherent h).1 kind ⟨store, app.languagesFor preferred⟩ id
    app.chains.2.backing
  unfold texts text ask
  dsimp only
  have hseveral : Lookup.several (kind.resolver app.chains.1)
      ⟨store, app.languagesFor preferred⟩ [id] =
      (kind.resolver app.chains.1).many ⟨store, app.languagesFor preferred⟩ [id] >>=
        fun answers => pure [(id, Resolver.valueOf answers id)] := rfl
  rw [hseveral, Effect.run_bind]
  generalize ((kind.resolver app.chains.1).one _ id).run.run _ = alone at hsame ⊢
  generalize ((kind.resolver app.chains.1).many _ [id]).run.run _ = among at hsame ⊢
  cases hsame with
  | failed e s => rfl
  | told v answers s hanswer =>
      have hvalue : Resolver.valueOf answers id = v := by
        unfold Resolver.valueOf
        rw [hanswer]
        exact Resolution.value?_ofOption v
      dsimp only
      rw [hvalue]
      rfl

/-- Whatever has happened, the text of one resource and the texts of several with
only one among them are the same lookup: it ends alike, and what it leaves is equal
in everything, the entries of all caches with their order, the queries that the graph
was asked, and the outside world that peers are called in. -/
theorem texts_singleton (hbuild : build settings send graph outside = .ok app)
    (actions : List (Action γ ε)) (hactions : ∀ s, .register s ∈ actions → s.FromCaches)
    (store : StoreName) (id : ResourceId) (preferred : Option String)
    (kind : Lookup.TextKind) :
    (app.acts actions).texts store [id] preferred kind =
      (((app.acts actions).text store id preferred kind).1.map fun value => [(id, value)],
        ((app.acts actions).text store id preferred kind).2) :=
  texts_of_coherent (acts_coherent (build_fromCaches hbuild) hactions) store id preferred kind

/-- An application over one text, with a peer whose calls are written down. One more
service of the graph's texts comes in after a lookup. -/
theorem texts_singleton_one_peer :
    let raw : RawSettings :=
      { peers := [⟨"dictionary", "http://[::1]:4000/", none, some ["label"]⟩] }
    let reply : Peer.Reply := ⟨200, "\x7b\"cat\":\"Katze\"\x7d"⟩
    let send : Peer.Call → StateM (List Peer.Call) (Option Peer.Reply) := fun call => do
      modify fun calls => calls ++ [call]
      return some reply
    let graph := Graph.Memory.empty.insert "default" "dog"
      "http://www.w3.org/2000/01/rdf-schema#label" (.text (.tagged "Hund" "de"))
    ∃ settings app, Settings.ofRaw raw = .ok settings ∧
      build settings send graph [] = .ok app ∧
      let actions : List (Action Graph.Memory (List Peer.Call)) :=
        [.operate (.request (.text "default" "dog" none .label)),
          .register (localService settings)]
      ∀ store id preferred kind,
        (app.acts actions).texts store [id] preferred kind =
          (((app.acts actions).text store id preferred kind).1.map fun value =>
            [(id, value)], ((app.acts actions).text store id preferred kind).2) := by
  intro raw reply send graph
  have hbuilds : (match Settings.ofRaw raw with
      | .ok settings => (build settings send graph []).isOk
      | .error _ => false) = true := by decide +kernel
  cases haccepted : Settings.ofRaw raw with
  | error e =>
      rw [haccepted] at hbuilds
      cases hbuilds
  | ok settings =>
      simp only [haccepted] at hbuilds
      cases hbuild : build settings send graph [] with
      | error e =>
          rw [hbuild] at hbuilds
          cases hbuilds
      | ok app =>
          refine ⟨settings, app, rfl, hbuild, fun store id preferred kind => ?_⟩
          refine texts_singleton hbuild _ (fun s hs => ?_) store id preferred kind
          rcases List.mem_cons.1 hs with hs | hs
          · cases hs
          · cases List.mem_singleton.1 hs
            exact localService_fromCaches settings

end Application

end Nomenclator

import Nomenclator.Http
import Nomenclator.Proofs.Merging
import Nomenclator.Proofs.Provenance
import Nomenclator.Proofs.Registration

/-!
# What is invalidated is read anew

A client that has changed a resource names it in an invalidation, and asks for its
text again. The two requests are read by different parts of the surface. The
invalidation takes names as they are written; a lookup trims them first. A name
that is written without blanks around it means the same to both, and then the
answer comes from the graph, as it would from an application that has just been
built: the name travels through the event, the plan and the fan-out to the caches
of texts, none of which can be seen to hold anything for it afterwards, and a
lookup that finds nothing is answered by its loader.

A name with blanks around it is trimmed by nobody on the first of these ways. What
is kept for the resource survives the invalidation then, although it was accepted.
-/

namespace Nomenclator

open Cache (Key Partitioned)

variable {γ ε : Type}

/-! ## Requests that find nothing -/

/-- A request for a key of which nothing can be seen is answered by the loader. -/
theorem Shelf.request_unknown {σ ω κ α : Type} [BEq κ] (shelf : Shelf σ ω κ α)
    (loader : Loader ω κ α) {store : StoreName} {k : κ} {s : σ}
    (h : (shelf.cache s).peek store k = .unknown) :
    ((shelf.request loader store [k]).run.run s).1 =
      ((loader.loadAll store [k]).run.run (shelf.world s)).1.map fun loaded =>
        [(k, .ofOption (Partitioned.loadedValue loaded k))] := by
  have hrun := (shelf.cache s).run_getAllOrLoad loader store [k] (shelf.world s)
  have hmissing := Partitioned.missing_of_unknown h
  have hkept : ((shelf.cache s).survey store [k]).1.kept = [] := by
    rcases (shelf.cache s).survey_one store k with ⟨hkept, -⟩ | ⟨v, -, hnone⟩
    · exact hkept
    · rw [hmissing] at hnone
      cases hnone
  rw [hkept, hmissing, if_neg (by simp)] at hrun
  rw [shelf.run_request, hrun]
  rcases (loader.loadAll store [k]).run.run (shelf.world s) with ⟨r, w⟩
  cases r <;> rfl

/-! ## A change of resources that is consumed alone -/

namespace Invalidation.Relay

variable {η σ : Type} {how : Reactions η σ} {r : Relay η σ}

/-- All that is alive forgets the resources, and nothing else happens. -/
theorem world_trigger_resources (hbatch : 1 ≤ r.batch) (hpending : r.queue.pending = [])
    {ids : List ResourceId} (hids : ids ≠ []) :
    (r.trigger how (.resources ids) true).world =
      (r.registry.liveTargets (how.alive r.world)).1.foldl
        (fun w h => (how.target h).forget (distinct ids) w) r.world := by
  obtain ⟨queue, ⟨id, epoch, change⟩, -, rfl, htrigger⟩ :=
    trigger_alone how hbatch hpending (.resources ids)
  have hplan : Plan.ofEvents [⟨id, epoch, .resources ids⟩] =
      ⟨false, [], distinct ids, false, some epoch⟩ := rfl
  have hnamed : (distinct ids).isEmpty = false := by
    rw [List.isEmpty_eq_false_iff]
    exact fun h => hids (distinct_eq_nil.1 h)
  rw [htrigger, hplan]
  unfold perform
  dsimp only
  rw [if_neg (by simp), if_neg (by simp), hnamed, if_neg (by simp)]
  rfl

end Invalidation.Relay

/-! ## Applications that answer from the graph alone -/

namespace Backing

/-- How the keys of the caches of texts tell their resources. -/
def scopes (b : Backing γ ε) : List (Option (Key → ResourceId)) := b.texts.map (·.scope)

theorem scopes_onTexts (b : Backing γ ε) (place : Nat)
    {f : Partitioned Key TextValue → Partitioned Key TextValue}
    (hf : ∀ c, (f c).scope = c.scope) : (b.onTexts place f).scopes = b.scopes := by
  refine List.ext_getElem? fun i => ?_
  show ((b.texts.modify place f).map _)[i]? = (b.texts.map _)[i]?
  rw [List.getElem?_map, List.getElem?_map, List.getElem?_modify]
  cases b.texts[i]? with
  | none => rfl
  | some c =>
      by_cases hi : place = i
      · simp [hi, hf]
      · simp [hi]

theorem scopes_set (b : Backing γ ε) (place : Nat) {c : Partitioned Key TextValue}
    (hc : c.scope = (b.texts.getD place default).scope) :
    (b.texts.set place c).map (·.scope) = b.scopes := by
  refine List.ext_getElem? fun i => ?_
  unfold scopes
  rw [List.getElem?_map, List.getElem?_map, List.getElem?_set]
  split
  · next hi =>
      subst hi
      split
      · next hlt =>
          rw [List.getElem?_eq_getElem hlt]
          rw [List.getD_eq_getElem?_getD, List.getElem?_eq_getElem hlt] at hc
          exact congrArg some hc
      · next hge => rw [List.getElem?_eq_none (by omega)]
  · rfl

end Backing

open Discovery (Capability)

/-- The service of the graph is the only one, and the chains are its resolvers. -/
structure Core.Local [Graph.Source γ] (settings : Settings) (c : Core γ ε) : Prop where
  services : c.services = [Application.localService settings]
  name : c.memo.id = Application.discoveryName
  chains : ∀ chains, c.memo.chains = some chains → chains =
    Discovery.build Application.discoveryName (.ok [Application.localService settings])
  scopes : c.backing.scopes = [some Key.resource, some Key.resource]

namespace Core

variable [Graph.Source γ] {settings : Settings} {c : Core γ ε}

theorem Local.onBacking (hc : c.Local settings) {f : Backing γ ε → Backing γ ε}
    (hf : (f c.backing).scopes = c.backing.scopes) : (c.onBacking f).Local settings :=
  ⟨hc.services, hc.name, hc.chains, hf.trans hc.scopes⟩

theorem reactions_keep_local :
    reactions.Keep fun c : Core γ ε => c.Local settings where
  flush part c hc := by
    cases part with
    | texts place => exact hc.onBacking (c.backing.scopes_onTexts place fun _ => rfl)
    | types => exact hc.onBacking rfl
    | chains => exact hc
  forget part ids c hc := by
    cases part with
    | texts place =>
        exact hc.onBacking (c.backing.scopes_onTexts place fun c => (c.alike_forget ids).scope)
    | types => exact hc.onBacking rfl
    | chains => exact hc
  flushStore part store c hc := by
    cases part with
    | texts place => exact hc.onBacking (c.backing.scopes_onTexts place fun _ => rfl)
    | types => exact hc.onBacking rfl
    | chains => exact hc
  reload part c hc := by
    cases part with
    | texts place => exact hc
    | types => exact hc
    | chains => exact ⟨hc.services, hc.name, fun _ h => (nomatch h), hc.scopes⟩

end Core

/-! ### What is forgotten -/

/-- What can be seen in the cache of texts at a place. -/
def Backing.peek (b : Backing γ ε) (place : Nat) (store : StoreName) (k : Key) :
    Option (Resolution TextValue) :=
  b.texts[place]?.map fun c => c.peek store k

theorem Backing.scope_of_get {b : Backing γ ε}
    (h : b.scopes = [some Key.resource, some Key.resource]) {place : Nat}
    {c : Partitioned Key TextValue} (hc : b.texts[place]? = some c) :
    c.scope = some Key.resource := by
  have hmem : c.scope ∈ b.scopes := List.mem_map_of_mem (List.mem_of_getElem? hc)
  rw [h] at hmem
  simpa using hmem

namespace Core

variable [Graph.Source γ] {settings : Settings} {c : Core γ ε}

/-- A cache of texts that forgets resources shows nothing of them any more, and all
else as before. -/
theorem Local.peek_forget (hc : c.Local settings) (part : Part) (ids : List ResourceId)
    (place : Nat) (store : StoreName) (k : Key) :
    ((reactions.target part).forget ids c).backing.peek place store k =
      if part = .texts place ∧ k.resource ∈ ids then
        (c.backing.peek place store k).map fun _ => .unknown
      else c.backing.peek place store k := by
  cases part with
  | texts p =>
      show ((c.backing.texts.modify p fun c => c.forget ids)[place]?.map
        fun c => c.peek store k) = _
      unfold Backing.peek
      rw [List.getElem?_modify]
      by_cases hp : p = place
      · cases hget : c.backing.texts[place]? with
        | none => simp
        | some cache =>
            have hscope := Backing.scope_of_get hc.scopes hget
            have hpeek := Partitioned.peek_forget (Partitioned.scoped_texts hscope) hscope
              ids store k
            by_cases hk : k.resource ∈ ids
            · simp [hp, hk, hpeek]
            · simp [hp, hk, hpeek]
      · have hother : Part.texts p ≠ .texts place := fun h => hp (Part.texts.inj h)
        rw [if_neg (fun h => hother h.1)]
        cases c.backing.texts[place]? with
        | none => rfl
        | some cache => simp [hp]
  | types => rfl
  | chains => rfl

theorem Local.peek_forgetAll (hc : c.Local settings) (parts : List Part)
    (ids : List ResourceId) (place : Nat) (store : StoreName) (k : Key) :
    (parts.foldl (fun c part => (reactions.target part).forget ids c) c).backing.peek
        place store k =
      if .texts place ∈ parts ∧ k.resource ∈ ids then
        (c.backing.peek place store k).map fun _ => .unknown
      else c.backing.peek place store k := by
  induction parts generalizing c with
  | nil => simp
  | cons part parts ih =>
      rw [List.foldl_cons, ih (reactions_keep_local.forget part ids c hc),
        hc.peek_forget part]
      by_cases hk : k.resource ∈ ids
      · by_cases hpart : part = .texts place
        · by_cases hrest : .texts place ∈ parts
          · simp [hk, hpart, hrest, Function.comp_def]
          · simp [hk, hpart, hrest]
        · have hpart' : ¬ Part.texts place = part := fun h => hpart h.symm
          simp [hk, hpart, hpart']
      · simp [hk]

end Core

/-! ### What stays -/

namespace Application

variable [Graph.Source γ] {settings : Settings}

/-- The limit of a relay is the configured one, and the caches of texts are registered
over the service of the graph. -/
structure Standing (settings : Settings)
    (r : Invalidation.Relay Part (Core γ ε)) : Prop where
  batch : r.batch = settings.cache.consumeBatchLimit
  registered : ∀ place < 2, 0 < registrations r (.texts place)
  core : r.world.Local settings

theorem Standing.held {r : Invalidation.Relay Part (Core γ ε)} (h : Standing settings r)
    {place : Nat} (hplace : place < 2) :
    .texts place ∈ r.world.services.flatMap (·.holds) := by
  rw [h.core.services]
  show Part.texts place ∈ [.texts 0, .texts 1, .types]
  have hcases : place = 0 ∨ place = 1 := by omega
  rcases hcases with rfl | rfl <;> decide

/-- Nothing that a consumption does changes this. -/
theorem preserve_standing :
    Core.reactions.Preserve (Standing settings : Invalidation.Relay Part (Core γ ε) → Prop) := by
  have hreactions : Core.reactions.Keep fun c : Core γ ε => c.Local settings :=
    Core.reactions_keep_local
  have hkeep := Invalidation.Relay.preserve_of_keep hreactions
  have hcount : ∀ (act : Part → Core γ ε → Core γ ε) r, Standing settings r →
      ∀ place < 2, 0 < registrations (r.callTargets Core.reactions act).2 (.texts place) := by
    intro act r hr place hplace
    have hsame : registrations (r.callTargets Core.reactions act).2 (.texts place) =
        registrations r (.texts place) := count_live (hr.held hplace)
    rw [hsame]
    exact hr.registered place hplace
  exact {
    flushAll := fun r hr => ⟨hr.batch, hcount _ r hr, hkeep.flushAll r hr.core⟩
    forgetIds := fun ids r hr => ⟨hr.batch, hcount _ r hr, hkeep.forgetIds ids r hr.core⟩
    flushStore := fun s r hr => ⟨hr.batch, hcount _ r hr, hkeep.flushStore s r hr.core⟩
    reloadAll := fun r hr => ⟨hr.batch, hr.registered, hkeep.reloadAll r hr.core⟩
    count := fun _ _ _ hr => ⟨hr.batch, hr.registered, hr.core⟩ }

/-- An application that has the services and the chains of one that is built without
peers. Its graph, its queue, and whatever its caches hold are of any kind. -/
structure Local (settings : Settings) (app : Application γ ε) : Prop where
  languages : app.languages = settings.languages
  relay : Standing settings app.relay

variable {send : Peer.Call → StateM ε (Option Peer.Reply)} {graph : γ} {outside : ε}
  {app app' : Application γ ε}

/-- Without peers an application can always be built. -/
theorem build_local (hpeers : settings.peers = [])
    (send : Peer.Call → StateM ε (Option Peer.Reply)) (graph : γ) (outside : ε) :
    ∃ app, build settings send graph outside = .ok app ∧ app.Local settings ∧
      app.backing.world.graph = graph ∧
      ∀ c ∈ app.backing.texts, ∀ store k, c.peek store k = .unknown := by
  unfold build
  rw [hpeers]
  refine ⟨_, rfl, ⟨rfl, rfl, ?_, ⟨rfl, rfl, fun _ h => (nomatch h), rfl⟩⟩, rfl, ?_⟩
  · show ∀ place < 2, 0 < ((registryOf [partName localName .label,
      partName localName .description]).targets.map (·.2)).count (Part.texts place)
    decide +kernel
  · intro c hc store k
    obtain ⟨name, -, rfl⟩ := List.mem_map.1 hc
    rfl

/-- Where the texts of a kind come from. -/
def textOrigin (settings : Settings) : Lookup.TextKind → Loader.Origin
  | .label => origin settings settings.labelProperties
  | .description => origin settings settings.descriptionProperties

theorem resolver_local (settings : Settings) (kind : Lookup.TextKind) :
    ∃ name place, place < 2 ∧
      kind.resolver (Discovery.build discoveryName
        (.ok [localService (γ := γ) (ε := ε) settings])) =
      textResolver name place (World.textLoader (textOrigin settings kind)) := by
  cases kind with
  | label => exact ⟨_, 0, by omega, rfl⟩
  | description => exact ⟨_, 1, by omega, rfl⟩

theorem Local.chains (h : app.Local settings) :
    app.chains.1 = Discovery.build discoveryName (.ok [localService settings]) ∧
      app.chains.2.Local settings ∧ app.chains.2.backing = app.backing := by
  obtain ⟨hlanguages, hbatch, hregistered, hservices, hname, hchains, hscopes⟩ := h
  unfold Application.chains Discovery.Memo.force
  cases hkept : app.relay.world.memo.chains with
  | some chains =>
      exact ⟨hchains chains hkept,
        ⟨hlanguages, hbatch, hregistered, hservices, hname, hchains, hscopes⟩, rfl⟩
  | none =>
      dsimp only
      rw [hname, hservices]
      refine ⟨rfl, ⟨hlanguages, hbatch, hregistered, hservices, rfl, ?_, hscopes⟩, rfl⟩
      exact fun chains hbuilt => (Option.some.inj hbuilt).symm

/-- An invalidation of resources that finds the queue empty: the texts of these
resources cannot be seen any more, and everything else is as before. -/
theorem Local.trigger_resources (h : app.Local settings)
    (hbatch : 1 ≤ settings.cache.consumeBatchLimit)
    (hidle : app.relay.queue.pending = []) {ids : List ResourceId} (hids : ids ≠ []) :
    (app.trigger (.resources ids) true).Local settings ∧
      (app.trigger (.resources ids) true).backing.world = app.backing.world ∧
      ∀ place < 2, ∀ store k,
        (app.trigger (.resources ids) true).backing.peek place store k =
          if k.resource ∈ ids then (app.backing.peek place store k).map fun _ => .unknown
          else app.backing.peek place store k := by
  have hworld : Core.reactions.Keep fun c : Core γ ε =>
      c.backing.world = app.backing.world :=
    { flush := fun part _ hc => by cases part <;> exact hc
      forget := fun part _ _ hc => by cases part <;> exact hc
      flushStore := fun part _ _ hc => by cases part <;> exact hc
      reload := fun part _ hc => by cases part <;> exact hc }
  refine ⟨⟨h.languages, ?_⟩, ?_, fun place hplace store k => ?_⟩
  · exact Invalidation.Relay.trigger_preserve preserve_standing (.resources ids) true h.relay
  · exact Invalidation.Relay.trigger_keep hworld (.resources ids) true (r := app.relay) rfl
  · have hlive : .texts place ∈
        (app.relay.registry.liveTargets (Core.alive app.relay.world)).1 := by
      rw [← List.count_pos_iff, count_live (h.relay.held hplace)]
      exact h.relay.registered place hplace
    show (app.relay.trigger Core.reactions (.resources ids) true).world.backing.peek
      place store k = _
    rw [Invalidation.Relay.world_trigger_resources (h.relay.batch ▸ hbatch) hidle hids]
    refine (h.relay.core.peek_forgetAll _ (distinct ids) place store k).trans ?_
    simp only [mem_distinct]
    have hlive' : .texts place ∈
        (app.relay.registry.liveTargets (Core.reactions.alive app.relay.world)).1 := hlive
    simp only [hlive', true_and]
    rfl

/-! ### What else may happen -/

/-- An effect on a backing that leaves the scopes of the caches alone. -/
def Steadfast {α : Type} (x : Effect (Backing γ ε) α) : Prop :=
  ∀ b, (x.run.run b).2.scopes = b.scopes

section

omit [Graph.Source γ]

variable {α β : Type}

theorem Steadfast.map {x : Effect (Backing γ ε) α} (hx : Steadfast x) (f : α → β) :
    Steadfast (x >>= fun a => pure (f a)) := by
  intro b
  have hb := hx b
  rw [Effect.run_bind]
  generalize x.run.run b = out at hb ⊢
  obtain ⟨r, b'⟩ := out
  cases r <;> exact hb

theorem steadfast_texts (place : Nat) (loader : Loader (World γ ε) Key TextValue)
    (store : StoreName) (ks : List Key) :
    Steadfast ((Backing.textShelf place).request loader store ks) := by
  intro b
  have hscope := Partitioned.scope_getAllOrLoad (b.texts.getD place default) loader store ks
    b.world
  exact b.scopes_set place hscope

theorem steadfast_types (loader : Loader (World γ ε) ResourceId ResourceId)
    (store : StoreName) (ids : List ResourceId) :
    Steadfast (Backing.typeShelf.request loader store ids) :=
  fun _ => rfl

end

theorem Local.ask {α β : Type} (h : app.Local settings)
    (pick : Discovery.Chains Part (Backing γ ε) → Resolver Part (Backing γ ε) α)
    (question : Resolver Part (Backing γ ε) α → Effect (Backing γ ε) β)
    (hquestion : Steadfast (question
      (pick (Discovery.build discoveryName (.ok [localService settings]))))) :
    (app.ask pick question).2.Local settings := by
  obtain ⟨hchains, ⟨hlanguages, hbatch, hregistered, hcore⟩, -⟩ := h.chains
  have hscopes := (hquestion app.chains.2.backing).trans hcore.scopes
  unfold Application.ask
  dsimp only
  rw [hchains]
  exact ⟨hlanguages, hbatch, hregistered, hcore.services, hcore.name, hcore.chains, hscopes⟩

theorem Local.respond (h : app.Local settings) (q : Request) :
    (app.respond q).2.Local settings := by
  cases q with
  | texts store ids preferred kind =>
      obtain ⟨name, place, -, hresolver⟩ := resolver_local (γ := γ) (ε := ε) settings kind
      refine h.ask kind.resolver
        (fun r => Lookup.several r ⟨store, app.languagesFor preferred⟩ ids) ?_
      rw [hresolver]
      exact ((steadfast_texts place _ store _).map _).map _
  | text store id preferred kind =>
      obtain ⟨name, place, -, hresolver⟩ := resolver_local (γ := γ) (ε := ε) settings kind
      refine h.ask kind.resolver (fun r => r.one ⟨store, app.languagesFor preferred⟩ id) ?_
      rw [hresolver]
      exact (steadfast_texts place _ store _).map _
  | types store ids =>
      let o := origin settings settings.typeProperties
      exact h.ask Discovery.Chains.types
        (fun r => Lookup.several r ⟨store, app.languages⟩ ids)
        (((steadfast_types (World.typeLoader o) store _).map _).map _)

/-- An action that brings and takes no service. -/
def Action.Settled : Action γ ε → Prop
  | .register _ | .unregister _ => False
  | _ => True

theorem Local.act (h : app.Local settings) {a : Action γ ε} (ha : a.Settled) :
    (app.act a).Local settings := by
  cases a with
  | operate o =>
      cases o with
      | request q => exact h.respond q
      | trigger change now =>
          exact ⟨h.languages,
            Invalidation.Relay.trigger_preserve preserve_standing change now h.relay⟩
      | consume =>
          exact ⟨h.languages, Invalidation.Relay.consume_preserve preserve_standing h.relay⟩
  | register service => exact ha.elim
  | unregister name => exact ha.elim
  | graph f =>
      exact ⟨h.languages, h.relay.batch, h.relay.registered, h.relay.core.services,
        h.relay.core.name, h.relay.core.chains, h.relay.core.scopes⟩
  | outside f =>
      exact ⟨h.languages, h.relay.batch, h.relay.registered, h.relay.core.services,
        h.relay.core.name, h.relay.core.chains, h.relay.core.scopes⟩
  | lapseText place store k =>
      exact ⟨h.languages, h.relay.batch, h.relay.registered,
        h.relay.core.onBacking (Backing.scopes_onTexts _ place fun _ => rfl)⟩
  | lapseType store id =>
      exact ⟨h.languages, h.relay.batch, h.relay.registered, h.relay.core.onBacking rfl⟩
  | flushAll => exact ⟨h.languages, preserve_standing.flushAll app.relay h.relay⟩
  | forgetIds ids => exact ⟨h.languages, preserve_standing.forgetIds ids app.relay h.relay⟩
  | flushStore store =>
      exact ⟨h.languages, preserve_standing.flushStore store app.relay h.relay⟩
  | reloadAll => exact ⟨h.languages, preserve_standing.reloadAll app.relay h.relay⟩

/-- Whatever happens to an application that is built without peers, it stays one of
these as long as no service comes or goes. -/
theorem Local.acts (h : app.Local settings) {actions : List (Action γ ε)}
    (hactions : ∀ a ∈ actions, a.Settled) : (app.acts actions).Local settings := by
  induction actions generalizing app with
  | nil => exact h
  | cons a actions ih =>
      exact ih (h.act (hactions a List.mem_cons_self)) fun a' ha' =>
        hactions a' (List.mem_cons_of_mem a ha')

/-! ### What is looked up -/

/-- Nothing can be seen of a resource in the caches of texts. -/
def Unseen (app : Application γ ε) (id : ResourceId) : Prop :=
  ∀ place < 2, ∀ store k, k.resource = id → app.backing.peek place store k = some .unknown

/-- The caches of texts are there to be looked at. -/
theorem Local.peek_isSome (h : app.Local settings) {place : Nat} (hplace : place < 2)
    (store : StoreName) (k : Key) : ∃ seen, app.backing.peek place store k = some seen := by
  have hlength : app.backing.texts.length = 2 := by
    have hscopes := congrArg List.length h.relay.core.scopes
    exact (List.length_map _).symm.trans hscopes
  have hget := List.getElem?_eq_getElem (l := app.backing.texts) (i := place) (by omega)
  exact ⟨_, Option.map_eq_some_iff.2 ⟨_, hget, rfl⟩⟩

theorem Local.unseen_of_empty (h : app.Local settings)
    (hempty : ∀ c ∈ app.backing.texts, ∀ store k, c.peek store k = .unknown)
    (id : ResourceId) : app.Unseen id := by
  intro place hplace store k _
  obtain ⟨seen, hseen⟩ := h.peek_isSome hplace store k
  obtain ⟨c, hget, hc⟩ := Option.map_eq_some_iff.1 hseen
  rw [hseen, ← hc, hempty c (List.mem_of_getElem? hget)]

theorem Local.unseen_of_trigger (h : app.Local settings)
    (hbatch : 1 ≤ settings.cache.consumeBatchLimit)
    (hidle : app.relay.queue.pending = []) {ids : List ResourceId} {id : ResourceId}
    (hid : id ∈ ids) : (app.trigger (.resources ids) true).Unseen id := by
  obtain ⟨-, -, hpeek⟩ := h.trigger_resources hbatch hidle (List.ne_nil_of_mem hid)
  intro place hplace store k hk
  obtain ⟨seen, hseen⟩ := h.peek_isSome hplace store k
  rw [hpeek place hplace store k, if_pos (hk ▸ hid), hseen]
  rfl

omit [Graph.Source γ] in
theorem cache_of_peek {b : Backing γ ε} {place : Nat} {store : StoreName} {k : Key}
    {seen : Resolution TextValue} (h : b.peek place store k = some seen) :
    ((Backing.textShelf place).cache b).peek store k = seen := by
  unfold Backing.peek at h
  rw [Option.map_eq_some_iff] at h
  obtain ⟨c, hget, hseen⟩ := h
  show (b.texts.getD place default).peek store k = seen
  rw [List.getD_eq_getElem?_getD, hget]
  exact hseen

/-- The text of a resource that cannot be seen is loaded from the graph. -/
theorem several_unseen (name : String) (place : Nat) (o : Loader.Origin)
    (inquiry : Inquiry) (id : ResourceId) {b : Backing γ ε}
    (h : b.peek place inquiry.store ⟨id, inquiry.languages⟩ = some .unknown) :
    ((Lookup.several (textResolver name place (World.textLoader o)) inquiry [id]).run.run
        b).1 =
      (Loader.Text.resolve b.world.graph o inquiry.store
        [⟨id, inquiry.languages⟩]).result.map fun loaded =>
          [(id, Partitioned.loadedValue loaded ⟨id, inquiry.languages⟩)] := by
  let k : Key := ⟨id, inquiry.languages⟩
  have hrequest := (Backing.textShelf place).request_unknown
    (World.textLoader (ε := ε) o) (cache_of_peek h)
  have hload : (((World.textLoader (ε := ε) o).loadAll inquiry.store [k]).run.run
      b.world).1 = (Loader.Text.resolve b.world.graph o inquiry.store [k]).result := rfl
  have hseveral : Lookup.several (textResolver name place (World.textLoader (γ := γ) (ε := ε) o))
      inquiry [id] =
      ((Backing.textShelf place).request (World.textLoader o) inquiry.store [k] >>=
        fun answers => pure (Table.ofEntries (answers.map fun e =>
          (Key.resource e.1, e.2)))) >>= fun answers =>
        pure (Lookup.valuesFor answers [id]) := rfl
  rw [hseveral, Effect.run_bind, Effect.run_bind]
  replace hrequest := hrequest.trans (congrArg _ hload)
  generalize ((Backing.textShelf place).request (World.textLoader o) inquiry.store [k]).run.run
    b = out at hrequest ⊢
  obtain ⟨answers, b'⟩ := out
  dsimp only at hrequest
  rw [hrequest]
  cases (Loader.Text.resolve b.world.graph o inquiry.store [k]).result with
  | error e => rfl
  | ok loaded =>
      have hvalue : Lookup.valuesFor (Table.ofEntries [(id, Resolution.ofOption
          (Partitioned.loadedValue loaded k))]) [id] =
          [(id, Partitioned.loadedValue loaded k)] := by
        show [(id, Option.bind (Table.get? [(id, _)] id) Resolution.value?)] = _
        rw [Table.get?_singleton]
        exact congrArg (fun v => [(id, v)]) (Resolution.value?_ofOption _)
      exact congrArg Except.ok hvalue

/-- The text of a resource of which nothing can be seen is the one that the graph has. -/
theorem Local.texts_unseen (h : app.Local settings) {id : ResourceId} (hunseen : app.Unseen id)
    (store : StoreName) (preferred : Option String) (kind : Lookup.TextKind) :
    (app.texts store [id] preferred kind).1 =
      (Loader.Text.resolve app.backing.world.graph (textOrigin settings kind) store
        [⟨id, Lookup.languagesFor settings.languages preferred⟩]).result.map fun loaded =>
          [(id, Partitioned.loadedValue loaded
            ⟨id, Lookup.languagesFor settings.languages preferred⟩)] := by
  obtain ⟨name, place, hplace, hresolver⟩ := resolver_local (γ := γ) (ε := ε) settings kind
  obtain ⟨hchains, -, hbacking⟩ := h.chains
  unfold Application.texts Application.ask languagesFor
  dsimp only
  rw [hchains, hresolver, hbacking, h.languages]
  exact several_unseen name place _
    ⟨store, Lookup.languagesFor settings.languages preferred⟩ id
    (hunseen place hplace store _ rfl)

/-- Two applications over the same graph, neither of which shows anything of a
resource, find the same text for it. -/
theorem Local.texts_alike (h : app.Local settings) (h' : app'.Local settings)
    (hgraph : app.backing.world.graph = app'.backing.world.graph) {id : ResourceId}
    (hunseen : app.Unseen id) (hunseen' : app'.Unseen id) (store : StoreName)
    (preferred : Option String) (kind : Lookup.TextKind) :
    (app.texts store [id] preferred kind).1 = (app'.texts store [id] preferred kind).1 := by
  rw [h.texts_unseen hunseen, h'.texts_unseen hunseen', hgraph]

end Application

/-! ## Over the wire -/

namespace Http

/-- The names that the body of an invalidation holds. -/
def Request.named? (r : Request) : Option (List String) :=
  if isBlankBody r.body.toList then some [] else Json.parseOptionalStrings "ids" r.body.toList

/-- An invalidation that was accepted has triggered its change. -/
theorem respond_accepted {r : Request} {app : Application γ ε}
    (hroute : Route.at? r.path = some .invalidate)
    (h : (respond r app).1.map (·.status) = some 202) :
    ∃ repository ids, r.named? = some ids ∧
      (respond r app).2 = app.trigger (changeOf repository ids).2 true := by
  unfold respond respondInvalidate at h ⊢
  rw [hroute] at h ⊢
  dsimp only at h ⊢
  split at h
  · cases h
  · next hmethod =>
      rw [if_neg hmethod]
      split at h
      · cases h
      · next repository hrepository =>
          split at h
          · cases h
          · next hsize =>
              rw [if_neg hsize]
              split at h
              · cases h
              · next ids hids => exact ⟨repository, ids, hids, rfl⟩

/-- An invalidation that is well formed is accepted, whatever it names. -/
theorem accepts_invalidation {r : Request} (hroute : Route.at? r.path = some .invalidate)
    (hmethod : Route.invalidate.allows r.method = true) {repository : Option String}
    (hrepository : single? r.values "repository" = some repository)
    (hsize : isTooLarge r = false) {ids : List String} (hids : r.named? = some ids)
    (app : Application γ ε) : (respond r app).1.map (·.status) = some 202 := by
  unfold Request.named? at hids
  unfold respond respondInvalidate
  rw [hroute]
  dsimp only
  rw [hmethod, if_neg (by simp), hrepository]
  dsimp only
  rw [hsize, if_neg (by simp), hids]
  rfl

theorem lookup_congr {kind : Lookup.TextKind} {app app' : Application γ ε}
    {ids : List String}
    (hsame : ∀ store preferred, (app.texts store (resources ids) preferred kind).1 =
      (app'.texts store (resources ids) preferred kind).1)
    (repository preferred : Option String) :
    (lookup kind repository preferred ids app).1 =
      (lookup kind repository preferred ids app').1 := by
  unfold lookup
  cases storeName? repository with
  | none => rfl
  | some store => exact congrArg textsResponse? (hsame store preferred)

/-- A response with texts depends on the texts alone. -/
theorem respondTexts_congr {q : Request} {kind : Lookup.TextKind}
    {app app' : Application γ ε} {ids : List String}
    (hids : Json.parseStrings q.body.toList = .ok ids)
    (hsame : ∀ store preferred, (app.texts store (resources ids) preferred kind).1 =
      (app'.texts store (resources ids) preferred kind).1) :
    (respondTexts kind q app).1 = (respondTexts kind q app').1 := by
  unfold respondTexts
  rw [hids]
  split
  · next repository preferred _ _ =>
      split
      · rfl
      · split
        · rfl
        · exact lookup_congr hsame repository preferred
  · rfl

theorem resources_single {s : String} (h : Text.trimmed s ≠ "") :
    resources [s] = [Text.trimmed s] := by
  have hkept : (!(Text.trimmed s).isEmpty) = true := by
    simpa using h
  show distinct ([Text.trimmed s].filter fun id => !id.isEmpty) = _
  rw [List.filter_cons, if_pos hkept]
  rfl

end Http

namespace Http

variable [Graph.Source γ] {settings : Settings} {app : Application γ ε}

/-- After an accepted invalidation, a name that is among the invalidated ones once the
blanks around it are gone is answered from the graph as it is then: as by an
application that has just been built over it. -/
theorem respond_renewed {raw : RawSettings} (haccepted : Settings.ofRaw raw = .ok settings)
    (hpeers : settings.peers = []) (happ : app.Local settings)
    (hidle : app.relay.queue.pending = []) {r : Request}
    (hr : Route.at? r.path = some .invalidate) {ids : List String}
    (hids : r.named? = some ids) (hdone : (respond r app).1.map (·.status) = some 202)
    (change : γ → γ) {q : Request} {kind : Lookup.TextKind}
    (hq : Route.at? q.path = some (.texts kind)) {s : String}
    (hs : Json.parseStrings q.body.toList = .ok [s]) (hblank : Text.trimmed s ≠ "")
    (hnamed : Text.trimmed s ∈ ids) (send : Peer.Call → StateM ε (Option Peer.Reply))
    (outside : ε) :
    ∃ fresh, Application.build settings send (change app.backing.world.graph) outside =
        .ok fresh ∧
      (respond q ((respond r app).2.onGraph change)).1 = (respond q fresh).1 := by
  obtain ⟨fresh, hbuild, hfresh, hgraph, hempty⟩ := Application.build_local hpeers send
    (change app.backing.world.graph) outside
  refine ⟨fresh, hbuild, ?_⟩
  obtain ⟨repository, ids', hids', hstate⟩ := respond_accepted hr hdone
  obtain rfl := Option.some.inj (hids.symm.trans hids')
  have hne : ids ≠ [] := List.ne_nil_of_mem hnamed
  have hchange : (changeOf repository ids).2 = .resources ids := by
    unfold changeOf
    rw [if_pos (by simpa using hne)]
  rw [hchange] at hstate
  have hbatch := Settings.consumeBatchLimit_pos haccepted
  obtain ⟨hlocal, hworld, -⟩ := happ.trigger_resources hbatch hidle hne
  rw [hstate]
  have hnow : ((app.trigger (.resources ids) true).onGraph change).Local settings :=
    hlocal.act (a := .graph change) trivial
  have hunseen : ((app.trigger (.resources ids) true).onGraph change).Unseen
      (Text.trimmed s) := happ.unseen_of_trigger hbatch hidle hnamed
  have hunseen' := hfresh.unseen_of_empty hempty (Text.trimmed s)
  have hsame : ((app.trigger (.resources ids) true).onGraph change).backing.world.graph =
      fresh.backing.world.graph := by
    rw [hgraph]
    show change (app.trigger (.resources ids) true).backing.world.graph = _
    rw [hworld]
  unfold respond
  rw [hq]
  dsimp only
  split
  · rfl
  · refine respondTexts_congr hs fun store preferred => ?_
    rw [resources_single hblank]
    exact hnow.texts_alike hfresh hsame hunseen hunseen' store preferred kind

/-- A label is looked up, changes in the graph, and is invalidated by its name. -/
theorem respond_renewed_label :
    let raw : RawSettings := {}
    let send : Peer.Call → StateM Unit (Option Peer.Reply) := fun _ => pure none
    let graph (text : String) : Graph.Memory := Graph.Memory.empty.insert "s" "urn:vase"
      "http://www.w3.org/2000/01/rdf-schema#label" (.text (.tagged text "en"))
    let r : Request := ⟨"POST", "/api/v1/cache/invalidate", none, none,
      "\x7b\"ids\":[\"urn:vase\"]\x7d"⟩
    let q : Request := ⟨"POST", "/api/v1/labels?repository=s", some "application/json", none,
      "[\"urn:vase\"]"⟩
    let actions : List (Application.Action Graph.Memory Unit) :=
      [.operate (.request (.texts "s" ["urn:vase"] none .label))]
    ∃ settings app fresh, Settings.ofRaw raw = .ok settings ∧ settings.peers = [] ∧
      Application.build settings send (graph "Vase") () = .ok app ∧
      (app.acts actions).Local settings ∧
      (app.acts actions).relay.queue.pending = [] ∧ r.named? = some ["urn:vase"] ∧
      (respond r (app.acts actions)).1.map (·.status) = some 202 ∧
      Json.parseStrings q.body.toList = .ok ["urn:vase"] ∧
      Application.build settings send (graph "Urn") () = .ok fresh ∧
      (respond q ((respond r (app.acts actions)).2.onGraph fun _ => graph "Urn")).1 =
        (respond q fresh).1 := by
  intro raw send graph r q actions
  have hcheck : ((Settings.ofRaw raw).toOption.any fun settings => settings.peers.isEmpty &&
      (Application.build settings send (graph "Vase") ()).toOption.any fun app =>
        (app.acts actions).relay.queue.pending.isEmpty) = true := by decide +kernel
  obtain ⟨settings, haccepted, hcheck⟩ := exists_ok_of_any hcheck
  rw [Bool.and_eq_true, List.isEmpty_iff] at hcheck
  obtain ⟨hpeers, hcheck⟩ := hcheck
  obtain ⟨app, hbuild, hlocal, -, -⟩ := Application.build_local hpeers send (graph "Vase") ()
  rw [hbuild] at hcheck
  have hidle : (app.acts actions).relay.queue.pending = [] := List.isEmpty_iff.1 hcheck
  have hnow : (app.acts actions).Local settings := by
    refine hlocal.acts fun a ha => ?_
    rw [List.mem_singleton.1 ha]
    trivial
  have hroute : Route.at? r.path = some .invalidate := by decide +kernel
  have hids : r.named? = some ["urn:vase"] := by decide +kernel
  have hs : Json.parseStrings q.body.toList = .ok ["urn:vase"] :=
    eq_ok_of_toOption (by decide +kernel)
  have hrepository : single? r.values "repository" = some none := by decide +kernel
  have hdone := accepts_invalidation hroute (by decide) hrepository (by decide +kernel) hids
    (app.acts actions)
  have hq : Route.at? q.path = some (.texts .label) := by decide +kernel
  obtain ⟨fresh, hfresh, hsame⟩ := respond_renewed haccepted hpeers hnow hidle hroute hids
    hdone (fun _ => graph "Urn") hq hs (by decide +kernel) (by decide +kernel) send ()
  exact ⟨settings, app, fresh, haccepted, hpeers, hbuild, hnow, hidle, hids, hdone, hs,
    hfresh, hsame⟩

/-- A resource that is named with blanks around it is kept by an invalidation that
names it so. -/
theorem invalidate_padded {raw : RawSettings}
    (haccepted : Settings.ofRaw raw = .ok settings) (happ : app.Local settings)
    (hidle : app.relay.queue.pending = []) (repository : Option String) {s : String}
    (hpadded : Text.trimmed s ≠ s) {place : Nat} (hplace : place < 2) (store : StoreName)
    {k : Key} (hk : k.resource = Text.trimmed s) :
    (invalidate repository [s] app).2.backing.peek place store k =
      app.backing.peek place store k := by
  obtain ⟨-, -, hpeek⟩ := happ.trigger_resources
    (Settings.consumeBatchLimit_pos haccepted) hidle (List.cons_ne_nil s [])
  have hother : k.resource ∉ [s] := by
    rw [hk, List.mem_singleton]
    exact hpadded
  exact (hpeek place hplace store k).trans (if_neg fun h => hother h)

/-- The text in a response that holds one. -/
def Response.onlyText? (r : Response) : Option String :=
  match r.body with
  | some (.object [(_, .text t)]) => some t
  | _ => none

/-- A label is looked up, changes in the graph, and is invalidated with a blank before its
name: the same lookup as before is still answered with the label of before. -/
theorem respond_padded_old_label :
    let raw : RawSettings := {}
    let send : Peer.Call → StateM Unit (Option Peer.Reply) := fun _ => pure none
    let graph (text : String) : Graph.Memory := Graph.Memory.empty.insert "s" "urn:vase"
      "http://www.w3.org/2000/01/rdf-schema#label" (.text (.tagged text "en"))
    let r : Request := ⟨"POST", "/api/v1/cache/invalidate", none, none,
      "\x7b\"ids\":[\" urn:vase\"]\x7d"⟩
    let q : Request := ⟨"POST", "/api/v1/labels?repository=s", some "application/json", none,
      "[\" urn:vase\"]"⟩
    let actions : List (Application.Action Graph.Memory Unit) :=
      [.operate (.request (.texts "s" ["urn:vase"] none .label)), .graph fun _ => graph "Urn"]
    ∃ settings app fresh, Settings.ofRaw raw = .ok settings ∧ settings.peers = [] ∧
      Application.build settings send (graph "Vase") () = .ok app ∧
      (app.acts actions).Local settings ∧
      (app.acts actions).relay.queue.pending = [] ∧ r.named? = some [" urn:vase"] ∧
      (respond r (app.acts actions)).1.map (·.status) = some 202 ∧
      Json.parseStrings q.body.toList = .ok [" urn:vase"] ∧
      Text.trimmed " urn:vase" ≠ "" ∧
      Application.build settings send (graph "Urn") () = .ok fresh ∧
      (respond q (respond r (app.acts actions)).2).1.bind (·.onlyText?) = some "Vase" ∧
      (respond q fresh).1.bind (·.onlyText?) = some "Urn" := by
  intro raw send graph r q actions
  have hcheck : ((Settings.ofRaw raw).toOption.any fun settings => settings.peers.isEmpty &&
      (Application.build settings send (graph "Vase") ()).toOption.any fun app =>
        (Application.build settings send (graph "Urn") ()).toOption.any fun fresh =>
          let now := app.acts actions
          now.relay.queue.pending.isEmpty && (respond r now).1.map (·.status) == some 202 &&
            (respond q (respond r now).2).1.bind (·.onlyText?) == some "Vase" &&
            (respond q fresh).1.bind (·.onlyText?) == some "Urn") = true := by decide +kernel
  obtain ⟨settings, haccepted, hcheck⟩ := exists_ok_of_any hcheck
  rw [Bool.and_eq_true, List.isEmpty_iff] at hcheck
  obtain ⟨hpeers, hcheck⟩ := hcheck
  obtain ⟨app, hbuild, hlocal, -, -⟩ := Application.build_local hpeers send (graph "Vase") ()
  obtain ⟨fresh, hfresh, -, -, -⟩ := Application.build_local hpeers send (graph "Urn") ()
  rw [hbuild, hfresh] at hcheck
  simp only [Except.toOption, Option.any_some, Bool.and_eq_true, List.isEmpty_iff,
    beq_iff_eq] at hcheck
  obtain ⟨⟨⟨hidle, hdone⟩, hold⟩, hnew⟩ := hcheck
  have hnow : (app.acts actions).Local settings := by
    refine hlocal.acts fun a ha => ?_
    rcases List.mem_cons.1 ha with rfl | ha
    · trivial
    · rw [List.mem_singleton.1 ha]
      trivial
  have hids : r.named? = some [" urn:vase"] := by decide +kernel
  have hs : Json.parseStrings q.body.toList = .ok [" urn:vase"] :=
    eq_ok_of_toOption (by decide +kernel)
  exact ⟨settings, app, fresh, haccepted, hpeers, hbuild, hnow, hidle, hids, hdone, hs,
    by decide +kernel, hfresh, hold, hnew⟩

end Http

end Nomenclator

import Nomenclator.Proofs.Promptness
import Nomenclator.Proofs.Registration

/-!
# The chains are those of the services that are there

Chains are kept from one lookup to the next, and nobody compares them with the
services. That they agree depends on three parts that do not know each other:
whoever changes the list of services publishes an event, the consumption turns
the event into the request to rebuild, and the registry knows whom to ask. A
roster is what remains if all three do their duty. It has the services as they
are made of their resolvers, says whether chains have been built since the last
event that asks for new ones, and counts both. An application follows its roster
through every move, since every event is consumed alone, at once, and with
nothing pending: then the memo of the application is the memo of the roster, and
all that can be said of the chains is said of the roster.

The one thing that could come in between is a registry that has lost the chains.
It forgets what is not alive, but the chains are never dead, and a call to the
targets does not look at them.
-/

namespace Nomenclator

/-! ## Services that are made of their resolvers -/

namespace Discovery

variable {η σ α : Type}

/-- What a service is made of: its name, and resolvers for what it claims. -/
structure Bundle (η σ : Type) where
  name : String
  labels : Option (Resolver η σ TextValue) := none
  descriptions : Option (Resolver η σ TextValue) := none
  types : Option (Resolver η σ ResourceId) := none

/-- The service that is made of a bundle. -/
def Bundle.service (b : Bundle η σ) : Service η σ :=
  .bundled b.name b.labels b.descriptions b.types

/-- The chains over some bundles: for each capability nobody, the only resolver, or a
chain of all that there are, in the order of the bundles. -/
def Bundle.chains (id : String) (bundles : List (Bundle η σ)) : Chains η σ where
  labels := combine s!"{id}:{Capability.label.name}" (bundles.filterMap (·.labels))
  descriptions :=
    combine s!"{id}:{Capability.description.name}" (bundles.filterMap (·.descriptions))
  types := combine s!"{id}:{Capability.type.name}" (bundles.filterMap (·.types))

/-- A service that claims what it has never fails to deliver. -/
theorem delegates_services {c : Capability}
    {resolver : Service η σ → Except DiscoveryError (Resolver η σ α)}
    {pick : Bundle η σ → Option (Resolver η σ α)}
    (hclaim : ∀ b : Bundle η σ,
      Capabilities.supports ⟨b.labels.isSome, b.descriptions.isSome, b.types.isSome⟩ c =
        (pick b).isSome)
    (hoffer : ∀ b : Bundle η σ, resolver b.service = Service.offered c (pick b))
    (bundles : List (Bundle η σ)) :
    delegates c resolver (bundles.map (·.service)) = .ok (bundles.filterMap pick) := by
  induction bundles with
  | nil => rfl
  | cons b bundles ih =>
      have hstep : delegates c resolver (b.service :: bundles.map (·.service)) =
          if (pick b).isSome then
            (resolver b.service).bind fun r =>
              (delegates c resolver (bundles.map (·.service))).map (r :: ·)
          else delegates c resolver (bundles.map (·.service)) := by
        rw [← hclaim b]
        rfl
      rw [List.map_cons, hstep, ih, hoffer b]
      cases hpick : pick b with
      | none => simp [hpick]
      | some r =>
          rw [List.filterMap_cons_some hpick]
          rfl

theorem build_services (id : String) (bundles : List (Bundle η σ)) :
    build id (.ok (bundles.map (·.service))) = Bundle.chains id bundles := by
  have hlabels : delegates .label Service.labels (bundles.map (·.service)) =
      .ok (bundles.filterMap (·.labels)) :=
    delegates_services (fun _ => rfl) (fun _ => rfl) bundles
  have hdescriptions : delegates .description Service.descriptions
      (bundles.map (·.service)) = .ok (bundles.filterMap (·.descriptions)) :=
    delegates_services (fun _ => rfl) (fun _ => rfl) bundles
  have htypes : delegates .type Service.types (bundles.map (·.service)) =
      .ok (bundles.filterMap (·.types)) :=
    delegates_services (fun _ => rfl) (fun _ => rfl) bundles
  unfold build capability Except.bind
  dsimp only
  rw [hlabels, hdescriptions, htypes]
  rfl

theorem withoutNamed_services (bundles : List (Bundle η σ)) (name : String) :
    withoutNamed (bundles.map (·.service)) name =
      (bundles.filter (·.name ≠ name)).map (·.service) := by
  unfold withoutNamed
  rw [List.filter_map]
  refine congrArg _ (List.filter_congr fun b _ => ?_)
  show (!(b.name == name)) = decide (b.name ≠ name)
  rw [decide_not]
  rfl

end Discovery

open Discovery (Bundle Capability Memo Service)
open Invalidation (Change Plan Relay)

namespace Application

variable {γ ε : Type}

/-! ## Rosters -/

/-- What happens to an application whose services come and go. Every change is
consumed at once. -/
inductive Move (γ ε : Type) where
  | register (b : Bundle Part (Backing γ ε))
  | unregister (name : String)
  | change (change : Change)
  | lookup (q : Request)

/-- The action that a move is. -/
def Move.action : Move γ ε → Action γ ε
  | .register b => .register b.service
  | .unregister name => .unregister name
  | .change what => .operate (.trigger what true)
  | .lookup q => .operate (.request q)

/-- The services of an application, and what is known of their chains. -/
structure Roster (γ ε : Type) where
  bundles : List (Bundle Part (Backing γ ε))
  /-- The chains have been used since they were last to be built anew. -/
  built : Bool := false
  /-- How often chains have been built. -/
  builds : Nat := 0
  /-- How many events have asked for new chains. -/
  events : Nat := 0

namespace Roster

/-- An event asks for new chains. -/
def rebuilt (roster : Roster γ ε) : Roster γ ε :=
  { roster with built := false, events := roster.events + 1 }

/-- The chains are used, for the first time or again. -/
def used (roster : Roster γ ε) : Roster γ ε :=
  { roster with
    built := true
    builds := if roster.built then roster.builds else roster.builds + 1 }

/-- A roster after a move. -/
def next (roster : Roster γ ε) : Move γ ε → Roster γ ε
  | .register b => { roster with bundles := roster.bundles ++ [b] }.rebuilt
  | .unregister name =>
      if name ∈ roster.bundles.map (·.name) then
        { roster with bundles := roster.bundles.filter (·.name ≠ name) }.rebuilt
      else roster
  | .change change => if change.rebuilds then roster.rebuilt else roster
  | .lookup _ => roster.used

/-- A roster after some moves. -/
def run (roster : Roster γ ε) (moves : List (Move γ ε)) : Roster γ ε :=
  moves.foldl next roster

/-- The chains of a roster as they are kept. -/
def memo (roster : Roster γ ε) : Memo Part (Backing γ ε) where
  id := discoveryName
  chains := if roster.built then some (Bundle.chains discoveryName roster.bundles) else none
  builds := roster.builds

/-- How many builds a roster may still see before the next event. -/
def due (roster : Roster γ ε) : Nat := if roster.built then 0 else 1

/-- A build needs an event that came since the one before. -/
theorem builds_next (roster : Roster γ ε) (m : Move γ ε) :
    roster.events ≤ (roster.next m).events ∧
      (roster.next m).builds + (roster.next m).due + roster.events ≤
        roster.builds + roster.due + (roster.next m).events := by
  have hrebuilt : ∀ r : Roster γ ε, r.builds + 1 + r.events ≤
      r.builds + r.due + (r.events + 1) := fun r => by omega
  cases m with
  | register b =>
      exact ⟨Nat.le_succ _, hrebuilt { roster with bundles := roster.bundles ++ [b] }⟩
  | unregister name =>
      unfold next
      dsimp only
      split
      · exact ⟨Nat.le_succ _,
          hrebuilt { roster with bundles := roster.bundles.filter (·.name ≠ name) }⟩
      · exact ⟨Nat.le_refl _, Nat.le_refl _⟩
  | change change =>
      unfold next
      dsimp only
      split
      · exact ⟨Nat.le_succ _, hrebuilt roster⟩
      · exact ⟨Nat.le_refl _, Nat.le_refl _⟩
  | lookup q =>
      refine ⟨Nat.le_refl _, ?_⟩
      show (if roster.built then roster.builds else roster.builds + 1) + 0 + roster.events ≤
        roster.builds + (if roster.built then 0 else 1) + roster.events
      split <;> omega

theorem builds_run (roster : Roster γ ε) (moves : List (Move γ ε)) :
    roster.events ≤ (roster.run moves).events ∧
      (roster.run moves).builds + (roster.run moves).due + roster.events ≤
        roster.builds + roster.due + (roster.run moves).events := by
  induction moves generalizing roster with
  | nil => exact ⟨Nat.le_refl _, Nat.le_refl _⟩
  | cons m moves ih =>
      obtain ⟨hevents, hbuilds⟩ := roster.builds_next m
      obtain ⟨hevents', hbuilds'⟩ := ih (roster.next m)
      show roster.events ≤ ((roster.next m).run moves).events ∧
        ((roster.next m).run moves).builds + ((roster.next m).run moves).due + roster.events ≤
          roster.builds + roster.due + ((roster.next m).run moves).events
      omega

/-- As long as no event asks for new chains they are built once at most. -/
theorem builds_le_of_events_eq {roster : Roster γ ε} {moves : List (Move γ ε)}
    (h : (roster.run moves).events = roster.events) :
    (roster.run moves).builds ≤ roster.builds + 1 := by
  have hbuilds := (roster.builds_run moves).2
  have hdue : roster.due ≤ 1 := by
    unfold due
    split <;> omega
  omega

end Roster

/-! ## Relays that carry every change out at once -/

/-- A relay over some services and kept chains that can consume whatever comes, and
knows the chains as the only part that can be rebuilt. -/
structure Attends (services : List (Service Part (Backing γ ε)))
    (memo : Memo Part (Backing γ ε)) (r : Relay Part (Core γ ε)) : Prop where
  batch : 1 ≤ r.batch
  pending : r.queue.pending = []
  reloadables : r.registry.reloadables.map (·.2) = [.chains]
  services : r.world.services = services
  memo : r.world.memo = memo

namespace Attends

variable {services : List (Service Part (Backing γ ε))} {memo : Memo Part (Backing γ ε)}
  {r : Relay Part (Core γ ε)}

/-- Caches that are called change nothing but the backing. -/
theorem callTargets (h : Attends services memo r) {act : Part → Core γ ε → Core γ ε}
    (hact : ∀ part w, (act part w).services = w.services ∧ (act part w).memo = w.memo) :
    Attends services memo (r.callTargets Core.reactions act).2 := by
  have hkeep : ∀ part (w : Core γ ε), (w.services = services ∧ w.memo = memo) →
      (act part w).services = services ∧ (act part w).memo = memo :=
    fun part w hw => ⟨(hact part w).1.trans hw.1, (hact part w).2.trans hw.2⟩
  obtain ⟨hservices, hmemo⟩ := Relay.foldl_keep hkeep
    (r.registry.liveTargets (Core.alive r.world)).1 ⟨h.services, h.memo⟩
  exact ⟨h.batch, h.pending, h.reloadables, hservices, hmemo⟩

theorem flushAll (h : Attends services memo r) :
    Attends services memo (r.flushAll Core.reactions).2 :=
  h.callTargets fun part w => by cases part <;> exact ⟨rfl, rfl⟩

theorem forgetIds (h : Attends services memo r) (ids : List ResourceId) :
    Attends services memo (r.forgetIds Core.reactions ids).2 :=
  h.callTargets fun part w => by cases part <;> exact ⟨rfl, rfl⟩

theorem flushStores (h : Attends services memo r) (stores : List StoreName) :
    Attends services memo
      (stores.foldl (fun r s => (r.flushStore Core.reactions s).2) r) := by
  induction stores generalizing r with
  | nil => exact h
  | cons store stores ih =>
      exact ih (h.callTargets fun part w => by cases part <;> exact ⟨rfl, rfl⟩)

/-- The chains are alive, so they are what is rebuilt. -/
theorem reloadAll (h : Attends services memo r) :
    Attends services memo.reload (r.reloadAll Core.reactions).2 := by
  have halive : ∀ e ∈ r.registry.reloadables, Core.alive r.world e.2 = true := by
    intro e he
    have hpart : e.2 ∈ r.registry.reloadables.map (·.2) := List.mem_map_of_mem he
    rw [h.reloadables, List.mem_singleton] at hpart
    rw [hpart]
    rfl
  have hlive := r.registry.liveReloadables_of_forall halive
  rw [h.reloadables] at hlive
  have hreload : (r.reloadAll Core.reactions).2 =
      { r with world := { r.world with memo := r.world.memo.reload } } := by
    unfold Relay.reloadAll
    rw [show Core.reactions.alive r.world = Core.alive r.world from rfl, hlive]
    rfl
  rw [hreload]
  exact ⟨h.batch, h.pending, h.reloadables, h.services, congrArg Memo.reload h.memo⟩

/-- All that a plan does to the services and their chains is to rebuild. -/
theorem perform (h : Attends services memo r) (p : Plan) :
    Attends services (if p.rebuild then memo.reload else memo)
      (r.perform Core.reactions p) := by
  have hdropped : Attends services memo
      (if p.flushAll then (r.flushAll Core.reactions).2
      else
        let r := p.stores.foldl (fun r s => (r.flushStore Core.reactions s).2) r
        if p.ids.isEmpty then r else (r.forgetIds Core.reactions p.ids).2) := by
    split
    · exact h.flushAll
    · dsimp only
      split
      · exact h.flushStores p.stores
      · exact (h.flushStores p.stores).forgetIds p.ids
  unfold Relay.perform
  dsimp only
  split
  · exact hdropped.reloadAll
  · exact hdropped

theorem trigger (h : Attends services memo r) (change : Change) :
    Attends services (if change.rebuilds then memo.reload else memo)
      (r.trigger Core.reactions change true) := by
  obtain ⟨queue, e, hqueue, rfl, htrigger⟩ :=
    Relay.trigger_alone Core.reactions h.batch h.pending change
  have hplan : (Plan.ofEvents [e]).rebuild = e.change.rebuilds := by
    obtain ⟨id, epoch, change⟩ := e
    cases change <;> rfl
  have htaken : Attends services memo { r with queue := queue } :=
    ⟨h.batch, hqueue, h.reloadables, h.services, h.memo⟩
  have hdone := htaken.perform (.ofEvents [e])
  rw [htrigger, ← hplan]
  exact ⟨hdone.batch, hdone.pending, hdone.reloadables, hdone.services, hdone.memo⟩

end Attends

/-! ## Applications that follow a roster -/

/-- An application with the services and the chains of a roster. -/
def Follows (roster : Roster γ ε) (app : Application γ ε) : Prop :=
  Attends (roster.bundles.map (·.service)) roster.memo app.relay

namespace Follows

variable {roster : Roster γ ε} {app : Application γ ε}

/-- The chains that are used are those of the bundles, whether they have been built before
or are built now. -/
theorem chains (h : Follows roster app) :
    app.chains.1 = Bundle.chains discoveryName roster.bundles ∧
      app.chains.2.backing = app.backing ∧ Follows roster.used app.chains.2 := by
  have hforce : app.relay.world.memo.force (.ok app.relay.world.services) =
      (Bundle.chains discoveryName roster.bundles, roster.used.memo) := by
    rw [h.memo, h.services]
    unfold Memo.force Roster.memo Roster.used
    cases roster.built with
    | true => rfl
    | false =>
        show (Discovery.build discoveryName _, _) = _
        rw [Discovery.build_services]
        rfl
  unfold Application.chains
  rw [hforce]
  exact ⟨rfl, rfl, h.batch, h.pending, h.reloadables, h.services, rfl⟩

theorem ask (h : Follows roster app) {α β : Type}
    (pick : Discovery.Chains Part (Backing γ ε) → Resolver Part (Backing γ ε) α)
    (question : Resolver Part (Backing γ ε) α → Effect (Backing γ ε) β) :
    (app.ask pick question).1 =
        ((question (pick (Bundle.chains discoveryName roster.bundles))).run.run
          app.backing).1 ∧
      Follows roster.used (app.ask pick question).2 := by
  obtain ⟨hchains, hbacking, hused⟩ := h.chains
  unfold Application.ask
  dsimp only
  rw [hchains, hbacking]
  exact ⟨rfl, hused.batch, hused.pending, hused.reloadables, hused.services, hused.memo⟩

theorem respond (h : Follows roster app) (q : Request) :
    Follows roster.used (app.respond q).2 := by
  cases q with
  | texts store ids preferred kind =>
      exact (h.ask kind.resolver
        fun r => Lookup.several r ⟨store, app.languagesFor preferred⟩ ids).2
  | text store id preferred kind =>
      exact (h.ask kind.resolver fun r => r.one ⟨store, app.languagesFor preferred⟩ id).2
  | types store ids =>
      exact (h.ask (·.types) fun r => Lookup.several r ⟨store, app.languages⟩ ids).2

theorem register (h : Follows roster app) (b : Bundle Part (Backing γ ε)) :
    Follows (roster.next (.register b)) (app.register b.service) := by
  have hadded : Attends ((roster.bundles ++ [b]).map (·.service)) roster.memo
      (app.onCore fun c => { c with services := c.services ++ [b.service] }).relay := by
    refine ⟨h.batch, h.pending, h.reloadables, ?_, h.memo⟩
    show app.relay.world.services ++ [b.service] = _
    rw [h.services, List.map_append, List.map_singleton]
  exact hadded.trigger .services

/-- Nothing happens when nobody has the name. -/
theorem unregister_unknown (h : Follows roster app) {name : String}
    (hname : name ∉ roster.bundles.map (·.name)) : app.unregister name = (false, app) := by
  have hall : roster.bundles.filter (·.name ≠ name) = roster.bundles := by
    rw [List.filter_eq_self]
    intro b hb
    refine decide_eq_true fun heq => hname ?_
    rw [← heq]
    exact List.mem_map_of_mem hb
  unfold Application.unregister
  dsimp only
  rw [h.services, Discovery.withoutNamed_services, hall, if_pos rfl]

theorem unregister_known (h : Follows roster app) {name : String}
    (hname : name ∈ roster.bundles.map (·.name)) :
    (app.unregister name).1 = true ∧
      Follows { roster with bundles := roster.bundles.filter (·.name ≠ name) }.rebuilt
        (app.unregister name).2 := by
  have hkept : Discovery.withoutNamed app.relay.world.services name =
      (roster.bundles.filter (·.name ≠ name)).map (·.service) := by
    rw [h.services, Discovery.withoutNamed_services]
  have hfewer : (Discovery.withoutNamed app.relay.world.services name).length ≠
      app.relay.world.services.length := by
    rw [hkept, h.services, List.length_map, List.length_map]
    intro heq
    obtain ⟨b, hb, rfl⟩ := List.mem_map.1 hname
    have hstays := List.length_filter_eq_length_iff.1 heq b hb
    exact of_decide_eq_true hstays rfl
  have hleft : Attends ((roster.bundles.filter (·.name ≠ name)).map (·.service)) roster.memo
      (app.onCore fun c => { c with
        services := Discovery.withoutNamed app.relay.world.services name }).relay :=
    ⟨h.batch, h.pending, h.reloadables, hkept, h.memo⟩
  unfold Application.unregister
  dsimp only
  rw [if_neg hfewer]
  exact ⟨rfl, hleft.trigger .services⟩

theorem act (h : Follows roster app) (m : Move γ ε) :
    Follows (roster.next m) (app.act m.action) := by
  cases m with
  | register b => exact h.register b
  | unregister name =>
      show Follows (if name ∈ roster.bundles.map (·.name) then _ else roster)
        (app.unregister name).2
      split
      · next hname => exact (h.unregister_known hname).2
      · next hname =>
          rw [h.unregister_unknown hname]
          exact h
  | change what =>
      show Follows (if what.rebuilds then roster.rebuilt else roster) (app.trigger what true)
      have htrigger := Attends.trigger h what
      unfold Follows
      split at htrigger
      · next hrebuilds =>
          rw [if_pos hrebuilds]
          exact htrigger
      · next hrebuilds =>
          rw [if_neg hrebuilds]
          exact htrigger
  | lookup q => exact h.respond q

theorem acts (h : Follows roster app) (moves : List (Move γ ε)) :
    Follows (roster.run moves) (app.acts (moves.map (·.action))) := by
  induction moves generalizing roster app with
  | nil => exact h
  | cons m moves ih => exact ih (h.act m)

end Follows

/-! ## Applications that have been built -/

variable {send : Peer.Call → StateM ε (Option Peer.Reply)}

theorem addPeers_bundles {peers : List Settings.PeerSettings} {a a' : Assembly γ ε}
    (h : addPeers send a peers = .ok a') :
    ∃ bundles : List (Bundle Part (Backing γ ε)),
      bundles.map (·.name) = peers.map (·.name) ∧
        a'.services = a.services ++ bundles.map (·.service) := by
  induction peers generalizing a with
  | nil =>
      obtain rfl := Except.ok.inj h
      exact ⟨[], rfl, (List.append_nil _).symm⟩
  | cons peer peers ih =>
      unfold addPeers at h
      obtain ⟨⟨labels, names⟩, -, h⟩ := exists_of_bind_eq_ok h
      obtain ⟨⟨descriptions, names'⟩, -, h⟩ := exists_of_bind_eq_ok h
      obtain ⟨bundles, hnames, hservices⟩ := ih h
      refine ⟨⟨peer.name, labels, descriptions, none⟩ :: bundles, ?_, ?_⟩
      · rw [List.map_cons, List.map_cons, hnames]
      · rw [hservices, List.append_assoc]
        rfl

theorem reloadables_registryOf (names : List String) :
    (registryOf names).reloadables = [(discoveryName, .chains)] := by
  have hfold : ∀ (entries : List (String × Part)) (r : Invalidation.Registry Part),
      (entries.foldl (fun (r : Invalidation.Registry Part) e => r.register e.1 e.2)
        r).reloadables = r.reloadables := by
    intro entries
    induction entries with
    | nil => exact fun _ => rfl
    | cons e entries ih => exact fun r => ih (r.register e.1 e.2)
  unfold registryOf Invalidation.Registry.registerReloadable
  dsimp only
  rw [hfold]
  rfl

variable [Graph.Source γ] {settings : Settings} {graph : γ} {outside : ε}
  {app : Application γ ε}

theorem build_follows {raw : RawSettings} (haccepted : Settings.ofRaw raw = .ok settings)
    (hbuild : build settings send graph outside = .ok app) :
    ∃ bundles, bundles.map (·.name) = localName :: settings.peers.map (·.name) ∧
      Follows ⟨bundles, false, 0, 0⟩ app := by
  obtain ⟨a, hassembly, hbuild⟩ := exists_of_bind_eq_ok hbuild
  obtain rfl := Except.ok.inj hbuild
  obtain ⟨bundles, hnames, hservices⟩ := addPeers_bundles hassembly
  -- The service of the graph is made of resolvers as well.
  obtain ⟨b, hname, hlocal⟩ : ∃ b : Bundle Part (Backing γ ε), b.name = localName ∧
      localService settings = b.service := ⟨⟨localName, _, _, _⟩, rfl, rfl⟩
  refine ⟨b :: bundles, ?_, Settings.consumeBatchLimit_pos haccepted, rfl, ?_, ?_, rfl⟩
  · rw [List.map_cons, hname, hnames]
  · show (registryOf a.cacheNames).reloadables.map (·.2) = _
    rw [reloadables_registryOf]
    rfl
  · rw [List.map_cons, ← hlocal]
    exact hservices

/-- What is seen of an application that follows a roster: nothing is pending, the services
and the chains are those of the roster, lookups are answered by these chains, they have
been built as often as the roster says, and nothing happens when a name is removed that
nobody has. -/
structure Upkept (roster : Roster γ ε) (app : Application γ ε) : Prop where
  pending : app.pending = 0
  services : app.relay.world.services = roster.bundles.map (·.service)
  current : app.chains.1 = Discovery.build discoveryName (.ok app.relay.world.services)
  combined : app.chains.1 = Bundle.chains discoveryName roster.bundles
  answers : ∀ {α β : Type}
    (pick : Discovery.Chains Part (Backing γ ε) → Resolver Part (Backing γ ε) α)
    (question : Resolver Part (Backing γ ε) α → Effect (Backing γ ε) β),
    (app.ask pick question).1 =
      ((question (pick (Bundle.chains discoveryName roster.bundles))).run.run app.backing).1
  builds : app.relay.world.memo.builds = roster.builds
  unknown : ∀ name, name ∉ roster.bundles.map (·.name) → app.unregister name = (false, app)

omit [Graph.Source γ] in
theorem Follows.upkept {roster : Roster γ ε} (h : Follows roster app) :
    Upkept roster app where
  pending := List.length_eq_zero_iff.2 h.pending
  services := h.services
  current := by
    rw [h.services, Discovery.build_services]
    exact h.chains.1
  combined := h.chains.1
  answers pick question := (h.ask pick question).1
  builds := congrArg Memo.builds h.memo
  unknown _ hname := h.unregister_unknown hname

/-- Whatever happens to an application that has been built from accepted settings, its
chains are those of the services that are there, and they are built at most once as long
as no event asks for new ones. -/
theorem build_upkept {raw : RawSettings} (haccepted : Settings.ofRaw raw = .ok settings)
    (hbuild : build settings send graph outside = .ok app) :
    ∃ bundles, bundles.map (·.name) = localName :: settings.peers.map (·.name) ∧
      ∀ moves,
        let roster := Roster.run ⟨bundles, false, 0, 0⟩ moves
        let app' := app.acts (moves.map (·.action))
        Upkept roster app' ∧
          ∀ more, (roster.run more).events = roster.events →
            (app'.acts (more.map (·.action))).relay.world.memo.builds ≤
              app'.relay.world.memo.builds + 1 := by
  obtain ⟨bundles, hnames, hfollows⟩ := build_follows haccepted hbuild
  refine ⟨bundles, hnames, fun moves => ?_⟩
  have hnow := hfollows.acts moves
  refine ⟨hnow.upkept, fun more hquiet => ?_⟩
  rw [hnow.upkept.builds, (hnow.acts more).upkept.builds]
  exact Roster.builds_le_of_events_eq hquiet

/-- A service is registered between two lookups, and a resource changes before a third. -/
theorem build_upkept_dictionary :
    let raw : RawSettings :=
      { peers := [⟨"dictionary", "http://[::1]:4000/", none, some ["label"]⟩] }
    let send : Peer.Call → StateM Unit (Option Peer.Reply) := fun _ => pure none
    let lookup : Move Graph.Memory Unit := .lookup (.text "default" "urn:vase" none .label)
    let moves := [lookup, .register ⟨"museum", some (.noop "museum"), none, none⟩, lookup,
      .change (.resources ["urn:vase"]), lookup]
    ∃ settings app, Settings.ofRaw raw = .ok settings ∧
      build settings send Graph.Memory.empty () = .ok app ∧
      (app.acts (moves.map (·.action))).pending = 0 ∧
      (app.acts (moves.map (·.action))).relay.world.memo.builds = 2 := by
  intro raw send lookup moves
  have hcheck : ((Settings.ofRaw raw).toOption.any fun settings =>
      (build settings send Graph.Memory.empty ()).toOption.any fun _ => true) = true := by
    decide +kernel
  obtain ⟨settings, haccepted, hcheck⟩ := exists_ok_of_any hcheck
  obtain ⟨app, hbuild, -⟩ := exists_ok_of_any hcheck
  obtain ⟨bundles, -, hmoves⟩ := build_upkept haccepted hbuild
  obtain ⟨hupkept, -⟩ := hmoves moves
  exact ⟨settings, app, haccepted, hbuild, hupkept.pending, hupkept.builds⟩

end Application

end Nomenclator

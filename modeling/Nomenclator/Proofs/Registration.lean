import Nomenclator.Proofs.Transparency

/-!
# Every cache can be reached

A cache that is not registered keeps what it has, whatever changes it is told of.
Caches are registered under the name of their service and their question, and a
name that is registered again means the new cache from then on. So all caches of
an application can be reached if these names are all different, and they stay so
as long as their services are there: nothing is taken out of the registry but
what nobody holds any more.

Accepted peers have different names, which settles it among them. But nobody
compares them with the name of the service that answers from the graph. A peer
that has this name, too, and answers a question, takes the registration of a cache
over. That is the only way to lose one.
-/

namespace Nomenclator

open Discovery (Service Capability)

/-! ## Accepted peers -/

namespace Settings

/-- Peers with names of their own, none of which answers for types. -/
structure Proper (peers : List PeerSettings) : Prop where
  names : (peers.map (·.name)).Nodup
  types : ∀ p ∈ peers, p.capabilities.types = false

theorem proper_of_accepted {raw : RawSettings} {settings : Settings}
    (h : ofRaw raw = .ok settings) : Proper settings.peers :=
  have hsound := sound_of_accepted h
  ⟨hsound.names, fun p hp => (hsound.peers p hp).types⟩

end Settings

/-! ## Names -/

namespace Application

/-- A question is told apart by its name, which has no colon. -/
theorem partName_inj {service service' : String} {c c' : Capability}
    (h : partName service c = partName service' c') : service = service' ∧ c = c' := by
  have hlist : service.toList ++ ':' :: c.name.toList =
      service'.toList ++ ':' :: c'.name.toList := by
    have htext : (service ++ ":" ++ c.name).toList = (service' ++ ":" ++ c'.name).toList :=
      congrArg String.toList h
    simpa using htext
  -- Different questions end in different letters.
  have hquestion : c = c' := by
    have hlast := congrArg List.getLast? hlist
    cases c <;> cases c' <;> first | rfl | simp [Capability.name] at hlast
  subst hquestion
  exact ⟨String.toList_inj.1 (List.append_cancel_right hlist), rfl⟩

/-- The names of the caches of a peer. -/
def peerNames (p : Settings.PeerSettings) : List String :=
  ([Capability.label, .description].filter p.capabilities.supports).map (partName p.name)

theorem exists_of_mem_peerNames {p : Settings.PeerSettings} {name : String}
    (h : name ∈ peerNames p) :
    ∃ c, p.capabilities.supports c = true ∧ c ≠ .type ∧ name = partName p.name c := by
  obtain ⟨c, hc, rfl⟩ := List.mem_map.1 h
  obtain ⟨hmem, hsupports⟩ := List.mem_filter.1 hc
  refine ⟨c, hsupports, ?_, rfl⟩
  rintro rfl
  simp at hmem

theorem length_peerNames {p : Settings.PeerSettings} (h : p.capabilities.types = false) :
    (peerNames p).length = p.capabilities.names.length := by
  unfold peerNames Discovery.Capabilities.names
  rw [List.length_map, List.length_map]
  have hlast : ([Capability.type].filter p.capabilities.supports) = [] := by
    simp [Discovery.Capabilities.supports, h]
  rw [show [Capability.label, .description, .type] =
    [Capability.label, .description] ++ [.type] from rfl, List.filter_append, hlast,
    List.append_nil]

theorem map_partName_nodup (service : String) {questions : List Capability}
    (h : questions.Nodup) : (questions.map (partName service)).Nodup :=
  List.Pairwise.map _ (fun _ _ hne heq => hne (partName_inj heq).2) h

theorem peerNames_nodup (p : Settings.PeerSettings) : (peerNames p).Nodup := by
  have hquestions : [Capability.label, .description].Nodup := by decide
  exact map_partName_nodup p.name (hquestions.filter p.capabilities.supports)

/-- The names of the caches of an application, those of the service that answers from
the graph first. -/
def cacheNames (peers : List Settings.PeerSettings) : List String :=
  partName localName .label :: partName localName .description ::
    partName localName .type :: peers.flatMap peerNames

theorem names_ne_nil {c : Discovery.Capabilities} {q : Capability}
    (h : c.supports q = true) : c.names ≠ [] := by
  have hmem : q ∈ [Capability.label, .description, .type].filter c.supports := by
    rw [List.mem_filter]
    exact ⟨by cases q <;> decide, h⟩
  exact List.ne_nil_of_mem (List.mem_map_of_mem hmem)

/-- All names are different, unless a peer with the name of the service that answers
from the graph answers a question, too. -/
theorem cacheNames_nodup {peers : List Settings.PeerSettings} (h : Settings.Proper peers)
    (hlocal : ∀ p ∈ peers, p.name = localName → p.capabilities.names = []) :
    (cacheNames peers).Nodup := by
  have hothers : (peers.flatMap peerNames).Nodup := by
    refine List.pairwise_flatMap.2 ⟨fun p _ => peerNames_nodup p, ?_⟩
    refine (List.pairwise_map.1 h.names).imp fun {p p'} hne name hname name' hname' heq => ?_
    obtain ⟨c, -, -, rfl⟩ := exists_of_mem_peerNames hname
    obtain ⟨c', -, -, rfl⟩ := exists_of_mem_peerNames hname'
    exact hne (partName_inj heq).1
  have hapart : ∀ q, partName localName q ∉ peers.flatMap peerNames := by
    intro q hmem
    obtain ⟨p, hp, hname⟩ := List.mem_flatMap.1 hmem
    obtain ⟨c, hsupports, -, heq⟩ := exists_of_mem_peerNames hname
    exact names_ne_nil hsupports (hlocal p hp (partName_inj heq).1.symm)
  have hlocals : ([Capability.label, .description, .type].map
      (partName localName)).Nodup := map_partName_nodup localName (by decide)
  show ([Capability.label, .description, .type].map (partName localName) ++
    peers.flatMap peerNames).Nodup
  rw [List.nodup_append]
  refine ⟨hlocals, hothers, fun name hname name' hname' heq => ?_⟩
  obtain ⟨q, -, rfl⟩ := List.mem_map.1 hname
  exact hapart q (heq ▸ hname')

/-! ## Assembly -/

variable {γ ε : Type} {send : Peer.Call → StateM ε (Option Peer.Reply)}

theorem heldBy_offered {η σ α : Type} (c : Capability) (r : Option (Resolver η σ α)) :
    Service.heldBy (Service.offered c r) = (r.map (·.holds)).getD [] := by
  cases r <;> rfl

theorem offer_spec {peer : Settings.PeerSettings} {c : Capability} {last : String}
    {names names' : List String}
    {offered : Option (Resolver Part (Backing γ ε) TextValue)}
    (h : offer send peer c last names = .ok (offered, names')) :
    names' = names ++ (if peer.capabilities.supports c then [partName peer.name c] else []) ∧
      (offered.map (·.holds)).getD [] =
        if peer.capabilities.supports c then [Part.texts names.length] else [] := by
  unfold offer at h
  split at h
  · next hsupports =>
      obtain ⟨url, -, h⟩ := exists_of_bind_eq_ok h
      obtain ⟨rfl, rfl⟩ := Prod.mk.inj (Except.ok.inj h)
      rw [if_pos hsupports, if_pos hsupports]
      exact ⟨rfl, rfl⟩
  · next hsupports =>
      obtain ⟨rfl, rfl⟩ := Prod.mk.inj (Except.ok.inj h)
      rw [if_neg hsupports, if_neg hsupports, List.append_nil]
      exact ⟨rfl, rfl⟩

/-- The parts at some places, one after the other. -/
def textParts (first count : Nat) : List Part :=
  (List.range' first count).map Part.texts

theorem textParts_append (first m n : Nat) :
    textParts first m ++ textParts (first + m) n = textParts first (m + n) := by
  unfold textParts
  rw [← List.map_append, List.range'_append_1]

/-- A peer has a cache for each of its names, and holds them. -/
theorem bundled_holds {peer : Settings.PeerSettings} {names names₁ names₂ : List String}
    {labels descriptions : Option (Resolver Part (Backing γ ε) TextValue)}
    (hlabels : offer send peer .label "labels" names = .ok (labels, names₁))
    (hdescriptions : offer send peer .description "descriptions" names₁ =
      .ok (descriptions, names₂)) :
    names₂ = names ++ peerNames peer ∧
      (Service.bundled peer.name labels descriptions none).holds =
        textParts names.length (peerNames peer).length := by
  obtain ⟨rfl, hheld⟩ := offer_spec hlabels
  obtain ⟨rfl, hheld'⟩ := offer_spec hdescriptions
  have hholds : (Service.bundled peer.name labels descriptions none).holds =
      (labels.map (·.holds)).getD [] ++ (descriptions.map (·.holds)).getD [] := by
    unfold Service.bundled Service.holds
    rw [heldBy_offered, heldBy_offered, heldBy_offered]
    exact List.append_nil _
  rw [hholds, hheld, hheld']
  unfold peerNames textParts
  cases hl : peer.capabilities.supports .label <;>
    cases hd : peer.capabilities.supports .description <;>
    simp [List.filter, hl, hd, List.range']

theorem addPeers_spec {peers : List Settings.PeerSettings} {a a' : Assembly γ ε}
    (h : addPeers send a peers = .ok a') :
    a'.cacheNames = a.cacheNames ++ peers.flatMap peerNames ∧
      a'.services.flatMap (·.holds) = a.services.flatMap (·.holds) ++
        textParts a.cacheNames.length (peers.flatMap peerNames).length := by
  induction peers generalizing a with
  | nil =>
      obtain rfl := Except.ok.inj h
      simp [textParts]
  | cons peer peers ih =>
      unfold addPeers at h
      obtain ⟨⟨labels, names₁⟩, hlabels, h⟩ := exists_of_bind_eq_ok h
      obtain ⟨⟨descriptions, names₂⟩, hdescriptions, h⟩ := exists_of_bind_eq_ok h
      obtain ⟨rfl, hholds⟩ := bundled_holds hlabels hdescriptions
      obtain ⟨hnames, hheld⟩ := ih h
      refine ⟨?_, ?_⟩
      · rw [hnames, List.flatMap_cons, List.append_assoc]
      · rw [hheld, List.flatMap_append, List.flatMap_singleton, hholds, List.append_assoc,
          List.length_append, textParts_append, List.flatMap_cons, List.length_append]

/-! ## The registry of an assembly -/

/-- Caches of texts under their names, by their places. -/
def textEntries (names : List String) (first : Nat) : Table String Part :=
  (names.zipIdx first).map fun e => (e.1, Part.texts e.2)

theorem keys_textEntries (names : List String) (first : Nat) :
    (textEntries names first).keys = names := by
  unfold textEntries Table.keys
  rw [List.map_map]
  exact List.zipIdx_map_fst first names

theorem parts_textEntries (names : List String) (first : Nat) :
    (textEntries names first).map (·.2) = textParts first names.length := by
  unfold textEntries textParts
  rw [List.map_map, ← List.zipIdx_map_snd first names, List.map_map]
  rfl

theorem foldl_register (entries : Table String Part) (r : Invalidation.Registry Part) :
    (entries.foldl (fun (r : Invalidation.Registry Part) e => r.register e.1 e.2) r).targets =
      r.targets.merge entries := by
  induction entries generalizing r with
  | nil => rfl
  | cons e entries ih => exact ih (r.register e.1 e.2)

/-- All that is registered, in its order. -/
def registered (others : List String) : Table String Part :=
  (partName localName .label, .texts 0) :: (partName localName .description, .texts 1) ::
    (partName localName .type, .types) :: textEntries others 2

theorem targets_registryOf (others : List String) :
    (registryOf (partName localName .label :: partName localName .description :: others)).targets =
      Table.merge [] (registered others) :=
  foldl_register (registered others) .empty

theorem keys_registered (peers : List Settings.PeerSettings) :
    (registered (peers.flatMap peerNames)).keys = cacheNames peers := by
  show _ :: _ :: _ :: (textEntries _ 2).keys = _
  rw [keys_textEntries]
  rfl

theorem parts_registered (others : List String) :
    (registered others).map (·.2) =
      [.texts 0, .texts 1, .types] ++ textParts 2 others.length := by
  show _ :: _ :: _ :: (textEntries others 2).map (·.2) = _
  rw [parts_textEntries]
  rfl

theorem parts_nodup (n : Nat) :
    ([Part.texts 0, .texts 1, .types] ++ textParts 2 n).Nodup := by
  have hlater : (textParts 2 n).Nodup := by
    refine List.Pairwise.map _ ?_ (List.nodup_range' (s := 2) (n := n))
    intro i j hne heq
    exact hne (Part.texts.inj heq)
  rw [List.nodup_append]
  refine ⟨by decide, hlater, fun part hpart part' hpart' => ?_⟩
  obtain ⟨place, hplace, rfl⟩ := List.mem_map.1 hpart'
  rw [List.mem_range'_1] at hplace
  rintro rfl
  simp at hpart
  omega

/-- The caches of an application, under their names. -/
def caches (app : Application γ ε) : List (String × Part) :=
  (app.backing.texts.zipIdx.map fun e => (e.1.id, Part.texts e.2)) ++
    [(app.backing.types.id, .types)]

/-- The parts that services hold. -/
def held (app : Application γ ε) : List Part :=
  app.relay.world.services.flatMap (·.holds)

variable [Graph.Source γ] {settings : Settings} {graph : γ} {outside : ε}
  {app : Application γ ε}

theorem build_spec (h : build settings send graph outside = .ok app) :
    app.relay.registry.targets =
        Table.merge [] (registered (settings.peers.flatMap peerNames)) ∧
      app.held = (registered (settings.peers.flatMap peerNames)).map (·.2) ∧
      app.caches.Perm (registered (settings.peers.flatMap peerNames)) := by
  obtain ⟨a, hassembly, h⟩ := exists_of_bind_eq_ok h
  obtain rfl := Except.ok.inj h
  obtain ⟨hnames, hheld⟩ := addPeers_spec hassembly
  refine ⟨?_, ?_, ?_⟩
  · show (registryOf a.cacheNames).targets = _
    rw [hnames]
    exact targets_registryOf _
  · show a.services.flatMap (·.holds) = _
    rw [hheld, parts_registered]
    rfl
  · have htexts : (a.cacheNames.map (textCache settings)).zipIdx.map
        (fun e => (e.1.id, Part.texts e.2)) = textEntries a.cacheNames 0 := by
      unfold textEntries
      rw [List.zipIdx_map, List.map_map]
      rfl
    show ((a.cacheNames.map (textCache settings)).zipIdx.map _ ++ [_]).Perm _
    rw [htexts, hnames]
    show (_ :: _ :: (textEntries _ 2 ++ [_])).Perm (_ :: _ :: _ :: textEntries _ 2)
    exact ((List.perm_append_singleton _ _).cons _).cons _

/-- The number of questions that are answered from a cache: three by the service that
answers from the graph, and all those that peers answer. -/
def cacheCount (peers : List Settings.PeerSettings) : Nat :=
  3 + (peers.flatMap fun p => p.capabilities.names).length

theorem length_flatMap_peerNames {peers : List Settings.PeerSettings}
    (h : ∀ p ∈ peers, p.capabilities.types = false) :
    (peers.flatMap peerNames).length =
      (peers.flatMap fun p => p.capabilities.names).length := by
  induction peers with
  | nil => rfl
  | cons p peers ih =>
      have hpeer := length_peerNames (h p List.mem_cons_self)
      have hrest := ih fun p' hp' => h p' (List.mem_cons_of_mem p hp')
      rw [List.flatMap_cons, List.flatMap_cons, List.length_append, List.length_append,
        hpeer, hrest]

theorem length_registered {peers : List Settings.PeerSettings}
    (h : ∀ p ∈ peers, p.capabilities.types = false) :
    (registered (peers.flatMap peerNames)).length = cacheCount peers := by
  have hlength : (registered (peers.flatMap peerNames)).length =
      (peers.flatMap peerNames).length + 3 := by
    unfold registered textEntries
    simp
  rw [hlength, length_flatMap_peerNames h]
  exact Nat.add_comm _ _

/-! ## What stays registered

A fan-out forgets what is not alive, and what a service holds is alive. Nothing else
takes anything out of the registry, and nothing puts anything in. -/

/-- How often a part is registered. -/
def registrations (r : Invalidation.Relay Part (Core γ ε)) (part : Part) : Nat :=
  (r.registry.targets.map (·.2)).count part

omit [Graph.Source γ] in
theorem alive_of_held {w : Core γ ε} {part : Part}
    (h : part ∈ w.services.flatMap (·.holds)) : w.alive part = true := by
  unfold Core.alive
  have hmem : part ∈ w.services.flatMap (·.holds) ++ w.memo.holds :=
    List.mem_append_left _ h
  rw [List.contains_iff_mem.2 hmem, Bool.or_true]

omit [Graph.Source γ] in
theorem count_live {r : Invalidation.Relay Part (Core γ ε)} {part : Part}
    (h : part ∈ r.world.services.flatMap (·.holds)) :
    (r.registry.liveTargets (Core.alive r.world)).1.count part = registrations r part := by
  have hlive : (r.registry.liveTargets (Core.alive r.world)).1 =
      (r.registry.targets.map (·.2)).filter (Core.alive r.world) := by
    rw [List.filter_map]
    rfl
  rw [hlive, List.count_filter (alive_of_held h)]
  rfl

omit [Graph.Source γ] in
theorem services_keep (services : List (Service Part (Backing γ ε))) :
    Core.reactions.Keep fun w : Core γ ε => w.services = services where
  flush part _ h := by cases part <;> exact h
  forget part _ _ h := by cases part <;> exact h
  flushStore part _ _ h := by cases part <;> exact h
  reload part _ h := by cases part <;> exact h

omit [Graph.Source γ] in
theorem registrations_preserve {services : List (Service Part (Backing γ ε))} {part : Part}
    (hpart : part ∈ services.flatMap (·.holds)) (n : Nat) :
    Core.reactions.Preserve fun r : Invalidation.Relay Part (Core γ ε) =>
      r.world.services = services ∧ registrations r part = n := by
  have hkeep := Invalidation.Relay.preserve_of_keep (services_keep services)
  have hcount : ∀ r : Invalidation.Relay Part (Core γ ε), r.world.services = services →
      registrations r part = n →
      (r.registry.liveTargets (Core.alive r.world)).1.count part = n := by
    intro r hservices hr
    rw [← hservices] at hpart
    exact (count_live hpart).trans hr
  exact {
    flushAll := fun r hr => ⟨hkeep.flushAll r hr.1, hcount r hr.1 hr.2⟩
    forgetIds := fun ids r hr => ⟨hkeep.forgetIds ids r hr.1, hcount r hr.1 hr.2⟩
    flushStore := fun s r hr => ⟨hkeep.flushStore s r hr.1, hcount r hr.1 hr.2⟩
    reloadAll := fun r hr => ⟨hkeep.reloadAll r hr.1, hr.2⟩
    count := fun _ _ _ hr => hr }

/-- What can happen to an application. The time of an entry may be over at any moment. -/
inductive Action (γ ε : Type) where
  | operate (o : Operation)
  | register (service : Service Part (Backing γ ε))
  | unregister (name : String)
  | graph (f : γ → γ)
  | outside (f : ε → ε)
  | lapseText (place : Nat) (store : StoreName) (k : Cache.Key)
  | lapseType (store : StoreName) (id : ResourceId)
  | flushAll
  | forgetIds (ids : List ResourceId)
  | flushStore (store : StoreName)
  | reloadAll

/-- An application after an action. -/
def act (app : Application γ ε) : Action γ ε → Application γ ε
  | .operate o => app.after o
  | .register service => app.register service
  | .unregister name => (app.unregister name).2
  | .graph f => app.onGraph f
  | .outside f => app.onOutside f
  | .lapseText place store k =>
      app.onCore (Core.onBacking (Backing.onTexts place fun c => c.lapse store k))
  | .lapseType store id => app.onCore (Core.onBacking (Backing.onTypes fun c => c.lapse store id))
  | .flushAll => { app with relay := (app.relay.flushAll Core.reactions).2 }
  | .forgetIds ids => { app with relay := (app.relay.forgetIds Core.reactions ids).2 }
  | .flushStore store => { app with relay := (app.relay.flushStore Core.reactions store).2 }
  | .reloadAll => { app with relay := (app.relay.reloadAll Core.reactions).2 }

/-- An application after some actions. -/
def acts (app : Application γ ε) (actions : List (Action γ ε)) : Application γ ε :=
  actions.foldl act app

omit [Graph.Source γ] in
theorem registry_respond (app : Application γ ε) (q : Request) :
    (app.respond q).2.relay.registry = app.relay.registry := by
  cases q <;> rfl

omit [Graph.Source γ] in
theorem registrations_act {part : Part} (a : Action γ ε) (hnow : part ∈ app.held)
    (hnext : part ∈ (app.act a).held) :
    registrations (app.act a).relay part = registrations app.relay part := by
  have hsame := registrations_preserve hnow (registrations app.relay part)
  cases a with
  | operate o =>
      cases o with
      | request q =>
          unfold registrations
          rw [show (app.act (.operate (.request q))).relay.registry = app.relay.registry from
            app.registry_respond q]
      | trigger change now =>
          exact (Invalidation.Relay.trigger_preserve hsame change now ⟨rfl, rfl⟩).2
      | consume => exact (Invalidation.Relay.consume_preserve hsame ⟨rfl, rfl⟩).2
  | register service =>
      have hgrown : part ∈ (app.relay.world.services ++ [service]).flatMap (·.holds) := by
        rw [List.flatMap_append]
        exact List.mem_append_left _ hnow
      have hadded := registrations_preserve hgrown (registrations app.relay part)
      exact (Invalidation.Relay.trigger_preserve hadded .services true
        (r := (app.onCore fun c => { c with services := c.services ++ [service] }).relay)
        ⟨rfl, rfl⟩).2
  | unregister name =>
      have hheld : part ∈ (app.unregister name).2.held := hnext
      show registrations (app.unregister name).2.relay part = _
      unfold unregister at hheld ⊢
      dsimp only at hheld ⊢
      split at hheld
      · next hkept => rw [if_pos hkept]
      · next hkept =>
          rw [if_neg hkept]
          -- Which services are left is settled before the chains are dropped.
          let left := Discovery.withoutNamed app.relay.world.services name
          let r := (app.onCore fun c => { c with services := left }).relay
          have hservices := Invalidation.Relay.trigger_keep (services_keep left)
            .services true (r := r) rfl
          have hleft : part ∈ left.flatMap (·.holds) := by
            rw [← hservices]
            exact hheld
          have hremoved := registrations_preserve hleft (registrations app.relay part)
          exact (Invalidation.Relay.trigger_preserve hremoved .services true (r := r)
            ⟨rfl, rfl⟩).2
  | graph f => rfl
  | outside f => rfl
  | lapseText place store k => rfl
  | lapseType store id => rfl
  | flushAll => exact (hsame.flushAll app.relay ⟨rfl, rfl⟩).2
  | forgetIds ids => exact (hsame.forgetIds ids app.relay ⟨rfl, rfl⟩).2
  | flushStore store => exact (hsame.flushStore store app.relay ⟨rfl, rfl⟩).2
  | reloadAll => exact (hsame.reloadAll app.relay ⟨rfl, rfl⟩).2

/-- A part is held by some service before and after each action. -/
def Stays (app : Application γ ε) (part : Part) (actions : List (Action γ ε)) : Prop :=
  ∀ before later, actions = before ++ later → part ∈ (app.acts before).held

omit [Graph.Source γ] in
theorem registrations_acts {part : Part} {actions : List (Action γ ε)}
    (h : app.Stays part actions) :
    registrations (app.acts actions).relay part = registrations app.relay part := by
  induction actions generalizing app with
  | nil => rfl
  | cons a actions ih =>
      have hrest : (app.act a).Stays part actions := by
        intro before later hsplit
        exact h (a :: before) later (by rw [hsplit, List.cons_append])
      have hnow : part ∈ app.held := h [] (a :: actions) rfl
      have hnext : part ∈ (app.act a).held := hrest [] actions rfl
      exact (ih hrest).trans (registrations_act a hnow hnext)

/-- Every cache that an application is built with is registered under a name of its
own, and every fan-out calls it exactly once as long as a service holds it; unless
a peer with the name of the service that answers from the graph answers a question,
too. -/
theorem build_registers {raw : RawSettings} (haccepted : Settings.ofRaw raw = .ok settings)
    (hlocal : ∀ p ∈ settings.peers, p.name = localName → p.capabilities.names = [])
    (hbuild : build settings send graph outside = .ok app) :
    app.relay.registry.targets.length = cacheCount settings.peers ∧
      app.relay.registry.targets.keys.Nodup ∧
      app.caches.Perm app.relay.registry.targets ∧
      ∀ e ∈ app.caches, e.2 ∈ app.held ∧ ∀ actions, app.Stays e.2 actions →
        ∃ calls : List Part, calls.count e.2 = 1 ∧
          ∀ call : Part → Core γ ε → Core γ ε,
            ((app.acts actions).relay.callTargets Core.reactions call).2.world =
              calls.foldl (fun w part => call part w) (app.acts actions).relay.world := by
  have hproper := Settings.proper_of_accepted haccepted
  obtain ⟨htargets, hheld, hcaches⟩ := build_spec hbuild
  have hkeys := keys_registered settings.peers
  have hnodup : (registered (settings.peers.flatMap peerNames)).keys.Nodup := by
    rw [hkeys]
    exact cacheNames_nodup hproper hlocal
  have hmerge : app.relay.registry.targets =
      registered (settings.peers.flatMap peerNames) :=
    htargets.trans (Table.merge_of_unrepeated (unrepeated_iff_nodup.2 hnodup))
  rw [hmerge]
  refine ⟨length_registered hproper.types, hnodup, hcaches, fun e he => ?_⟩
  have hpart : e.2 ∈ (registered (settings.peers.flatMap peerNames)).map (·.2) :=
    List.mem_map_of_mem (hcaches.mem_iff.1 he)
  refine ⟨hheld ▸ hpart, fun actions hstays => ?_⟩
  refine ⟨((app.acts actions).relay.registry.liveTargets
    (Core.alive (app.acts actions).relay.world)).1, ?_, fun _ => rfl⟩
  have hend : e.2 ∈ (app.acts actions).held := hstays actions [] (List.append_nil _).symm
  rw [count_live hend, registrations_acts hstays]
  unfold registrations
  rw [hmerge, List.Nodup.count (parts_registered _ ▸ parts_nodup _), if_pos hpart]

/-- A label of a peer, all of whose names are its own. -/
theorem build_registers_dictionary :
    let raw : RawSettings :=
      { peers := [⟨"dictionary", "http://[::1]:4000/", none, some ["label"]⟩] }
    let send : Peer.Call → StateM Unit (Option Peer.Reply) := fun _ => pure none
    ∃ settings app, Settings.ofRaw raw = .ok settings ∧
      (∀ p ∈ settings.peers, p.name = localName → p.capabilities.names = []) ∧
      build settings send Graph.Memory.empty () = .ok app ∧
      app.relay.registry.targets.length = cacheCount settings.peers ∧
      ∀ e ∈ app.caches, ∀ actions, app.Stays e.2 actions →
        ∃ calls : List Part, calls.count e.2 = 1 ∧
          ∀ call : Part → Core Graph.Memory Unit → Core Graph.Memory Unit,
            ((app.acts actions).relay.callTargets Core.reactions call).2.world =
              calls.foldl (fun w part => call part w) (app.acts actions).relay.world := by
  intro raw send
  have hcheck : (match Settings.ofRaw raw with
      | .ok settings => settings.peers.all (fun p => p.name != localName) &&
          (build settings send Graph.Memory.empty ()).isOk
      | .error _ => false) = true := by decide +kernel
  cases haccepted : Settings.ofRaw raw with
  | error e =>
      rw [haccepted] at hcheck
      cases hcheck
  | ok settings =>
      simp only [haccepted, Bool.and_eq_true, List.all_eq_true, bne_iff_ne] at hcheck
      obtain ⟨hnames, hbuilds⟩ := hcheck
      have hlocal : ∀ p ∈ settings.peers, p.name = localName → p.capabilities.names = [] :=
        fun p hp hname => absurd hname (hnames p hp)
      cases hbuild : build settings send Graph.Memory.empty () with
      | error e =>
          rw [hbuild] at hbuilds
          cases hbuilds
      | ok app =>
          obtain ⟨hlength, -, -, hcalls⟩ := build_registers haccepted hlocal hbuild
          exact ⟨settings, app, rfl, hlocal, hbuild, hlength,
            fun e he actions hstays => (hcalls e he).2 actions hstays⟩

/-! ## The name that nobody compares -/

/-- A peer with the name of the service that answers from the graph takes over a
registration with each question that it answers. -/
theorem build_loses {raw : RawSettings} (haccepted : Settings.ofRaw raw = .ok settings)
    {p : Settings.PeerSettings} (hp : p ∈ settings.peers) (hname : p.name = localName)
    (hanswers : p.capabilities.names ≠ [])
    (hbuild : build settings send graph outside = .ok app) :
    app.relay.registry.targets.length < cacheCount settings.peers := by
  have hproper := Settings.proper_of_accepted haccepted
  obtain ⟨htargets, -, -⟩ := build_spec hbuild
  -- The names of the service that answers from the graph come in before any peer's.
  let locals : Table String Part :=
    [(partName localName .label, .texts 0), (partName localName .description, .texts 1),
      (partName localName .type, .types)]
  have hlocals : Table.merge [] locals = locals := by
    have hquestions : [Capability.label, .description, .type].Nodup := by decide
    exact Table.merge_of_unrepeated
      (unrepeated_iff_nodup.2 (map_partName_nodup localName hquestions))
  have hsplit : app.relay.registry.targets =
      locals.merge (textEntries (settings.peers.flatMap peerNames) 2) := by
    rw [htargets]
    show Table.merge (Table.merge [] locals) _ = _
    rw [hlocals]
  have htaken : ∃ name ∈ settings.peers.flatMap peerNames, locals.has name = true := by
    have hnames : peerNames p ≠ [] := by
      intro hnil
      have hlength := length_peerNames (hproper.types p hp)
      rw [hnil] at hlength
      exact hanswers (List.length_eq_zero_iff.1 hlength.symm)
    obtain ⟨name, hmem⟩ := List.exists_mem_of_ne_nil _ hnames
    refine ⟨name, List.mem_flatMap.2 ⟨p, hp, hmem⟩, ?_⟩
    obtain ⟨c, -, -, rfl⟩ := exists_of_mem_peerNames hmem
    rw [hname]
    cases c <;> simp [locals, Table.has]
  obtain ⟨name, hmem, hhas⟩ := htaken
  have hentry : name ∈ (textEntries (settings.peers.flatMap peerNames) 2).keys := by
    rw [keys_textEntries]
    exact hmem
  obtain ⟨e, he, rfl⟩ := List.mem_map.1 hentry
  have hless := Table.length_merge_lt he hhas
  have hlength := length_registered hproper.types
  rw [hsplit]
  have htotal : (registered (settings.peers.flatMap peerNames)).length =
      locals.length + (textEntries (settings.peers.flatMap peerNames) 2).length := by
    unfold registered
    simp [locals]
    omega
  omega

/-- No invalidation reaches the labels of the graph when a peer that is called like the
service of the graph answers for labels. -/
theorem build_loses_label :
    let raw : RawSettings :=
      { peers := [⟨"local", "http://[::1]:4000/", none, some ["label"]⟩] }
    let send : Peer.Call → StateM Unit (Option Peer.Reply) := fun _ => pure none
    ∃ settings app, Settings.ofRaw raw = .ok settings ∧
      build settings send Graph.Memory.empty () = .ok app ∧
      app.relay.registry.targets.length ≠ cacheCount settings.peers ∧
      ("local:label", Part.texts 0) ∈ app.caches ∧ app.Stays (.texts 0) [] ∧
      (app.relay.registry.liveTargets (Core.alive app.relay.world)).1.count (.texts 0) = 0 := by
  intro raw send
  have hcheck : (match Settings.ofRaw raw with
      | .ok settings =>
          match build settings send Graph.Memory.empty () with
          | .ok app =>
              app.relay.registry.targets.length != cacheCount settings.peers &&
                app.caches.contains ("local:label", Part.texts 0) &&
                app.held.contains (.texts 0) &&
                (app.relay.registry.liveTargets (Core.alive app.relay.world)).1.count
                  (.texts 0) == 0
          | .error _ => false
      | .error _ => false) = true := by decide +kernel
  cases haccepted : Settings.ofRaw raw with
  | error e =>
      rw [haccepted] at hcheck
      cases hcheck
  | ok settings =>
      simp only [haccepted] at hcheck
      cases hbuild : build settings send Graph.Memory.empty () with
      | error e =>
          rw [hbuild] at hcheck
          cases hcheck
      | ok app =>
          rw [hbuild] at hcheck
          simp only [Bool.and_eq_true, bne_iff_ne, List.contains_iff_mem, beq_iff_eq] at hcheck
          obtain ⟨⟨⟨hlength, hcache⟩, hheld⟩, hcount⟩ := hcheck
          have hstays : app.Stays (.texts 0) [] := by
            intro before later hsplit
            obtain ⟨rfl, -⟩ := List.append_eq_nil_iff.1 hsplit.symm
            exact hheld
          exact ⟨settings, app, rfl, hbuild, hlength, hcache, hstays, hcount⟩

end Application

end Nomenclator

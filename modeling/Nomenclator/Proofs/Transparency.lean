import Nomenclator.Application.Assembly
import Nomenclator.Proofs.Acceptance
import Nomenclator.Proofs.Sources
import Nomenclator.Proofs.Steadiness

/-!
# Caching does not show

Whatever is asked of an application, and whatever changes it is told of in
between, it answers as if it kept nothing. The argument is an invariant and a
comparison. The invariant says that every cache is sound for the loader behind
it, and it is kept by everything that can happen: lookups record what they have
loaded, and invalidations only drop entries. The comparison is between any two
applications that have the invariant over the same services. Their caches may
differ in size, in what they keep, and in whether they keep anything; but all of
their resolvers are steady, so the answers are the same.

The settings matter in one place only. An accepted timeout is never zero, and
so a load from a graph in memory is never late, however many batches it has. But
nobody asks whether there can be a pool of as many workers as were accepted. Where
there cannot, a load of several batches panics, and then it shows what is kept:
what has been loaded one by one need not be loaded together.
-/

namespace Nomenclator

open Nomenclator.Graph (Memory)
open Cache (Key Partitioned Reference)
open Nomenclator.Language (Preference)

variable {ε : Type}

/-! ## Sound backings -/

/-- What stands behind the caches of an application: texts by their place, and
types. -/
structure References where
  texts : Nat → Reference Key TextValue
  types : Reference ResourceId ResourceId

/-- A backing over a graph whose caches are sound. -/
structure Backing.Sound (m : Memory) (refs : References) (b : Backing Memory ε) :
    Prop where
  graph : b.world.graph = m
  texts : ∀ place (c : Partitioned Key TextValue),
    b.texts[place]? = some c → c.Sound (refs.texts place)
  types : b.types.Sound refs.types

namespace Backing

variable {m : Memory} {refs : References} {b : Backing Memory ε}

theorem Sound.textShelf (m : Memory) (refs : References) (place : Nat) :
    (textShelf place).Guarded (Sound (ε := ε) m refs) (fun w => w.graph = m)
      (refs.texts place) where
  cache b hb := by
    show (b.texts.getD place default).Sound _
    rw [List.getD_eq_getElem?_getD]
    cases hget : b.texts[place]? with
    | none => exact Partitioned.sound_empty _ _ _
    | some c => exact hb.texts place c hget
  world _ hb := hb.graph
  put b c w hb hc hw :=
    { graph := hw
      texts := by
        intro place' c' hget
        replace hget : (b.texts.set place c)[place']? = some c' := hget
        rw [List.getElem?_set] at hget
        split at hget
        · next hplace =>
            split at hget
            · rw [← Option.some.inj hget, ← hplace]
              exact hc
            · cases hget
        · exact hb.texts place' c' hget
      types := hb.types }

theorem Sound.typeShelf (m : Memory) (refs : References) :
    typeShelf.Guarded (Sound (ε := ε) m refs) (fun w => w.graph = m) refs.types where
  cache _ hb := hb.types
  world _ hb := hb.graph
  put _ _ _ hb hc hw := ⟨hw, hb.texts, hc⟩

theorem Sound.onTexts (hb : b.Sound m refs) (place : Nat)
    {f : Partitioned Key TextValue → Partitioned Key TextValue}
    (hf : ∀ {ref : Reference Key TextValue} c, c.Sound ref → (f c).Sound ref) :
    (b.onTexts place f).Sound m refs where
  graph := hb.graph
  texts := by
    intro place' c' hget
    replace hget : (b.texts.modify place f)[place']? = some c' := hget
    rw [List.getElem?_modify, Option.map_eq_map, Option.map_eq_some_iff] at hget
    obtain ⟨c, hc, hvalue⟩ := hget
    have hsound := hb.texts place' c hc
    split at hvalue
    · rw [← hvalue]
      exact hf c hsound
    · rw [← hvalue]
      exact hsound
  types := hb.types

theorem Sound.onTypes (hb : b.Sound m refs)
    {f : Partitioned ResourceId ResourceId → Partitioned ResourceId ResourceId}
    (hf : ∀ {ref : Reference ResourceId ResourceId} c, c.Sound ref → (f c).Sound ref) :
    (b.onTypes f).Sound m refs :=
  ⟨hb.graph, hb.texts, hf _ hb.types⟩

end Backing

/-! ## Changes -/

namespace Invalidation

variable {η σ : Type}

/-- A property of relays that nothing breaks that a consumption does. -/
structure Reactions.Preserve (how : Reactions η σ) (holds : Relay η σ → Prop) : Prop where
  flushAll : ∀ r, holds r → holds (r.flushAll how).2
  forgetIds : ∀ ids r, holds r → holds (r.forgetIds how ids).2
  flushStore : ∀ s r, holds r → holds (r.flushStore how s).2
  reloadAll : ∀ r, holds r → holds (r.reloadAll how).2
  count : ∀ r queue n, holds r → holds { r with queue := queue, consumptions := n }

/-- A property of the world that no reaction of any object breaks. -/
structure Reactions.Keep (how : Reactions η σ) (holds : σ → Prop) : Prop where
  flush : ∀ h w, holds w → holds ((how.target h).flush w)
  forget : ∀ h ids w, holds w → holds ((how.target h).forget ids w)
  flushStore : ∀ h s w, holds w → holds ((how.target h).flushStore s w)
  reload : ∀ h w, holds w → holds (how.reload h w)

namespace Relay

variable {how : Reactions η σ} {r : Relay η σ}

section

variable {holds : Relay η σ → Prop}

theorem perform_preserve (hholds : how.Preserve holds) (p : Plan) (hr : holds r) :
    holds (r.perform how p) := by
  have hstores : ∀ (stores : List StoreName) (r : Relay η σ), holds r →
      holds (stores.foldl (fun r s => (r.flushStore how s).2) r) := by
    intro stores
    induction stores with
    | nil => exact fun _ hr => hr
    | cons s stores ih => exact fun r hr => ih _ (hholds.flushStore s r hr)
  have hdrop : holds (if p.flushAll then (r.flushAll how).2
      else
        let r := p.stores.foldl (fun r s => (r.flushStore how s).2) r
        if p.ids.isEmpty then r else (r.forgetIds how p.ids).2) := by
    split
    · exact hholds.flushAll r hr
    · dsimp only
      split
      · exact hstores p.stores r hr
      · exact hholds.forgetIds p.ids _ (hstores p.stores r hr)
  unfold perform
  dsimp only
  split
  · exact hholds.reloadAll _ hdrop
  · exact hdrop

theorem consume_preserve (hholds : how.Preserve holds) (hr : holds r) :
    holds (r.consume how).2 := by
  have hqueue : holds { r with queue := (r.queue.drain r.batch).2 } :=
    hholds.count r _ r.consumptions hr
  unfold consume
  dsimp only
  split
  · exact hqueue
  · have hperform := perform_preserve hholds
      (.ofEvents (r.queue.drain r.batch).1) hqueue
    exact hholds.count _ _ _ hperform

theorem trigger_preserve (hholds : how.Preserve holds) (change : Change) (now : Bool)
    (hr : holds r) : holds (r.trigger how change now) := by
  have hqueue : holds { r with queue := r.queue.publish change } :=
    hholds.count r _ r.consumptions hr
  unfold trigger
  dsimp only
  split
  · exact consume_preserve hholds hqueue
  · exact hqueue

end

variable {holds : σ → Prop}

theorem foldl_keep {act : η → σ → σ} (hact : ∀ h w, holds w → holds (act h w))
    (hs : List η) {w : σ} (hw : holds w) :
    holds (hs.foldl (fun w h => act h w) w) := by
  induction hs generalizing w with
  | nil => exact hw
  | cons h hs ih => exact ih (hact h w hw)

theorem preserve_of_keep (hkeep : how.Keep holds) :
    how.Preserve fun r => holds r.world where
  flushAll _ hr := foldl_keep hkeep.flush _ hr
  forgetIds ids _ hr := foldl_keep (fun h => hkeep.forget h ids) _ hr
  flushStore s _ hr := foldl_keep (fun h => hkeep.flushStore h s) _ hr
  reloadAll _ hr := foldl_keep hkeep.reload _ hr
  count _ _ _ hr := hr

theorem consume_keep (hkeep : how.Keep holds) (hr : holds r.world) :
    holds (r.consume how).2.world :=
  consume_preserve (preserve_of_keep hkeep) hr

theorem trigger_keep (hkeep : how.Keep holds) (change : Change) (now : Bool)
    (hr : holds r.world) : holds (r.trigger how change now).world :=
  trigger_preserve (preserve_of_keep hkeep) change now hr

end Relay

end Invalidation

/-! ## Sound cores -/

open Discovery (Service Chains)

/-- A core over some services whose chains, if there are any, are those of the
services. -/
structure Core.Sound (m : Memory) (refs : References)
    (services : List (Service Part (Backing Memory ε))) (c : Core Memory ε) : Prop where
  backing : c.backing.Sound m refs
  same : c.services = services
  memo : c.memo.id = Application.discoveryName
  chains : ∀ chains, c.memo.chains = some chains →
    chains = Discovery.build Application.discoveryName (.ok services)

namespace Core

variable {m : Memory} {refs : References}
  {services : List (Service Part (Backing Memory ε))} {c : Core Memory ε}

theorem Sound.onBacking (hc : c.Sound m refs services)
    {f : Backing Memory ε → Backing Memory ε} (hf : (f c.backing).Sound m refs) :
    (c.onBacking f).Sound m refs services :=
  ⟨hf, hc.same, hc.memo, hc.chains⟩

/-- Nothing that changes can do to caches and chains makes them unsound. -/
theorem reactions_keep : reactions.Keep (Sound (ε := ε) m refs services) where
  flush part _ hc :=
    match part with
    | .texts place => hc.onBacking
        (hc.backing.onTexts place fun c _ => Partitioned.sound_flush c)
    | .types => hc.onBacking (hc.backing.onTypes fun c _ => Partitioned.sound_flush c)
    | .chains => hc
  forget part ids _ hc :=
    match part with
    | .texts place => hc.onBacking (hc.backing.onTexts place fun _ h => h.forget ids)
    | .types => hc.onBacking (hc.backing.onTypes fun _ h => h.forget ids)
    | .chains => hc
  flushStore part s _ hc :=
    match part with
    | .texts place => hc.onBacking (hc.backing.onTexts place fun _ h => h.flushStore s)
    | .types => hc.onBacking (hc.backing.onTypes fun _ h => h.flushStore s)
    | .chains => hc
  reload part _ hc :=
    match part with
    | .texts _ => hc
    | .types => hc
    | .chains => ⟨hc.backing, hc.same, hc.memo, fun _ h => nomatch h⟩

end Core

/-! ## Services

Each resolver of texts has a cache at a place of its own, and what stands behind
that cache is what its loader follows. New peers take new places, so what stands
behind the old ones need not change. -/

/-- The questions to an application with a preference. -/
def Inquiry.Usual (defaults : Preference) (i : Inquiry) : Prop :=
  ∃ preferred, i.languages = Lookup.languagesFor defaults preferred

/-- A resolver of texts from one of the first places. -/
def References.Text (refs : References) (defaults : Preference) (m : Memory)
    (places : Nat) (r : Resolver Part (Backing Memory ε) TextValue) : Prop :=
  ∃ name place loader, place < places ∧ r = Application.textResolver name place loader ∧
    (∀ k : Key, k.Usual defaults → (refs.texts place).admits k) ∧
    (refs.texts place).Follows (fun w => w.graph = m) loader

/-- A resolver of types. -/
def References.Kind (refs : References) (m : Memory)
    (r : Resolver Part (Backing Memory ε) ResourceId) : Prop :=
  ∃ name loader, r = .cached name .types Backing.typeShelf loader (fun id _ => id) id ∧
    (∀ id, refs.types.admits id) ∧ refs.types.Follows (fun w => w.graph = m) loader

/-- A service whose resolvers all answer from caches at the first places. -/
structure References.Supplies (refs : References) (defaults : Preference) (m : Memory)
    (places : Nat) (s : Service Part (Backing Memory ε)) : Prop where
  labels : ∀ r, s.labels = .ok r → refs.Text defaults m places r
  descriptions : ∀ r, s.descriptions = .ok r → refs.Text defaults m places r
  types : ∀ r, s.types = .ok r → refs.Kind m r

namespace References

variable {m : Memory} {defaults : Preference} {refs refs' : References}
  {places places' : Nat}

/-- The references agree on the first places, and on types. -/
structure Extends (refs' refs : References) (places : Nat) : Prop where
  texts : ∀ place, place < places → refs'.texts place = refs.texts place
  types : refs'.types = refs.types

theorem Text.steady {r : Resolver Part (Backing Memory ε) TextValue}
    (h : refs.Text defaults m places r) :
    r.Steady (Backing.Sound m refs) (Inquiry.Usual defaults) := by
  obtain ⟨name, place, loader, -, rfl, hadmits, hfollows⟩ := h
  refine Resolver.cached_steady name _ (Backing.Sound.textShelf m refs place) hfollows
    (fun _ _ => rfl) (fun k k' h => (Prod.mk.inj (Cache.Key.beq_iff.1 h)).1) ?_
  exact fun inquiry hinquiry id => hadmits ⟨id, inquiry.languages⟩ hinquiry

theorem Kind.steady {r : Resolver Part (Backing Memory ε) ResourceId}
    (h : refs.Kind m r) : r.Steady (Backing.Sound m refs) (Inquiry.Usual defaults) := by
  obtain ⟨name, loader, rfl, hadmits, hfollows⟩ := h
  exact Resolver.cached_steady name _ (Backing.Sound.typeShelf m refs) hfollows
    (fun _ _ => rfl) (fun _ _ h => eq_of_beq h) fun _ _ id => hadmits id

theorem Text.extend {r : Resolver Part (Backing Memory ε) TextValue}
    (h : refs.Text defaults m places r) (hrefs : refs'.Extends refs places)
    (hplaces : places ≤ places') : refs'.Text defaults m places' r := by
  obtain ⟨name, place, loader, hplace, rfl, hadmits, hfollows⟩ := h
  rw [← hrefs.texts place hplace] at hadmits hfollows
  exact ⟨name, place, loader, by omega, rfl, hadmits, hfollows⟩

theorem Kind.extend {r : Resolver Part (Backing Memory ε) ResourceId}
    (h : refs.Kind m r) (hrefs : refs'.Extends refs places) : refs'.Kind m r := by
  obtain ⟨name, loader, rfl, hadmits, hfollows⟩ := h
  rw [← hrefs.types] at hadmits hfollows
  exact ⟨name, loader, rfl, hadmits, hfollows⟩

theorem Supplies.extend {s : Service Part (Backing Memory ε)}
    (h : refs.Supplies defaults m places s) (hrefs : refs'.Extends refs places)
    (hplaces : places ≤ places') : refs'.Supplies defaults m places' s where
  labels r hr := (h.labels r hr).extend hrefs hplaces
  descriptions r hr := (h.descriptions r hr).extend hrefs hplaces
  types r hr := (h.types r hr).extend hrefs

theorem Extends.refl (refs : References) (places : Nat) : refs.Extends refs places :=
  ⟨fun _ _ => rfl, rfl⟩

theorem Extends.trans {refs'' : References} (h' : refs''.Extends refs' places')
    (h : refs'.Extends refs places) (hplaces : places ≤ places') :
    refs''.Extends refs places where
  texts place hplace := (h'.texts place (by omega)).trans (h.texts place hplace)
  types := h'.types.trans h.types

/-- Puts something behind the cache at a place. -/
def put (refs : References) (place : Nat) (ref : Reference Key TextValue) : References :=
  { refs with texts := fun other => if other = place then ref else refs.texts other }

theorem put_extends (refs : References) (place : Nat) (ref : Reference Key TextValue) :
    (refs.put place ref).Extends refs place where
  texts place' hplace := if_neg (by omega)
  types := rfl

end References

namespace Application

variable {m : Memory} {defaults : Preference} {texts : Peer.Texts}
  {send : Peer.Call → StateM ε (Option Peer.Reply)}

theorem offer_supplies (hfixed : Peer.Fixed texts send) (m : Memory)
    (defaults : Preference) (refs : References) {peer : Settings.PeerSettings}
    {c : Discovery.Capability} {last : String} {names names' : List String}
    {offered : Option (Resolver Part (Backing Memory ε) TextValue)}
    (h : offer send peer c last names = .ok (offered, names')) :
    ∃ refs' : References, refs'.Extends refs names.length ∧
      names.length ≤ names'.length ∧
      ∀ r, offered = some r → refs'.Text defaults m names'.length r := by
  unfold offer at h
  split at h
  · obtain ⟨url, -, h⟩ := exists_of_bind_eq_ok h
    obtain ⟨rfl, rfl⟩ := Prod.mk.inj (Except.ok.inj h)
    refine ⟨refs.put names.length (Peer.reference texts url),
      refs.put_extends _ _, by simp, ?_⟩
    rintro r hr
    have hplace : (refs.put names.length (Peer.reference texts url)).texts
        names.length = Peer.reference texts url := if_pos rfl
    refine ⟨_, names.length, _, by simp, (Option.some.inj hr).symm, ?_⟩
    rw [hplace]
    exact ⟨fun _ _ => trivial, Peer.follows hfixed peer.name url⟩
  · obtain ⟨rfl, rfl⟩ := Prod.mk.inj (Except.ok.inj h)
    exact ⟨refs, .refl _ _, Nat.le_refl _, fun r hr => nomatch hr⟩

theorem offered_eq_ok {η σ α : Type} {c : Discovery.Capability}
    {offer : Option (Resolver η σ α)} {r : Resolver η σ α}
    (h : Service.offered c offer = .ok r) : offer = some r := by
  cases offer with
  | none => cases h
  | some r' => exact congrArg some (Except.ok.inj h)

/-- All services of an assembly answer from its caches. -/
def Assembly.Stocked (refs : References) (defaults : Preference) (m : Memory)
    (a : Assembly Memory ε) : Prop :=
  ∀ s ∈ a.services, refs.Supplies defaults m a.cacheNames.length s

theorem addPeers_stocked (hfixed : Peer.Fixed texts send)
    {peers : List Settings.PeerSettings} {a a' : Assembly Memory ε} {refs : References}
    (ha : a.Stocked refs defaults m) (h : addPeers send a peers = .ok a') :
    ∃ refs' : References, a'.Stocked refs' defaults m := by
  induction peers generalizing a refs with
  | nil => exact ⟨refs, Except.ok.inj h ▸ ha⟩
  | cons peer peers ih =>
      unfold addPeers at h
      obtain ⟨⟨labels, names⟩, hlabels, h⟩ := exists_of_bind_eq_ok h
      obtain ⟨⟨descriptions, names'⟩, hdescriptions, h⟩ := exists_of_bind_eq_ok h
      obtain ⟨refs₁, hext₁, hle₁, htext₁⟩ :=
        offer_supplies hfixed m defaults refs hlabels
      obtain ⟨refs₂, hext₂, hle₂, htext₂⟩ :=
        offer_supplies hfixed m defaults refs₁ hdescriptions
      have hpeer : refs₂.Supplies defaults m names'.length
          (.bundled peer.name labels descriptions none) :=
        { labels := fun r hr => (htext₁ r (offered_eq_ok hr)).extend hext₂ hle₂
          descriptions := fun r hr => htext₂ r (offered_eq_ok hr)
          types := fun r hr => by cases hr }
      have hstocked : Assembly.Stocked refs₂ defaults m
          ⟨a.services ++ [.bundled peer.name labels descriptions none], names'⟩ := by
        intro s hs
        rcases List.mem_append.1 hs with hs | hs
        · exact (ha s hs).extend (hext₂.trans hext₁ hle₁) (Nat.le_trans hle₁ hle₂)
        · rw [List.mem_singleton.1 hs]
          exact hpeer
      exact ih hstocked h

/-- What stands behind the caches of the service that answers from the graph. -/
def localReferences (settings : Settings) (m : Memory) : References where
  texts place := Loader.Text.reference settings.languages m
    (origin settings (if place = 0 then settings.labelProperties
      else settings.descriptionProperties))
  types := Loader.Kind.reference m (origin settings settings.typeProperties)

theorem localService_supplies {settings : Settings}
    (hpool : settings.batch.workers ≤ Batch.maxWorkers)
    (htime : 0 < settings.batch.timeout) (m : Memory) :
    (localReferences settings m).Supplies settings.languages m 2
      (localService (ε := ε) settings) where
  labels r hr := by
    obtain rfl := Except.ok.inj hr
    exact ⟨_, 0, _, by omega, rfl, fun _ hk => hk, Loader.Text.follows _ m hpool htime⟩
  descriptions r hr := by
    obtain rfl := Except.ok.inj hr
    exact ⟨_, 1, _, by omega, rfl, fun _ hk => hk, Loader.Text.follows _ m hpool htime⟩
  types r hr := by
    obtain rfl := Except.ok.inj hr
    exact ⟨_, _, rfl, fun _ => trivial, Loader.Kind.follows m hpool htime⟩

end Application

/-- Chains whose resolvers are all steady. -/
structure Discovery.Chains.Steady {η σ : Type} (holds : σ → Prop)
    (admits : Inquiry → Prop) (c : Chains η σ) : Prop where
  labels : c.labels.Steady holds admits
  descriptions : c.descriptions.Steady holds admits
  types : c.types.Steady holds admits

theorem Discovery.build_steady {m : Memory} {defaults : Preference} {refs : References}
    {places : Nat} (id : String) {services : List (Service Part (Backing Memory ε))}
    (h : ∀ s ∈ services, refs.Supplies defaults m places s) :
    (build id (.ok services)).Steady (Backing.Sound m refs) (Inquiry.Usual defaults) where
  labels := capability_steady id .label fun s hs r hr => ((h s hs).labels r hr).steady
  descriptions := capability_steady id .description fun s hs r hr =>
    ((h s hs).descriptions r hr).steady
  types := capability_steady id .type fun s hs r hr => ((h s hs).types r hr).steady

/-! ## Requests -/

namespace Application

/-- An application with a preference over some services, whose caches are sound. -/
structure Sound (defaults : Preference) (m : Memory) (refs : References)
    (services : List (Service Part (Backing Memory ε))) (app : Application Memory ε) :
    Prop where
  languages : app.languages = defaults
  core : app.relay.world.Sound m refs services

variable {defaults : Preference} {m : Memory} {refs : References}
  {services : List (Service Part (Backing Memory ε))} {app app' : Application Memory ε}

theorem Sound.chains (h : app.Sound defaults m refs services) :
    app.chains.1 = Discovery.build discoveryName (.ok services) ∧
      app.chains.2.Sound defaults m refs services := by
  obtain ⟨hlanguages, hbacking, hsame, hmemo, hchains⟩ := h
  unfold Application.chains Discovery.Memo.force
  cases hkept : app.relay.world.memo.chains with
  | some chains =>
      exact ⟨hchains chains hkept, hlanguages, hbacking, hsame, hmemo, hchains⟩
  | none =>
      dsimp only
      rw [hmemo, hsame]
      exact ⟨rfl, hlanguages, hbacking, hsame, rfl, fun _ h => (Option.some.inj h).symm⟩

/-- Putting a question that does not depend on the state. -/
theorem ask_alike {α β : Type}
    (pick : Chains Part (Backing Memory ε) → Resolver Part (Backing Memory ε) α)
    (question : Resolver Part (Backing Memory ε) α → Effect (Backing Memory ε) β)
    (hquestion : Effect.Related (Backing.Sound m refs) Eq
      (question (pick (Discovery.build discoveryName (.ok services))))
      (question (pick (Discovery.build discoveryName (.ok services)))))
    (h : app.Sound defaults m refs services) (h' : app'.Sound defaults m refs services) :
    (app.ask pick question).1 = (app'.ask pick question).1 ∧
      (app.ask pick question).2.Sound defaults m refs services := by
  obtain ⟨hbuilt, hsound⟩ := h.chains
  obtain ⟨hbuilt', hsound'⟩ := h'.chains
  unfold ask
  generalize app.chains = kept at hbuilt hsound
  generalize app'.chains = kept' at hbuilt' hsound'
  obtain ⟨chains, app⟩ := kept
  obtain ⟨chains', app'⟩ := kept'
  -- Kept or built anew, the chains are the same on both sides.
  obtain rfl : chains = _ := hbuilt
  obtain rfl : chains' = _ := hbuilt'
  obtain ⟨hagree, hkeep, -⟩ :=
    hquestion app.backing app'.backing hsound.core.backing hsound'.core.backing
  exact ⟨hagree.eq, hsound.languages, hkeep, hsound.core.same, hsound.core.memo,
    hsound.core.chains⟩

/-- What users ask. -/
inductive Request where
  | texts (store : StoreName) (ids : List ResourceId) (preferred : Option String)
      (kind : Lookup.TextKind)
  | text (store : StoreName) (id : ResourceId) (preferred : Option String)
      (kind : Lookup.TextKind)
  | types (store : StoreName) (ids : List ResourceId)

/-- What users get: values or a failure. -/
inductive Response where
  | texts (result : Except ResolveError (Table ResourceId (Option TextValue)))
  | text (result : Except ResolveError (Option TextValue))
  | types (result : Except ResolveError (Table ResourceId (Option ResourceId)))

/-- The response to a request, and the application after it. -/
def respond {γ : Type} (app : Application γ ε) : Request → Response × Application γ ε
  | .texts store ids preferred kind =>
      let (result, app) := app.texts store ids preferred kind
      (.texts result, app)
  | .text store id preferred kind =>
      let (result, app) := app.text store id preferred kind
      (.text result, app)
  | .types store ids =>
      let (result, app) := app.types store ids
      (.types result, app)

theorem respond_alike
    (hsteady : (Discovery.build discoveryName (.ok services)).Steady
      (Backing.Sound m refs) (Inquiry.Usual defaults))
    (h : app.Sound defaults m refs services) (h' : app'.Sound defaults m refs services)
    (q : Request) :
    (app.respond q).1 = (app'.respond q).1 ∧
      (app.respond q).2.Sound defaults m refs services := by
  have hresolver : ∀ kind : Lookup.TextKind,
      (kind.resolver (Discovery.build discoveryName (.ok services))).Steady
        (Backing.Sound m refs) (Inquiry.Usual defaults)
    | .label => hsteady.labels
    | .description => hsteady.descriptions
  cases q with
  | texts store ids preferred kind =>
      have husual : Inquiry.Usual defaults
          ⟨store, Lookup.languagesFor defaults preferred⟩ := ⟨preferred, rfl⟩
      obtain ⟨hsame, hkeep⟩ := ask_alike kind.resolver
        (fun r => Lookup.several r ⟨store, Lookup.languagesFor defaults preferred⟩ ids)
        (Lookup.several_related (hresolver kind) husual ids) h h'
      unfold respond texts languagesFor
      rw [h.languages, h'.languages]
      exact ⟨congrArg Response.texts hsame, hkeep⟩
  | text store id preferred kind =>
      have husual : Inquiry.Usual defaults
          ⟨store, Lookup.languagesFor defaults preferred⟩ := ⟨preferred, rfl⟩
      obtain ⟨hsame, hkeep⟩ := ask_alike kind.resolver
        (fun r => r.one ⟨store, Lookup.languagesFor defaults preferred⟩ id)
        ((hresolver kind).one _ husual id) h h'
      unfold respond text languagesFor
      rw [h.languages, h'.languages]
      exact ⟨congrArg Response.text hsame, hkeep⟩
  | types store ids =>
      have husual : Inquiry.Usual defaults ⟨store, defaults⟩ := ⟨none, rfl⟩
      obtain ⟨hsame, hkeep⟩ := ask_alike Chains.types
        (fun r => Lookup.several r ⟨store, defaults⟩ ids)
        (Lookup.several_related hsteady.types husual ids) h h'
      unfold respond types
      rw [h.languages, h'.languages]
      exact ⟨congrArg Response.types hsame, hkeep⟩

/-! ## Runs -/

/-- What can happen to an application whose graph and services stay as they are. -/
inductive Operation where
  | request (q : Request)
  | trigger (change : Invalidation.Change) (now : Bool)
  | consume

/-- An application after an operation. -/
def after {γ : Type} (app : Application γ ε) : Operation → Application γ ε
  | .request q => (app.respond q).2
  | .trigger change now => app.trigger change now
  | .consume => app.consume.2

/-- An application after a run of operations. -/
def run {γ : Type} (app : Application γ ε) (ops : List Operation) : Application γ ε :=
  ops.foldl after app

theorem Sound.after
    (hsteady : (Discovery.build discoveryName (.ok services)).Steady
      (Backing.Sound m refs) (Inquiry.Usual defaults))
    (h : app.Sound defaults m refs services) (o : Operation) :
    (app.after o).Sound defaults m refs services :=
  match o with
  | .request q => (respond_alike hsteady h h q).2
  | .trigger change now =>
      ⟨h.languages, Invalidation.Relay.trigger_keep Core.reactions_keep change now h.core⟩
  | .consume => ⟨h.languages, Invalidation.Relay.consume_keep Core.reactions_keep h.core⟩

theorem Sound.run
    (hsteady : (Discovery.build discoveryName (.ok services)).Steady
      (Backing.Sound m refs) (Inquiry.Usual defaults))
    (h : app.Sound defaults m refs services) (ops : List Operation) :
    (app.run ops).Sound defaults m refs services := by
  induction ops generalizing app with
  | nil => exact h
  | cons o ops ih => exact ih (h.after hsteady o)

/-- An application over a graph, built from an assembly. -/
def ofAssembly {γ : Type} (settings : Settings) (graph : γ) (outside : ε)
    (a : Assembly γ ε) : Application γ ε where
  languages := settings.languages
  relay :=
    { batch := settings.cache.consumeBatchLimit
      queue := .empty settings.cache.eventQueueLimit
      registry := registryOf a.cacheNames
      world :=
        { backing :=
            { world := ⟨graph, [], {}, [], outside⟩
              texts := a.cacheNames.map (textCache settings)
              types := .empty (partName localName .type) settings.cache (some id) }
          services := a.services
          memo := .empty discoveryName }
      consumptions := 0 }

/-- What a build begins with: the service that answers from the graph. -/
def start (settings : Settings) : Assembly Memory ε where
  services := [localService settings]
  cacheNames := [partName localName .label, partName localName .description]

theorem build_eq (settings : Settings)
    (send : Peer.Call → StateM ε (Option Peer.Reply)) (graph : Memory) (outside : ε) :
    build settings send graph outside =
      (addPeers send (start settings) settings.peers).map
        (ofAssembly settings graph outside) := by
  show (addPeers send (start settings) settings.peers >>= fun a =>
    pure (ofAssembly settings graph outside a)) = _
  cases addPeers send (start settings) settings.peers <;> rfl

theorem ofAssembly_sound (settings : Settings) (m : Memory) (outside : ε)
    (refs : References) (a : Assembly Memory ε) :
    (ofAssembly settings m outside a).Sound settings.languages m refs a.services where
  languages := rfl
  core :=
    { backing :=
        { graph := rfl
          texts := by
            intro place c hget
            replace hget : (a.cacheNames.map (textCache settings))[place]? = some c :=
              hget
            rw [List.getElem?_map, Option.map_eq_some_iff] at hget
            obtain ⟨name, -, rfl⟩ := hget
            exact Partitioned.sound_empty _ _ _
          types := Partitioned.sound_empty _ _ _ }
      same := rfl
      memo := rfl
      chains := fun _ h => nomatch h }

end Application

namespace Settings

/-- A timeout that was accepted is at least a second. -/
theorem timeout_pos {raw : RawSettings} {settings : Settings}
    (h : ofRaw raw = .ok settings) : 0 < settings.batch.timeout :=
  (sound_of_accepted h).timeout

/-- A limit of batches that was accepted lets at least one change through. -/
theorem consumeBatchLimit_pos {raw : RawSettings} {settings : Settings}
    (h : ofRaw raw = .ok settings) : 1 ≤ settings.cache.consumeBatchLimit :=
  (sound_of_accepted h).consumeBatchLimit

end Settings

namespace Application

/-- Whatever has been asked and whatever changes have been told of, an application
that can have a pool responds as one that is built from the same settings with other
caches, among them caches that are switched off. Nothing but the graph, the peers and
the request itself decides the response. -/
theorem respond_transparent {raw : RawSettings} {settings : Settings}
    (haccepted : Settings.ofRaw raw = .ok settings)
    (hpool : settings.batch.workers ≤ Batch.maxWorkers)
    {send : Peer.Call → StateM ε (Option Peer.Reply)} {texts : Peer.Texts}
    (hfixed : Peer.Fixed texts send) {graph : Memory} {outside : ε}
    {app : Application Memory ε} (hbuild : build settings send graph outside = .ok app)
    (config : Cache.Config) (outside' : ε) :
    ∃ other, build { settings with cache := config } send graph outside' = .ok other ∧
      ∀ ops ops' q, ((app.run ops).respond q).1 = ((other.run ops').respond q).1 := by
  rw [build_eq] at hbuild
  cases hassembly : addPeers send (start settings) settings.peers with
  | error e =>
      rw [hassembly] at hbuild
      cases hbuild
  | ok a =>
      rw [hassembly] at hbuild
      obtain rfl := Except.ok.inj hbuild
      have hstart : (start (ε := ε) settings).Stocked (localReferences settings graph)
          settings.languages graph := by
        intro s hs
        rw [List.mem_singleton.1 hs]
        exact localService_supplies hpool (Settings.timeout_pos haccepted) graph
      obtain ⟨refs, hstocked⟩ := addPeers_stocked hfixed hstart hassembly
      have hsteady := Discovery.build_steady discoveryName hstocked
      refine ⟨ofAssembly { settings with cache := config } graph outside' a, ?_, ?_⟩
      · -- The services are made without a look at the cache settings.
        have hsame : addPeers send (start { settings with cache := config })
            settings.peers = .ok a := hassembly
        rw [build_eq, hsame]
        rfl
      · intro ops ops' q
        have happ := ofAssembly_sound settings graph outside refs a
        have hother := ofAssembly_sound { settings with cache := config } graph
          outside' refs a
        exact (respond_alike hsteady (happ.run hsteady ops)
          (hother.run hsteady ops') q).1

/-- An application over one text, with a peer that sends another one whatever it
is asked for. -/
theorem respond_transparent_one_peer :
    let raw : RawSettings :=
      { peers := [⟨"dictionary", "http://[::1]:4000/", none, some ["label"]⟩] }
    let reply : Peer.Reply := ⟨200, "\x7b\"cat\":\"Katze\"\x7d"⟩
    let send : Peer.Call → StateM Unit (Option Peer.Reply) := fun _ => pure (some reply)
    let texts : Peer.Texts := fun _ _ _ id => if "cat" == id then some "Katze" else none
    let graph := Memory.empty.insert "default" "dog"
      "http://www.w3.org/2000/01/rdf-schema#label" (.text (.tagged "Hund" "de"))
    ∃ settings app other, Settings.ofRaw raw = .ok settings ∧
      settings.batch.workers ≤ Batch.maxWorkers ∧ Peer.Fixed texts send ∧
      build settings send graph () = .ok app ∧
      build { settings with cache := { settings.cache with enabled := false } } send
        graph () = .ok other ∧
      ∀ ops q, ((app.run ops).respond q).1 = (other.respond q).1 := by
  intro raw reply send texts graph
  have hreply : reply.texts? = some [("cat", some "Katze")] := by decide +kernel
  have hfixed : Peer.Fixed texts send := by
    intro g endpoint store s k _
    show ((reply.texts?).bind fun texts => texts.get? k.resource).join = _
    rw [hreply]
    show (Table.get? [("cat", some "Katze")] k.resource).join = if _ then _ else _
    rw [Table.get?_cons]
    split <;> rfl
  have hcheck : ((Settings.ofRaw raw).toOption.any fun settings =>
      decide (settings.batch.workers ≤ Batch.maxWorkers) &&
        (build settings send graph ()).isOk) = true := by decide +kernel
  obtain ⟨settings, haccepted, hcheck⟩ := exists_ok_of_any hcheck
  rw [Bool.and_eq_true, decide_eq_true_iff] at hcheck
  obtain ⟨hpool, hbuilds⟩ := hcheck
  cases hbuild : build settings send graph () with
  | error e =>
      rw [hbuild] at hbuilds
      cases hbuilds
  | ok app =>
      obtain ⟨other, hother, hsame⟩ := respond_transparent haccepted hpool hfixed hbuild
        { settings.cache with enabled := false } ()
      exact ⟨settings, app, other, haccepted, hpool, hfixed, hbuild, hother,
        fun ops q => hsame ops [] q⟩

/-- Two resources are looked up one by one and then together, in batches of one and with
one worker more than a pool can have. Only an application that keeps them has an
answer. -/
theorem respond_transparent_without_pool :
    let raw : RawSettings :=
      { batchSize := some 1, batchWorkers := some (Batch.maxWorkers + 1) }
    let send : Peer.Call → StateM Unit (Option Peer.Reply) := fun _ => pure none
    let graph := Memory.empty.insert "default" "dog"
      "http://www.w3.org/2000/01/rdf-schema#label" (.text (.tagged "Hund" "de"))
    let ops : List Operation :=
      [.request (.text "default" "dog" none .label), .request (.text "default" "cat" none .label)]
    let q : Request := .texts "default" ["dog", "cat"] none .label
    ∃ settings app other, Settings.ofRaw raw = .ok settings ∧
      Peer.Fixed (fun _ _ _ _ => none) send ∧
      build settings send graph () = .ok app ∧
      build { settings with cache := { settings.cache with enabled := false } } send
        graph () = .ok other ∧
      ((app.run ops).respond q).1 =
        .texts (.ok [("dog", some (.tagged "Hund" "de")), ("cat", none)]) ∧
      (other.respond q).1 = .texts (.error (.panic Batch.tooManyWorkers)) := by
  intro raw send graph ops q
  have hcheck : ((Settings.ofRaw raw).toOption.any fun settings =>
      (build settings send graph ()).toOption.any fun app =>
        (build { settings with cache := { settings.cache with enabled := false } } send
          graph ()).toOption.any fun other =>
          ((app.run ops).texts "default" ["dog", "cat"] none .label).1.toOption ==
              some [("dog", some (.tagged "Hund" "de")), ("cat", none)] &&
            error? (other.texts "default" ["dog", "cat"] none .label).1 ==
              some (.panic Batch.tooManyWorkers)) = true := by decide +kernel
  obtain ⟨settings, haccepted, hcheck⟩ := exists_ok_of_any hcheck
  obtain ⟨app, hbuild, hcheck⟩ := exists_ok_of_any hcheck
  obtain ⟨other, hother, hcheck⟩ := exists_ok_of_any hcheck
  rw [Bool.and_eq_true, beq_iff_eq, beq_iff_eq] at hcheck
  obtain ⟨hkept, hpanic⟩ := hcheck
  exact ⟨settings, app, other, haccepted, fun _ _ _ _ _ _ => rfl, hbuild, hother,
    congrArg Response.texts (eq_ok_of_toOption hkept),
    congrArg Response.texts (eq_error_of_error? hpanic)⟩

end Application

end Nomenclator

import Nomenclator.Application.World
import Nomenclator.Lookup
import Nomenclator.Proofs.Effect
import Nomenclator.Proofs.Keeping
import Nomenclator.Proofs.Loading

/-!
# What stands behind the caches

Three loaders stand behind the caches of an application: texts and types come
from a graph, and other texts from peers. Each says the same of a key whenever it
is asked, as long as the graph stays the same and the peers keep to their
answers, and does not mind which other keys it is asked for together.

Texts are the one case where equal keys need care. Two keys are equal when they
ask for the same resource in the same language, but it is the fallbacks that
decide when there is no text in that language. All questions to an application
have their fallbacks from its own preference, however, and what is left of that
preference behind a language depends on the language only.
-/

namespace Nomenclator

open Nomenclator.Graph (Memory)
open Cache (Key Reference)

/-! ## Preferences -/

namespace Language

theorem Preference.unseen_unseen (known ts : List Tag) :
    unseen known (unseen known ts) = unseen known ts := by
  induction ts generalizing known with
  | nil => rfl
  | cons t ts ih =>
      by_cases ht : t ∈ known
      · simp only [unseen, if_pos ht, ih]
      · simp only [unseen, if_neg ht, ih]

/-- However a preference for a question comes about, its languages are ranked as
the effective one in front of the usual ones. -/
theorem ranking_languagesFor (defaults : Preference) (preferred : Option String) :
    ranking (Lookup.languagesFor defaults preferred).effective
        (Lookup.languagesFor defaults preferred).fallbacks =
      ranking (Lookup.languagesFor defaults preferred).effective defaults.tags := by
  cases preferred with
  | none =>
      have hdrop : Preference.unseen [defaults.effective] defaults.tags =
          Preference.unseen [defaults.effective] defaults.fallbacks := by
        unfold Preference.tags
        rw [Preference.unseen, if_pos (List.mem_singleton.2 rfl)]
      unfold ranking Lookup.languagesFor
      rw [hdrop]
  | some tag =>
      unfold ranking Lookup.languagesFor Preference.withPrimary
      rw [Preference.unseen_unseen]

end Language

/-- The keys of questions to an application with a preference. -/
def Cache.Key.Usual (defaults : Language.Preference) (k : Key) : Prop :=
  ∃ preferred, k.languages = Lookup.languagesFor defaults preferred

theorem Cache.Key.Usual.choose_congr {defaults : Language.Preference} {k k' : Key}
    (hk : k.Usual defaults) (hk' : k'.Usual defaults)
    (h : k.languages.effective = k'.languages.effective) (texts : List TextValue) :
    Language.choose k.languages.effective k.languages.fallbacks texts =
      Language.choose k'.languages.effective k'.languages.fallbacks texts := by
  obtain ⟨preferred, hp⟩ := hk
  obtain ⟨preferred', hp'⟩ := hk'
  unfold Language.choose
  rw [hp, hp'] at h ⊢
  rw [Language.ranking_languagesFor, Language.ranking_languagesFor, h]

/-! ## The graph -/

namespace Loader

variable {ε : Type}

theorem Text.best_congr {defaults : Language.Preference} {k k' : Key}
    (hk : k.Usual defaults) (hk' : k'.Usual defaults) (h : (k == k') = true)
    (values : ResourceId → List TextValue) : best values k = best values k' := by
  obtain ⟨hresource, heffective⟩ := Prod.mk.inj (Key.beq_iff.1 h)
  unfold best
  rw [hresource, hk.choose_congr hk' heffective]

/-- What stands behind a cache of texts from a graph. -/
def Text.reference (defaults : Language.Preference) (m : Memory) (o : Origin) :
    Reference Key TextValue where
  admits k := k.Usual defaults
  values store := (contents m Term.text? o.candidates store).map fun values k =>
    (best values k).value?
  congr := by
    intro store f hf k k' hk hk' hsame
    cases hcontents : contents m Term.text? o.candidates store with
    | error e =>
        rw [hcontents] at hf
        cases hf
    | ok values =>
        rw [hcontents] at hf
        obtain rfl := Except.ok.inj hf
        exact congrArg Resolution.value? (best_congr hk hk' hsame values)

/-- Texts from a graph that stays as it is. -/
theorem Text.follows (defaults : Language.Preference) (m : Memory) {o : Origin}
    (hpool : o.batch.workers ≤ Batch.maxWorkers) (htime : 0 < o.batch.timeout) :
    (Text.reference defaults m o).Follows (fun w : World Memory ε => w.graph = m)
      (World.textLoader o) := by
  rintro w rfl store keys hne hkeys
  refine ⟨?_, rfl⟩
  have hrun : (((World.textLoader (ε := ε) o).loadAll store keys).run.run w).1 =
      (Text.resolve w.graph o store keys).result := rfl
  rw [hrun, Text.result_resolve w.graph htime store (.inr hpool) hne]
  refine .of_map rfl fun values _ k hk => ?_
  unfold Cache.Partitioned.loadedValue
  rw [Table.get?_map fun x hx hsame =>
    best_congr (hkeys x (mem_of_mem_distinct hx)) (hkeys k hk) hsame values,
    if_pos (any_distinct_of_mem hk)]
  rfl

/-- What stands behind the cache of types. -/
def Kind.reference (m : Memory) (o : Origin) : Reference ResourceId ResourceId where
  admits _ := True
  values store := (contents m Term.iri? o.candidates store).map fun values id =>
    (first values id).value?
  congr _ _ _ _ _ hsame := by rw [eq_of_beq hsame]

/-- Types from a graph that stays as it is. -/
theorem Kind.follows (m : Memory) {o : Origin} (hpool : o.batch.workers ≤ Batch.maxWorkers)
    (htime : 0 < o.batch.timeout) :
    (Kind.reference m o).Follows (fun w : World Memory ε => w.graph = m)
      (World.typeLoader o) := by
  rintro w rfl store ids hne hids
  refine ⟨?_, rfl⟩
  have hrun : (((World.typeLoader (ε := ε) o).loadAll store ids).run.run w).1 =
      (Kind.resolve w.graph o store ids).result := rfl
  rw [hrun, Kind.result_resolve w.graph store (.inr hpool) (.inr htime) hne]
  refine .of_map rfl fun values _ id hid => ?_
  unfold Cache.Partitioned.loadedValue
  rw [Kind.get?_typed hid]
  rfl

end Loader

/-! ## Peers -/

namespace Peer

open Nomenclator.Language (Tag)

/-- The texts that peers have: one or none for a resource, by the endpoint, the
store and the language of a call. -/
abbrev Texts := Url → StoreName → Tag → ResourceId → Option String

/-- The text that a reply has for a resource. No reply has none, and neither has
one that cannot be read. -/
def textOf (reply : Option Reply) (id : ResourceId) : Option String :=
  ((reply.bind Reply.texts?).bind fun texts => texts.get? id).join

/-- Calls that bring the same texts whatever the state of the outside world and
whichever other resources they ask for. -/
def Fixed {σ : Type} (texts : Texts) (send : Call → StateM σ (Option Reply)) : Prop :=
  ∀ (g : Group) endpoint store s, ∀ k ∈ g.keys,
    textOf ((send (g.call endpoint store)).run s).1 k.resource =
      texts endpoint store g.language k.resource

/-- The text that is made of what a peer has. -/
def shown (text : Option String) : Option TextValue :=
  text.bind fun s => if s.isEmpty then none else some (TextValue.plain s)

theorem resolution_eq (texts : Table ResourceId (Option String)) (k : Key) :
    resolution texts k = .ofOption (shown (texts.get? k.resource).join) := by
  unfold resolution shown
  cases texts.get? k.resource with
  | none => rfl
  | some text =>
      cases text with
      | none => rfl
      | some s =>
          show (if s.isEmpty then .notFound else .found (TextValue.plain s)) =
            Resolution.ofOption (if s.isEmpty then none else some (TextValue.plain s))
          cases s.isEmpty <;> rfl

/-- What stands behind a cache of texts from a peer. -/
def reference (texts : Texts) (endpoint : Url) : Reference Key TextValue where
  admits _ := True
  values store := .ok fun k =>
    shown (texts endpoint store k.languages.effective k.resource)
  congr := by
    intro store f hf k k' _ _ hsame
    obtain ⟨hresource, heffective⟩ := Prod.mk.inj (Key.beq_iff.1 hsame)
    obtain rfl := Except.ok.inj hf
    dsimp only
    rw [hresource, heffective]

variable {σ : Type} {texts : Texts} {link : Link σ}

/-- A link whose calls keep an invariant. -/
structure Link.Keeps (link : Link σ) (meets : σ → Prop) : Prop where
  send : ∀ call s, meets s → meets ((link.send call).run s).2
  noteFailure : ∀ s, meets s → meets (link.noteFailure.run s).2

variable {meets : σ → Prop}

/-- One call of a link, whether it fails or not. -/
theorem askGroup_eq (link : Link σ) (store : StoreName) (g : Group) (s : σ) :
    ((askGroup link store g).run s).1 = g.keys.map fun k =>
      (k, .ofOption (shown
        (textOf ((link.send (g.call link.endpoint store)).run s).1 k.resource))) := by
  unfold askGroup textOf
  rw [Effect.runState_bind]
  generalize (link.send (g.call link.endpoint store)).run s = out
  obtain ⟨reply, t⟩ := out
  dsimp only
  cases reply.bind Reply.texts? with
  | none => rfl
  | some texts => exact List.map_congr_left fun k _ => by rw [resolution_eq]; rfl

theorem askGroup_keeps (hkeeps : link.Keeps meets) (store : StoreName) (g : Group) {s : σ}
    (hs : meets s) : meets ((askGroup link store g).run s).2 := by
  have hkeep := hkeeps.send (g.call link.endpoint store) s hs
  unfold askGroup
  rw [Effect.runState_bind]
  generalize (link.send (g.call link.endpoint store)).run s = out at hkeep ⊢
  obtain ⟨reply, t⟩ := out
  dsimp only
  cases reply.bind Reply.texts? with
  | none => exact hkeeps.noteFailure t hkeep
  | some texts => exact hkeep

theorem askGroup_fixed (hfixed : Fixed texts link.send) (hkeeps : link.Keeps meets)
    (store : StoreName) (g : Group) {s : σ} (hs : meets s) :
    ((askGroup link store g).run s).1 = (g.keys.map fun k =>
        (k, .ofOption (shown (texts link.endpoint store g.language k.resource)))) ∧
      meets ((askGroup link store g).run s).2 := by
  refine ⟨?_, askGroup_keeps hkeeps store g hs⟩
  rw [askGroup_eq]
  refine List.map_congr_left fun k hk => ?_
  rw [hfixed g link.endpoint store s k hk]

/-- The calls for some groups, one after the other. -/
theorem askGroups_fixed (hfixed : Fixed texts link.send) (hkeeps : link.Keeps meets)
    (store : StoreName) (gs : List Group) {s : σ} (hs : meets s) :
    ((askGroups link store gs).run s).1 = (gs.flatMap fun g => g.keys.map fun k =>
        (k, .ofOption (shown (texts link.endpoint store g.language k.resource)))) ∧
      meets ((askGroups link store gs).run s).2 := by
  induction gs generalizing s with
  | nil => exact ⟨rfl, hs⟩
  | cons g gs ih =>
      obtain ⟨hanswers, hkeep⟩ := askGroup_fixed hfixed hkeeps store g hs
      obtain ⟨hrest, hkept⟩ := ih hkeep
      unfold askGroups
      rw [Effect.runState_bind, Effect.runState_bind, List.flatMap_cons, ← hrest,
        ← hanswers]
      exact ⟨rfl, hkept⟩

/-- The keys of a language among some keys. -/
def groupOf (keys : List Key) (language : Tag) : Group :=
  ⟨language, keys.filter fun k => k.languages.effective = language⟩

theorem eq_groupOf {keys : List Key} {g : Group} (hg : g ∈ groups keys) :
    g = groupOf keys g.language := by
  obtain ⟨language, -, rfl⟩ := List.mem_map.1 hg
  rfl

/-- An answer for every key of every group, which depends on the group and the resource,
is the answer for the key. -/
theorem get?_groups {α : Type} (answer : Group → ResourceId → α) {keys : List Key} {k : Key}
    (hk : k ∈ keys) :
    Table.get? ((groups (distinct keys)).flatMap fun g => g.keys.map fun k =>
      (k, answer g k.resource)) k =
      some (answer (groupOf (distinct keys) k.languages.effective) k.resource) := by
  refine Table.get?_of_forall (fun e he hsame => ?_) ?_
  · obtain ⟨g, hg, he⟩ := List.mem_flatMap.1 he
    obtain ⟨x, hx, rfl⟩ := List.mem_map.1 he
    obtain ⟨hresource, heffective⟩ := Prod.mk.inj (Key.beq_iff.1 hsame)
    rw [eq_groupOf hg] at hx ⊢
    have hlanguage : x.languages.effective = g.language :=
      of_decide_eq_true (List.mem_filter.1 hx).2
    dsimp only
    rw [← hlanguage, hresource, heffective]
  · obtain ⟨x, hx, hsame⟩ := List.any_eq_true.1 (any_distinct_of_mem hk)
    have hgroup : groupOf (distinct keys) x.languages.effective ∈ groups (distinct keys) :=
      List.mem_map_of_mem (mem_distinct.2 (List.mem_map_of_mem hx))
    have hmem : x ∈ (groupOf (distinct keys) x.languages.effective).keys :=
      List.mem_filter.2 ⟨hx, decide_eq_true rfl⟩
    exact List.any_eq_true.2 ⟨_,
      List.mem_flatMap.2 ⟨_, hgroup, List.mem_map_of_mem hmem⟩, hsame⟩

theorem resolve_fixed (hfixed : Fixed texts link.send) (hkeeps : link.Keeps meets)
    (store : StoreName) (keys : List Key) {s : σ} (hs : meets s) :
    (∀ k ∈ keys, Cache.Partitioned.loadedValue ((resolve link store keys).run s).1 k =
        shown (texts link.endpoint store k.languages.effective k.resource)) ∧
      meets ((resolve link store keys).run s).2 := by
  obtain ⟨hanswers, hkept⟩ :=
    askGroups_fixed hfixed hkeeps store (groups (distinct keys)) hs
  refine ⟨fun k hk => ?_, hkept⟩
  have hvalue := get?_groups (fun g id =>
    Resolution.ofOption (shown (texts link.endpoint store g.language id))) hk
  unfold resolve Cache.Partitioned.loadedValue
  rw [hanswers, hvalue]
  exact Resolution.value?_ofOption _

/-- Texts from a peer that keeps to its answers. A call that fails shows as
answers without a text, and so it is no failure. -/
theorem follows {ε : Type} {m : Memory}
    {send : Call → StateM ε (Option Reply)} (hfixed : Fixed texts send)
    (name : String) (endpoint : Url) :
    (reference texts endpoint).Follows (fun w : World Memory ε => w.graph = m)
      (World.peerLoader name endpoint send) := by
  intro w hw store keys _ _
  let link : Link (World Memory ε) :=
    { endpoint := endpoint
      send := fun call => World.onOutside (send call)
      noteFailure := modify (World.noteFailure name) }
  have hfixed' : Fixed texts link.send :=
    fun g endpoint store v => hfixed g endpoint store v.outside
  have hkeeps : link.Keeps fun v => v.graph = m := ⟨fun _ _ hv => hv, fun _ hv => hv⟩
  obtain ⟨hvalue, hkept⟩ := resolve_fixed hfixed' hkeeps store keys hw
  exact ⟨.loaded rfl hvalue, hkept⟩

end Peer

end Nomenclator

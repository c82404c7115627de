import Nomenclator.Proofs.Degradation
import Nomenclator.Proofs.Effect
import Nomenclator.Proofs.Keeping
import Nomenclator.Resolver.Cached

/-!
# Resolvers that always give the same answers

A resolver acts on a state, and what it answers might depend on that state. It is
steady under an invariant when it does not: asked the same from two states with
the invariant, it gives the same answers and keeps the invariant. Cached
resolvers are steady when their caches are sound, because the answer to a
request is then a matter of what stands behind the cache. Everything that is
made of steady resolvers is steady again: a chain passes on the same resources
in both runs, since it has seen the same answers.
-/

namespace Nomenclator

open Effect (Related)

variable {η σ α : Type}

namespace Resolver

/-- Answers that say the same of some resources. They may be in another order,
and what they say of other resources is of no interest. -/
def AgreeOn (ids : List ResourceId) (answers answers' : Answers ResourceId α) : Prop :=
  ∀ id ∈ ids, answers.get? id = answers'.get? id

/-- A resolver whose answers do not depend on the state, as long as the state
has an invariant, and which keeps the invariant. -/
structure Steady (holds : σ → Prop) (admits : Inquiry → Prop)
    (r : Resolver η σ α) : Prop where
  many : ∀ inquiry, admits inquiry → ∀ ids,
    Related holds (AgreeOn ids) (r.many inquiry ids) (r.many inquiry ids)
  one : ∀ inquiry, admits inquiry → ∀ id,
    Related holds Eq (r.one inquiry id) (r.one inquiry id)

variable {holds : σ → Prop} {admits : Inquiry → Prop}

theorem noop_steady (name : String) :
    (noop name : Resolver η σ α).Steady holds admits where
  many _ _ _ := .pure fun _ _ => rfl
  one _ _ _ := .pure rfl

/-! ## Chains -/

theorem AgreeOn.foundAmong {ids : List ResourceId}
    {answers answers' : Answers ResourceId α} (h : AgreeOn ids answers answers') :
    foundAmong answers ids = foundAmong answers' ids := by
  unfold Resolver.foundAmong
  induction ids with
  | nil => rfl
  | cons id ids ih =>
      rw [List.filterMap_cons, List.filterMap_cons, h id List.mem_cons_self,
        ih fun id' hid' => h id' (List.mem_cons_of_mem id hid')]

theorem AgreeOn.absentAmong {ids : List ResourceId}
    {answers answers' : Answers ResourceId α} (h : AgreeOn ids answers answers') :
    absentAmong answers ids = absentAmong answers' ids := by
  unfold Resolver.absentAmong
  refine List.filter_congr fun id hid => ?_
  rw [h id hid]

theorem narrow_steady {ds : List (Resolver η σ α)}
    (hds : ∀ d ∈ ds, d.Steady holds admits) {inquiry : Inquiry}
    (hinquiry : admits inquiry) (left : List ResourceId) :
    Related holds Eq (narrow inquiry left ds) (narrow inquiry left ds) := by
  induction ds generalizing left with
  | nil => exact .pure rfl
  | cons d rest ih =>
      have hrest := ih fun d' hd' => hds d' (List.mem_cons_of_mem d hd')
      unfold narrow
      split
      · exact .pure rfl
      · refine ((hds d List.mem_cons_self).many inquiry hinquiry left).bind ?_
        intro answers answers' hagree
        rw [← hagree.foundAmong, ← hagree.absentAmong]
        refine (hrest (Resolver.absentAmong answers left)).bind ?_
        rintro found _ rfl
        exact .pure rfl

theorem firstValue_steady {ds : List (Resolver η σ α)}
    (hds : ∀ d ∈ ds, d.Steady holds admits) {inquiry : Inquiry}
    (hinquiry : admits inquiry) (id : ResourceId) :
    Related holds Eq (firstValue inquiry id ds) (firstValue inquiry id ds) := by
  induction ds with
  | nil => exact .pure rfl
  | cons d rest ih =>
      unfold firstValue
      refine ((hds d List.mem_cons_self).one inquiry hinquiry id).bind ?_
      rintro v _ rfl
      cases v with
      | some v => exact .pure rfl
      | none => exact ih fun d' hd' => hds d' (List.mem_cons_of_mem d hd')

theorem chain_steady (name : String) {ds : List (Resolver η σ α)}
    (hds : ∀ d ∈ ds, d.Steady holds admits) :
    (chain name ds).Steady holds admits where
  many inquiry hinquiry ids := by
    refine (narrow_steady hds hinquiry ids).bind ?_
    rintro found _ rfl
    exact .pure fun _ _ => rfl
  one inquiry hinquiry id := firstValue_steady hds hinquiry id

end Resolver

/-! ## Cached resolvers -/

open Cache (Reference Partitioned)

variable {ω κ : Type} [BEq κ]

/-- What an invariant of a state says of a shelf: that its cache is sound and its
loaders meet what they expect, and that both may change as long as they stay so. -/
structure Shelf.Guarded (shelf : Shelf σ ω κ α) (holds : σ → Prop)
    (meets : ω → Prop) (ref : Reference κ α) : Prop where
  cache : ∀ s, holds s → (shelf.cache s).Sound ref
  world : ∀ s, holds s → meets (shelf.world s)
  put : ∀ s c w, holds s → c.Sound ref → meets w →
    holds (shelf.setCache c (shelf.setWorld w s))

variable {shelf : Shelf σ ω κ α} {holds : σ → Prop} {meets : ω → Prop}
  {ref : Reference κ α} {loader : Loader ω κ α}

theorem Shelf.run_request (shelf : Shelf σ ω κ α) (loader : Loader ω κ α)
    (store : StoreName) (ks : List κ) (s : σ) :
    (shelf.request loader store ks).run.run s =
      let asked := ((shelf.cache s).getAllOrLoad loader store ks).run (shelf.world s)
      (asked.1.1, shelf.setCache asked.1.2 (shelf.setWorld asked.2 s)) := rfl

theorem Shelf.Guarded.request [ReflBEq κ] (hshelf : shelf.Guarded holds meets ref)
    (hloader : ref.Follows meets loader) (store : StoreName) {ks : List κ}
    (hks : ∀ k ∈ ks, ref.admits k) {s : σ} (hs : holds s) :
    ref.Answered store ks ((shelf.request loader store ks).run.run s).1 ∧
      holds ((shelf.request loader store ks).run.run s).2 := by
  obtain ⟨hanswered, hsound, hmeets⟩ := (hshelf.cache s hs).getAllOrLoad hloader
    store hks (hshelf.world s hs)
  exact ⟨hanswered, hshelf.put s _ _ hs hsound hmeets⟩

open Cache (Told)

/-- Two requests for the same keys are told the same. -/
theorem Cache.Reference.Answered.agree {store : StoreName} {ks : List κ}
    {r r' : Except ResolveError (Answers κ α)} (h : ref.Answered store ks r)
    (h' : ref.Answered store ks r') :
    Effect.Agree (fun a a' => ∃ f, Told f ks a ∧ Told f ks a') r r' := by
  cases h with
  | nothing hks =>
      subst hks
      cases h' with
      | nothing _ => exact .done ⟨fun _ => none, .nil _, .nil _⟩
      | failed _ hne => exact absurd rfl hne
      | @told f _ _ htold => exact .done ⟨f, .nil _, htold⟩
  | failed he hne =>
      cases h' with
      | nothing hks => exact absurd hks hne
      | failed he' _ =>
          rw [Except.error.inj (he.symm.trans he')]
          exact .failed _
      | told hf _ => cases he.symm.trans hf
  | @told f _ hf htold =>
      cases h' with
      | nothing hks =>
          subst hks
          exact .done ⟨f, htold, .nil _⟩
      | failed he _ => cases he.symm.trans hf
      | told hf' htold' =>
          obtain rfl := Except.ok.inj (hf.symm.trans hf')
          exact .done ⟨_, htold, htold'⟩

theorem Shelf.Guarded.request_related [ReflBEq κ]
    (hshelf : shelf.Guarded holds meets ref) (hloader : ref.Follows meets loader)
    (store : StoreName) {ks : List κ} (hks : ∀ k ∈ ks, ref.admits k) :
    Related holds (fun a a' => ∃ f, Told f ks a ∧ Told f ks a')
      (shelf.request loader store ks) (shelf.request loader store ks) := by
  intro s s' hs hs'
  obtain ⟨hanswered, hkeep⟩ := hshelf.request hloader store hks hs
  obtain ⟨hanswered', hkeep'⟩ := hshelf.request hloader store hks hs'
  exact ⟨hanswered.agree hanswered', hkeep, hkeep'⟩

/-- Answers for keys are answers for their resources. -/
theorem Cache.Told.get?_ofEntries {f : κ → Option α} {key : ResourceId → κ}
    {resource : κ → ResourceId} (hkey : ∀ id, resource (key id) = id)
    (hresource : ∀ k k' : κ, (k == k') = true → resource k = resource k')
    {ids : List ResourceId} {answers : Answers κ α}
    (h : Told f (ids.map key) answers) {id : ResourceId} (hid : id ∈ ids) :
    (Table.ofEntries (answers.map fun e => (resource e.1, e.2))).get? id =
      some (.ofOption (f (key id))) := by
  have hentries : ∀ e ∈ answers.map fun e => (resource e.1, e.2),
      e.2 = Resolution.ofOption (f (key e.1)) := by
    intro e he
    obtain ⟨x, hx, rfl⟩ := List.mem_map.1 he
    obtain ⟨hmem, hvalue⟩ := h.values x hx
    obtain ⟨id', -, hid'⟩ := List.mem_map.1 hmem
    dsimp only
    rw [hvalue, ← hid', hkey]
  have hhas : (answers.map fun e => (resource e.1, e.2)).any (·.1 == id) = true := by
    obtain ⟨e, he, hsame⟩ := List.any_eq_true.1
      (h.complete (key id) (List.mem_map_of_mem hid))
    refine List.any_eq_true.2 ⟨(resource e.1, e.2), List.mem_map_of_mem he, ?_⟩
    dsimp only
    rw [hresource _ _ hsame, hkey, beq_self_eq_true]
  exact Table.get?_ofEntries (g := fun id => Resolution.ofOption (f (key id)))
    hentries hhas

/-- An answer for one key. -/
theorem Cache.Told.value [ReflBEq κ] {f : κ → Option α} {k : κ} {answers : Answers κ α}
    (h : Told f [k] answers) : (answers.get? k).bind Resolution.value? = f k := by
  have hget : answers.get? k = some (.ofOption (f k)) := by
    refine Table.get?_of_forall (fun e he _ => ?_)
      (h.complete k (List.mem_singleton.2 rfl))
    obtain ⟨hmem, hvalue⟩ := h.values e he
    rw [hvalue, List.mem_singleton.1 hmem]
  rw [hget]
  exact Resolution.value?_ofOption (f k)

/-- A resolver is steady that answers from a sound cache. -/
theorem Resolver.cached_steady [ReflBEq κ] (name : String) (part : η)
    (hshelf : shelf.Guarded holds meets ref) (hloader : ref.Follows meets loader)
    {key : ResourceId → Language.Preference → κ} {resource : κ → ResourceId}
    (hkey : ∀ id p, resource (key id p) = id)
    (hresource : ∀ k k' : κ, (k == k') = true → resource k = resource k')
    {admits : Inquiry → Prop}
    (hadmits : ∀ inquiry, admits inquiry → ∀ id, ref.admits (key id inquiry.languages)) :
    (cached name part shelf loader key resource).Steady holds admits where
  many inquiry hinquiry ids := by
    have hks : ∀ k ∈ ids.map fun id => key id inquiry.languages, ref.admits k := by
      intro k hk
      obtain ⟨id, -, rfl⟩ := List.mem_map.1 hk
      exact hadmits inquiry hinquiry id
    refine (hshelf.request_related hloader inquiry.store hks).bind ?_
    rintro answers answers' ⟨f, htold, htold'⟩
    refine .pure fun id hid => ?_
    have hkey' := fun id => hkey id inquiry.languages
    rw [htold.get?_ofEntries hkey' hresource hid,
      htold'.get?_ofEntries hkey' hresource hid]
  one inquiry hinquiry id := by
    have hks : ∀ k ∈ [key id inquiry.languages], ref.admits k := by
      intro k hk
      rw [List.mem_singleton.1 hk]
      exact hadmits inquiry hinquiry id
    refine (hshelf.request_related hloader inquiry.store hks).bind ?_
    rintro answers answers' ⟨f, htold, htold'⟩
    refine .pure ?_
    rw [htold.value, htold'.value]

/-! ## Discovery and lookups -/

namespace Discovery

/-- The resolver for a capability is steady if those of the services are. -/
theorem capability_steady {admits : Inquiry → Prop} (id : String) (c : Capability)
    {resolver : Service η σ → Except DiscoveryError (Resolver η σ α)}
    {services : List (Service η σ)}
    (h : ∀ s ∈ services, ∀ r, resolver s = .ok r → r.Steady holds admits) :
    (capability id c resolver (.ok services)).Steady holds admits :=
  capability_closed id Resolver.noop_steady (fun name _ => Resolver.chain_steady name) h

end Discovery

/-- Lookups of several resources do not depend on the state. -/
theorem Lookup.several_related {admits : Inquiry → Prop} {r : Resolver η σ α}
    (h : r.Steady holds admits) {inquiry : Inquiry} (hinquiry : admits inquiry)
    (ids : List ResourceId) :
    Related holds Eq (several r inquiry ids) (several r inquiry ids) := by
  refine (h.many inquiry hinquiry (distinct ids)).bind ?_
  intro answers answers' hagree
  refine .pure ?_
  unfold valuesFor Resolver.valueOf
  refine List.map_congr_left fun id hid => ?_
  rw [hagree id hid]

end Nomenclator

import Mathlib.Data.List.Forall2
import Nomenclator.Lookup
import Nomenclator.Proofs.Delegation

/-!
# Capabilities degrade one by one

A capability has the resolvers of all services that claim it, or none. It has none
as soon as one service spoils it, by not telling what it offers or by not delivering
what it claims. What a service delivers for the other capabilities does not come in.

Among the resolvers of a capability that is not spoiled there may be only one, and
then no chain is built around it. Nobody can tell: a chain of one asks for the same
resources, and what it makes of the answers is what a lookup makes of them anyway.
This is so because a lookup turns all that is not found into the same thing, and it
is so only where something is asked for, for a chain asks nobody for nothing.

A resolver that finds nothing may also come from a service. So "finds nothing" is
not a property that a resolver shows, and the three shapes are told apart before
they become resolvers.
-/

namespace Nomenclator

variable {η σ α : Type}

namespace Discovery

/-! ## Services that count -/

section

variable {c : Capability} {resolver : Service η σ → Except DiscoveryError (Resolver η σ α)}

/-- The service has told what it offers, and the capability is part of it. -/
def Service.claims (c : Capability) (s : Service η σ) : Bool :=
  s.descriptor.toOption.any (·.capabilities.supports c)

/-- The service leaves nothing of a capability, whatever the other services do. -/
inductive Service.Spoils (c : Capability)
    (resolver : Service η σ → Except DiscoveryError (Resolver η σ α)) (s : Service η σ) :
    Prop where
  | silent {e : DiscoveryError} (h : s.descriptor = .error e)
  | undelivered {e : DiscoveryError} (hclaims : s.claims c = true) (h : resolver s = .error e)

/-- The resolvers that are delivered for a capability by those that claim it, in the
order of the services. -/
def claimants (c : Capability)
    (resolver : Service η σ → Except DiscoveryError (Resolver η σ α))
    (services : List (Service η σ)) : List (Resolver η σ α) :=
  (services.filter (·.claims c)).filterMap fun s => (resolver s).toOption

theorem Service.claims_eq {s : Service η σ} {d : Descriptor} (h : s.descriptor = .ok d) :
    s.claims c = d.capabilities.supports c := by
  rw [Service.claims, h]
  rfl

theorem claimants_cons_of_claims {s : Service η σ} {services : List (Service η σ)}
    {r : Resolver η σ α} (hclaims : s.claims c = true) (hr : resolver s = .ok r) :
    claimants c resolver (s :: services) = r :: claimants c resolver services := by
  rw [claimants, List.filter_cons_of_pos hclaims, List.filterMap_cons, hr]
  rfl

theorem claimants_cons_of_not_claims {s : Service η σ} {services : List (Service η σ)}
    (hclaims : ¬ s.claims c = true) :
    claimants c resolver (s :: services) = claimants c resolver services := by
  rw [claimants, List.filter_cons_of_neg hclaims]
  rfl

theorem exists_of_mem_claimants {services : List (Service η σ)} {r : Resolver η σ α}
    (h : r ∈ claimants c resolver services) : ∃ s ∈ services, resolver s = .ok r := by
  obtain ⟨s, hs, hr⟩ := List.mem_filterMap.1 h
  exact ⟨s, (List.mem_filter.1 hs).1, eq_ok_of_toOption hr⟩

/-- All resolvers that count are there, or some service has spoiled the capability. -/
theorem delegates_cases (c : Capability)
    (resolver : Service η σ → Except DiscoveryError (Resolver η σ α))
    (services : List (Service η σ)) :
    (∃ e, delegates c resolver services = .error e) ∧
        (∃ s ∈ services, s.Spoils c resolver) ∨
      delegates c resolver services = .ok (claimants c resolver services) ∧
        ∀ s ∈ services, ¬ s.Spoils c resolver := by
  -- One service spoils the capability at once, whatever comes behind it; otherwise it
  -- is spoiled if and only if it is among the services behind.
  induction services with
  | nil => exact .inr ⟨rfl, fun s hs => absurd hs List.not_mem_nil⟩
  | cons s services ih =>
      unfold delegates
      cases hd : s.descriptor with
      | error e => exact .inl ⟨⟨e, rfl⟩, s, List.mem_cons_self, .silent hd⟩
      | ok d =>
          show (∃ e, (if d.capabilities.supports c then _ else _) = _) ∧ _ ∨
            (if d.capabilities.supports c then _ else _) = _ ∧ _
          rw [← Service.claims_eq hd]
          by_cases hclaims : s.claims c = true
          · simp only [if_pos hclaims]
            cases hr : resolver s with
            | error e =>
                exact .inl ⟨⟨e, rfl⟩, s, List.mem_cons_self, .undelivered hclaims hr⟩
            | ok r =>
                rcases ih with ⟨⟨e, he⟩, s', hs', hspoils⟩ | ⟨hok, hnone⟩
                · rw [he]
                  exact .inl ⟨⟨e, rfl⟩, s', List.mem_cons_of_mem s hs', hspoils⟩
                · rw [hok, claimants_cons_of_claims hclaims hr]
                  refine .inr ⟨rfl, List.forall_mem_cons.2 ⟨fun hspoils => ?_, hnone⟩⟩
                  cases hspoils with
                  | silent h => cases hd.symm.trans h
                  | undelivered _ h => cases hr.symm.trans h
          · simp only [if_neg hclaims, claimants_cons_of_not_claims hclaims]
            rcases ih with ⟨he, s', hs', hspoils⟩ | ⟨hok, hnone⟩
            · exact .inl ⟨he, s', List.mem_cons_of_mem s hs', hspoils⟩
            · refine .inr ⟨hok, List.forall_mem_cons.2 ⟨fun hspoils => ?_, hnone⟩⟩
              cases hspoils with
              | silent h => cases hd.symm.trans h
              | undelivered h _ => exact hclaims h

/-- As long as nobody spoils the capability, it has a resolver for each claim. -/
theorem claimants_eq_nil {services : List (Service η σ)}
    (h : ∀ s ∈ services, ¬ s.Spoils c resolver) :
    claimants c resolver services = [] ↔ ∀ s ∈ services, ¬ s.claims c = true := by
  rw [claimants, List.filterMap_eq_nil_iff]
  refine forall_congr' fun s => ?_
  rw [List.mem_filter]
  constructor
  · intro hnone hs hclaims
    cases hr : resolver s with
    | error e => exact h s hs (.undelivered hclaims hr)
    | ok r =>
        have hno := hnone ⟨hs, hclaims⟩
        rw [hr] at hno
        cases hno
  · intro hno hs
    exact absurd hs.2 (hno hs.1)

end

/-! ## The three shapes -/

/-- What services may come to for a capability. -/
inductive Finding (η σ α : Type) where
  | nothing
  | only (r : Resolver η σ α)
  | several (rs : List (Resolver η σ α))

/-- The resolver for what was found. -/
def Finding.resolver (name : String) : Finding η σ α → Resolver η σ α
  | .nothing => .noop name
  | .only r => r
  | .several rs => .chain name rs

/-- What some resolvers that count come to. -/
def Finding.ofList : List (Resolver η σ α) → Finding η σ α
  | [] => .nothing
  | [r] => .only r
  | rs => .several rs

/-- What the services come to, read off the walk that collects their resolvers. -/
def finding (c : Capability)
    (resolver : Service η σ → Except DiscoveryError (Resolver η σ α))
    (services : Except DiscoveryError (List (Service η σ))) : Finding η σ α :=
  match services.bind (delegates c resolver) with
  | .ok rs => .ofList rs
  | .error _ => .nothing

/-- Why nothing is found for a capability. -/
inductive Lacking (c : Capability)
    (resolver : Service η σ → Except DiscoveryError (Resolver η σ α)) :
    Except DiscoveryError (List (Service η σ)) → Prop where
  /-- Nobody can tell the services. -/
  | unavailable (e : DiscoveryError) : Lacking c resolver (.error e)
  /-- Some service does not tell what it offers, or not deliver what it claims. -/
  | spoiled {services : List (Service η σ)} {s : Service η σ} (hs : s ∈ services)
      (h : s.Spoils c resolver) : Lacking c resolver (.ok services)
  /-- No service claims the capability. -/
  | unclaimed {services : List (Service η σ)}
      (h : ∀ s ∈ services, ¬ s.claims c = true) : Lacking c resolver (.ok services)

section

variable {c : Capability} {resolver : Service η σ → Except DiscoveryError (Resolver η σ α)}
  {services : List (Service η σ)}

theorem lacking_ok_iff :
    Lacking c resolver (.ok services) ↔
      (∃ s ∈ services, s.Spoils c resolver) ∨ ∀ s ∈ services, ¬ s.claims c = true := by
  constructor
  · intro h
    cases h with
    | spoiled hs h => exact .inl ⟨_, hs, h⟩
    | unclaimed h => exact .inr h
  · rintro (⟨s, hs, h⟩ | h)
    · exact .spoiled hs h
    · exact .unclaimed h

theorem Finding.ofList_eq_nothing {rs : List (Resolver η σ α)} :
    ofList rs = .nothing ↔ rs = [] := by
  match rs with
  | [] => simp [ofList]
  | [_] => simp [ofList]
  | _ :: _ :: _ => simp [ofList]

theorem Finding.resolver_ofList (name : String) (rs : List (Resolver η σ α)) :
    (ofList rs).resolver name = combine name rs := by
  match rs with
  | [] => rfl
  | [_] => rfl
  | _ :: _ :: _ => rfl

/-- The resolver for a capability is the one for what is found for it. -/
theorem capability_eq (id : String) (c : Capability)
    (resolver : Service η σ → Except DiscoveryError (Resolver η σ α))
    (services : Except DiscoveryError (List (Service η σ))) :
    capability id c resolver services =
      (finding c resolver services).resolver s!"{id}:{c.name}" := by
  unfold capability finding
  cases services.bind (delegates c resolver) with
  | error e => rfl
  | ok rs => exact (Finding.resolver_ofList _ rs).symm

theorem finding_cases (c : Capability)
    (resolver : Service η σ → Except DiscoveryError (Resolver η σ α))
    (services : List (Service η σ)) :
    finding c resolver (.ok services) = .nothing ∧ (∃ s ∈ services, s.Spoils c resolver) ∨
      finding c resolver (.ok services) = .ofList (claimants c resolver services) ∧
        ∀ s ∈ services, ¬ s.Spoils c resolver := by
  have hfinding : finding c resolver (.ok services) =
      match delegates c resolver services with
      | .ok rs => .ofList rs
      | .error _ => .nothing := rfl
  rw [hfinding]
  rcases delegates_cases c resolver services with ⟨⟨e, he⟩, hspoils⟩ | ⟨hok, hnone⟩
  · rw [he]
    exact .inl ⟨rfl, hspoils⟩
  · rw [hok]
    exact .inr ⟨rfl, hnone⟩

theorem finding_eq_nothing {services : Except DiscoveryError (List (Service η σ))} :
    finding c resolver services = .nothing ↔ Lacking c resolver services := by
  cases services with
  | error e => exact ⟨fun _ => .unavailable e, fun _ => rfl⟩
  | ok services =>
      rw [lacking_ok_iff]
      rcases finding_cases c resolver services with ⟨hfinding, hspoils⟩ | ⟨hfinding, hnone⟩
      · exact ⟨fun _ => .inl hspoils, fun _ => hfinding⟩
      · rw [hfinding, Finding.ofList_eq_nothing, claimants_eq_nil hnone]
        refine ⟨.inr, fun h => h.resolve_left ?_⟩
        rintro ⟨s, hs, hspoils⟩
        exact hnone s hs hspoils

theorem finding_of_not_lacking (h : ¬ Lacking c resolver (.ok services)) :
    claimants c resolver services ≠ [] ∧
      finding c resolver (.ok services) = .ofList (claimants c resolver services) := by
  rcases finding_cases c resolver services with ⟨hfinding, -⟩ | ⟨hfinding, -⟩
  · exact absurd (finding_eq_nothing.1 hfinding) h
  · refine ⟨fun hnil => h ?_, hfinding⟩
    rwa [← finding_eq_nothing, hfinding, Finding.ofList_eq_nothing]

/-- What holds of a resolver that finds nothing, and of a chain if it holds of its links,
holds of the resolver for a capability if it holds of all that services deliver. -/
theorem capability_closed {P : Resolver η σ α → Prop} (id : String)
    (hnoop : ∀ name, P (.noop name))
    (hchain : ∀ name rs, (∀ r ∈ rs, P r) → P (.chain name rs))
    (h : ∀ s ∈ services, ∀ r, resolver s = .ok r → P r) :
    P (capability id c resolver (.ok services)) := by
  rw [capability_eq]
  rcases finding_cases c resolver services with ⟨hfinding, -⟩ | ⟨hfinding, -⟩
  · rw [hfinding]
    exact hnoop _
  · have hall : ∀ r ∈ claimants c resolver services, P r := by
      intro r hr
      obtain ⟨s, hs, hoffer⟩ := exists_of_mem_claimants hr
      exact h s hs r hoffer
    rw [hfinding, Finding.resolver_ofList]
    match hrs : claimants c resolver services with
    | [] => exact hnoop _
    | [r] => exact hall r (hrs ▸ List.mem_cons_self)
    | r :: r' :: rest => exact hchain _ _ (hrs ▸ hall)

/-- Where every resolver that counts keeps a part of the state alive, the one that
finds nothing can be told from all that services come to. -/
theorem finding_told {name : String} {services : Except DiscoveryError (List (Service η σ))}
    (hholds : ∀ ss, services = .ok ss → ∀ r ∈ claimants c resolver ss, r.holds ≠ []) :
    (finding c resolver services).resolver name = .noop name ↔
      Lacking c resolver services := by
  rw [← finding_eq_nothing]
  refine ⟨fun h => ?_, fun h => by rw [h]; rfl⟩
  cases services with
  | error e => rfl
  | ok ss =>
      rcases finding_cases c resolver ss with ⟨hfinding, -⟩ | ⟨hfinding, -⟩
      · exact hfinding
      · have hheld := congrArg Resolver.holds (hfinding ▸ h)
        rw [hfinding, Finding.ofList_eq_nothing]
        have hall := hholds ss rfl
        rw [Finding.resolver_ofList] at hheld
        match hrs : claimants c resolver ss with
        | [] => rfl
        | [r] =>
            rw [hrs] at hheld hall
            exact absurd hheld (hall r List.mem_cons_self)
        | r :: r' :: rest =>
            rw [hrs] at hheld hall
            have hflat : (r :: r' :: rest).flatMap Resolver.holds = [] := hheld
            rw [List.flatMap_eq_nil_iff] at hflat
            exact absurd (hflat r List.mem_cons_self) (hall r List.mem_cons_self)

end

/-! ## Other capabilities -/

/-- Two services that tell the same about themselves, and deliver the same for all
capabilities but one. -/
structure Service.SameBut (c : Capability) (s s' : Service η σ) : Prop where
  descriptor : s.descriptor = s'.descriptor
  labels : c ≠ .label → s.labels = s'.labels
  descriptions : c ≠ .description → s.descriptions = s'.descriptions
  types : c ≠ .type → s.types = s'.types

/-- Chains with the same resolvers for all capabilities but one. -/
structure Chains.SameBut (c : Capability) (chains chains' : Chains η σ) : Prop where
  labels : c ≠ .label → chains.labels = chains'.labels
  descriptions : c ≠ .description → chains.descriptions = chains'.descriptions
  types : c ≠ .type → chains.types = chains'.types

section

variable {c : Capability} {resolver : Service η σ → Except DiscoveryError (Resolver η σ α)}
  {services services' : List (Service η σ)}

theorem delegates_congr
    (h : List.Forall₂ (fun s s' => s.descriptor = s'.descriptor ∧ resolver s = resolver s')
      services services') :
    delegates c resolver services = delegates c resolver services' := by
  induction h with
  | nil => rfl
  | cons hs _ ih =>
      unfold delegates
      rw [hs.1, hs.2, ih]

theorem capability_congr (id : String)
    (h : List.Forall₂ (fun s s' => s.descriptor = s'.descriptor ∧ resolver s = resolver s')
      services services') :
    capability id c resolver (.ok services) = capability id c resolver (.ok services') := by
  have hbind : Except.bind (.ok services) (delegates c resolver) =
      Except.bind (.ok services') (delegates c resolver) := delegates_congr h
  unfold capability
  rw [hbind]

/-- What services deliver for one capability does not come into the resolvers for the
others. -/
theorem build_sameBut (id : String)
    (h : List.Forall₂ (Service.SameBut c) services services') :
    (build id (.ok services)).SameBut c (build id (.ok services')) where
  labels hc := capability_congr id (h.imp fun _ _ hs => ⟨hs.descriptor, hs.labels hc⟩)
  descriptions hc :=
    capability_congr id (h.imp fun _ _ hs => ⟨hs.descriptor, hs.descriptions hc⟩)
  types hc := capability_congr id (h.imp fun _ _ hs => ⟨hs.descriptor, hs.types hc⟩)

end

end Discovery

/-! ## A chain of one -/

namespace Lookup

open Resolver (valueOf foundAmong complete narrow get?_foundAmong get?_complete)

/-- The values in some answers. -/
def valuesOf (answers : Answers ResourceId α) : Table ResourceId (Option α) :=
  answers.map fun e => (e.1, e.2.value?)

/-- The values in all that a resolver answers, for several resources, each asked for
once. -/
def answered (r : Resolver η σ α) (inquiry : Inquiry) (ids : List ResourceId) :
    Effect σ (Table ResourceId (Option α)) := do
  return valuesOf (← r.many inquiry (distinct ids))

theorem valuesOf_complete (found : Answers ResourceId α) (ids : List ResourceId) :
    valuesOf (complete found ids) =
      ids.map fun id => (id, ((found.get? id).getD .notFound).value?) := by
  simp only [valuesOf, complete, List.map_map]
  rfl

theorem valuesFor_complete (found : Answers ResourceId α) (ids : List ResourceId) :
    valuesFor (complete found ids) ids = valuesOf (complete found ids) := by
  rw [valuesOf_complete, valuesFor]
  refine List.map_congr_left fun id hid => ?_
  rw [valueOf, get?_complete hid]
  rfl

/-- What a chain makes of the answers of its only delegate does not show in the
values. -/
theorem valuesOf_complete_foundAmong (answers : Answers ResourceId α)
    (ids : List ResourceId) :
    valuesOf (complete (foundAmong answers ids) ids) = valuesFor answers ids := by
  rw [valuesOf_complete, valuesFor]
  refine List.map_congr_left fun id hid => ?_
  rw [valueOf]
  cases hfound : (foundAmong answers ids).get? id with
  | some r =>
      obtain ⟨-, v, rfl, hv⟩ := get?_foundAmong.1 hfound
      rw [hv]
      rfl
  | none =>
      have hno : ∀ v, answers.get? id ≠ some (.found v) := fun v hv => by
        have hsome := get?_foundAmong.2 ⟨hid, v, rfl, hv⟩
        rw [hfound] at hsome
        cases hsome
      match hanswer : answers.get? id with
      | none => rfl
      | some .notFound => rfl
      | some .unknown => rfl
      | some (.found v) => exact absurd hanswer (hno v)

theorem several_chain (name : String) (rs : List (Resolver η σ α)) (inquiry : Inquiry)
    (ids : List ResourceId) :
    several (.chain name rs) inquiry ids = answered (.chain name rs) inquiry ids := by
  simp only [several, answered, Resolver.chain, bind_assoc, pure_bind, valuesFor_complete]

/-- One resolver is as good as a chain of it, if something is asked for. -/
theorem several_eq_answered (name : String) (r : Resolver η σ α) (inquiry : Inquiry)
    {ids : List ResourceId} (hids : ids ≠ []) :
    several r inquiry ids = answered (.chain name [r]) inquiry ids := by
  have hleft : (distinct ids).isEmpty = false := by
    rw [List.isEmpty_eq_false_iff]
    exact fun h => hids (distinct_eq_nil.1 h)
  have hmany : (Resolver.chain name [r]).many inquiry (distinct ids) = do
      return complete (foundAmong (← r.many inquiry (distinct ids)) (distinct ids))
        (distinct ids) := by
    simp only [Resolver.chain, narrow, hleft, Bool.false_eq_true, if_false, bind_assoc,
      pure_bind, List.append_nil]
  unfold several answered
  rw [hmany]
  simp only [bind_assoc, pure_bind, valuesOf_complete_foundAmong]

/-- A lookup that succeeds covers the resources that were asked for. -/
theorem keys_several {r : Resolver η σ α} {inquiry : Inquiry} {ids : List ResourceId}
    {s s' : σ} {values : Table ResourceId (Option α)}
    (h : (several r inquiry ids).run.run s = (.ok values, s')) :
    values.keys = distinct ids := by
  unfold several at h
  rw [Effect.run_bind] at h
  generalize (r.many inquiry (distinct ids)).run.run s = out at h
  obtain ⟨e | answers, t⟩ := out
  · cases h
  · obtain rfl := Except.ok.inj (Prod.mk.inj h).1
    exact Table.keys_map _ _

/-- How a resolver stands for some resolvers in a row, of which there is at least one. -/
structure StandsFor (name : String) (found : Resolver η σ α)
    (rs : List (Resolver η σ α)) : Prop where
  nonempty : rs ≠ []
  /-- The only one is used as it is. -/
  alone : ∀ r, rs = [r] → found = r
  /-- Several are chained. -/
  chained : 2 ≤ rs.length → found = .chain name rs
  /-- Either way a lookup of some resources is what a chain answers, with the same
  failures and the same effect on the state. -/
  same : ∀ (chainName : String) (inquiry : Inquiry) (ids : List ResourceId), ids ≠ [] →
    several found inquiry ids = answered (.chain chainName rs) inquiry ids
  /-- Whatever was asked for, and only that, has an entry. -/
  covers : ∀ (inquiry : Inquiry) (ids : List ResourceId) (s s' : σ)
    (values : Table ResourceId (Option α)),
    (several found inquiry ids).run.run s = (.ok values, s') → values.keys = distinct ids

theorem standsFor_combine (name : String) {rs : List (Resolver η σ α)} (hrs : rs ≠ []) :
    StandsFor name (Discovery.combine name rs) rs := by
  match rs with
  | [] => exact absurd rfl hrs
  | [r] =>
      exact {
        nonempty := hrs
        alone := fun r' h => (List.cons.inj h).1
        chained := fun h => absurd h (by simp)
        same := fun chainName inquiry ids hids => several_eq_answered chainName r inquiry hids
        covers := fun _ _ _ _ _ => keys_several }
  | r :: r' :: rest =>
      exact {
        nonempty := hrs
        alone := fun _ h => absurd (List.cons.inj h).2 (by simp)
        chained := fun _ => rfl
        -- The name of a chain is not part of what it answers.
        same := fun _ inquiry ids _ => several_chain name (r :: r' :: rest) inquiry ids
        covers := fun _ _ _ _ _ => keys_several }

/-- The capability that a kind of text belongs to. -/
def TextKind.capability : TextKind → Discovery.Capability
  | .label => .label
  | .description => .description

/-- What a service delivers for a kind of text. -/
def TextKind.offered (kind : TextKind) (s : Discovery.Service η σ) :
    Except Discovery.DiscoveryError (Resolver η σ TextValue) :=
  match kind with
  | .label => s.labels
  | .description => s.descriptions

end Lookup

/-! ## All capabilities -/

namespace Discovery

open Lookup (TextKind StandsFor standsFor_combine)

/-- How the resolver for a capability comes about, from services that may fail to say
what they offer, or to deliver it. -/
structure Degrades (id : String) (c : Capability)
    (resolver : Service η σ → Except DiscoveryError (Resolver η σ α))
    (services : Except DiscoveryError (List (Service η σ))) (found : Resolver η σ α) :
    Prop where
  /-- It has the shape of what is found. -/
  shape : found = (finding c resolver services).resolver s!"{id}:{c.name}"
  /-- Nothing is found for the reasons of `Lacking`, and for no others. -/
  nothing : finding c resolver services = .nothing ↔ Lacking c resolver services
  /-- The resolver itself shows it, if those that count keep parts of the state alive. -/
  told : (∀ ss, services = .ok ss → ∀ r ∈ claimants c resolver ss, r.holds ≠ []) →
    (found = .noop s!"{id}:{c.name}" ↔ Lacking c resolver services)
  /-- If something is found, it stands for all resolvers that count. -/
  stands : ∀ ss, services = .ok ss → ¬ Lacking c resolver services →
    StandsFor s!"{id}:{c.name}" found (claimants c resolver ss)

theorem capability_degrades (id : String) (c : Capability)
    (resolver : Service η σ → Except DiscoveryError (Resolver η σ α))
    (services : Except DiscoveryError (List (Service η σ))) :
    Degrades id c resolver services (capability id c resolver services) where
  shape := capability_eq id c resolver services
  nothing := finding_eq_nothing
  told hholds := by
    rw [capability_eq]
    exact finding_told hholds
  stands := by
    rintro ss rfl hlacking
    obtain ⟨hne, hfinding⟩ := finding_of_not_lacking hlacking
    rw [capability_eq, hfinding, Finding.resolver_ofList]
    exact standsFor_combine _ hne

/-- Each capability is there with all that was claimed for it, or not at all, and a
lookup cannot tell one resolver from a chain of it. What services deliver for one
capability makes no difference to another. -/
theorem build_degrades (id : String)
    (services : Except DiscoveryError (List (Service η σ))) :
    (∀ kind : TextKind, Degrades id kind.capability kind.offered services
      (kind.resolver (build id services))) ∧
    Degrades id .type Service.types services (build id services).types ∧
    ∀ (c : Capability) (ss ss' : List (Service η σ)), services = .ok ss →
      List.Forall₂ (Service.SameBut c) ss ss' →
      (build id services).SameBut c (build id (.ok ss')) := by
  refine ⟨fun kind => ?_, capability_degrades id .type Service.types services, ?_⟩
  · cases kind with
    | label => exact capability_degrades id .label Service.labels services
    | description => exact capability_degrades id .description Service.descriptions services
  · rintro c ss ss' rfl hsame
    exact build_sameBut id hsame

/-- A service that cannot deliver the labels it claims takes the labels of another one
away, and leaves the descriptions. -/
example :
    let broken : Service Unit Unit :=
      { descriptor := .ok ⟨"broken", { labels := true }⟩
        labels := .error (.build "broken" .label "peer unreachable") }
    let fixed : Resolver Unit Unit TextValue :=
      .ofMany "fixed" (fun _ ids => return ids.map fun id => (id, .found (.plain "Vase"))) []
    let chains := build "d" (.ok [broken, .bundled "local" (some fixed) (some fixed) none])
    let answer (kind : TextKind) :=
      ((Lookup.several (kind.resolver chains) default ["urn:a"]).run.run ()).1.toOption
    answer .label = some [("urn:a", none)] ∧
      answer .description = some [("urn:a", some (.plain "Vase"))] := by
  decide +kernel

end Discovery

end Nomenclator

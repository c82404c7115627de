import Nomenclator.Failure

/-!
# Running an effect

An effect is a function of a state that may fail, and what it did to the state
stays when it fails. Two steps in a row are therefore one of two things, by
what the first step came to, and proofs about effects need nothing else: they
state the result of each step as an equation and rewrite along it.

Two runs of effects from different states are compared step by step as well.
They are related when they fail alike or give related values, provided both
states have an invariant, which both runs keep.

Checks need no state. What matters of them is which of several faults they tell
of, so they are held against the list of everything that is wrong: steps in a
row check lists in a row.
-/

namespace Nomenclator

/-- Steps in a row have succeeded only if the first one has. -/
theorem exists_of_bind_eq_ok {φ α β : Type} {x : Except φ α} {f : α → Except φ β}
    {b : β} (h : (x >>= f) = .ok b) : ∃ a, x = .ok a ∧ f a = .ok b := by
  cases x with
  | error e => cases h
  | ok a => exact ⟨a, rfl, h⟩

theorem map_eq_error_iff {φ α β : Type} {x : Except φ α} {f : α → β} {e : φ} :
    x.map f = .error e ↔ x = .error e := by
  cases x with
  | error e' => exact ⟨fun h => congrArg _ (Except.error.inj h),
      fun h => congrArg _ (Except.error.inj h)⟩
  | ok a => exact ⟨fun h => (nomatch h), fun h => (nomatch h)⟩

theorem eq_ok_of_toOption {φ α : Type} {x : Except φ α} {a : α} (h : x.toOption = some a) :
    x = .ok a := by
  cases x with
  | error e => cases h
  | ok b => exact congrArg Except.ok (Option.some.inj h)

/-- The failure of what failed. -/
def error? {φ α : Type} : Except φ α → Option φ
  | .ok _ => none
  | .error e => some e

theorem eq_error_of_error? {φ α : Type} {x : Except φ α} {e : φ} (h : error? x = some e) :
    x = .error e := by
  cases x with
  | error e' => exact congrArg Except.error (Option.some.inj h)
  | ok a => cases h

/-- What can be checked of a value holds of one only if there is a value. -/
theorem exists_ok_of_any {φ α : Type} {x : Except φ α} {p : α → Bool}
    (h : x.toOption.any p = true) : ∃ a, x = .ok a ∧ p a = true := by
  obtain ⟨a, ha, hp⟩ := (Option.any_eq_true p _).1 h
  exact ⟨a, eq_ok_of_toOption ha, hp⟩

/-! ## Checks -/

/-- A result that is the first of several faults, or a value with a property if there are
none. -/
inductive Checks {φ α : Type} (P : α → Prop) : Except φ α → List φ → Prop where
  | accepted {a : α} : P a → Checks P (.ok a) []
  | rejected (e : φ) (es : List φ) : Checks P (.error e) (e :: es)

/-- The fault of a condition that is not met. -/
def unmet {φ : Type} (met : Prop) [Decidable met] (e : φ) : List φ := if met then [] else [e]

theorem unmet_eq_nil_iff {φ : Type} {met : Prop} [Decidable met] {e : φ} :
    unmet met e = [] ↔ met := by
  unfold unmet
  split <;> simp [*]

namespace Checks

variable {φ α β : Type} {P : α → Prop} {Q : β → Prop} {x : Except φ α} {es es' : List φ} {e : φ}
  {met : Prop} [Decidable met]

theorem bind {f : α → Except φ β} (hx : Checks P x es)
    (hf : ∀ a, P a → Checks Q (f a) es') : Checks Q (x >>= f) (es ++ es') := by
  cases hx with
  | accepted ha => exact hf _ ha
  | rejected e es => exact .rejected e (es ++ es')

theorem imp {P' : α → Prop} (h : Checks P x es) (himp : ∀ a, P a → P' a) : Checks P' x es := by
  cases h with
  | accepted ha => exact .accepted (himp _ ha)
  | rejected e es => exact .rejected e es

theorem of_met {a : α} (h : met) (ha : P a) : Checks P (.ok a) (unmet met e) := by
  rw [unmet, if_pos h]
  exact .accepted ha

theorem of_not_met (h : ¬ met) : Checks P (.error e) (unmet met e) := by
  rw [unmet, if_neg h]
  exact .rejected e []

/-- What comes after a condition matters only if it is met. -/
theorem guard {c : Prop} [Decidable c] (hc : c ↔ ¬ met) (hx : met → Checks P x es) :
    Checks P (if c then .error e else x) (unmet met e ++ es) := by
  by_cases h : met
  · rw [if_neg (fun hcond => hc.1 hcond h), unmet, if_pos h]
    exact hx h
  · rw [if_pos (hc.2 h), unmet, if_neg h]
    exact .rejected e es

theorem exists_ok_iff (h : Checks P x es) : (∃ a, x = .ok a) ↔ es = [] := by
  cases h with
  | accepted ha => exact ⟨fun _ => rfl, fun _ => ⟨_, rfl⟩⟩
  | rejected e es => exact ⟨fun h => (nomatch h.choose_spec), fun h => (nomatch h)⟩

theorem eq_error_iff (h : Checks P x es) : x = .error e ↔ es.head? = some e := by
  cases h with
  | accepted ha => exact ⟨fun h => (nomatch h), fun h => (nomatch h)⟩
  | rejected e' es => exact ⟨fun h => congrArg some (Except.error.inj h),
      fun h => congrArg Except.error (Option.some.inj h)⟩

theorem of_eq_ok {a : α} (h : Checks P x es) (hx : x = .ok a) : P a := by
  cases h with
  | accepted ha => exact Except.ok.inj hx ▸ ha
  | rejected e es => cases hx

end Checks

namespace Effect

variable {σ α β : Type}

theorem runState_bind (x : StateM σ α) (f : α → StateM σ β) (s : σ) :
    (x >>= f).run s = (f (x.run s).1).run (x.run s).2 := rfl

theorem run_bind (x : Effect σ α) (f : α → Effect σ β) (s : σ) :
    (x >>= f).run.run s =
      match x.run.run s with
      | (.ok a, s') => (f a).run.run s'
      | (.error e, s') => (.error e, s') := by
  show (match x.run.run s with
    | (r, t) => (ExceptT.bindCont f r).run t) = _
  rcases x.run.run s with ⟨r, t⟩
  cases r <;> rfl

theorem run_bind_ok {x : Effect σ α} {f : α → Effect σ β} {s s' : σ} {a : α}
    (h : x.run.run s = (.ok a, s')) :
    (x >>= f).run.run s = (f a).run.run s' := by
  rw [run_bind, h]

theorem run_bind_error {x : Effect σ α} {f : α → Effect σ β} {s s' : σ}
    {e : ResolveError} (h : x.run.run s = (.error e, s')) :
    (x >>= f).run.run s = (.error e, s') := by
  rw [run_bind, h]

/-! ## Two runs -/

/-- Results that fail alike or have related values. -/
inductive Agree (R : α → α → Prop) :
    Except ResolveError α → Except ResolveError α → Prop where
  | failed (e : ResolveError) : Agree R (.error e) (.error e)
  | done {a a' : α} : R a a' → Agree R (.ok a) (.ok a')

theorem Agree.eq {r r' : Except ResolveError α} (h : Agree Eq r r') : r = r' := by
  cases h with
  | failed e => rfl
  | done h => rw [h]

/-- Two effects that agree, whichever states with an invariant they start from,
and that keep the invariant. -/
def Related (holds : σ → Prop) (R : α → α → Prop) (x x' : Effect σ α) : Prop :=
  ∀ s s', holds s → holds s' →
    Agree R (x.run.run s).1 (x'.run.run s').1 ∧
      holds (x.run.run s).2 ∧ holds (x'.run.run s').2

variable {holds : σ → Prop} {R : α → α → Prop} {Q : β → β → Prop}

theorem Related.pure {a a' : α} (h : R a a') :
    Related holds R (pure a : Effect σ α) (pure a') :=
  fun _ _ hs hs' => ⟨.done h, hs, hs'⟩

theorem Related.bind {x x' : Effect σ α} {f f' : α → Effect σ β}
    (hx : Related holds R x x') (hf : ∀ a a', R a a' → Related holds Q (f a) (f' a')) :
    Related holds Q (x >>= f) (x' >>= f') := by
  intro s s' hs hs'
  obtain ⟨hagree, hkeep, hkeep'⟩ := hx s s' hs hs'
  rw [run_bind, run_bind]
  generalize x.run.run s = out at hagree hkeep ⊢
  generalize x'.run.run s' = out' at hagree hkeep' ⊢
  obtain ⟨r, t⟩ := out
  obtain ⟨r', t'⟩ := out'
  cases hagree with
  | failed e => exact ⟨.failed e, hkeep, hkeep'⟩
  | done h => exact hf _ _ h t t' hkeep hkeep'

end Effect

end Nomenclator

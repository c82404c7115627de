import Nomenclator.Proofs.Effect
import Nomenclator.Proofs.Table
import Nomenclator.Resolver.Chain

/-!
# A chain narrows exactly

A delegate is a function of what it is asked; what a chain does with its
delegates shows in the calls it makes. So the delegates here follow scripts
and note every call, and the theorem is about the notes and the answer
together: the `k`-th call, if there is one, goes to the `k`-th delegate and
names exactly the resources that all delegates before it called absent.

The induction is over the delegates. What it carries is the pair of `calls`
and `outcome`, the two halves of a run without the log in between: a call
tells the run what is left, and all that comes later is a run over the rest of
the delegates with that much less to find.
-/

namespace Nomenclator.Resolver

variable {η α : Type}

/-- What a delegate answers when it is asked for some resources: a failure, or
a table that may leave some of them out, call them unknown, and speak of others. -/
abbrev Script (α : Type) :=
  Inquiry → List ResourceId → Except ResolveError (Answers ResourceId α)

/-- A call to a delegate, by its place in the chain. -/
structure Call where
  place : Nat
  inquiry : Inquiry
  ids : List ResourceId

/-- The delegate at a place that follows a script and notes its calls. -/
def scripted (script : Script α) (place : Nat) : Resolver η (List Call) α :=
  .ofMany (toString place)
    (fun inquiry ids => ExceptT.mk fun calls =>
      (script inquiry ids, calls ++ [⟨place, inquiry, ids⟩])) []

/-- The delegates that follow some scripts, from a place on. -/
def scriptedFrom (place : Nat) (scripts : List (Script α)) :
    List (Resolver η (List Call) α) :=
  (scripts.zipIdx place).map fun s => scripted s.1 s.2

/-- What the delegate at a place answered for a resource, if it was called and
did not fail, and if it answered for that resource at all. -/
def answerAt (scripts : List (Script α)) (calls : List Call) (k : Nat)
    (id : ResourceId) : Option (Resolution α) :=
  match scripts[k]?, calls[k]? with
  | some script, some call =>
      match script call.inquiry call.ids with
      | .ok answers => answers.get? id
      | .error _ => none
  | _, _ => none

/-- The absence is confirmed. -/
def isAbsent : Option (Resolution α) → Bool
  | some .notFound => true
  | _ => false

/-- The resources that every delegate before a place called absent. -/
def passedOn (scripts : List (Script α)) (calls : List Call)
    (ids : List ResourceId) (k : Nat) : List ResourceId :=
  ids.filter fun id =>
    (List.range k).all fun j => isAbsent (answerAt scripts calls j id)

theorem isAbsent_iff {answer : Option (Resolution α)} :
    isAbsent answer = true ↔ answer = some .notFound := by
  unfold isAbsent
  split <;> simp_all

theorem absentAmong_eq_filter (answers : Answers ResourceId α)
    (ids : List ResourceId) :
    absentAmong answers ids = ids.filter fun id => isAbsent (answers.get? id) := by
  unfold absentAmong isAbsent
  rfl

theorem mem_absentAmong {answers : Answers ResourceId α} {ids : List ResourceId}
    {id : ResourceId} :
    id ∈ absentAmong answers ids ↔ id ∈ ids ∧ answers.get? id = some .notFound := by
  rw [absentAmong_eq_filter, List.mem_filter, isAbsent_iff]

/-- What a delegate found for a resource. -/
def foundAt (answers : Answers ResourceId α) (id : ResourceId) :
    Option (Resolution α) :=
  match answers.get? id with
  | some (.found v) => some (.found v)
  | _ => none

theorem foundAt_eq_some {answers : Answers ResourceId α} {id : ResourceId}
    {r : Resolution α} :
    foundAt answers id = some r ↔
      ∃ v, r = .found v ∧ answers.get? id = some (.found v) := by
  unfold foundAt
  split
  · next w hw => simp [hw, eq_comm]
  · next hno =>
      simp only [reduceCtorEq, false_iff]
      rintro ⟨v, -, hv⟩
      exact hno v hv

theorem get?_foundAmong {answers : Answers ResourceId α} {ids : List ResourceId}
    {id : ResourceId} {r : Resolution α} :
    (foundAmong answers ids).get? id = some r ↔
      id ∈ ids ∧ ∃ v, r = .found v ∧ answers.get? id = some (.found v) := by
  have hshape : foundAmong answers ids =
      ids.filterMap fun x => (foundAt answers x).map fun v => (x, v) := by
    unfold foundAmong foundAt
    congr
    funext x
    cases answers.get? x with
    | none => rfl
    | some r => cases r <;> rfl
  rw [hshape, Table.get?_filterMap, ← foundAt_eq_some]
  simp

/-! ## The two halves of a run -/

/-- The calls that a chain of scripted delegates makes. -/
def calls (inquiry : Inquiry) (place : Nat) (left : List ResourceId) :
    List (Script α) → List Call
  | [] => []
  | script :: rest =>
      if left.isEmpty then []
      else ⟨place, inquiry, left⟩ ::
        match script inquiry left with
        | .ok answers => calls inquiry (place + 1) (absentAmong answers left) rest
        | .error _ => []

/-- What a chain of scripted delegates finds. -/
def outcome (inquiry : Inquiry) (left : List ResourceId) :
    List (Script α) → Except ResolveError (Answers ResourceId α)
  | [] => .ok []
  | script :: rest =>
      if left.isEmpty then .ok []
      else match script inquiry left with
        | .ok answers =>
            match outcome inquiry (absentAmong answers left) rest with
            | .ok found => .ok (foundAmong answers left ++ found)
            | .error e => .error e
        | .error e => .error e

section

variable {script : Script α} {rest : List (Script α)} {inquiry : Inquiry} {place : Nat}
  {left : List ResourceId}

theorem calls_cons (hleft : left.isEmpty = false) :
    calls inquiry place left (script :: rest) = ⟨place, inquiry, left⟩ ::
      match script inquiry left with
      | .ok answers => calls inquiry (place + 1) (absentAmong answers left) rest
      | .error _ => [] := by
  rw [calls, hleft, if_neg Bool.false_ne_true]

theorem outcome_cons (hleft : left.isEmpty = false) :
    outcome inquiry left (script :: rest) =
      match script inquiry left with
      | .ok answers =>
          match outcome inquiry (absentAmong answers left) rest with
          | .ok found => .ok (foundAmong answers left ++ found)
          | .error e => .error e
      | .error e => .error e := by
  rw [outcome, hleft, if_neg Bool.false_ne_true]

theorem answerAt_zero {id : ResourceId} (hleft : left.isEmpty = false) :
    answerAt (script :: rest) (calls inquiry place left (script :: rest)) 0 id =
      match script inquiry left with
      | .ok answers => answers.get? id
      | .error _ => none := by
  rw [calls_cons hleft]
  rfl

/-- Behind a delegate that answered, the run is one over the others. -/
theorem answerAt_succ {answers : Answers ResourceId α} (hleft : left.isEmpty = false)
    (hs : script inquiry left = .ok answers) (k : Nat) (id : ResourceId) :
    answerAt (script :: rest) (calls inquiry place left (script :: rest)) (k + 1) id =
      answerAt rest
        (calls inquiry (place + 1) (absentAmong answers left) rest) k id := by
  rw [calls_cons hleft]
  simp only [hs]
  rfl

theorem passedOn_zero (scripts : List (Script α)) (log : List Call)
    (ids : List ResourceId) : passedOn scripts log ids 0 = ids := by
  simp [passedOn]

/-- What all delegates passed on is what the others pass on of what the first
one passed on. -/
theorem passedOn_succ {answers : Answers ResourceId α} (hleft : left.isEmpty = false)
    (hs : script inquiry left = .ok answers) (k : Nat) :
    passedOn (script :: rest) (calls inquiry place left (script :: rest)) left (k + 1) =
      passedOn rest (calls inquiry (place + 1) (absentAmong answers left) rest)
        (absentAmong answers left) k := by
  unfold passedOn
  rw [absentAmong_eq_filter, List.filter_filter]
  congr
  funext id
  rw [List.range_succ_eq_map, List.all_cons, List.all_map, answerAt_zero hleft, hs]
  simp only [Function.comp_def, Nat.succ_eq_add_one, answerAt_succ hleft hs]
  rw [Bool.and_comm, absentAmong_eq_filter]

/-- A delegate that failed passes nothing on. -/
theorem passedOn_succ_of_error {e : ResolveError} (hleft : left.isEmpty = false)
    (hs : script inquiry left = .error e) (k : Nat) :
    passedOn (script :: rest) (calls inquiry place left (script :: rest)) left
      (k + 1) = [] := by
  unfold passedOn
  rw [List.filter_eq_nil_iff]
  intro id _
  rw [List.range_succ_eq_map, List.all_cons, answerAt_zero hleft, hs]
  simp [isAbsent]

end

/-- A run of the chain is its two halves: it notes the calls behind whatever
was noted before, and gives the outcome. -/
theorem narrow_scripted (inquiry : Inquiry) (scripts : List (Script α)) :
    ∀ (place : Nat) (left : List ResourceId) (log : List Call),
      (narrow inquiry left (scriptedFrom (η := η) place scripts)).run.run log =
        (outcome inquiry left scripts, log ++ calls inquiry place left scripts) := by
  induction scripts with
  | nil =>
      intro place left log
      simp [scriptedFrom, narrow, outcome, calls]
      rfl
  | cons script rest ih =>
      intro place left log
      have hrest : scriptedFrom (η := η) place (script :: rest) =
          scripted script place :: scriptedFrom (place + 1) rest := by
        simp [scriptedFrom]
      rw [hrest, narrow]
      cases hleft : left.isEmpty with
      | true =>
          rw [if_pos rfl, outcome, calls, hleft, if_pos rfl, if_pos rfl, List.append_nil]
          rfl
      | false =>
          rw [if_neg Bool.false_ne_true, outcome_cons hleft, calls_cons hleft]
          have hcall : ((scripted (η := η) script place).many inquiry left).run.run log =
              (script inquiry left, log ++ [⟨place, inquiry, left⟩]) := rfl
          cases hs : script inquiry left with
          | error e =>
              rw [hs] at hcall
              rw [Effect.run_bind_error hcall]
          | ok answers =>
              rw [hs] at hcall
              have hnext := ih (place + 1) (absentAmong answers left)
                (log ++ [⟨place, inquiry, left⟩])
              rw [Effect.run_bind_ok hcall]
              cases ho : outcome inquiry (absentAmong answers left) rest with
              | error e =>
                  rw [ho] at hnext
                  rw [Effect.run_bind_error hnext, List.append_assoc]
                  simp only [ho, List.singleton_append]
              | ok found =>
                  rw [ho] at hnext
                  rw [Effect.run_bind_ok hnext, List.append_assoc]
                  simp only [ho, List.singleton_append]
                  rfl

theorem calls_nil_left (inquiry : Inquiry) (place : Nat)
    (scripts : List (Script α)) : calls inquiry place [] scripts = [] := by
  cases scripts <;> rfl

/-- The `k`-th call, if there is one, is the `k`-th delegate's, and names just
what was passed on to it. -/
theorem calls_getElem? (inquiry : Inquiry) (scripts : List (Script α)) :
    ∀ (place : Nat) (left : List ResourceId) (k : Nat),
      (calls inquiry place left scripts)[k]? =
        if k < scripts.length ∧
            passedOn scripts (calls inquiry place left scripts) left k ≠ [] then
          some ⟨place + k, inquiry,
            passedOn scripts (calls inquiry place left scripts) left k⟩
        else none := by
  induction scripts with
  | nil => intro place left k; simp [calls]
  | cons script rest ih =>
      intro place left k
      cases hleft : left.isEmpty with
      | true =>
          rw [List.isEmpty_iff] at hleft
          subst hleft
          simp [calls_nil_left, passedOn]
      | false =>
          have hne : left ≠ [] := by simpa using hleft
          cases k with
          | zero =>
              rw [passedOn_zero, if_pos ⟨by simp, hne⟩, calls_cons hleft]
              rfl
          | succ k =>
              have htail : (calls inquiry place left (script :: rest))[k + 1]? =
                  (match script inquiry left with
                    | .ok answers => calls inquiry (place + 1)
                        (absentAmong answers left) rest
                    | .error _ => [])[k]? := by
                rw [calls_cons hleft]
                rfl
              cases hs : script inquiry left with
              | error e =>
                  rw [htail, hs, passedOn_succ_of_error hleft hs]
                  simp
              | ok answers =>
                  rw [htail, hs, passedOn_succ hleft hs]
                  simp only [ih, List.length_cons, Nat.add_lt_add_iff_right]
                  rw [show place + 1 + k = place + (k + 1) by omega]

/-- Once a called delegate fails, its failure is what the run comes to. -/
theorem outcome_error {inquiry : Inquiry} {scripts : List (Script α)} :
    ∀ {place : Nat} {left : List ResourceId} {k : Nat} {call : Call}
      {script : Script α} {e : ResolveError},
      (calls inquiry place left scripts)[k]? = some call →
      scripts[k]? = some script → script call.inquiry call.ids = .error e →
      outcome inquiry left scripts = .error e := by
  induction scripts with
  | nil => intro place left k call script e hcall; simp [calls] at hcall
  | cons first rest ih =>
      intro place left k call script e hcall hscript hfail
      cases hleft : left.isEmpty with
      | true => simp [calls, hleft] at hcall
      | false =>
          rw [calls_cons hleft] at hcall
          rw [outcome_cons hleft]
          cases k with
          | zero =>
              simp only [List.getElem?_cons_zero, Option.some.injEq]
                at hcall hscript
              subst hcall hscript
              rw [hfail]
          | succ k =>
              rw [List.getElem?_cons_succ] at hcall hscript
              cases hs : first inquiry left with
              | error _ => simp [hs] at hcall
              | ok answers =>
                  simp only [hs] at hcall ⊢
                  rw [ih hcall hscript hfail]

/-- Some delegate finds a value for a resource, and all delegates before it
called the resource absent. -/
def Finds (scripts : List (Script α)) (log : List Call) (id : ResourceId)
    (v : α) : Prop :=
  ∃ k, answerAt scripts log k id = some (.found v) ∧
    ∀ j < k, answerAt scripts log j id = some .notFound

theorem finds_cons {script : Script α} {rest : List (Script α)}
    {inquiry : Inquiry} {place : Nat} {left : List ResourceId}
    {answers : Answers ResourceId α} (hleft : left.isEmpty = false)
    (hs : script inquiry left = .ok answers) {id : ResourceId} {v : α} :
    Finds (script :: rest) (calls inquiry place left (script :: rest)) id v ↔
      answers.get? id = some (.found v) ∨ (answers.get? id = some .notFound ∧
        Finds rest (calls inquiry (place + 1) (absentAmong answers left) rest)
          id v) := by
  have hfirst : answerAt (script :: rest)
      (calls inquiry place left (script :: rest)) 0 id = answers.get? id := by
    rw [answerAt_zero hleft, hs]
  constructor
  · rintro ⟨k, hk, hbefore⟩
    cases k with
    | zero => exact Or.inl (hfirst ▸ hk)
    | succ k =>
        refine Or.inr ⟨hfirst ▸ hbefore 0 (by omega), k, ?_, fun j hj => ?_⟩
        · rw [← answerAt_succ hleft hs]
          exact hk
        · rw [← answerAt_succ hleft hs]
          exact hbefore (j + 1) (by omega)
  · rintro (hfound | ⟨habsent, k, hk, hbefore⟩)
    · exact ⟨0, hfirst ▸ hfound, fun j hj => by omega⟩
    · refine ⟨k + 1, by rw [answerAt_succ hleft hs]; exact hk, fun j hj => ?_⟩
      cases j with
      | zero => exact hfirst ▸ habsent
      | succ j =>
          rw [answerAt_succ hleft hs]
          exact hbefore j (by omega)

/-- Every delegate that was called has answered. -/
def AllAnswered (scripts : List (Script α)) (log : List Call) : Prop :=
  ∀ (k : Nat) (call : Call) (script : Script α), log[k]? = some call →
    scripts[k]? = some script →
    ∃ answers, script call.inquiry call.ids = .ok answers

/-- Unless a called delegate fails, the run finds a value exactly where some
delegate finds it and all before it confirm the absence. -/
theorem outcome_ok {inquiry : Inquiry} {scripts : List (Script α)} :
    ∀ {place : Nat} {left : List ResourceId},
      AllAnswered scripts (calls inquiry place left scripts) →
      ∃ found, outcome inquiry left scripts = .ok found ∧
        ∀ id r, found.get? id = some r ↔ id ∈ left ∧ ∃ v, r = .found v ∧
          Finds scripts (calls inquiry place left scripts) id v := by
  induction scripts with
  | nil =>
      intro place left _
      refine ⟨[], rfl, fun id r => ?_⟩
      simp [Finds, answerAt]
  | cons script rest ih =>
      intro place left hok
      cases hleft : left.isEmpty with
      | true =>
          rw [List.isEmpty_iff] at hleft
          subst hleft
          exact ⟨[], by simp [outcome], by simp⟩
      | false =>
          have hfirst : ∃ answers, script inquiry left = .ok answers :=
            hok 0 ⟨place, inquiry, left⟩ script (by simp [calls_cons hleft]) rfl
          obtain ⟨answers, hs⟩ := hfirst
          have hrest : AllAnswered rest
              (calls inquiry (place + 1) (absentAmong answers left) rest) := by
            intro k call s hcall hscript
            refine hok (k + 1) call s ?_ (by simpa using hscript)
            simpa [calls_cons hleft, hs] using hcall
          obtain ⟨found, hfound, hget⟩ := ih hrest
          refine ⟨foundAmong answers left ++ found, ?_, fun id r => ?_⟩
          · rw [outcome_cons hleft]
            simp only [hs, hfound]
          · rw [Table.get?_append, Option.or_eq_some_iff, get?_foundAmong, hget,
              mem_absentAmong]
            simp only [finds_cons hleft hs]
            constructor
            · rintro (⟨hid, v, hr, hv⟩ | ⟨_, ⟨hid, habsent⟩, v, hr, hv⟩)
              · exact ⟨hid, v, hr, Or.inl hv⟩
              · exact ⟨hid, v, hr, Or.inr ⟨habsent, hv⟩⟩
            · rintro ⟨hid, v, hr, hv | ⟨habsent, hv⟩⟩
              · exact Or.inl ⟨hid, v, hr, hv⟩
              · -- What comes first in the table must not hide what comes later.
                refine Or.inr ⟨?_, ⟨hid, habsent⟩, v, hr, hv⟩
                rw [Option.eq_none_iff_forall_ne_some]
                intro r' hr'
                obtain ⟨-, w, -, hw⟩ := get?_foundAmong.1 hr'
                rw [habsent] at hw
                cases hw

/-! ## The chain -/

/-- How a chain of delegates that follow scripts deals with some resources: the
calls it makes, and what it answers. -/
structure Narrows (scripts : List (Script α)) (inquiry : Inquiry)
    (ids : List ResourceId) (log : List Call)
    (answer : Except ResolveError (Answers ResourceId α)) : Prop where
  /-- The `k`-th delegate is called if all before it left something to be found,
  and then it is asked for just that. -/
  asked : ∀ k, log[k]? =
    if k < scripts.length ∧ passedOn scripts log ids k ≠ [] then
      some ⟨k, inquiry, passedOn scripts log ids k⟩
    else none
  /-- A failure is the answer, and nobody is called after it. -/
  failed : ∀ (k : Nat) (call : Call) (script : Script α) (e : ResolveError),
    log[k]? = some call → scripts[k]? = some script →
    script call.inquiry call.ids = .error e →
    answer = .error e ∧ log.length = k + 1
  /-- Without a failure the answer is for the given resources, and for each of
  them it is what `Finds` says, or else that there is nothing. -/
  answered : AllAnswered scripts log →
    ∃ answers, answer = .ok answers ∧ answers.keys = ids ∧
      ∀ id ∈ ids,
        (∀ v, answers.get? id = some (.found v) ↔ Finds scripts log id v) ∧
        ((∀ v, ¬ Finds scripts log id v) → answers.get? id = some .notFound)

theorem get?_complete {found : Answers ResourceId α} {ids : List ResourceId}
    {id : ResourceId} (hid : id ∈ ids) :
    (complete found ids).get? id = some ((found.get? id).getD .notFound) :=
  Table.get?_map_of_mem (f := fun id => (found.get? id).getD .notFound) hid

theorem keys_complete (found : Answers ResourceId α) (ids : List ResourceId) :
    (complete found ids).keys = ids :=
  Table.keys_map _ ids

/-- A chain makes the calls of its delegates' run, and completes what they
found. -/
theorem chain_scripted (name : String) (scripts : List (Script α))
    (inquiry : Inquiry) (ids : List ResourceId) :
    ((chain (η := η) name (scriptedFrom 0 scripts)).many inquiry ids).run.run [] =
      ((outcome inquiry ids scripts).map fun found => complete found ids,
        calls inquiry 0 ids scripts) := by
  have hrun := narrow_scripted (η := η) inquiry scripts 0 ids []
  rw [List.nil_append] at hrun
  cases ho : outcome inquiry ids scripts with
  | error e =>
      rw [ho] at hrun
      exact Effect.run_bind_error hrun
  | ok found =>
      rw [ho] at hrun
      exact Effect.run_bind_ok hrun

/-- Once a call failed, nothing is passed on any more. -/
theorem passedOn_of_failed {scripts : List (Script α)} {log : List Call}
    {ids : List ResourceId} {k : Nat} {call : Call} {script : Script α}
    {e : ResolveError} (hcall : log[k]? = some call)
    (hscript : scripts[k]? = some script)
    (hfail : script call.inquiry call.ids = .error e) :
    passedOn scripts log ids (k + 1) = [] := by
  have hnone : ∀ id, answerAt scripts log k id = none := by
    intro id
    unfold answerAt
    simp only [hcall, hscript, hfail]
  unfold passedOn
  rw [List.filter_eq_nil_iff]
  intro id _ hall
  rw [List.all_eq_true] at hall
  have := hall k (by simp)
  rw [hnone id] at this
  cases this

/-- Whatever the delegates do, a chain narrows: each of them is asked for what
is left of the resources, and for nothing else. -/
theorem chain_narrows (name : String) (scripts : List (Script α))
    (inquiry : Inquiry) (ids : List ResourceId) :
    let run := ((chain (η := η) name (scriptedFrom 0 scripts)).many inquiry
      ids).run.run []
    Narrows scripts inquiry ids run.2 run.1 := by
  simp only [chain_scripted]
  refine ⟨fun k => ?_, fun k call script e hcall hscript hfail => ?_, fun hok => ?_⟩
  · rw [calls_getElem?, Nat.zero_add]
  · refine ⟨by rw [outcome_error hcall hscript hfail]; rfl, ?_⟩
    have hnext : (calls inquiry 0 ids scripts)[k + 1]? = none := by
      rw [calls_getElem?, passedOn_of_failed hcall hscript hfail]
      simp
    rw [List.getElem?_eq_none_iff] at hnext
    obtain ⟨hlt, -⟩ := List.getElem?_eq_some_iff.1 hcall
    omega
  · obtain ⟨found, hfound, hget⟩ := outcome_ok hok
    refine ⟨complete found ids, by rw [hfound]; rfl, keys_complete found ids,
      fun id hid => ⟨fun v => ?_, fun hno => ?_⟩⟩
    · rw [get?_complete hid]
      constructor
      · intro h
        cases hf : found.get? id with
        | none => rw [hf] at h; cases h
        | some r =>
            rw [hf] at h
            obtain ⟨-, w, rfl, hw⟩ := (hget id r).1 hf
            cases h
            exact hw
      · intro h
        rw [(hget id _).2 ⟨hid, v, rfl, h⟩]
        rfl
    · have hnone : found.get? id = none := by
        rw [Option.eq_none_iff_forall_ne_some]
        intro r hr
        obtain ⟨-, v, -, hv⟩ := (hget id r).1 hr
        exact hno v hv
      rw [get?_complete hid, hnone]
      rfl

end Nomenclator.Resolver

import Nomenclator.Proofs.Provenance

/-!
# Stores do not see each other

A cache keeps one list per store, and hands all of them to every operation. What a
request does is confined to the list of its own store all the same: it makes sure that
there is one, promotes entries of it and records new ones, and pushes out entries of
that list only, since every list has the whole capacity for itself. Only the two
invalidations that name no store reach all lists, and they do to each of them what
they do to it alone.

So nobody can tell from one store what goes on in the others. Take everything out of
a run that only concerns other stores: the answers for the store, the loads made for
it and its list with the order of its entries stay as they are. The proof runs the two
caches side by side. They agree on the store, and on nothing else; serial numbers, in
particular, are given out to all stores in turn, and differ.
-/

namespace Nomenclator.Cache

variable {κ ν : Type} [BEq κ]

/-! ## What a request can do to a list -/

/-- A list after some of its entries were promoted, and others recorded; nothing of
the kind happens when the cache is switched off. -/
inductive Recency.Worked (config : Config) (r : Recency κ ν) : Recency κ ν → Prop
  | refl : Worked config r r
  | touch {r' : Recency κ ν} (henabled : config.enabled = true) (h : Worked config r r')
      (k : κ) : Worked config r (r'.touch k)
  | push {r' : Recency κ ν} (henabled : config.enabled = true) (h : Worked config r r')
      (k : κ) (v : Option ν) : Worked config r (r'.push config.capacity k v).2

theorem Recency.Worked.trans {config : Config} {r r' r'' : Recency κ ν}
    (h : Worked config r r') (h' : Worked config r' r'') : Worked config r r'' := by
  induction h' with
  | refl => exact h
  | touch henabled _ k ih => exact .touch henabled ih k
  | push henabled _ k v ih => exact .push henabled ih k v

namespace Partitioned

/-- A change of a cache that is confined to the list of one store. -/
structure Confined (store : StoreName) (c c' : Partitioned κ ν) : Prop where
  config : c'.config = c.config
  scope : c'.scope = c.scope
  others : ∀ name, name ≠ store → c'.entries name = c.entries name
  own : Recency.Worked c.config (c.entries store) (c'.entries store)

variable {c c' c'' : Partitioned κ ν} {store : StoreName}

theorem Confined.refl (c : Partitioned κ ν) (store : StoreName) : c.Confined store c :=
  ⟨rfl, rfl, fun _ _ => rfl, .refl⟩

theorem Confined.trans (h : Confined store c c') (h' : Confined store c' c'') :
    Confined store c c'' where
  config := h'.config.trans h.config
  scope := h'.scope.trans h.scope
  others name hname := (h'.others name hname).trans (h.others name hname)
  own := h.own.trans (h.config ▸ h'.own)

theorem confined_prepare (c : Partitioned κ ν) (store : StoreName) :
    Confined store c (c.prepare store) := by
  refine ⟨c.config_prepare store, c.scope_prepare store, fun name _ => ?_, ?_⟩
  · exact c.entries_prepare store name
  · rw [entries_prepare]
    exact .refl

theorem confined_setEntries (c : Partitioned κ ν) {r : Recency κ ν}
    (h : Recency.Worked c.config (c.entries store) r) :
    Confined store c (c.setEntries store r) := by
  refine ⟨rfl, rfl, fun name hname => ?_, ?_⟩
  · rcases c.entries_setEntries_or store r name with hsame | ⟨rfl, -⟩
    · exact hsame
    · exact absurd rfl hname
  · rcases c.entries_setEntries_or store r store with hsame | ⟨-, hnew⟩
    · rw [hsame]
      exact .refl
    · rw [hnew]
      exact h

theorem confined_lookup (c : Partitioned κ ν) (store : StoreName) (k : κ) :
    Confined store c (c.lookup store k).2 := by
  unfold lookup
  split
  · next henabled =>
      split
      · obtain ⟨hconfig, hscope, hothers, hown⟩ :=
          c.confined_setEntries (.touch henabled .refl k)
        exact ⟨hconfig, hscope, hothers, hown⟩
      · exact ⟨rfl, rfl, fun _ _ => rfl, .refl⟩
  · exact .refl c store

theorem confined_insert (c : Partitioned κ ν) (store : StoreName) (k : κ) (v : Option ν) :
    Confined store c (c.insert store k v) := by
  unfold insert
  split
  · next henabled =>
      obtain ⟨hconfig, hscope, hothers, hown⟩ :=
        c.confined_setEntries (.push henabled .refl k v)
      exact ⟨hconfig, hscope, hothers, hown⟩
  · exact .refl c store

theorem confined_record (c : Partitioned κ ν) (store : StoreName) (serial : Nat)
    (loaded : List (κ × Option ν)) : Confined store c (c.record store serial loaded) := by
  have hall : ∀ c : Partitioned κ ν,
      Confined store c (loaded.foldl (fun c e => c.insert store e.1 e.2) c) := by
    induction loaded with
    | nil => exact fun c => .refl c store
    | cons e loaded ih => exact fun c => (c.confined_insert store e.1 e.2).trans (ih _)
  unfold record
  split
  · exact hall c
  · exact .refl c store

theorem confined_surveyFrom (store : StoreName) (found : Survey κ ν) (c : Partitioned κ ν)
    (ks : List κ) : Confined store c (surveyFrom store found c ks).2 := by
  induction ks generalizing c found with
  | nil => exact .refl c store
  | cons k ks ih =>
      have hlook := c.confined_lookup store k
      unfold surveyFrom
      split
      · exact ih found c
      · split
        · next hnext =>
            rw [hnext] at hlook
            exact hlook.trans (ih _ _)
        · next hnext =>
            rw [hnext] at hlook
            exact hlook.trans (ih _ _)

theorem confined_survey (c : Partitioned κ ν) (store : StoreName) (ks : List κ) :
    Confined store c (c.survey store ks).2 :=
  (c.confined_prepare store).trans (confined_surveyFrom store _ _ ks)

variable {σ : Type}

theorem confined_getOrLoad (c : Partitioned κ ν) (loader : Loader σ κ ν)
    (store : StoreName) (k : κ) (s : σ) :
    Confined store c ((c.getOrLoad loader store k).run s).1.2 := by
  have hsurvey := c.confined_survey store [k]
  rw [run_getOrLoad]
  split
  · exact hsurvey
  · split
    · exact hsurvey.trans (confined_record _ _ _ _)
    · exact hsurvey.trans (confined_record _ _ _ _)
    · exact hsurvey

theorem confined_getAllOrLoad (c : Partitioned κ ν) (loader : Loader σ κ ν)
    (store : StoreName) (ks : List κ) (s : σ) :
    Confined store c ((c.getAllOrLoad loader store ks).run s).1.2 := by
  have hsurvey := c.confined_survey store ks
  rw [run_getAllOrLoad]
  split
  · exact hsurvey
  · split
    · exact hsurvey
    · exact hsurvey.trans (confined_record _ _ _ _)

/-! ## Two caches that agree on a store -/

theorem lookup_eq (c : Partitioned κ ν) (store : StoreName) (k : κ) :
    (c.lookup store k).1 =
      if c.config.enabled then (c.entries store).peek? k else none := by
  unfold lookup
  split
  · split
    · next hpeek => rw [hpeek]
    · next hpeek => rw [hpeek]
  · rfl

theorem entries_lookup (c : Partitioned κ ν) (store : StoreName) (k : κ) :
    (c.lookup store k).2.entries store =
      if c.config.enabled then (c.entries store).touch k else c.entries store := by
  unfold lookup
  split
  · split
    · next v hpeek =>
        cases hserial : c.serial? store with
        | some serial => exact c.entries_setEntries hserial _
        | none =>
            -- Without a partition there would have been nothing to find.
            have hempty : c.entries store = [] := by
              unfold entries
              rw [Option.map_eq_none_iff.1 hserial]
              rfl
            rw [hempty] at hpeek
            cases hpeek
    · next hpeek =>
        have hfind : (c.entries store).find? k = none := Option.map_eq_none_iff.1 hpeek
        unfold Recency.touch
        rw [hfind]
        rfl
  · rfl

theorem entries_insert (c : Partitioned κ ν) {store : StoreName} {serial : Nat}
    (hserial : c.serial? store = some serial) (k : κ) (v : Option ν) :
    (c.insert store k v).entries store =
      if c.config.enabled then ((c.entries store).push c.config.capacity k v).2
      else c.entries store := by
  unfold insert
  split
  · exact c.entries_setEntries hserial _
  · rfl

theorem entries_record (c : Partitioned κ ν) {store : StoreName} {serial : Nat}
    (hserial : c.serial? store = some serial) (loaded : List (κ × Option ν)) :
    (c.record store serial loaded).entries store =
      if c.config.enabled then
        loaded.foldl (fun r e => (r.push c.config.capacity e.1 e.2).2) (c.entries store)
      else c.entries store := by
  unfold record
  rw [if_pos (current_iff.2 hserial)]
  induction loaded generalizing c with
  | nil => simp
  | cons e loaded ih =>
      have halike := c.alike_insert store e.1 e.2
      rw [List.foldl_cons, ih _ ((halike.serial? store).trans hserial), halike.config,
        c.entries_insert hserial]
      split <;> rfl

/-- The caches have the same settings, and the same list for one store. -/
structure SameOn (store : StoreName) (c c' : Partitioned κ ν) : Prop where
  config : c'.config = c.config
  scope : c'.scope = c.scope
  entries : c'.entries store = c.entries store

theorem SameOn.confined (h : SameOn store c c') {name : StoreName}
    (hconfined : Confined name c c'') (hname : store ≠ name) : SameOn store c'' c' where
  config := h.config.trans hconfined.config.symm
  scope := h.scope.trans hconfined.scope.symm
  entries := h.entries.trans (hconfined.others store hname).symm

omit [BEq κ] in
theorem SameOn.prepare (h : SameOn store c c') :
    SameOn store (c.prepare store) (c'.prepare store) where
  config := by rw [config_prepare, config_prepare, h.config]
  scope := by rw [scope_prepare, scope_prepare, h.scope]
  entries := by rw [entries_prepare, entries_prepare, h.entries]

theorem SameOn.lookup (h : SameOn store c c') (k : κ) :
    (c'.lookup store k).1 = (c.lookup store k).1 ∧
      SameOn store (c.lookup store k).2 (c'.lookup store k).2 := by
  have halike := c.alike_lookup store k
  have halike' := c'.alike_lookup store k
  refine ⟨?_, ?_, ?_, ?_⟩
  · rw [lookup_eq, lookup_eq, h.config, h.entries]
  · rw [halike.config, halike'.config, h.config]
  · rw [halike.scope, halike'.scope, h.scope]
  · rw [entries_lookup, entries_lookup, h.config, h.entries]

/-- The serial numbers are of no account, and may differ. -/
theorem SameOn.surveyFrom (h : SameOn store c c') (found found' : Survey κ ν)
    (hkept : found'.kept = found.kept) (hmissing : found'.missing = found.missing)
    (ks : List κ) :
    (surveyFrom store found' c' ks).1.kept = (surveyFrom store found c ks).1.kept ∧
      (surveyFrom store found' c' ks).1.missing = (surveyFrom store found c ks).1.missing ∧
      SameOn store (surveyFrom store found c ks).2 (surveyFrom store found' c' ks).2 := by
  induction ks generalizing c c' found found' with
  | nil => exact ⟨hkept, hmissing, h⟩
  | cons k ks ih =>
      obtain ⟨hanswer, hnext⟩ := h.lookup k
      unfold Partitioned.surveyFrom
      rw [hkept, hmissing]
      split
      · exact ih h found found' hkept hmissing
      · generalize c.lookup store k = looked at hanswer hnext ⊢
        generalize c'.lookup store k = looked' at hanswer hnext ⊢
        obtain ⟨seen, c⟩ := looked
        obtain ⟨seen', c'⟩ := looked'
        dsimp only at hanswer hnext
        subst hanswer
        cases seen' with
        | some v => exact ih hnext _ _ rfl rfl
        | none => exact ih hnext _ _ rfl rfl

theorem SameOn.survey (h : SameOn store c c') (ks : List κ) :
    (c'.survey store ks).1.kept = (c.survey store ks).1.kept ∧
      (c'.survey store ks).1.missing = (c.survey store ks).1.missing ∧
      SameOn store (c.survey store ks).2 (c'.survey store ks).2 :=
  h.prepare.surveyFrom ⟨((c.prepare store).serial? store).getD 0, [], []⟩
    ⟨((c'.prepare store).serial? store).getD 0, [], []⟩ rfl rfl ks

/-- Recording what was loaded after the surveys of the two caches. -/
theorem SameOn.record (h : SameOn store c c') (ks : List κ)
    (loaded : List (κ × Option ν)) :
    SameOn store
      ((c.survey store ks).2.record store (c.survey store ks).1.serial loaded)
      ((c'.survey store ks).2.record store (c'.survey store ks).1.serial loaded) := by
  obtain ⟨-, -, hsurvey⟩ := h.survey ks
  have halike := (c.survey store ks).2.alike_record store (c.survey store ks).1.serial loaded
  have halike' := (c'.survey store ks).2.alike_record store
    (c'.survey store ks).1.serial loaded
  refine ⟨?_, ?_, ?_⟩
  · rw [halike.config, halike'.config, hsurvey.config]
  · rw [halike.scope, halike'.scope, hsurvey.scope]
  · rw [entries_record _ (c.serial_survey store ks), entries_record _ (c'.serial_survey store ks),
      hsurvey.config, hsurvey.entries]

end Partitioned

/-! ## Loads that depend on the store and the key alone -/

/-- A load that was asked for. -/
inductive Call (κ : Type) where
  | one (store : StoreName) (k : κ)
  | several (store : StoreName) (ks : List κ)

def Call.store : Call κ → StoreName
  | .one store _ | .several store _ => store

/-- A loader that always answers the same, and writes down what it was asked for. -/
def answering (one : StoreName → κ → Except LoadError ν)
    (several : StoreName → List κ → Except ResolveError (Answers κ ν)) :
    Loader (List (Call κ)) κ ν where
  load store k := fun calls => (one store k, calls ++ [.one store k])
  loadAll store ks := fun calls => (several store ks, calls ++ [.several store ks])

section

variable (one : StoreName → κ → Except LoadError ν)
  (several : StoreName → List κ → Except ResolveError (Answers κ ν))

/-- What two operations have in common that concern a store: the answer, if anybody
heeds it, what becomes of the store, and the loads that were made for it. -/
structure Matches {α : Type} (store : StoreName) (heeded : Bool)
    (calls calls' : List (Call κ)) (out out' : (α × Partitioned κ ν) × List (Call κ)) :
    Prop where
  answer : heeded = true → out'.1.1 = out.1.1
  cache : Partitioned.SameOn store out.1.2 out'.1.2
  made : ∃ made : List (Call κ), (∀ m ∈ made, m.store = store) ∧
    out.2 = calls ++ made ∧ out'.2 = calls' ++ made

namespace Partitioned

variable {c c' : Partitioned κ ν} {store : StoreName}

theorem SameOn.getOrLoad (h : SameOn store c c') (k : κ) (calls calls' : List (Call κ)) :
    Matches store true calls calls'
      ((c.getOrLoad (answering one several) store k).run calls)
      ((c'.getOrLoad (answering one several) store k).run calls') := by
  obtain ⟨hkept, -, hsurvey⟩ := h.survey [k]
  have hload : ∀ calls : List (Call κ),
      ((answering one several).load store k).run calls =
        (one store k, calls ++ [.one store k]) := fun _ => rfl
  have hmade : ∀ m ∈ [Call.one store k], m.store = store := by simp [Call.store]
  rw [run_getOrLoad, run_getOrLoad, hkept, hload, hload]
  split
  · exact ⟨fun _ => rfl, hsurvey, [], by simp, by simp, by simp⟩
  · generalize one store k = outcome
    rcases outcome with (e | e) | v
    · exact ⟨fun _ => rfl, h.record [k] [(k, none)], _, hmade, rfl, rfl⟩
    · exact ⟨fun _ => rfl, hsurvey, _, hmade, rfl, rfl⟩
    · exact ⟨fun _ => rfl, h.record [k] [(k, some v)], _, hmade, rfl, rfl⟩

theorem SameOn.getAllOrLoad (h : SameOn store c c') (ks : List κ)
    (calls calls' : List (Call κ)) :
    Matches store true calls calls'
      ((c.getAllOrLoad (answering one several) store ks).run calls)
      ((c'.getAllOrLoad (answering one several) store ks).run calls') := by
  obtain ⟨hkept, hmissing, hsurvey⟩ := h.survey ks
  have hload : ∀ (ks : List κ) (calls : List (Call κ)),
      ((answering one several).loadAll store ks).run.run calls =
        (several store ks, calls ++ [.several store ks]) := fun _ _ => rfl
  have hmade : ∀ ks : List κ, ∀ m ∈ [Call.several store ks], m.store = store := by
    simp [Call.store]
  rw [run_getAllOrLoad, run_getAllOrLoad, hmissing, hkept, hload, hload]
  split
  · exact ⟨fun _ => rfl, hsurvey, [], by simp, by simp, by simp⟩
  · generalize several store (c.survey store ks).1.missing = outcome
    cases outcome with
    | error e => exact ⟨fun _ => rfl, hsurvey, _, hmade _, rfl, rfl⟩
    | ok loaded => exact ⟨fun _ => rfl, h.record ks _, _, hmade _, rfl, rfl⟩

end Partitioned

end

/-! ## Runs -/

/-- What a cache is asked to do. -/
inductive Operation (κ : Type) where
  | get (store : StoreName) (k : κ)
  | getAll (store : StoreName) (ks : List κ)
  | peek (store : StoreName) (k : κ)
  | peekAll (store : StoreName) (ks : List κ)
  | size (store : StoreName)
  | flush
  | flushStore (store : StoreName)
  | forget (ids : List ResourceId)

/-- What a cache answers. -/
inductive Answer (κ ν : Type) where
  | value (v : Option ν)
  | values (r : Except ResolveError (Answers κ ν))
  | told (r : Resolution ν)
  | kept (t : Table κ (Option ν))
  | size (n : Nat)
  | done

/-- An operation, its answer, and what becomes of the cache and the source of its
loads. -/
def Operation.perform {σ : Type} (loader : Loader σ κ ν) (o : Operation κ)
    (c : Partitioned κ ν) (s : σ) : (Answer κ ν × Partitioned κ ν) × σ :=
  match o with
  | .get store k =>
      let ((v, c), s) := (c.getOrLoad loader store k).run s
      ((.value v, c), s)
  | .getAll store ks =>
      let ((r, c), s) := (c.getAllOrLoad loader store ks).run s
      ((.values r, c), s)
  | .peek store k => ((.told (c.peek store k), c), s)
  | .peekAll store ks => ((.kept (c.peekAll store ks), c), s)
  | .size store => ((.size (c.size store), c), s)
  | .flush => ((.done, c.flush), s)
  | .flushStore store => ((.done, c.flushStore store), s)
  | .forget ids => ((.done, c.forget ids), s)

/-- A cache in use: the source of its loads, and all answers so far. -/
structure Usage (σ κ ν : Type) where
  cache : Partitioned κ ν
  source : σ
  answers : List (Operation κ × Answer κ ν)

namespace Usage

variable {σ : Type}

def after (loader : Loader σ κ ν) (t : Usage σ κ ν) (o : Operation κ) : Usage σ κ ν :=
  let ((a, cache), source) := o.perform loader t.cache t.source
  ⟨cache, source, t.answers ++ [(o, a)]⟩

def run (loader : Loader σ κ ν) (t : Usage σ κ ν) (ops : List (Operation κ)) :
    Usage σ κ ν :=
  ops.foldl (after loader) t

/-- An empty cache, before any operation. -/
def start (id : String) (config : Config) (scope : Option (κ → ResourceId)) (source : σ) :
    Usage σ κ ν :=
  ⟨.empty id config scope, source, []⟩

end Usage

/-! ## A run without the other stores -/

/-- The operation names a store. -/
def Operation.on (store : StoreName) : Operation κ → Bool
  | .get name _ | .getAll name _ | .peek name _ | .peekAll name _ | .size name
  | .flushStore name => name == store
  | .flush | .forget _ => false

/-- The operation gets from another store, peeks at it or drops it. -/
def Operation.elsewhere (store : StoreName) : Operation κ → Bool
  | .get name _ | .getAll name _ | .peek name _ | .peekAll name _ | .flushStore name =>
    name != store
  | .size _ | .flush | .forget _ => false

section

variable (one : StoreName → κ → Except LoadError ν)
  (several : StoreName → List κ → Except ResolveError (Answers κ ν))
  {c c' : Partitioned κ ν} {store : StoreName}

omit [BEq κ] in
/-- An operation that leaves the source alone. -/
theorem Matches.still {α : Type} {heeded : Bool} {a a' : α} (calls calls' : List (Call κ))
    (ha : heeded = true → a' = a) (h : Partitioned.SameOn store c c') :
    Matches store heeded calls calls' ((a, c), calls) ((a', c'), calls') :=
  ⟨ha, h, [], by simp, by simp, by simp⟩

theorem Operation.perform_matches (h : Partitioned.SameOn store c c') {o : Operation κ}
    (ho : o.elsewhere store = false) (calls calls' : List (Call κ)) :
    Matches store (o.on store) calls calls' (o.perform (answering one several) c calls)
      (o.perform (answering one several) c' calls') := by
  cases o with
  | get name k =>
      obtain rfl : name = store := by simpa [elsewhere] using ho
      obtain ⟨hanswer, hcache, hmade⟩ := h.getOrLoad one several k calls calls'
      exact ⟨fun _ => congrArg Answer.value (hanswer rfl), hcache, hmade⟩
  | getAll name ks =>
      obtain rfl : name = store := by simpa [elsewhere] using ho
      obtain ⟨hanswer, hcache, hmade⟩ := h.getAllOrLoad one several ks calls calls'
      exact ⟨fun _ => congrArg Answer.values (hanswer rfl), hcache, hmade⟩
  | peek name k =>
      obtain rfl : name = store := by simpa [elsewhere] using ho
      refine .still calls calls' (fun _ => congrArg Answer.told ?_) h
      unfold Partitioned.peek
      rw [h.entries]
  | peekAll name ks =>
      obtain rfl : name = store := by simpa [elsewhere] using ho
      refine .still calls calls' (fun _ => congrArg Answer.kept ?_) h
      unfold Partitioned.peekAll
      rw [h.entries]
  | size name =>
      refine .still calls calls' (fun hname => congrArg Answer.size ?_) h
      obtain rfl : name = store := by simpa [on] using hname
      unfold Partitioned.size
      rw [h.entries]
  | flush => exact .still calls calls' (fun _ => rfl) ⟨h.config, h.scope, rfl⟩
  | flushStore name =>
      refine .still calls calls' (fun _ => rfl) ⟨h.config, h.scope, ?_⟩
      rw [Partitioned.entries_flushStore, Partitioned.entries_flushStore, h.entries]
  | forget ids =>
      refine .still calls calls' (fun _ => rfl) ⟨?_, ?_, ?_⟩
      · rw [(c.alike_forget ids).config, (c'.alike_forget ids).config, h.config]
      · rw [(c.alike_forget ids).scope, (c'.alike_forget ids).scope, h.scope]
      · cases hscope : c.scope with
        | none =>
            rw [Partitioned.forget_of_no_scope hscope,
              Partitioned.forget_of_no_scope (h.scope.trans hscope), h.entries]
        | some resource =>
            rw [Partitioned.entries_forget hscope,
              Partitioned.entries_forget (h.scope.trans hscope), h.entries]

/-- An operation elsewhere changes nothing about the store, and loads nothing for it. -/
theorem Operation.perform_elsewhere (h : Partitioned.SameOn store c c') {o : Operation κ}
    (ho : o.elsewhere store = true) (calls : List (Call κ)) :
    Partitioned.SameOn store (o.perform (answering one several) c calls).1.2 c' ∧
      ∃ made : List (Call κ), (∀ m ∈ made, m.store ≠ store) ∧
        (o.perform (answering one several) c calls).2 = calls ++ made := by
  have hself : ∀ name, Partitioned.SameOn name c c := fun _ => ⟨rfl, rfl, rfl⟩
  cases o with
  | get name k =>
      have hname : name ≠ store := by simpa [elsewhere] using ho
      obtain ⟨-, -, made, hmade, hcalls, -⟩ :=
        (hself name).getOrLoad one several k calls calls
      refine ⟨h.confined (c.confined_getOrLoad _ name k calls) hname.symm, made, ?_, hcalls⟩
      exact fun m hm => hmade m hm ▸ hname
  | getAll name ks =>
      have hname : name ≠ store := by simpa [elsewhere] using ho
      obtain ⟨-, -, made, hmade, hcalls, -⟩ :=
        (hself name).getAllOrLoad one several ks calls calls
      refine ⟨h.confined (c.confined_getAllOrLoad _ name ks calls) hname.symm, made, ?_, hcalls⟩
      exact fun m hm => hmade m hm ▸ hname
  | peek name k => exact ⟨h, [], by simp, (List.append_nil _).symm⟩
  | peekAll name ks => exact ⟨h, [], by simp, (List.append_nil _).symm⟩
  | flushStore name =>
      have hname : name ≠ store := by simpa [elsewhere] using ho
      refine ⟨⟨h.config, h.scope, ?_⟩, [], by simp, (List.append_nil _).symm⟩
      show c'.entries store = (c.flushStore name).entries store
      rw [Partitioned.entries_flushStore, if_neg (by simpa using hname), h.entries]
  | size name => cases ho
  | flush => cases ho
  | forget ids => cases ho

end

namespace Usage

/-- The answers of the operations on a store. -/
def answersOn (store : StoreName) {σ : Type} (t : Usage σ κ ν) :
    List (Operation κ × Answer κ ν) :=
  t.answers.filter fun e => e.1.on store

/-- The loads that were made for a store. -/
def callsFor (store : StoreName) (t : Usage (List (Call κ)) κ ν) : List (Call κ) :=
  t.source.filter fun m => m.store == store

theorem answersOn_after {σ : Type} (loader : Loader σ κ ν) (t : Usage σ κ ν)
    (o : Operation κ) (store : StoreName) :
    (t.after loader o).answersOn store = t.answersOn store ++
      if o.on store then [(o, (o.perform loader t.cache t.source).1.1)] else [] := by
  unfold answersOn Usage.after
  rw [List.filter_append]
  cases hon : o.on store <;> simp [hon]

theorem callsFor_after {loader : Loader (List (Call κ)) κ ν}
    {t : Usage (List (Call κ)) κ ν} {o : Operation κ} {made : List (Call κ)}
    (h : (o.perform loader t.cache t.source).2 = t.source ++ made) (store : StoreName) :
    (t.after loader o).callsFor store =
      t.callsFor store ++ made.filter fun m => m.store == store := by
  have hsource : (t.after loader o).source = t.source ++ made := h
  unfold callsFor
  rw [hsource, List.filter_append]

/-- Nobody who looks at one store only can tell the two apart. -/
structure SameOn (store : StoreName) (t t' : Usage (List (Call κ)) κ ν) : Prop where
  cache : Partitioned.SameOn store t.cache t'.cache
  calls : t'.callsFor store = t.callsFor store
  answers : t'.answersOn store = t.answersOn store

section

variable (one : StoreName → κ → Except LoadError ν)
  (several : StoreName → List κ → Except ResolveError (Answers κ ν))
  {t t' : Usage (List (Call κ)) κ ν} {store : StoreName}

/-- Both take a step that is not elsewhere. -/
theorem SameOn.after (h : SameOn store t t') {o : Operation κ}
    (ho : o.elsewhere store = false) :
    SameOn store (t.after (answering one several) o) (t'.after (answering one several) o) := by
  obtain ⟨hanswer, hcache, made, -, hcalls, hcalls'⟩ :=
    Operation.perform_matches one several h.cache ho t.source t'.source
  refine ⟨hcache, ?_, ?_⟩
  · rw [callsFor_after hcalls, callsFor_after hcalls', h.calls]
  · rw [answersOn_after, answersOn_after, h.answers]
    split
    · next hon => rw [hanswer hon]
    · rfl

/-- Only the first takes a step, and it is elsewhere. -/
theorem SameOn.skip (h : SameOn store t t') {o : Operation κ}
    (ho : o.elsewhere store = true) :
    SameOn store (t.after (answering one several) o) t' := by
  obtain ⟨hcache, made, hmade, hcalls⟩ :=
    Operation.perform_elsewhere one several h.cache ho t.source
  have hon : o.on store = false := by
    cases o <;> simp_all [Operation.elsewhere, Operation.on]
  have hnone : made.filter (fun m => m.store == store) = [] :=
    List.filter_eq_nil_iff.2 fun m hm => by simpa using hmade m hm
  refine ⟨hcache, ?_, ?_⟩
  · rw [callsFor_after hcalls, hnone, List.append_nil, h.calls]
  · rw [answersOn_after, hon, if_neg Bool.false_ne_true, List.append_nil, h.answers]

theorem SameOn.run (h : SameOn store t t') (ops : List (Operation κ)) :
    SameOn store (t.run (answering one several) ops)
      (t'.run (answering one several) (ops.filter fun o => !o.elsewhere store)) := by
  induction ops generalizing t t' with
  | nil => exact h
  | cons o ops ih =>
      cases ho : o.elsewhere store with
      | true =>
          rw [List.filter_cons_of_neg (by simp [ho])]
          exact ih (h.skip one several ho)
      | false =>
          rw [List.filter_cons_of_pos (by simp [ho])]
          exact ih (h.after one several ho)

end

/-- A run looks the same from a store without the requests, the peeks and the
invalidations that name another store: the operations on it get the same answers, the
same loads are made for it in the same order, and it ends up with the same list. -/
theorem run_apart (one : StoreName → κ → Except LoadError ν)
    (several : StoreName → List κ → Except ResolveError (Answers κ ν)) (id : String)
    (config : Config) (scope : Option (κ → ResourceId)) (store : StoreName)
    (ops : List (Operation κ)) :
    let loader := answering one several
    let all := (start id config scope []).run loader ops
    let own := (start id config scope []).run loader
      (ops.filter fun o => !o.elsewhere store)
    own.answersOn store = all.answersOn store ∧
      own.callsFor store = all.callsFor store ∧
      own.cache.entries store = all.cache.entries store := by
  intro loader all own
  have hstart : SameOn store (start id config scope [] : Usage (List (Call κ)) κ ν)
      (start id config scope []) := ⟨⟨rfl, rfl, rfl⟩, rfl, rfl⟩
  obtain ⟨hcache, hcalls, hanswers⟩ := hstart.run one several ops
  exact ⟨hanswers, hcalls, hcache.entries⟩

end Usage

end Nomenclator.Cache

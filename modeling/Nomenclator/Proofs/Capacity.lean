import Nomenclator.Proofs.Separation

/-!
# How much a store holds, and what

A list has room for a fixed number of entries, and for one at least. It never holds
more, and never two under equal keys, whatever happens to the cache: a request may be
overtaken by others between its two steps, and the time of an entry may be over. All
that happens to a list is that entries are promoted, recorded or dropped, and each of
these leaves it fit.

What it holds is another matter. As long as nothing is dropped and no load fails, a
request puts its key in front, whether the key was there or not, and the list holds
the keys that were asked for last. The reference is the list of all requests with the
latest in front: without its repetitions, and cut off where the room ends. To cut off
and to move a key to the front can be done in either order, and this is what carries
the induction. The entries themselves stand under the forms of their keys that came
first, so the two lists are equal in the sense of the keys only.
-/

namespace Nomenclator.Cache

variable {κ ν : Type} [BEq κ]

/-! ## Using a key -/

/-- The keys after one of them was used: it stands in front of all others, and those
for which there is no room are gone. -/
def renewed (capacity : Nat) (k : κ) (ks : List κ) : List κ :=
  (k :: ks.filter fun x => !(x == k)).take capacity

section

variable {ks ks' : List κ} {k x : κ}

theorem filter_of_absent (h : ks.any (· == k) = false) :
    (ks.filter fun x => !(x == k)) = ks := by
  rw [List.filter_eq_self]
  intro x hx
  simpa using List.any_eq_false.1 h x hx

/-- No more than one of different keys is dropped, so it is enough to know one more. -/
theorem take_filter_take [EquivBEq κ] (h : Unrepeated ks) (k : κ) (n : Nat) :
    ((ks.take (n + 1)).filter fun x => !(x == k)).take n =
      (ks.filter fun x => !(x == k)).take n := by
  induction ks generalizing n with
  | nil => simp
  | cons x ks ih =>
      obtain ⟨hx, hks⟩ := List.pairwise_cons.1 h
      rw [List.take_succ_cons]
      by_cases hxk : (x == k) = true
      · -- All the others stay.
        have habsent : ∀ ys : List κ, (∀ y ∈ ys, y ∈ ks) → ys.any (· == k) = false := by
          intro ys hys
          rw [List.any_eq_false]
          intro y hy hyk
          exact Bool.eq_false_iff.1 (hx y (hys y hy)) (BEq.trans hxk (BEq.symm hyk))
        rw [List.filter_cons_of_neg (by simp [hxk]), List.filter_cons_of_neg (by simp [hxk]),
          filter_of_absent (habsent ks fun _ hy => hy),
          filter_of_absent (habsent (ks.take n) fun _ hy => List.mem_of_mem_take hy),
          List.take_take, Nat.min_self]
      · rw [List.filter_cons_of_pos (by simp [hxk]), List.filter_cons_of_pos (by simp [hxk])]
        cases n with
        | zero => rfl
        | succ n => rw [List.take_succ_cons, List.take_succ_cons, ih hks]

/-- What there is no room for need not be known. -/
theorem renewed_take [EquivBEq κ] (h : Unrepeated ks) (k : κ) (capacity : Nat) :
    renewed capacity k (ks.take capacity) = renewed capacity k ks := by
  unfold renewed
  cases capacity with
  | zero => rfl
  | succ n => rw [List.take_succ_cons, List.take_succ_cons, take_filter_take h]

theorem beq_take (h : (ks == ks') = true) (n : Nat) : (ks.take n == ks'.take n) = true := by
  induction ks generalizing ks' n with
  | nil =>
      cases ks' with
      | nil => simp
      | cons x' ks' => cases h
  | cons x ks ih =>
      cases ks' with
      | nil => cases h
      | cons x' ks' =>
          rw [List.cons_beq_cons, Bool.and_eq_true] at h
          cases n with
          | zero => rfl
          | succ n =>
              rw [List.take_succ_cons, List.take_succ_cons, List.cons_beq_cons, h.1, ih h.2]
              rfl

theorem beq_filter [EquivBEq κ] (h : (ks == ks') = true) (k : κ) :
    ((ks.filter fun x => !(x == k)) == ks'.filter fun x => !(x == k)) = true := by
  induction ks generalizing ks' with
  | nil =>
      cases ks' with
      | nil => rfl
      | cons x' ks' => cases h
  | cons x ks ih =>
      cases ks' with
      | nil => cases h
      | cons x' ks' =>
          rw [List.cons_beq_cons, Bool.and_eq_true] at h
          rw [List.filter_cons, List.filter_cons, ← BEq.congr_left h.1]
          split
          · rw [List.cons_beq_cons, h.1, ih h.2]
            rfl
          · exact ih h.2

theorem beq_renewed [EquivBEq κ] (hx : (x == k) = true) (h : (ks == ks') = true)
    (capacity : Nat) :
    ((x :: ks.filter fun y => !(y == k)).take capacity == renewed capacity k ks') = true := by
  apply beq_take
  rw [List.cons_beq_cons, hx, beq_filter h]
  rfl

end

/-! ## One list -/

theorem Config.capacity_pos (config : Config) : 1 ≤ config.capacity :=
  Nat.le_max_right _ _

namespace Recency

/-- The keys of all entries. -/
def keys (r : Recency κ ν) : List κ := r.map (·.1)

omit [BEq κ] in
theorem length_keys (r : Recency κ ν) : r.keys.length = r.length := List.length_map _

theorem keys_without (r : Recency κ ν) (k : κ) :
    (r.without k).keys = r.keys.filter fun x => !(x == k) := by
  unfold without keys
  rw [List.filter_map]
  rfl

theorem any_keys (r : Recency κ ν) (k : κ) :
    r.keys.any (· == k) = (r.find? k).isSome := by
  unfold keys find?
  rw [List.any_map, Bool.eq_iff_iff, List.any_eq_true, List.find?_isSome]
  rfl

/-- A list that keeps within its room and names no key twice; there is nothing in it
when the cache is switched off. -/
structure Fit (config : Config) (r : Recency κ ν) : Prop where
  room : r.length ≤ config.capacity
  apart : Unrepeated r.keys
  off : config.enabled = false → r = []

variable {config : Config} {r r' : Recency κ ν} {k : κ}

theorem fit_nil (config : Config) : Fit config ([] : Recency κ ν) :=
  ⟨Nat.zero_le _, Unrepeated.nil, fun _ => rfl⟩

theorem Fit.filter (h : r.Fit config) (p : κ × Option ν → Bool) :
    Fit config (r.filter p) where
  room := Nat.le_trans (List.length_filter_le p r) h.room
  apart := h.apart.sublist (List.filter_sublist.map _)
  off hoff := by rw [h.off hoff]; rfl

/-- A key that is there comes to stand in front, under its old form. -/
theorem Fit.front [EquivBEq κ] (h : r.Fit config) (henabled : config.enabled = true)
    {e : κ × Option ν} (hfind : r.find? k = some e) (v : Option ν) :
    Fit config ((e.1, v) :: r.without k) := by
  obtain ⟨hmem, hkey⟩ := mem_of_find? hfind
  have hfewer : (r.without k).length < r.length :=
    List.length_filter_lt_length_iff_exists.2 ⟨e, hmem, by simp [hkey]⟩
  have hwithout : Fit config (r.without k) := h.filter _
  refine ⟨?_, List.pairwise_cons.2 ⟨fun x hx => ?_, hwithout.apart⟩, fun hoff => ?_⟩
  · have hroom := h.room
    rw [List.length_cons]
    omega
  · have hother := hx
    rw [← keys, keys_without, List.mem_filter] at hother
    rw [BEq.congr_left hkey, BEq.comm]
    simpa using hother.2
  · rw [henabled] at hoff
    cases hoff

theorem Fit.touch [EquivBEq κ] (h : r.Fit config) (henabled : config.enabled = true) (k : κ) :
    Fit config (r.touch k) := by
  unfold Recency.touch
  split
  · next e hfind => exact h.front henabled hfind e.2
  · exact h

theorem any_keys_of_absent (hfind : r.find? k = none) : r.keys.any (· == k) = false := by
  rw [any_keys, hfind]
  rfl

/-- A new key stands in front, and the last one goes if there is no room for all. -/
theorem push_of_absent {capacity : Nat} (hcapacity : 1 ≤ capacity)
    (hroom : r.length ≤ capacity) (hfind : r.find? k = none) (v : Option ν) :
    (r.push capacity k v).2 = ((k, v) :: r).take capacity := by
  unfold push
  rw [hfind]
  dsimp only
  split
  · next hless => exact (List.take_of_length_le hless).symm
  · next hfull =>
      obtain ⟨n, rfl⟩ : ∃ n, capacity = n + 1 := ⟨capacity - 1, by omega⟩
      have hlength : r.length - 1 = n := by omega
      rw [List.take_succ_cons, ← hlength, ← List.dropLast_eq_take]

theorem keys_push_of_absent {capacity : Nat} (hcapacity : 1 ≤ capacity)
    (hroom : r.length ≤ capacity) (hfind : r.find? k = none) (v : Option ν) :
    (r.push capacity k v).2.keys = (k :: r.keys).take capacity := by
  rw [push_of_absent hcapacity hroom hfind]
  exact List.map_take

theorem Fit.push [EquivBEq κ] (h : r.Fit config) (henabled : config.enabled = true) (k : κ)
    (v : Option ν) : Fit config (r.push config.capacity k v).2 := by
  cases hfind : r.find? k with
  | some e =>
      unfold Recency.push
      rw [hfind]
      exact h.front henabled hfind v
  | none =>
      have hkeys := keys_push_of_absent config.capacity_pos h.room hfind v
      have hnew : Unrepeated (k :: r.keys) := by
        refine List.pairwise_cons.2 ⟨fun x hx => ?_, h.apart⟩
        rw [BEq.comm]
        simpa using List.any_eq_false.1 (any_keys_of_absent hfind) x hx
      refine ⟨?_, ?_, by simp [henabled]⟩
      · rw [← length_keys, hkeys]
        exact List.length_take_le _ _
      · rw [hkeys]
        exact hnew.sublist (List.take_sublist _ _)

theorem Fit.keys_touch [EquivBEq κ] (h : r.Fit config) (henabled : config.enabled = true)
    {e : κ × Option ν} (hfind : r.find? k = some e) {ks : List κ}
    (hks : (r.keys == ks) = true) :
    ((r.touch k).keys == renewed config.capacity k ks) = true := by
  have hkeys : (r.touch k).keys = e.1 :: r.keys.filter fun x => !(x == k) := by
    rw [touch_of_find? hfind, ← keys_without]
    rfl
  have hroom := (h.touch henabled k).room
  rw [← length_keys, hkeys] at hroom
  rw [hkeys, ← List.take_of_length_le hroom]
  exact beq_renewed (mem_of_find? hfind).2 hks config.capacity

theorem Fit.keys_push [EquivBEq κ] (h : r.Fit config) (hfind : r.find? k = none)
    (v : Option ν) {ks : List κ} (hks : (r.keys == ks) = true) :
    ((r.push config.capacity k v).2.keys == renewed config.capacity k ks) = true := by
  rw [keys_push_of_absent config.capacity_pos h.room hfind v,
    ← filter_of_absent (any_keys_of_absent hfind)]
  exact beq_renewed BEq.rfl hks config.capacity

theorem Fit.worked [EquivBEq κ] (h : r.Fit config) (hworked : Worked config r r') :
    r'.Fit config := by
  induction hworked with
  | refl => exact h
  | touch henabled _ k ih => exact ih.touch henabled k
  | push henabled _ k v ih => exact ih.push henabled k v

end Recency

/-! ## All lists -/

namespace Partitioned

/-- The cache has these settings, and all its lists are fit for them. -/
structure Fits (config : Config) (c : Partitioned κ ν) : Prop where
  settings : c.config = config
  lists : ∀ store, (c.entries store).Fit config

variable {config : Config} {c c' : Partitioned κ ν} {store : StoreName}

theorem Fits.confined [EquivBEq κ] (h : c.Fits config) (hconfined : Confined store c c') :
    c'.Fits config where
  settings := hconfined.config.trans h.settings
  lists name := by
    by_cases hname : name = store
    · rw [hname]
      exact (h.lists store).worked (h.settings ▸ hconfined.own)
    · rw [hconfined.others name hname]
      exact h.lists name

/-- Entries are dropped, from whichever lists. -/
theorem Fits.drop (h : c.Fits config) (hconfig : c'.config = c.config)
    (hdrop : ∀ name, c'.entries name = c.entries name ∨
      ∃ p, c'.entries name = (c.entries name).filter p) : c'.Fits config where
  settings := hconfig.trans h.settings
  lists name := by
    rcases hdrop name with hsame | ⟨p, hp⟩
    · rw [hsame]
      exact h.lists name
    · rw [hp]
      exact (h.lists name).filter p

theorem Fits.flushStore (h : c.Fits config) (store : StoreName) :
    (c.flushStore store).Fits config := by
  refine h.drop rfl fun name => ?_
  rw [entries_flushStore]
  split
  · exact .inr ⟨fun _ => false, by simp⟩
  · exact .inl rfl

theorem Fits.forget (h : c.Fits config) (ids : List ResourceId) :
    (c.forget ids).Fits config := by
  cases hscope : c.scope with
  | none => rwa [forget_of_no_scope hscope]
  | some resource =>
      exact h.drop (c.alike_forget ids).config fun name =>
        .inr ⟨_, entries_forget hscope ids name⟩

theorem Fits.lapse (h : c.Fits config) (store : StoreName) (k : κ) :
    (c.lapse store k).Fits config := by
  refine h.drop rfl fun name => ?_
  rcases c.entries_setEntries_or store ((c.entries store).without k) name with
    hsame | ⟨rfl, hnew⟩
  · exact .inl hsame
  · exact .inr ⟨_, hnew⟩

theorem Fits.perform [EquivBEq κ] {σ : Type} (h : c.Fits config) (loader : Loader σ κ ν)
    (o : Operation κ) (s : σ) : (o.perform loader c s).1.2.Fits config := by
  cases o with
  | get store k => exact h.confined (c.confined_getOrLoad loader store k s)
  | getAll store ks => exact h.confined (c.confined_getAllOrLoad loader store ks s)
  | peek store k => exact h
  | peekAll store ks => exact h
  | size store => exact h
  | flush => exact ⟨h.settings, fun _ => Recency.fit_nil config⟩
  | flushStore store => exact h.flushStore store
  | forget ids => exact h.forget ids

end Partitioned

/-! ## Everything that can happen to a cache -/

/-- What can happen to a cache: an operation from its beginning to its end, one of the
two steps of a request that others overtake, or the end of an entry's time. -/
inductive Event (κ ν : Type) where
  | use (o : Operation κ)
  | look (store : StoreName) (ks : List κ)
  | record (store : StoreName) (serial : Nat) (loaded : List (κ × Option ν))
  | lapse (store : StoreName) (k : κ)

namespace Usage

variable {σ : Type}

/-- What becomes of a cache in use. -/
def meet (loader : Loader σ κ ν) (t : Usage σ κ ν) : Event κ ν → Usage σ κ ν
  | .use o => t.after loader o
  | .look store ks => { t with cache := (t.cache.survey store ks).2 }
  | .record store serial loaded => { t with cache := t.cache.record store serial loaded }
  | .lapse store k => { t with cache := t.cache.lapse store k }

def live (loader : Loader σ κ ν) (t : Usage σ κ ν) (events : List (Event κ ν)) :
    Usage σ κ ν :=
  events.foldl (meet loader) t

variable [EquivBEq κ] {config : Config} {t : Usage σ κ ν}

omit [EquivBEq κ] in
theorem fits_start (id : String) (config : Config) (scope : Option (κ → ResourceId))
    (source : σ) : (start id config scope source : Usage σ κ ν).cache.Fits config :=
  ⟨rfl, fun _ => Recency.fit_nil config⟩

theorem fits_meet (h : t.cache.Fits config) (loader : Loader σ κ ν) (e : Event κ ν) :
    (t.meet loader e).cache.Fits config := by
  cases e with
  | use o => exact h.perform loader o t.source
  | look store ks => exact h.confined (t.cache.confined_survey store ks)
  | record store serial loaded =>
      exact h.confined (t.cache.confined_record store serial loaded)
  | lapse store k => exact h.lapse store k

theorem fits_live (h : t.cache.Fits config) (loader : Loader σ κ ν)
    (events : List (Event κ ν)) :
    (t.live loader events).cache.Fits config := by
  induction events generalizing t with
  | nil => exact h
  | cons e events ih => exact ih (fits_meet h loader e)

end Usage

/-! ## The keys that were asked for last -/

namespace Partitioned

variable {config : Config} {c : Partitioned κ ν} {store : StoreName}

/-- A survey of one key is a lookup of it. -/
theorem survey_looks [ReflBEq κ] (c : Partitioned κ ν) (store : StoreName) (k : κ) :
    (c.survey store [k]).1.kept.get? k =
        ((c.prepare store).lookup store k).1.map .ofOption ∧
      (c.survey store [k]).2 = ((c.prepare store).lookup store k).2 := by
  unfold survey
  dsimp only
  rw [surveyFrom, if_neg (by simp [Table.has])]
  split
  · next v c' hlook =>
      rw [hlook]
      exact ⟨Table.get?_singleton k _, rfl⟩
  · next c' hlook =>
      rw [hlook]
      exact ⟨rfl, rfl⟩

theorem Fits.keys_getOrLoad [EquivBEq κ] (h : c.Fits config)
    (henabled : config.enabled = true) {σ : Type} {loader : Loader σ κ ν} {k : κ} {s : σ}
    (hload : ∀ m, ((loader.load store k).run s).1 ≠ .error (.failed m)) {ks : List κ}
    (hks : ((c.entries store).keys == ks) = true) :
    (Recency.keys (((c.getOrLoad loader store k).run s).1.2.entries store) ==
      renewed config.capacity k ks) = true := by
  have hfit := h.lists store
  have hon : c.config.enabled = true := h.settings ▸ henabled
  obtain ⟨hkept, hcache⟩ := c.survey_looks store k
  rw [lookup_eq, config_prepare, entries_prepare, if_pos hon] at hkept
  have hsurvey : (c.survey store [k]).2.entries store = (c.entries store).touch k := by
    rw [hcache, entries_lookup, config_prepare, entries_prepare, if_pos hon]
  have hsettings : (c.survey store [k]).2.config = config :=
    (c.config_survey store [k]).trans h.settings
  rw [run_getOrLoad]
  cases hfind : (c.entries store).find? k with
  | some e =>
      rw [Recency.peek?, hfind] at hkept
      rw [hkept]
      dsimp only [Option.map_some]
      rw [hsurvey]
      exact hfit.keys_touch henabled hfind hks
  | none =>
      rw [Recency.peek?, hfind] at hkept
      have htouch : (c.entries store).touch k = c.entries store := by
        unfold Recency.touch
        rw [hfind]
      have hrecord : ∀ v, ((c.survey store [k]).2.record store
          (c.survey store [k]).1.serial [(k, v)]).entries store =
            ((c.entries store).push config.capacity k v).2 := by
        intro v
        rw [entries_record _ (c.serial_survey store [k]), hsettings, if_pos henabled,
          hsurvey, htouch]
        rfl
      rw [hkept]
      dsimp only [Option.map_none]
      rcases hrun : (loader.load store k).run s with ⟨(_ | m) | v, s'⟩
      · dsimp only
        rw [hrecord]
        exact hfit.keys_push hfind none hks
      · exact absurd (congrArg Prod.fst hrun) (hload m)
      · dsimp only
        rw [hrecord]
        exact hfit.keys_push hfind (some v) hks

end Partitioned

/-- The operation is a request of one key, a peek or a question for the size. -/
def Operation.plain : Operation κ → Bool
  | .get .. | .peek .. | .peekAll .. | .size .. => true
  | .getAll .. | .flush | .flushStore .. | .forget .. => false

/-- The key that an operation requests of a store. -/
def Operation.wanted? (store : StoreName) : Operation κ → Option κ
  | .get name k => if name == store then some k else none
  | _ => none

/-- The keys that were requested of a store, the latest in front. -/
def requested (store : StoreName) (ops : List (Operation κ)) : List κ :=
  (ops.filterMap (·.wanted? store)).reverse

namespace Usage

variable {σ : Type} [EquivBEq κ] {config : Config} {t : Usage σ κ ν} {store : StoreName}
  {loader : Loader σ κ ν}

/-- The list of a store holds the latest of these keys, and in their order. -/
def Recent (config : Config) (store : StoreName) (ks : List κ) (t : Usage σ κ ν) : Prop :=
  ((t.cache.entries store).keys == (distinct ks).take config.capacity) = true

theorem Recent.after {ks : List κ} (h : t.Recent config store ks)
    (hfits : t.cache.Fits config) (henabled : config.enabled = true)
    (hloader : ∀ store k s m, ((loader.load store k).run s).1 ≠ .error (.failed m))
    {o : Operation κ} (ho : o.plain = true) :
    (t.after loader o).Recent config store ((o.wanted? store).toList ++ ks) := by
  cases o with
  | get name k =>
      by_cases hname : name = store
      · subst hname
        have hnext := hfits.keys_getOrLoad henabled (hloader name k t.source) h
        -- One more request renews the requests without repetitions in the same way.
        rw [renewed_take (distinct_unrepeated ks), renewed, ← distinct_cons] at hnext
        rw [Operation.wanted?, if_pos BEq.rfl]
        exact hnext
      · have hframe := (t.cache.confined_getOrLoad loader name k t.source).others store
          (Ne.symm hname)
        have hsame : (t.after loader (.get name k)).cache.entries store =
            t.cache.entries store := hframe
        rw [Operation.wanted?, if_neg (by simpa using hname)]
        unfold Recent
        rw [hsame]
        exact h
  | peek name k => exact h
  | peekAll name ks => exact h
  | size name => exact h
  | getAll name ks => cases ho
  | flush => cases ho
  | flushStore name => cases ho
  | forget ids => cases ho

theorem Recent.run {ks : List κ} (h : t.Recent config store ks)
    (hfits : t.cache.Fits config) (henabled : config.enabled = true)
    (hloader : ∀ store k s m, ((loader.load store k).run s).1 ≠ .error (.failed m))
    {ops : List (Operation κ)} (hops : ∀ o ∈ ops, o.plain = true) :
    (t.run loader ops).Recent config store (requested store ops ++ ks) := by
  induction ops generalizing t ks with
  | nil => exact h
  | cons o ops ih =>
      have hnext := h.after hfits henabled hloader (hops o List.mem_cons_self)
      have hrest := ih hnext (hfits.perform loader o t.source)
        fun o ho => hops o (List.mem_cons_of_mem _ ho)
      have hrequested : requested store (o :: ops) =
          requested store ops ++ (o.wanted? store).toList := by
        unfold requested
        rw [List.filterMap_cons]
        cases o.wanted? store <;> simp
      rw [hrequested, List.append_assoc]
      exact hrest

/-- Whatever happens to a cache, a store has no more entries than there is room for,
all under different keys, and none if the cache is switched off. If there are only
requests of one key, peeks and questions for the size, if nothing expires and no load
fails, then the entries are those of the keys that were requested last, and stand in
the order in which they were. -/
theorem live_recent (loader : Loader σ κ ν) (id : String) (config : Config)
    (scope : Option (κ → ResourceId)) (source : σ) (store : StoreName) :
    (∀ events : List (Event κ ν),
      let r := ((start id config scope source).live loader events).cache.entries store
      r.length ≤ max config.perStoreLimit 1 ∧ Unrepeated r.keys ∧
        (config.enabled = false → r = [])) ∧
    (config.enabled = true →
      (∀ store k s m, ((loader.load store k).run s).1 ≠ .error (.failed m)) →
      ∀ ops : List (Operation κ), (∀ o ∈ ops, o.plain = true) →
        (Recency.keys (((start id config scope source).run loader ops).cache.entries store) ==
          (distinct (requested store ops)).take (max config.perStoreLimit 1)) = true) := by
  have hstart : (start id config scope source : Usage σ κ ν).cache.Fits config :=
    fits_start id config scope source
  refine ⟨fun events => ?_, fun henabled hloader ops hops => ?_⟩
  · obtain ⟨hroom, hapart, hoff⟩ := (fits_live hstart loader events).lists store
    exact ⟨hroom, hapart, hoff⟩
  · have hnothing : (start id config scope source : Usage σ κ ν).Recent config store [] := by
      show (([] : List κ) == [].take config.capacity) = true
      rw [List.take_nil]
      rfl
    have hrun := hnothing.run hstart henabled hloader hops
    rw [List.append_nil] at hrun
    exact hrun

/-- The vase is asked for twice, under different forms of its key, and so it is the
bowl that makes room for the cup. Nothing is in the store when the cache is off. -/
theorem live_recent_three_keys :
    let key : ResourceId → List Language.Tag → Key := fun id fallbacks =>
      ⟨id, ⟨.none, fallbacks⟩⟩
    let loader : Loader (List (Call Key)) Key String := answering
      (fun _ k => if k.resource == "urn:vase" then .ok "Vase" else .error .notFound)
      fun _ _ => .ok []
    let ops : List (Operation Key) := [.get "s" (key "urn:vase" []),
      .get "s" (key "urn:bowl" []), .peek "s" (key "urn:bowl" []),
      .get "s" (key "urn:vase" [.none]), .get "s" (key "urn:cup" [])]
    let config : Config := { perStoreLimit := 2 }
    let off : Config := { enabled := false }
    let t := (start "texts" off none []).live loader (ops.map .use)
    (config.enabled = true ∧
      (∀ store k s m, ((loader.load store k).run s).1 ≠ .error (.failed m)) ∧
      ∀ o ∈ ops, o.plain = true) ∧
    (Recency.keys (((start "texts" config none []).run loader ops).cache.entries "s") ==
      [key "urn:cup" [], key "urn:vase" [.none]]) = true ∧
    off.enabled = false ∧ t.cache.entries "s" = [] := by
  intro key loader ops config off t
  have hloader : ∀ store k s m, ((loader.load store k).run s).1 ≠ .error (.failed m) := by
    intro store k s m
    show (if k.resource == "urn:vase" then Except.ok "Vase" else .error LoadError.notFound) ≠ _
    split <;> nofun
  have hops : ∀ o ∈ ops, o.plain = true := by decide
  have hrecent := (live_recent loader "texts" config none [] "s").2 rfl hloader ops hops
  have hoff := ((live_recent loader "texts" off none [] "s").1 (ops.map .use)).2.2 rfl
  exact ⟨⟨rfl, hloader, hops⟩, hrecent, rfl, hoff⟩

end Usage

end Nomenclator.Cache

import Nomenclator.Invalidation.Relay
import Nomenclator.Proofs.Table

/-!
# Whom a fan-out reaches

The registry keeps nobody alive. What it holds under a name may have died since, and
it only finds out when it calls everybody: then the dead are dropped, and all others
are called. In between, its counts include the dead.

What a fan-out does can be told without the registry all the same. An object is
called exactly when it was the last one registered under its name, the name has not
been given up since, and somebody still holds the object. Nothing comes back to life,
so whom an earlier fan-out has dropped would not be called by a later one either, and
dropping the dead early or late makes no difference. Objects registered as targets
and objects registered as reloadables stand in tables of their own, of which only the
names are shared: giving up a name concerns both.

An object that only knows how to drop everything is called like any other one. It
drops everything for the sake of one store, and nothing for the sake of resources.
-/

namespace Nomenclator.Invalidation

/-- In what role an object is registered. -/
inductive Role where
  | target
  | reloadable
  deriving DecidableEq

/-- What is registered in a role. -/
def Registry.entries {η : Type} (r : Registry η) : Role → Table String η
  | .target => r.targets
  | .reloadable => r.reloadables

/-- How many are registered in a role. The dead count until they are found out. -/
def Registry.count {η : Type} (r : Registry η) (role : Role) : Nat :=
  (r.entries role).length

/-- What an object does when it is called. -/
inductive Callback where
  | flush
  | forget (ids : List ResourceId)
  | flushStore (store : StoreName)
  | reload
  deriving DecidableEq

/-- The ways to call everybody. -/
inductive Round where
  | flushAll
  | forgetIds (ids : List ResourceId)
  | flushStore (store : StoreName)
  | reloadAll
  deriving DecidableEq

/-- In what role objects are called. -/
def Round.role : Round → Role
  | .flushAll | .forgetIds _ | .flushStore _ => .target
  | .reloadAll => .reloadable

/-- What a single object does when its turn comes. -/
def Round.callbacks (f : Round) (flushOnly : Bool) : List Callback :=
  match f with
  | .flushAll => [.flush]
  | .forgetIds ids => if flushOnly then [] else [.forget ids]
  | .flushStore store => if flushOnly then [.flush] else [.flushStore store]
  | .reloadAll => [.reload]

/-- What is known of the objects: their names in either role, and whether they only
know how to drop everything. -/
structure Roster (η : Type) where
  name : Role → η → String
  flushOnly : η → Bool

/-- Who is held, once for each time, and what was done in the order in which it was
done. -/
structure Hall (η : Type) where
  held : List η
  done : List (η × Callback)

/-- What can happen in any order. Nobody can tell an object that comes into being from
one that was held all the time before it was registered. -/
inductive Step (η : Type) where
  | register (role : Role) (h : η)
  | unregister (id : String)
  | drop (h : η)
  | round (f : Round)
  deriving DecidableEq

variable {η : Type} [DecidableEq η]

/-- An object does something. -/
def Hall.add (h : η) (c : Callback) (w : Hall η) : Hall η :=
  { w with done := w.done ++ [(h, c)] }

/-- The objects of a roster. Those that only know how to drop everything leave the
rest to the usual reactions of a target. -/
def Roster.reactions (roster : Roster η) : Reactions η (Hall η) where
  alive w h := w.held.contains h
  target h :=
    if roster.flushOnly h then { flush := Hall.add h .flush }
    else
      { flush := Hall.add h .flush
        forget := fun ids => Hall.add h (.forget ids)
        flushStore := fun store => Hall.add h (.flushStore store) }
  reload h := Hall.add h .reload

namespace Relay

/-- Calls everybody, and says how many were reached. -/
def round (roster : Roster η) (f : Round) (r : Relay η (Hall η)) : Nat × Relay η (Hall η) :=
  match f with
  | .flushAll => r.flushAll roster.reactions
  | .forgetIds ids => r.forgetIds roster.reactions ids
  | .flushStore store => r.flushStore roster.reactions store
  | .reloadAll => r.reloadAll roster.reactions

/-- A relay after a step. -/
def step (roster : Roster η) (r : Relay η (Hall η)) : Step η → Relay η (Hall η)
  | .register .target h =>
      { r with registry := r.registry.register (roster.name .target h) h }
  | .register .reloadable h =>
      { r with registry := r.registry.registerReloadable (roster.name .reloadable h) h }
  | .unregister id => { r with registry := r.registry.unregister id }
  | .drop h => { r with world := { r.world with held := r.world.held.erase h } }
  | .round f => (r.round roster f).2

/-- A relay after some steps. -/
def steps (roster : Roster η) (r : Relay η (Hall η)) (taken : List (Step η)) :
    Relay η (Hall η) :=
  taken.foldl (step roster) r

/-- A relay with which nothing is registered yet. -/
def fresh (batch : Nat) (queue : Queue) (held : List η) : Relay η (Hall η) :=
  ⟨batch, queue, .empty, ⟨held, []⟩, 0⟩

end Relay

/-! ## One round -/

/-- How a single object takes part in a round. -/
def Roster.act (roster : Roster η) : Round → η → Hall η → Hall η
  | .flushAll, h => (roster.reactions.target h).flush
  | .forgetIds ids, h => (roster.reactions.target h).forget ids
  | .flushStore store, h => (roster.reactions.target h).flushStore store
  | .reloadAll, h => roster.reactions.reload h

theorem Roster.act_eq (roster : Roster η) (f : Round) (h : η) (w : Hall η) :
    roster.act f h w =
      { w with
        done := w.done ++ (f.callbacks (roster.flushOnly h)).map fun c => (h, c) } := by
  cases f <;> cases hflush : roster.flushOnly h <;>
    simp [act, reactions, Round.callbacks, Hall.add, hflush]

theorem Roster.foldl_act (roster : Roster η) (f : Round) (called : List η) (w : Hall η) :
    called.foldl (fun w h => roster.act f h w) w =
      { w with
        done := w.done ++ called.flatMap fun h =>
          (f.callbacks (roster.flushOnly h)).map fun c => (h, c) } := by
  induction called generalizing w with
  | nil => simp
  | cons h called ih => rw [List.foldl_cons, ih, act_eq]; simp

namespace Relay

variable {roster : Roster η} {f : Round} {r : Relay η (Hall η)}

/-- Those who will be called. -/
def live (f : Round) (r : Relay η (Hall η)) : Table String η :=
  (r.registry.entries f.role).filter fun e => r.world.held.contains e.2

theorem round_reached : (r.round roster f).1 = (r.live f).length := by
  cases f <;> exact List.length_map _

theorem entries_round (role : Role) :
    (r.round roster f).2.registry.entries role =
      if role = f.role then r.live f else r.registry.entries role := by
  cases f <;> cases role <;> rfl

theorem world_round :
    (r.round roster f).2.world =
      { r.world with
        done := r.world.done ++ ((r.live f).map (·.2)).flatMap fun h =>
          (f.callbacks (roster.flushOnly h)).map fun c => (h, c) } := by
  rw [← roster.foldl_act f]
  cases f <;> rfl

theorem entries_register (role : Role) (h : η) (role' : Role) :
    (r.step roster (.register role h)).registry.entries role' =
      if role' = role then (r.registry.entries role').put (roster.name role h) h
      else r.registry.entries role' := by
  cases role <;> cases role' <;> rfl

theorem entries_unregister (id : String) (role : Role) :
    (r.step roster (.unregister id)).registry.entries role =
      (r.registry.entries role).erase id := by
  cases role <;> rfl

end Relay

/-! ## The last one registered -/

/-- An object is the last one registered under its name, which has not been given up
since. -/
def Standing (roster : Roster η) (role : Role) (taken : List (Step η)) (h : η) : Prop :=
  ∃ before after, taken = before ++ .register role h :: after ∧
    .unregister (roster.name role h) ∉ after ∧
    ∀ h', .register role h' ∈ after → roster.name role h' ≠ roster.name role h

variable {roster : Roster η} {role : Role} {taken : List (Step η)} {h : η}

omit [DecidableEq η] in
theorem standing_snoc {s : Step η} :
    Standing roster role (taken ++ [s]) h ↔
      s = .register role h ∨ Standing roster role taken h ∧
        s ≠ .unregister (roster.name role h) ∧
        ∀ h', s = .register role h' → roster.name role h' ≠ roster.name role h := by
  constructor
  · rintro ⟨before, after, htaken, hid, hnames⟩
    rcases List.eq_nil_or_concat after with rfl | ⟨after, s', rfl⟩
    · exact .inl (List.append_inj_right' htaken rfl |> List.singleton_inj.1)
    · rw [List.concat_eq_append] at htaken hid hnames
      rw [← List.cons_append, ← List.append_assoc] at htaken
      obtain ⟨rfl, hs⟩ := List.append_inj' htaken rfl
      obtain rfl := List.singleton_inj.1 hs
      simp only [List.mem_append, List.mem_singleton, not_or] at hid hnames
      exact .inr ⟨⟨before, after, rfl, hid.1, fun h' hh' => hnames h' (.inl hh')⟩,
        fun hs => hid.2 hs.symm, fun h' hs => hnames h' (.inr hs.symm)⟩
  · rintro (rfl | ⟨⟨before, after, rfl, hid, hnames⟩, hs, hname⟩)
    · exact ⟨taken, [], rfl, List.not_mem_nil, fun _ hh' => absurd hh' List.not_mem_nil⟩
    · refine ⟨before, after ++ [s], by simp, ?_, fun h' hh' => ?_⟩
      · simpa using ⟨hid, fun hs' => hs hs'.symm⟩
      · rcases List.mem_append.1 hh' with hh' | hh'
        · exact hnames h' hh'
        · exact hname h' (List.mem_singleton.1 hh').symm

/-! ## What the registry holds -/

/-- A table holds only objects that stand, each under its name, and all of those that
are held. -/
structure Mirrors (roster : Roster η) (role : Role) (taken : List (Step η)) (held : List η)
    (t : Table String η) : Prop where
  keys : Unrepeated t.keys
  names : ∀ e ∈ t, e.1 = roster.name role e.2
  standing : ∀ e ∈ t, Standing roster role taken e.2
  complete : ∀ h ∈ held, Standing roster role taken h → (roster.name role h, h) ∈ t

variable {held held' : List η} {t : Table String η}

omit [DecidableEq η] in
/-- A step that registers nobody in the role, and gives no name up. -/
theorem Mirrors.idle (ht : Mirrors roster role taken held t) {s : Step η}
    (hregister : ∀ h, s ≠ .register role h) (hunregister : ∀ id, s ≠ .unregister id)
    (hheld : ∀ h ∈ held', h ∈ held) : Mirrors roster role (taken ++ [s]) held' t := by
  have hsame : ∀ h, Standing roster role (taken ++ [s]) h ↔ Standing roster role taken h := by
    intro h
    rw [standing_snoc]
    simp [hregister, hunregister]
  exact ⟨ht.keys, ht.names, fun e he => (hsame e.2).2 (ht.standing e he),
    fun h hh hstands => ht.complete h (hheld h hh) ((hsame h).1 hstands)⟩

omit [DecidableEq η] in
theorem Mirrors.put (ht : Mirrors roster role taken held t) (h : η) :
    Mirrors roster role (taken ++ [.register role h]) held
      (t.put (roster.name role h) h) where
  keys := Table.unrepeated_put ht.keys _ _
  names e he := by
    rcases Table.mem_put he with he | rfl
    · exact ht.names e he
    · rfl
  standing e he := by
    -- Whoever had the name before is no longer in the table.
    by_cases hname : e.1 = roster.name role h
    · obtain rfl := Table.eq_of_unrepeated (Table.unrepeated_put ht.keys _ _) he
        (Table.mem_put_self t (roster.name role h) h) hname
      exact standing_snoc.2 (.inl rfl)
    · rcases Table.mem_put he with he | rfl
      · refine standing_snoc.2 (.inr ⟨ht.standing e he, by simp, fun h' hs => ?_⟩)
        cases hs
        rw [← ht.names e he]
        exact Ne.symm hname
      · exact absurd rfl hname
  complete h' hh' hstands := by
    rcases standing_snoc.1 hstands with hs | ⟨hstands, -, hnames⟩
    · cases hs
      exact Table.mem_put_self _ _ _
    · exact Table.mem_put_of_ne (ht.complete h' hh' hstands) _ (hnames h rfl).symm

omit [DecidableEq η] in
theorem Mirrors.erase (ht : Mirrors roster role taken held t) (id : String) :
    Mirrors roster role (taken ++ [.unregister id]) held (t.erase id) where
  keys := List.Pairwise.sublist (List.filter_sublist.map _) ht.keys
  names e he := ht.names e (List.mem_filter.1 he).1
  standing e he := by
    obtain ⟨hmem, hid⟩ := List.mem_filter.1 he
    have hname : e.1 ≠ id := by simpa using hid
    refine standing_snoc.2 (.inr ⟨ht.standing e hmem, fun hs => ?_, by simp⟩)
    cases hs
    exact hname (ht.names e hmem)
  complete h hh hstands := by
    rcases standing_snoc.1 hstands with hs | ⟨hstands, hid, -⟩
    · cases hs
    · refine List.mem_filter.2 ⟨ht.complete h hh hstands, ?_⟩
      simpa using fun hname => hid (by rw [hname])

theorem Mirrors.prune (ht : Mirrors roster role taken held t) :
    Mirrors roster role taken held (t.filter fun e => held.contains e.2) where
  keys := List.Pairwise.sublist (List.filter_sublist.map _) ht.keys
  names e he := ht.names e (List.mem_filter.1 he).1
  standing e he := ht.standing e (List.mem_filter.1 he).1
  complete h hh hstands := by
    refine List.mem_filter.2 ⟨ht.complete h hh hstands, ?_⟩
    simpa using hh

/-- The registry holds what it should in either role. -/
def Relay.Mirrors (roster : Roster η) (taken : List (Step η)) (r : Relay η (Hall η)) : Prop :=
  ∀ role, Invalidation.Mirrors roster role taken r.world.held (r.registry.entries role)

namespace Relay

variable {r : Relay η (Hall η)}

theorem Mirrors.step (hr : r.Mirrors roster taken) (s : Step η) :
    (r.step roster s).Mirrors roster (taken ++ [s]) := by
  intro role
  cases s with
  | register role' h =>
      have hheld : (r.step roster (.register role' h)).world = r.world := by
        cases role' <;> rfl
      rw [entries_register, hheld]
      split
      · next hrole =>
          subst hrole
          exact (hr role).put h
      · next hrole =>
          refine (hr role).idle (fun h' hs => ?_) (by simp) (fun _ hh => hh)
          cases hs
          exact hrole rfl
  | unregister id =>
      rw [entries_unregister]
      exact (hr role).erase id
  | drop h =>
      -- The dead stay in the table, which need not hold only what is held.
      exact (hr role).idle (by simp) (by simp) fun _ hh => List.mem_of_mem_erase hh
  | round f =>
      have hidle : Invalidation.Mirrors roster role (taken ++ [.round f]) r.world.held
          (r.registry.entries role) :=
        (hr role).idle (by simp) (by simp) fun _ hh => hh
      show Invalidation.Mirrors roster role _ (r.round roster f).2.world.held
        ((r.round roster f).2.registry.entries role)
      rw [entries_round, world_round]
      split
      · next hrole =>
          subst hrole
          exact hidle.prune
      · exact hidle

theorem Mirrors.steps (hr : r.Mirrors roster taken) (more : List (Step η)) :
    (r.steps roster more).Mirrors roster (taken ++ more) := by
  induction more generalizing r taken with
  | nil =>
      rw [List.append_nil]
      exact hr
  | cons s more ih =>
      have hnext := ih (hr.step s)
      rw [List.append_assoc] at hnext
      exact hnext

omit [DecidableEq η] in
theorem mirrors_fresh (roster : Roster η) (batch : Nat) (queue : Queue) (held : List η) :
    (fresh batch queue held).Mirrors roster [] := by
  intro role
  have hempty : (fresh batch queue held).registry.entries role = [] := by
    cases role <;> rfl
  have hnobody : ∀ h, ¬ Standing roster role [] h := by
    rintro h ⟨before, after, htaken, -⟩
    simp at htaken
  rw [hempty]
  exact ⟨.nil, by simp, by simp, fun h _ hstands => absurd hstands (hnobody h)⟩

theorem held_step (s : Step η) :
    (r.step roster s).world.held =
      match s with
      | .drop h => r.world.held.erase h
      | _ => r.world.held := by
  cases s with
  | register role h => cases role <;> rfl
  | unregister id => rfl
  | drop h => rfl
  | round f =>
      show (r.round roster f).2.world.held = _
      rw [world_round]

theorem count_held_steps (h : η) (taken : List (Step η)) :
    (r.steps roster taken).world.held.count h =
      r.world.held.count h - taken.count (.drop h) := by
  induction taken generalizing r with
  | nil => rfl
  | cons s taken ih =>
      show ((r.step roster s).steps roster taken).world.held.count h = _
      rw [ih, held_step, List.count_cons]
      cases s with
      | drop h' =>
          rw [List.count_erase]
          by_cases hh : h' = h
          · simp [hh]
            omega
          · simp [hh]
      | _ => simp

/-- An object is held as long as it was dropped less often than it was held. -/
theorem mem_held_steps (h : η) (taken : List (Step η)) :
    h ∈ (r.steps roster taken).world.held ↔
      taken.count (.drop h) < r.world.held.count h := by
  rw [← List.count_pos_iff, count_held_steps]
  omega

end Relay

omit [DecidableEq η] in
/-- Objects under different names are different objects. -/
theorem Mirrors.nodup (ht : Mirrors roster role taken held t) : (t.map (·.2)).Nodup := by
  have hpairs := List.pairwise_map.1 ht.keys
  refine List.pairwise_map.2 (hpairs.imp_of_mem fun {e e'} he he' hkey hsame => ?_)
  rw [ht.names e he, ht.names e' he', hsame] at hkey
  simp at hkey

/-- However objects have been registered, given up and dropped, and whoever has been
called before: a round calls everybody once who stands in its role and is still held,
and nobody else. It says how many these are, and this is how many are registered
afterwards. An object that only knows how to drop everything counts as called: it
drops everything for the sake of a store, and does nothing for the sake of resources. -/
theorem Relay.steps_reach (roster : Roster η) (batch : Nat) (queue : Queue) (held : List η)
    (taken : List (Step η)) (f : Round) :
    let r := (fresh batch queue held).steps roster taken
    ∃ called : List η, called.Nodup ∧
      (∀ h, h ∈ called ↔
        Standing roster f.role taken h ∧ taken.count (.drop h) < held.count h) ∧
      (r.round roster f).2.world.done = r.world.done ++ called.flatMap (fun h =>
        (f.callbacks (roster.flushOnly h)).map fun c => (h, c)) ∧
      (r.round roster f).1 = called.length ∧
      (r.round roster f).2.registry.count f.role = called.length := by
  intro r
  have hmirrors := (mirrors_fresh roster batch queue held).steps taken f.role
  rw [List.nil_append] at hmirrors
  have hheld : ∀ h, h ∈ r.world.held ↔ taken.count (.drop h) < held.count h :=
    fun h => mem_held_steps h taken
  refine ⟨(r.live f).map (·.2), hmirrors.prune.nodup, fun h => ?_, ?_, ?_, ?_⟩
  · rw [← hheld h]
    constructor
    · intro hlive
      obtain ⟨e, he, rfl⟩ := List.mem_map.1 hlive
      obtain ⟨hmem, hheld⟩ := List.mem_filter.1 he
      exact ⟨hmirrors.standing e hmem, by simpa using hheld⟩
    · rintro ⟨hstands, hheld⟩
      exact List.mem_map.2 ⟨_, hmirrors.prune.complete h hheld hstands, rfl⟩
  · rw [world_round]
  · rw [List.length_map]
    exact round_reached
  · rw [List.length_map]
    have hentries : (r.round roster f).2.registry.entries f.role = r.live f :=
      (entries_round f.role).trans (if_pos rfl)
    exact congrArg List.length hentries

end Nomenclator.Invalidation

import Nomenclator.Graph.Dataset
import Nomenclator.Proofs.Effect
import Nomenclator.Proofs.Listing

/-!
# Loading a dataset is inserting its triples

A dataset is loaded block by block, and each block creates its store and inserts its triples
one by one, so an error in the last block comes after everything before it has been inserted.
Nothing of that can be seen: the stores are handed out only when no entry was at fault, and
what they then are is the result of a plain run of operations. What is known of such runs
settles the rest. A store holds the list that the operations on it leave behind, the
operations on other stores do not touch it, and creating it again does nothing. Blocks that
name the same store up to blanks therefore append to one list, in the order of the file.
-/

namespace Nomenclator.Graph

/-! ## Faults -/

namespace TripleEntry

/-- The entry has exactly one of object and literal. -/
def Definite (t : TripleEntry) : Prop := t.object.isSome ≠ t.literal.isSome

instance : DecidablePred Definite := fun t =>
  inferInstanceAs (Decidable (t.object.isSome ≠ t.literal.isSome))

/-- The triple that a definite entry stands for. -/
def meant (t : TripleEntry) : Triple where
  subject := t.subject
  predicate := t.predicate
  object := match t.object with
    | some target => .iri target
    | none => .text ⟨t.literal.getD "", (t.language.map Language.Tag.ofString).getD .none⟩

/-- What is wrong with the entry. -/
def faults (t : TripleEntry) : List DatasetError :=
  if t.Definite then [] else [.indefinite t.subject]

end TripleEntry

namespace StoreEntry

/-- The store that a block is about. -/
def store (s : StoreEntry) : StoreName := Text.trimmed s.name

/-- What is wrong with a block, in the order of the file. -/
def faults (s : StoreEntry) : List DatasetError :=
  (if s.store = "" then [.emptyName] else []) ++ s.triples.flatMap TripleEntry.faults

/-- What a block does to the stores. -/
def operations (s : StoreEntry) : List Memory.Operation :=
  .create s.store :: s.triples.map fun t => .insert s.store t.meant

end StoreEntry

namespace Dataset

/-- What is wrong with a dataset, in the order of the file. -/
def faults (blocks : List StoreEntry) : List DatasetError := blocks.flatMap StoreEntry.faults

/-- The triples of all blocks that are about a store, in the order of the file. -/
def triplesOf (store : StoreName) (blocks : List StoreEntry) : Triples :=
  (blocks.filter fun s => s.store = store).flatMap fun s => s.triples.map TripleEntry.meant

theorem triplesOf_cons (store : StoreName) (s : StoreEntry) (blocks : List StoreEntry) :
    triplesOf store (s :: blocks) =
      (if s.store = store then s.triples.map TripleEntry.meant else []) ++
        triplesOf store blocks := by
  unfold triplesOf
  rw [List.filter_cons]
  split <;> simp_all

theorem triplesOf_of_not_mem {store : StoreName} {blocks : List StoreEntry}
    (h : store ∉ blocks.map StoreEntry.store) : triplesOf store blocks = [] := by
  have hnone : blocks.filter (fun s => s.store = store) = [] := by
    rw [List.filter_eq_nil_iff]
    intro s hs heq
    exact h (List.mem_map.2 ⟨s, hs, of_decide_eq_true heq⟩)
  unfold triplesOf
  rw [hnone]
  rfl

theorem faults_eq_nil_iff {blocks : List StoreEntry} :
    faults blocks = [] ↔
      ∀ s ∈ blocks, s.store ≠ "" ∧ ∀ t ∈ s.triples, t.Definite := by
  have hname : ∀ s : StoreEntry,
      (if s.store = "" then [DatasetError.emptyName] else []) = [] ↔ s.store ≠ "" := by
    intro s
    split <;> simp [*]
  have htriple : ∀ t : TripleEntry, t.faults = [] ↔ t.Definite := by
    intro t
    unfold TripleEntry.faults
    split <;> simp [*]
  unfold faults StoreEntry.faults
  simp only [List.flatMap_eq_nil_iff, List.append_eq_nil_iff, hname, htriple]

/-- A value, unless something was wrong before: then the first fault. -/
def settle {α : Type} (faults : List DatasetError) (a : α) : Except DatasetError α :=
  match faults.head? with
  | some e => .error e
  | none => .ok a

theorem settle_bind {α β : Type} (es es' : List DatasetError) (a : α) (f : α → β) :
    (settle es a >>= fun a => settle es' (f a)) = settle (es ++ es') (f a) := by
  cases es <;> rfl

theorem settle_checks {α : Type} (es : List DatasetError) (a : α) :
    Checks (· = a) (settle es a) es := by
  cases es with
  | nil => exact .accepted rfl
  | cons e es => exact .rejected e es

theorem settle_eq_ok_iff {α : Type} {es : List DatasetError} {a b : α} :
    settle es a = .ok b ↔ es = [] ∧ a = b := by
  have h := settle_checks es a
  constructor
  · exact fun hok => ⟨h.exists_ok_iff.1 ⟨b, hok⟩, (h.of_eq_ok hok).symm⟩
  · rintro ⟨rfl, rfl⟩
    rfl

theorem settle_eq_error_iff {α : Type} {es : List DatasetError} {a : α} {e : DatasetError} :
    settle es a = .error e ↔ es.head? = some e :=
  (settle_checks es a).eq_error_iff

end Dataset

open Dataset (settle)

theorem TripleEntry.term_eq (t : TripleEntry) : t.term = settle t.faults t.meant.object := by
  obtain ⟨subject, predicate, object, literal, language⟩ := t
  cases object <;> cases literal <;> rfl

namespace Memory

/-! ## Loading as a run -/

theorem loadTriples_eq (m : Memory) (store : StoreName) (ts : List TripleEntry) :
    m.loadTriples store ts =
      settle (ts.flatMap TripleEntry.faults)
        ((ts.map fun t => Operation.insert store t.meant).foldl after m) := by
  induction ts generalizing m with
  | nil => rfl
  | cons t ts ih =>
      rw [loadTriples, t.term_eq]
      simp only [ih]
      exact Dataset.settle_bind _ _ _ fun object =>
        (ts.map fun t => Operation.insert store t.meant).foldl after
          (m.insert store t.subject t.predicate object)

theorem loadStores_cons (m : Memory) (s : StoreEntry) (blocks : List StoreEntry) :
    m.loadStores (s :: blocks) =
      if s.store = "" then .error .emptyName
      else (m.create s.store).loadTriples s.store s.triples >>= fun m => m.loadStores blocks := by
  have hempty : s.store.isEmpty = decide (s.store = "") := by
    rw [Bool.eq_iff_iff, String.isEmpty_iff, decide_eq_true_iff]
  rw [loadStores, show (Text.trimmed s.name).isEmpty = decide (s.store = "") from hempty]
  by_cases hname : s.store = "" <;> simp only [hname] <;> rfl

/-- All blocks are loaded, or the first fault decides. -/
theorem loadStores_eq (m : Memory) (blocks : List StoreEntry) :
    m.loadStores blocks =
      settle (Dataset.faults blocks) ((blocks.flatMap StoreEntry.operations).foldl after m) := by
  induction blocks generalizing m with
  | nil => rfl
  | cons s blocks ih =>
      rw [loadStores_cons]
      unfold Dataset.faults StoreEntry.faults
      rw [List.flatMap_cons, List.flatMap_cons, List.foldl_append]
      by_cases hname : s.store = ""
      · rw [if_pos hname, if_pos hname]
        rfl
      · rw [if_neg hname, if_neg hname, loadTriples_eq]
        simp only [ih]
        exact Dataset.settle_bind _ _ _ fun m =>
          (blocks.flatMap StoreEntry.operations).foldl after m

/-! ## What each store holds -/

namespace Listing

variable {l : Listing}

theorem put_self {store : StoreName} {held : Option Triples} (h : l store = held) :
    l.put store held = l := by
  funext other
  unfold put
  split
  · next heq => rw [← heq, h]
  · rfl

theorem put_put (l : Listing) (store : StoreName) (held held' : Option Triples) :
    (l.put store held).put store held' = l.put store held' := by
  funext other
  unfold put
  split <;> rfl

theorem insert_all {store : StoreName} {held : Triples} (h : l store = some held)
    (ts : Triples) :
    (ts.map (Operation.insert store)).foldl after l = l.put store (some (held ++ ts)) := by
  induction ts generalizing l held with
  | nil => rw [List.append_nil, put_self h]; rfl
  | cons t ts ih =>
      have hnext : l.after (.insert store t) = l.put store (some (held ++ [t])) := by
        rw [after, h, Option.getD_some]
      rw [List.map_cons, List.foldl_cons, hnext, ih (if_pos rfl), put_put, List.append_assoc]
      rfl

theorem create_and_insert (l : Listing) (store : StoreName) (ts : Triples) :
    (Operation.create store :: ts.map (Operation.insert store)).foldl after l =
      l.put store (some ((l store).getD [] ++ ts)) := by
  rw [List.foldl_cons, after, insert_all (if_pos rfl), put_put]

/-- A store that some block is about gets the triples of all of them, and no other store
is touched. -/
theorem load_blocks (l : Listing) (blocks : List StoreEntry) (store : StoreName) :
    (blocks.flatMap StoreEntry.operations).foldl after l store =
      if store ∈ blocks.map StoreEntry.store then
        some ((l store).getD [] ++ Dataset.triplesOf store blocks)
      else l store := by
  induction blocks generalizing l with
  | nil => rfl
  | cons s blocks ih =>
      have hblock : s.operations.foldl after l =
          l.put s.store (some ((l s.store).getD [] ++ s.triples.map TripleEntry.meant)) := by
        rw [← create_and_insert, List.map_map]
        rfl
      rw [List.flatMap_cons, List.foldl_append, hblock, ih, Dataset.triplesOf_cons]
      unfold put
      by_cases hstore : s.store = store
      · subst hstore
        -- Later blocks may name the store again, and then append to what is there now.
        by_cases hmem : s.store ∈ blocks.map StoreEntry.store
        · simp [hmem, List.append_assoc]
        · simp [hmem, Dataset.triplesOf_of_not_mem hmem]
      · simp [hstore, Ne.symm hstore]

end Listing

/-- A fresh store and the triples that are inserted into it. -/
def fresh (store : StoreName) (ts : Triples) : Memory :=
  run (.create store :: ts.map (Operation.insert store))

theorem listing_fresh (store : StoreName) (ts : Triples) :
    Listing.run (.create store :: ts.map (Operation.insert store)) store = some ts := by
  unfold Listing.run
  rw [Listing.create_and_insert]
  exact if_pos rfl

/-- What a store is like does not depend on more than the list that it holds. -/
theorem run_alike {ops ops' : List Operation} {store : StoreName}
    (h : Listing.run ops store = Listing.run ops' store) :
    (run ops).size store = (run ops').size store ∧
      (∀ subject predicate,
        ((run ops).remove store subject predicate).1 =
          ((run ops').remove store subject predicate).1) ∧
      ∀ q, ((run ops).ask store q).1 = ((run ops').ask store q).1 := by
  obtain ⟨-, hsize, hremove, hask⟩ := run_lists ops store
  obtain ⟨-, hsize', hremove', hask'⟩ := run_lists ops' store
  rw [← h] at hsize' hremove' hask'
  exact ⟨hsize.trans hsize'.symm,
    fun subject predicate =>
      (hremove subject predicate).1.trans (hremove' subject predicate).1.symm,
    fun q => (hask q).trans (hask' q).symm⟩

/-! ## The names of the stores -/

theorem unrepeated_after {m : Memory} (h : Unrepeated m.stores.keys) (op : Operation) :
    Unrepeated (m.after op).stores.keys := by
  cases op with
  | create store =>
      show Unrepeated (m.create store).stores.keys
      unfold create
      split
      · exact h
      · exact Table.unrepeated_put h store .empty
  | drop store => exact h.sublist (List.filter_sublist.map _)
  | insert store t => exact Table.unrepeated_put h store _
  | remove store subject predicate =>
      show Unrepeated (m.remove store subject predicate).2.stores.keys
      unfold remove
      split
      · exact h
      · exact Table.unrepeated_put h store _

theorem unrepeated_run (ops : List Operation) : Unrepeated (run ops).stores.keys := by
  have hrun : ∀ m : Memory, Unrepeated m.stores.keys →
      Unrepeated (ops.foldl after m).stores.keys := by
    induction ops with
    | nil => exact fun _ h => h
    | cons op ops ih => exact fun _ h => ih _ (unrepeated_after h op)
  exact hrun empty .nil

theorem mem_names {m : Memory} {store : StoreName} : store ∈ m.names ↔ m.has store = true := by
  have hkeys : store ∈ m.stores.keys ↔ ∃ e ∈ m.stores, e.1 = store := List.mem_map
  unfold names has Table.has
  rw [List.mem_mergeSort, hkeys, List.any_eq_true]
  simp only [beq_iff_eq]

theorem names_ascending (ops : List Operation) : (run ops).names.Pairwise (· < ·) := by
  have hsorted : (run ops).names.Pairwise fun a b => decide (a ≤ b) = true := by
    refine List.pairwise_mergeSort (fun a b c hab hbc => ?_) (fun a b => ?_) _
    · exact decide_eq_true (String.le_trans (of_decide_eq_true hab) (of_decide_eq_true hbc))
    · rw [Bool.or_eq_true, decide_eq_true_iff, decide_eq_true_iff]
      exact String.le_total a b
  have hnodup : (run ops).names.Nodup :=
    (List.mergeSort_perm _ _).nodup_iff.2 (unrepeated_iff_nodup.1 (unrepeated_run ops))
  -- What is ascending and free of repetitions ascends strictly.
  refine List.Pairwise.imp₂ (fun a b hle hne => ?_) hsorted hnodup
  rw [← String.not_le]
  exact fun hge => hne (String.le_antisymm (of_decide_eq_true hle) hge)

end Memory

namespace Dataset

open Memory (fresh)

theorem loaded_alike (blocks : List StoreEntry) {store : StoreName}
    (h : store ∈ blocks.map StoreEntry.store) :
    Memory.Listing.run (blocks.flatMap StoreEntry.operations) store =
      some (triplesOf store blocks) := by
  unfold Memory.Listing.run
  rw [Memory.Listing.load_blocks, if_pos h]
  rfl

theorem loaded_missing (blocks : List StoreEntry) {store : StoreName}
    (h : store ∉ blocks.map StoreEntry.store) :
    Memory.Listing.run (blocks.flatMap StoreEntry.operations) store = none := by
  unfold Memory.Listing.run
  rw [Memory.Listing.load_blocks, if_neg h]

theorem load_of_decoded {text : String} {blocks : List StoreEntry}
    (h : (Toml.parse text.toList).bind stores? = some blocks) :
    load text =
      settle (faults blocks) (Memory.run (blocks.flatMap StoreEntry.operations)) := by
  unfold load
  rw [h]
  exact Memory.loadStores_eq .empty blocks

/-- A dataset that can be decoded is loaded if and only if every block names a store and
every triple is definite; otherwise its first fault, in the order of the file, is the error.
What is loaded has the stores that the blocks name and no others, blocks without triples
included, and each of them answers, reports removals and is as large as a fresh store into
which the triples of all its blocks were inserted in the order of the file. -/
theorem load_inserts {text : String} {blocks : List StoreEntry}
    (h : (Toml.parse text.toList).bind stores? = some blocks) :
    ((∃ m, load text = .ok m) ↔
        ∀ s ∈ blocks, s.store ≠ "" ∧ ∀ t ∈ s.triples, t.Definite) ∧
      (∀ e, load text = .error e ↔ (faults blocks).head? = some e) ∧
      ∀ m, load text = .ok m →
        m.names.Pairwise (· < ·) ∧
          (∀ store, store ∈ m.names ↔ store ∈ blocks.map StoreEntry.store) ∧
          (∀ store ∈ m.names,
            let alone := fresh store (triplesOf store blocks)
            m.size store = alone.size store ∧
              (∀ subject predicate,
                (m.remove store subject predicate).1 =
                  (alone.remove store subject predicate).1) ∧
              ∀ q, (m.ask store q).1 = (alone.ask store q).1) ∧
          ∀ store ∉ m.names, ∀ q, (m.ask store q).1 = .error (.unknownStore store) := by
  have hload := load_of_decoded h
  rw [hload]
  refine ⟨?_, fun e => settle_eq_error_iff, fun m hm => ?_⟩
  · rw [← faults_eq_nil_iff]
    constructor
    · rintro ⟨m, hm⟩
      exact (settle_eq_ok_iff.1 hm).1
    · exact fun hnil => ⟨_, settle_eq_ok_iff.2 ⟨hnil, rfl⟩⟩
  · obtain ⟨-, rfl⟩ := settle_eq_ok_iff.1 hm
    have hnames : ∀ store,
        store ∈ (Memory.run (blocks.flatMap StoreEntry.operations)).names ↔
          store ∈ blocks.map StoreEntry.store := by
      intro store
      rw [Memory.mem_names, (Memory.run_lists _ store).1]
      by_cases hstore : store ∈ blocks.map StoreEntry.store
      · rw [loaded_alike blocks hstore]
        exact ⟨fun _ => hstore, fun _ => rfl⟩
      · rw [loaded_missing blocks hstore]
        exact ⟨fun h => (nomatch h), fun h => absurd h hstore⟩
    refine ⟨Memory.names_ascending _, hnames, fun store hstore => ?_, fun store hstore q => ?_⟩
    · refine Memory.run_alike ?_
      rw [loaded_alike blocks ((hnames store).1 hstore), Memory.listing_fresh]
    · rw [(Memory.run_lists _ store).2.2.2, loaded_missing blocks (mt (hnames store).2 hstore)]

/-- Two blocks for one store, written with different blanks around its name, and one
without triples between them. -/
def twice : String :=
  "[[stores]]\nname=\" s\"\n[[stores.triples]]\nsubject=\"a\"\npredicate=\"p\"\n" ++
    "literal=\"A\"\n[[stores]]\nname=\"t\"\n[[stores]]\nname=\"s \"\n" ++
    "[[stores.triples]]\nsubject=\"a\"\npredicate=\"p\"\nobject=\"b\"\n"

theorem load_inserts_twice :
    ∃ m, load twice = .ok m ∧ (∀ store, store ∈ m.names ↔ store ∈ ["s", "t", "s"]) ∧
      m.size "s" = 2 ∧ m.size "t" = 0 ∧
      (m.ask "s" ⟨["a"], [[⟨"p", false⟩]]⟩).1 =
        .ok [⟨"a", 0, .text ⟨"A", .none⟩⟩, ⟨"a", 0, .iri "b"⟩] := by
  have h : (Toml.parse twice.toList).bind stores? =
      some [⟨" s", [⟨"a", "p", none, some "A", none⟩]⟩, ⟨"t", []⟩,
        ⟨"s ", [⟨"a", "p", some "b", none, none⟩]⟩] := by decide +kernel
  obtain ⟨hok, -, hloaded⟩ := load_inserts h
  obtain ⟨m, hm⟩ := hok.2 (by decide)
  obtain ⟨-, hnames, hstores, -⟩ := hloaded m hm
  have hs := hstores "s" ((hnames "s").2 (by decide))
  have ht := hstores "t" ((hnames "t").2 (by decide))
  exact ⟨m, hm, hnames, hs.1, ht.1, (hs.2.2 _).trans rfl⟩

end Dataset

end Nomenclator.Graph

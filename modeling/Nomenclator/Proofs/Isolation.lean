import Nomenclator.Proofs.Agreement

/-!
# A failed call harms its own language only

A lookup at a peer makes one call for each language, and the keys of a language
get what the reply to their call has for their resource. Nothing else comes into
an entry: not the other keys, and not what becomes of the other calls. A call that
brings no texts, for whichever reason, leaves the keys of its language without a
text and is counted once.

What a peer replies is an arbitrary function of the call. Within one lookup that is
no restriction, for no two of its calls are equal. The peers here write their calls
down, so that what is said of the calls is said of what was really asked.
-/

namespace Nomenclator.Peer

open Cache (Key)
open Nomenclator.Language (Tag)

/-! ## Replies without texts -/

/-- A value of a reply is a text or the mark of its absence. -/
def IsEntry (value : Json) : Prop :=
  value = .null ∨ ∃ s, value = .text s

/-- A call has brought nothing: there is no reply, the reply is no success, or its body
is no object whose values are texts or marks of their absence. -/
inductive Failed : Option Reply → Prop where
  | unanswered : Failed none
  | refused (r : Reply) (h : r.status < 200 ∨ 300 ≤ r.status) : Failed (some r)
  | unreadable (r : Reply)
      (h : ∀ fields, Json.parse r.body.toList = some (.object fields) →
        ∃ e ∈ fields, ¬ IsEntry e.2) : Failed (some r)

theorem entry?_eq_none {e : String × Json} : entry? e = none ↔ ¬ IsEntry e.2 := by
  obtain ⟨name, value⟩ := e
  cases value <;> simp [IsEntry, entry?]

/-- Fields are entries all together or not at all. -/
theorem mapM_entry?_eq_none {fields : List (String × Json)} :
    fields.mapM entry? = none ↔ ∃ e ∈ fields, ¬ IsEntry e.2 := by
  induction fields with
  | nil => simp
  | cons e fields ih =>
      have hcons : (∃ x ∈ e :: fields, ¬ IsEntry x.2) ↔
          ¬ IsEntry e.2 ∨ ∃ x ∈ fields, ¬ IsEntry x.2 := by
        simp only [List.mem_cons, exists_eq_or_imp]
      rw [List.mapM_cons, hcons, ← ih, ← entry?_eq_none]
      cases entry? e with
      | none => simp
      | some entry => cases fields.mapM entry? <;> simp

/-- A call has failed exactly when no texts can be read from its reply. -/
theorem failed_iff {reply : Option Reply} :
    Failed reply ↔ reply.bind Reply.texts? = none := by
  cases reply with
  | none => exact ⟨fun _ => rfl, fun _ => .unanswered⟩
  | some r =>
      rw [Option.bind_some, Reply.texts?]
      by_cases hstatus : 200 ≤ r.status ∧ r.status < 300
      · rw [if_pos (by simpa using hstatus)]
        constructor
        · intro h
          cases h with
          | refused _ h => omega
          | unreadable _ h =>
              split
              · next fields hparse =>
                  rw [Option.map_eq_none_iff]
                  exact mapM_entry?_eq_none.2 (h fields hparse)
              · rfl
        · intro h
          refine .unreadable r fun fields hparse => ?_
          rw [hparse] at h
          exact mapM_entry?_eq_none.1 (Option.map_eq_none_iff.1 h)
      · rw [if_neg (by simpa using hstatus)]
        exact ⟨fun _ => rfl, fun _ => .refused r (by omega)⟩

instance (reply : Option Reply) : Decidable (Failed reply) :=
  decidable_of_iff _ failed_iff.symm

/-- A call that has failed shows no text of any resource. -/
theorem shown_textOf_of_failed {reply : Option Reply} (h : Failed reply) (id : ResourceId) :
    shown (textOf reply id) = none := by
  unfold textOf
  rw [failed_iff.1 h]
  rfl

/-! ## Peers that write their calls down -/

/-- What a peer replies to each call, if it replies at all. -/
abbrev Behaviour := Call → Option Reply

/-- Makes a call and writes it down. -/
def Behaviour.send (b : Behaviour) (call : Call) : StateM (List Call) (Option Reply) :=
  fun calls => (b call, calls ++ [call])

/-- The link to a peer in a world where calls are written down. -/
def Behaviour.link {γ : Type} (b : Behaviour) (peer : String) (endpoint : Url) :
    Link (World γ (List Call)) where
  endpoint := endpoint
  send call := World.onOutside (b.send call)
  noteFailure := modify (World.noteFailure peer)

/-- How many calls to a peer have failed so far. -/
def failuresOf {γ ε : Type} (w : World γ ε) (peer : String) : Nat :=
  (w.failures.get? peer).getD 0

theorem failuresOf_noteFailure {γ ε : Type} (w : World γ ε) (peer other : String) :
    failuresOf (World.noteFailure peer w) other =
      failuresOf w other + if other = peer then 1 else 0 := by
  unfold failuresOf World.noteFailure
  dsimp only
  rw [Table.get?_put]
  by_cases h : other = peer
  · simp [h]
  · simp [h, Ne.symm h]

theorem askGroup_state {σ : Type} (link : Link σ) (store : StoreName) (g : Group) (s : σ) :
    ((askGroup link store g).run s).2 =
      match ((link.send (g.call link.endpoint store)).run s).1.bind Reply.texts? with
      | some _ => ((link.send (g.call link.endpoint store)).run s).2
      | none => (link.noteFailure.run ((link.send (g.call link.endpoint store)).run s).2).2 := by
  unfold askGroup
  rw [Effect.runState_bind]
  generalize (link.send (g.call link.endpoint store)).run s = out
  obtain ⟨reply, t⟩ := out
  dsimp only
  cases reply.bind Reply.texts? <;> rfl

section

variable {γ : Type} (b : Behaviour) (peer : String) (endpoint : Url) (store : StoreName)

/-- What one call leaves behind: it is written down, and counted if it has failed. -/
theorem askGroup_leaves (w : World γ (List Call)) (g : Group) (other : String) :
    let w' := ((askGroup (b.link peer endpoint) store g).run w).2
    w'.outside = w.outside ++ [g.call endpoint store] ∧
      failuresOf w' other = failuresOf w other +
        if other = peer ∧ Failed (b (g.call endpoint store)) then 1 else 0 := by
  intro w'
  let called : World γ (List Call) :=
    { w with outside := w.outside ++ [g.call endpoint store] }
  have hsteps : w' = match (b (g.call endpoint store)).bind Reply.texts? with
      | some _ => called
      | none => World.noteFailure peer called :=
    askGroup_state (b.link peer endpoint) store g w
  rw [hsteps]
  cases htexts : (b (g.call endpoint store)).bind Reply.texts? with
  | some texts =>
      have hok : ¬ Failed (b (g.call endpoint store)) := by
        rw [failed_iff, htexts]
        exact Option.some_ne_none texts
      refine ⟨rfl, ?_⟩
      rw [if_neg fun h => hok h.2]
      rfl
  | none =>
      refine ⟨rfl, ?_⟩
      dsimp only
      rw [failuresOf_noteFailure]
      simp only [failed_iff.2 htexts, and_true]
      rfl

/-- What the calls for some groups leave behind. -/
theorem askGroups_leaves (w : World γ (List Call)) (gs : List Group) (other : String) :
    let w' := ((askGroups (b.link peer endpoint) store gs).run w).2
    w'.outside = w.outside ++ gs.map (·.call endpoint store) ∧
      failuresOf w' other = failuresOf w other +
        if other = peer then gs.countP fun g => Failed (b (g.call endpoint store)) else 0 := by
  induction gs generalizing w with
  | nil => exact ⟨(List.append_nil _).symm, by simp [askGroups]; rfl⟩
  | cons g gs ih =>
      obtain ⟨hcall, hcount⟩ := askGroup_leaves b peer endpoint store w g other
      obtain ⟨hcalls, hcounts⟩ := ih ((askGroup (b.link peer endpoint) store g).run w).2
      unfold askGroups
      rw [Effect.runState_bind, Effect.runState_bind]
      refine ⟨?_, ?_⟩
      · show ((askGroups (b.link peer endpoint) store gs).run _).2.outside = _
        rw [hcalls, hcall, List.append_assoc]
        rfl
      · show failuresOf ((askGroups (b.link peer endpoint) store gs).run _).2 other = _
        rw [hcounts, hcount, List.countP_cons]
        by_cases hother : other = peer
        · simp only [hother, true_and, if_true, decide_eq_true_eq]
          omega
        · simp [hother]

end

/-! ## Lookups -/

/-- The call for a language in a lookup of some keys. -/
def callFor (endpoint : Url) (store : StoreName) (keys : List Key) (language : Tag) : Call :=
  (groupOf (distinct keys) language).call endpoint store

/-- A call is for a language: it asks for the resources of the keys in that language,
each once. -/
structure Call.IsFor (call : Call) (endpoint : Url) (store : StoreName) (keys : List Key)
    (language : Tag) : Prop where
  endpoint : call.endpoint = endpoint
  query : call.query = [("repository", store), ("preferredLanguage", language.text)]
  once : call.ids.Nodup
  ids : ∀ id, id ∈ call.ids ↔ ∃ k ∈ keys, k.languages.effective = language ∧ k.resource = id

theorem callFor_isFor (endpoint : Url) (store : StoreName) (keys : List Key) (language : Tag) :
    (callFor endpoint store keys language).IsFor endpoint store keys language where
  endpoint := rfl
  query := rfl
  once := unrepeated_iff_nodup.1 (resources_groupOf_unrepeated keys language)
  ids id := by
    show id ∈ ((distinct keys).filter fun k => k.languages.effective = language).map
      (·.resource) ↔ _
    rw [List.mem_map]
    constructor
    · rintro ⟨k, hk, hid⟩
      obtain ⟨hk, hlanguage⟩ := List.mem_filter.1 hk
      exact ⟨k, mem_of_mem_distinct hk, of_decide_eq_true hlanguage, hid⟩
    · rintro ⟨k, hk, hlanguage, hid⟩
      -- The key itself may have been dropped, but then an equal one stands for it.
      obtain ⟨x, hx, hsame⟩ := List.any_eq_true.1 (any_distinct_of_mem hk)
      obtain ⟨hresource, heffective⟩ := Prod.mk.inj (Key.beq_iff.1 hsame)
      exact ⟨x, List.mem_filter.2 ⟨hx, decide_eq_true (heffective.trans hlanguage)⟩,
        hresource.trans hid⟩

theorem mem_languages {keys : List Key} {language : Tag} :
    language ∈ distinct ((distinct keys).map (·.languages.effective)) ↔
      ∃ k ∈ keys, k.languages.effective = language := by
  rw [mem_distinct, List.mem_map]
  constructor
  · rintro ⟨k, hk, hlanguage⟩
    exact ⟨k, mem_of_mem_distinct hk, hlanguage⟩
  · rintro ⟨k, hk, hlanguage⟩
    obtain ⟨x, hx, hsame⟩ := List.any_eq_true.1 (any_distinct_of_mem hk)
    exact ⟨x, hx, (Prod.mk.inj (Key.beq_iff.1 hsame)).2.trans hlanguage⟩

section

variable {γ : Type} (b : Behaviour) (peer : String) (endpoint : Url) (store : StoreName)
  (keys : List Key) (w : World γ (List Call))

/-- The entry of a key is what the reply to the call for its language shows. -/
theorem get?_resolve_link {k : Key} (hk : k ∈ keys) :
    Table.get? ((resolve (b.link peer endpoint) store keys).run w).1 k =
      some (.ofOption (shown (textOf
        (b (callFor endpoint store keys k.languages.effective)) k.resource))) :=
  get?_resolve (b.link peer endpoint) store hk w

theorem settled_resolve {e : Key × Resolution TextValue}
    (he : e ∈ ((resolve (b.link peer endpoint) store keys).run w).1) : e.2 ≠ .unknown := by
  unfold resolve at he
  rw [askGroups_eq _ _ (languages_groups_nodup (distinct keys))] at he
  obtain ⟨g, -, he⟩ := List.mem_flatMap.1 he
  obtain ⟨k, -, rfl⟩ := List.mem_map.1 he
  cases shown _ <;> exact nofun

/-- What a lookup leaves behind: one call for each language, and one more failure for each
of these calls that has failed. -/
theorem resolve_leaves (other : String) :
    let languages := distinct ((distinct keys).map (·.languages.effective))
    let w' := ((resolve (b.link peer endpoint) store keys).run w).2
    w'.outside = w.outside ++ languages.map (callFor endpoint store keys) ∧
      failuresOf w' other = failuresOf w other +
        if other = peer then
          languages.countP fun l => Failed (b (callFor endpoint store keys l))
        else 0 := by
  intro languages w'
  obtain ⟨hcalls, hcounts⟩ := askGroups_leaves b peer endpoint store w
    (groups (distinct keys)) other
  unfold groups at hcalls hcounts
  rw [List.map_map] at hcalls
  rw [List.countP_map] at hcounts
  exact ⟨hcalls, hcounts⟩

/-- How a lookup of some keys at a peer ends, from a world with some calls and failures
that have been before. -/
structure Served (w' : World γ (List Call)) (answers : Answers Key TextValue) : Prop where
  /-- There is one entry for each key. -/
  entries : answers.keys.Perm (distinct keys)
  /-- No entry leaves open whether there is a text. -/
  settled : ∀ e ∈ answers, e.2 ≠ .unknown
  /-- One call has been made for each language, and those that have failed are counted. -/
  calls : ∃ languages : List Tag, languages.Nodup ∧
    (∀ l, l ∈ languages ↔ ∃ k ∈ keys, k.languages.effective = l) ∧
    w'.outside = w.outside ++ languages.map (callFor endpoint store keys) ∧
    ∀ other, failuresOf w' other = failuresOf w other +
      if other = peer then
        languages.countP fun l => Failed (b (callFor endpoint store keys l))
      else 0
  /-- The call for a language says so, and asks for its resources. -/
  asked : ∀ l, (callFor endpoint store keys l).IsFor endpoint store keys l
  /-- The keys of a language whose call has failed have no text. -/
  failed : ∀ k ∈ keys, Failed (b (callFor endpoint store keys k.languages.effective)) →
    answers.get? k = some .notFound

/-- Whatever a peer replies, a lookup ends with an answer for every key, after one call
for each language. A call that has failed leaves the keys of its language without a text
and is counted once. And if another peer replies to the call for a language alike, then
the keys of that language have the same entries there, whatever the two reply to the
other calls. -/
theorem loadAll_confined :
    ∃ answers w', ((World.peerLoader peer endpoint b.send).loadAll store keys).run.run w =
        (.ok answers, w') ∧
      Served b peer endpoint store keys w w' answers ∧
      ∀ (b' : Behaviour) (v : World γ (List Call)) (l : Tag),
        b' (callFor endpoint store keys l) = b (callFor endpoint store keys l) →
        ∃ answers', (((World.peerLoader peer endpoint b'.send).loadAll store keys).run.run
            v).1 = .ok answers' ∧
          ∀ k ∈ keys, k.languages.effective = l → answers'.get? k = answers.get? k := by
  refine ⟨_, _, rfl, ?_, fun b' v l halike => ⟨_, rfl, ?_⟩⟩
  · exact {
      entries := keys_resolve (b.link peer endpoint) store keys w
      settled := fun _ he => settled_resolve b peer endpoint store keys w he
      calls := ⟨_, unrepeated_iff_nodup.1 (distinct_unrepeated _), fun _ => mem_languages,
        (resolve_leaves b peer endpoint store keys w peer).1,
        fun other => (resolve_leaves b peer endpoint store keys w other).2⟩
      asked := callFor_isFor endpoint store keys
      failed := fun k hk hfailed => by
        rw [← show Resolution.ofOption none = (.notFound : Resolution TextValue) from rfl,
          ← shown_textOf_of_failed hfailed k.resource]
        exact get?_resolve_link b peer endpoint store keys w hk }
  · rintro k hk rfl
    refine (get?_resolve_link b' peer endpoint store keys v hk).trans ?_
    rw [halike]
    exact (get?_resolve_link b peer endpoint store keys w hk).symm

end

/-- The call for German is refused, and the English key has its text all the same. -/
example :
    let key (tag : String) : Key := ⟨"urn:vase", .single (.ofString tag)⟩
    let b : Behaviour := fun call =>
      if call.query.any (·.2 == "de") then some ⟨503, ""⟩
      else some ⟨200, "\x7b\"urn:vase\":\"Vase\"\x7d"⟩
    let w : World Unit (List Call) := ⟨(), [], {}, [], []⟩
    let run := (resolve (b.link "peer" default) "s" [key "en", key "de"]).run w
    run.1.map (·.2) = [.found (.plain "Vase"), .notFound] ∧
      run.2.outside.length = 2 ∧ failuresOf run.2 "peer" = 1 := by
  decide +kernel

end Nomenclator.Peer

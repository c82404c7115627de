import Nomenclator.Proofs.Loading
import Nomenclator.Proofs.Readback
import Nomenclator.Proofs.Renewal

/-!
# A client and its peer agree

A loader of peers and the router that answers it are two readings of one contract.
The client sends one language with each call, an empty one for text in no language,
and the names of the resources as they are; the router trims, drops what is blank,
answers each resource once, and leaves out what has no text. Neither knows of the
other, but on names without blanks around them all that the router does to a call
is nothing, and all that the client does to a response is to read off it what the
lookup of the peer has found. A group is therefore as good as one lookup, made in
the state that the peer is in when the call arrives.

How a call comes to the router and a response back is left open. A call arrives as a
request with the path, the query and the body that were sent; it is delivered if the
client also reads from the reply the status and the value that the router has answered
this request with, and has no reply if the router has no answer.

That a call is delivered does not mean that it is answered. Neither side has a bound for
the names that it puts into one call, but the router takes no body above a limit. A group
whose body is larger is refused unread, and its texts are absent, whatever the peer has.
-/

namespace Nomenclator

open Cache (Key)
open Nomenclator.Language (Tag)

variable {γ ε : Type}

/-! ## Texts of an application -/

/-- A lookup that succeeds has one value or none for each resource. -/
theorem Lookup.several_ok {η σ α : Type} {r : Resolver η σ α} {i : Inquiry}
    {ids : List ResourceId} {s : σ} {values : Table ResourceId (Option α)}
    (h : ((several r i ids).run.run s).1 = .ok values) :
    ∃ f : ResourceId → Option α, values = (distinct ids).map fun id => (id, f id) := by
  unfold several at h
  rw [Effect.run_bind] at h
  rcases hrun : (r.many i (distinct ids)).run.run s with ⟨_ | answers, s'⟩ <;> rw [hrun] at h
  · cases h
  · obtain rfl := Except.ok.inj h
    exact ⟨_, rfl⟩

namespace Application

theorem texts_ok {app : Application γ ε} {store : StoreName} {ids : List ResourceId}
    {preferred : Option String} {kind : Lookup.TextKind}
    {values : Table ResourceId (Option TextValue)}
    (h : (app.texts store ids preferred kind).1 = .ok values) :
    ∃ f : ResourceId → Option TextValue, values = (distinct ids).map fun id => (id, f id) :=
  Lookup.several_ok (r := kind.resolver app.chains.1) (i := ⟨store, app.languagesFor preferred⟩)
    (s := app.chains.2.backing) h

end Application

/-! ## What the router does to a call -/

namespace Http

theorem Request.path_congr {r r' : Request} (h : r.target = r'.target) : r.path = r'.path := by
  unfold path plainTarget
  rw [h]

theorem Request.values_congr {r r' : Request} (h : r.target = r'.target) :
    r.values = r'.values := by
  unfold values plainTarget
  rw [h]

/-- No failure of a lookup looks like a success. -/
theorem Failure.status_of_resolve {e : ResolveError} {f : Failure}
    (h : Failure.ofResolve? e = some f) : 400 ≤ f.status := by
  unfold Failure.ofResolve? at h
  dsimp only at h
  split at h
  case h_7 => cases h
  all_goals
    obtain rfl := Option.some.inj h
    simp

/-- What is trimmed and not blank goes through as it is. -/
theorem resources_of_trimmed {ids : List ResourceId}
    (h : ∀ id ∈ ids, Text.trimmed id = id ∧ id ≠ "") : resources ids = distinct ids := by
  have htrimmed : ids.map Text.trimmed = ids := by
    rw [List.map_congr_left fun id hid => (h id hid).1, List.map_id']
  have hkept : ids.filter (fun id => !id.isEmpty) = ids := by
    rw [List.filter_eq_self]
    intro id hid
    simpa using (h id hid).2
  unfold resources
  rw [htrimmed, hkept]

theorem storeName_of_trimmed {store : StoreName} (h : Text.trimmed store = store)
    (hne : store ≠ "") : storeName? (some store) = some store := by
  unfold storeName?
  rw [Option.map_some, h, Option.filter_some, if_pos (by simpa using hne)]

section

variable {kind : Lookup.TextKind} {r : Request} {store : StoreName} {preferred : String}

/-- A question that names a store and a language comes as far as its body. -/
theorem respond_of_posed (hroute : Route.at? r.path = some (.texts kind))
    (hmethod : r.method = "POST") (hmedia : r.contentType.any Media.isJson = true)
    (hvalues : r.values = [("repository", store), ("preferredLanguage", preferred)])
    (app : Application γ ε) :
    respond r app =
      if isTooLarge r then (some (.bare 413), app)
      else match Json.parseStrings r.body.toList with
        | .error .malformed => (some (.bare 400), app)
        | .error .mismatch => (some (.bare 422), app)
        | .ok ids => lookup kind (some store) (some preferred) ids app := by
  have hallowed : (Route.texts kind).allows r.method = true := by
    rw [hmethod]
    rfl
  have hrepository : single? [("repository", store), ("preferredLanguage", preferred)]
      "repository" = some (some store) := rfl
  have hpreferred : single? [("repository", store), ("preferredLanguage", preferred)]
      "preferredLanguage" = some (some preferred) := rfl
  unfold respond respondTexts
  rw [hroute]
  dsimp only
  rw [hallowed, hvalues, hrepository, hpreferred, hmedia]
  rfl

/-- If all its names are as they are meant, it is answered by one lookup of just these. -/
theorem respond_of_trimmed {ids : List ResourceId}
    (hroute : Route.at? r.path = some (.texts kind)) (hmethod : r.method = "POST")
    (hmedia : r.contentType.any Media.isJson = true) (hsize : isTooLarge r = false)
    (hvalues : r.values = [("repository", store), ("preferredLanguage", preferred)])
    (hbody : Json.parseStrings r.body.toList = .ok ids)
    (hstore : Text.trimmed store = store ∧ store ≠ "")
    (hids : ∀ id ∈ ids, Text.trimmed id = id ∧ id ≠ "") (hunrepeated : Unrepeated ids)
    (app : Application γ ε) :
    (respond r app).1 = textsResponse? (app.texts store ids (some preferred) kind).1 := by
  have hresources : resources ids = ids := by
    rw [resources_of_trimmed hids, distinct_of_unrepeated hunrepeated]
  rw [respond_of_posed hroute hmethod hmedia hvalues, if_neg (by simp [hsize]), hbody]
  unfold lookup
  dsimp only
  rw [storeName_of_trimmed hstore.1 hstore.2, hresources]

/-- If its body is too large, it is refused, whatever it is. -/
theorem respond_of_large (hroute : Route.at? r.path = some (.texts kind))
    (hmethod : r.method = "POST") (hmedia : r.contentType.any Media.isJson = true)
    (hsize : isTooLarge r = true)
    (hvalues : r.values = [("repository", store), ("preferredLanguage", preferred)])
    (app : Application γ ε) : (respond r app).1 = some (.bare 413) := by
  rw [respond_of_posed hroute hmethod hmedia hvalues, if_pos hsize]

end

/-- What was found of the values of some resources. -/
theorem mem_foundTexts {ids : List ResourceId} {f : ResourceId → Option TextValue}
    {e : ResourceId × String} :
    e ∈ foundTexts (ids.map fun id => (id, f id)) ↔
      e.1 ∈ ids ∧ (f e.1).map (·.text) = some e.2 := by
  unfold foundTexts
  rw [List.mem_mergeSort, List.mem_filterMap]
  constructor
  · rintro ⟨x, hx, he⟩
    obtain ⟨id, hid, rfl⟩ := List.mem_map.1 hx
    obtain ⟨v, hv, rfl⟩ := Option.map_eq_some_iff.1 he
    exact ⟨hid, by rw [show f id = some v from hv]; rfl⟩
  · rintro ⟨hid, he⟩
    obtain ⟨v, hv, htext⟩ := Option.map_eq_some_iff.1 he
    refine ⟨(e.1, f e.1), List.mem_map_of_mem hid, ?_⟩
    rw [hv, Option.map_some, htext]

end Http

/-! ## What the client reads off a response -/

namespace Peer

open Http (textsResponse? foundTexts mem_foundTexts)

/-- The text of a resource in the answer of a lookup. -/
def textIn (answer : Except ResolveError (Table ResourceId (Option TextValue)))
    (id : ResourceId) : Option String :=
  match answer with
  | .ok values => (values.get? id).join.map (·.text)
  | .error _ => none

theorem textIn_eq_some {answer : Except ResolveError (Table ResourceId (Option TextValue))}
    {id : ResourceId} {t : String} :
    textIn answer id = some t ↔
      ∃ values v, answer = .ok values ∧ values.get? id = some (some v) ∧ v.text = t := by
  cases answer with
  | error e =>
      constructor
      · exact fun h => nomatch h
      · rintro ⟨_, _, h, -⟩
        cases h
  | ok values =>
      constructor
      · intro h
        obtain ⟨v, hv, rfl⟩ := Option.map_eq_some_iff.1 h
        exact ⟨values, v, rfl, Option.join_eq_some_iff.1 hv, rfl⟩
      · rintro ⟨_, v, hvalues, hv, rfl⟩
        obtain rfl := Except.ok.inj hvalues
        exact congrArg (Option.map _) (congrArg Option.join hv)

theorem shown_none_or_plain (text : Option String) :
    shown text = none ∨ ∃ t, shown text = some (TextValue.plain t) := by
  cases text with
  | none => exact .inl rfl
  | some t =>
      unfold shown
      rw [Option.bind_some]
      split
      · exact .inl rfl
      · exact .inr ⟨t, rfl⟩

/-- A client shows a text unless it is empty. -/
theorem shown_eq_plain {text : Option String} {t : String} :
    shown text = some (TextValue.plain t) ↔ t ≠ "" ∧ text = some t := by
  cases text with
  | none =>
      constructor
      · exact fun h => nomatch h
      · rintro ⟨-, h⟩
        cases h
  | some u =>
      unfold shown
      rw [Option.bind_some, Option.some_inj]
      by_cases hu : u = ""
      · rw [if_pos (by simp [hu])]
        constructor
        · exact fun h => nomatch h
        · rintro ⟨hne, rfl⟩
          exact absurd hu hne
      · rw [if_neg (by simpa using hu), Option.some_inj]
        constructor
        · intro h
          obtain rfl := congrArg TextValue.text h
          exact ⟨hu, rfl⟩
        · rintro ⟨-, rfl⟩
          rfl

/-- The reply tells the status of a response, and its body is the JSON value of it. -/
structure Reply.Conveys (reply : Reply) (response : Http.Response) : Prop where
  status : reply.status = response.status
  body : ∀ json, response.body = some json → Json.parse reply.body.toList = some json

theorem mapM_entry (found : List (ResourceId × String)) :
    (found.map fun e => (e.1, Json.text e.2)).mapM entry? =
      some (found.map fun e => (e.1, some e.2)) := by
  induction found with
  | nil => rfl
  | cons e found ih =>
      rw [List.map_cons, List.mapM_cons, ih]
      rfl

/-- The table that a client builds of the texts that were found has those of the lookup. -/
theorem get?_foundTexts (ids : List ResourceId) (f : ResourceId → Option TextValue)
    (id : ResourceId) :
    ((Table.ofEntries ((foundTexts (ids.map fun id => (id, f id))).map
      fun e => (e.1, some e.2))).get? id).join =
      (Table.get? (ids.map fun id => (id, f id)) id).join.map (·.text) := by
  let found : List (ResourceId × Option String) :=
    (foundTexts (ids.map fun id => (id, f id))).map fun e => (e.1, some e.2)
  show ((Table.ofEntries found).get? id).join = _
  have hfound : ∀ e ∈ found, e.1 ∈ ids ∧ e.2 = (f e.1).map (·.text) := by
    intro e he
    obtain ⟨x, hx, rfl⟩ := List.mem_map.1 he
    obtain ⟨hid, htext⟩ := mem_foundTexts.1 hx
    exact ⟨hid, htext.symm⟩
  by_cases hany : found.any (·.1 == id) = true
  · obtain ⟨e, he, hid⟩ := List.any_eq_true.1 hany
    have hasked : id ∈ ids := eq_of_beq hid ▸ (hfound e he).1
    rw [Table.get?_ofEntries (g := fun id => (f id).map (·.text))
        (fun e he => (hfound e he).2) hany, Table.get?_map_of_mem hasked]
    rfl
  · rw [Table.get?_ofEntries_of_not_mem fun e he hid =>
      hany (List.any_eq_true.2 ⟨e, he, beq_iff_eq.2 hid⟩)]
    by_cases hasked : id ∈ ids
    · rw [Table.get?_map_of_mem hasked]
      cases hv : f id with
      | none => rfl
      | some v =>
          have hmem : (id, v.text) ∈ foundTexts (ids.map fun id => (id, f id)) :=
            mem_foundTexts.2 ⟨hasked, by rw [hv]; rfl⟩
          have hentry : (id, some v.text) ∈ found :=
            List.mem_map_of_mem (f := fun e : ResourceId × String => (e.1, some e.2)) hmem
          exact absurd (List.any_eq_true.2 ⟨_, hentry, beq_self_eq_true id⟩) hany
    · have hnone : Table.get? (ids.map fun id => (id, f id)) id = none := by
        rw [Table.get?_map fun x _ hx => by rw [eq_of_beq hx], if_neg]
        rw [List.any_beq']
        simpa using hasked
      rw [hnone]
      rfl

/-- A reply is no success unless its response is one. -/
theorem Reply.Conveys.refused {reply : Reply} {response : Http.Response}
    (h : reply.Conveys response) (hstatus : 400 ≤ response.status) : reply.texts? = none := by
  have hreply : ¬ reply.status < 300 := by
    rw [h.status]
    omega
  unfold Reply.texts?
  rw [if_neg (by simp [hreply])]

/-- The texts that the client finds in a response are those that the lookup has found. -/
theorem textOf_conveyed {reply : Option Reply}
    {answer : Except ResolveError (Table ResourceId (Option TextValue))}
    (hanswer : ∀ values, answer = .ok values →
      ∃ (ids : List ResourceId) (f : ResourceId → Option TextValue),
        values = ids.map fun id => (id, f id))
    (hreply : Option.Rel Reply.Conveys reply (textsResponse? answer)) (id : ResourceId) :
    textOf reply id = textIn answer id := by
  cases answer with
  | error e =>
      replace hreply : Option.Rel Reply.Conveys reply
          ((Http.Failure.ofResolve? e).map Http.Response.ofFailure) := hreply
      cases hfailure : Http.Failure.ofResolve? e with
      | none =>
          rw [hfailure] at hreply
          cases hreply
          rfl
      | some f =>
          rw [hfailure] at hreply
          cases hreply with
          | some hconveys =>
              unfold textOf
              rw [Option.bind_some, hconveys.refused (Http.Failure.status_of_resolve hfailure)]
              rfl
  | ok values =>
      obtain ⟨ids, f, rfl⟩ := hanswer values rfl
      cases hreply with
      | @some reply _ hconveys =>
          have htexts : reply.texts? = some (Table.ofEntries
              ((foundTexts (ids.map fun id => (id, f id))).map fun e => (e.1, some e.2))) := by
            unfold Reply.texts?
            rw [hconveys.status, hconveys.body _ rfl]
            show ((_ : List (String × Json)).mapM entry?).map _ = _
            rw [mapM_entry]
            rfl
          unfold textOf
          rw [Option.bind_some, htexts]
          exact get?_foundTexts ids f id

/-! ## One call after the other -/

variable {σ : Type}

/-- The state in which the call for a language is made. -/
def before (link : Link σ) (store : StoreName) (language : Tag) : List Group → σ → σ
  | [], s => s
  | g :: rest, s =>
      if g.language = language then s
      else before link store language rest ((askGroup link store g).run s).2

/-- What comes of the calls for some groups, each made in its own state. -/
theorem askGroups_eq (link : Link σ) (store : StoreName) {gs : List Group}
    (hlanguages : (gs.map (·.language)).Nodup) (s : σ) :
    ((askGroups link store gs).run s).1 = gs.flatMap fun g => g.keys.map fun k =>
      (k, .ofOption (shown (textOf ((link.send (g.call link.endpoint store)).run
        (before link store g.language gs s)).1 k.resource))) := by
  induction gs generalizing s with
  | nil => rfl
  | cons g gs ih =>
      rw [List.map_cons, List.nodup_cons] at hlanguages
      have hlater : ∀ g' ∈ gs, before link store g'.language (g :: gs) s =
          before link store g'.language gs ((askGroup link store g).run s).2 := by
        intro g' hg'
        refine if_neg fun heq => hlanguages.1 ?_
        rw [heq]
        exact List.mem_map_of_mem hg'
      have hfirst : before link store g.language (g :: gs) s = s := if_pos rfl
      unfold askGroups
      rw [Effect.runState_bind, Effect.runState_bind]
      show ((askGroup link store g).run s).1 ++ ((askGroups link store gs).run _).1 = _
      rw [ih hlanguages.2, askGroup_eq, List.flatMap_cons, hfirst]
      refine congrArg _ (congrArg List.flatten (List.map_congr_left fun g' hg' => ?_))
      rw [hlater g' hg']

/-- Grouping loses nothing and repeats nothing. -/
theorem flatMap_filter_perm {α β : Type} [DecidableEq β] (f : α → β) {bs : List β}
    (hbs : bs.Nodup) {as : List α} (h : ∀ a ∈ as, f a ∈ bs) :
    (bs.flatMap fun b => as.filter fun a => f a = b).Perm as := by
  induction bs generalizing as with
  | nil =>
      have hnil : as = [] := List.eq_nil_iff_forall_not_mem.2 fun a ha =>
        List.not_mem_nil (h a ha)
      rw [hnil]
      exact List.Perm.nil
  | cons b bs ih =>
      rw [List.nodup_cons] at hbs
      have hothers : ∀ a ∈ as.filter (fun a => !decide (f a = b)), f a ∈ bs := by
        intro a ha
        obtain ⟨ha, hne⟩ := List.mem_filter.1 ha
        refine (List.mem_cons.1 (h a ha)).resolve_left ?_
        simpa using hne
      have hrest : (bs.flatMap fun b' => as.filter fun a => f a = b') =
          bs.flatMap fun b' =>
            (as.filter fun a => !decide (f a = b)).filter fun a => f a = b' := by
        refine congrArg List.flatten (List.map_congr_left fun b' hb' => ?_)
        rw [List.filter_filter]
        refine List.filter_congr fun a _ => ?_
        by_cases ha : f a = b'
        · have hne : b' ≠ b := fun heq => hbs.1 (heq ▸ hb')
          simp [ha, hne]
        · simp [ha]
      rw [List.flatMap_cons, hrest]
      exact ((ih hbs.2 hothers).append_left _).trans (List.filter_append_perm _ as)

theorem languages_groups (keys : List Key) :
    (groups keys).map (·.language) = distinct (keys.map (·.languages.effective)) := by
  unfold groups
  rw [List.map_map]
  exact List.map_id _

theorem languages_groups_nodup (keys : List Key) :
    ((groups keys).map (·.language)).Nodup := by
  rw [languages_groups]
  exact unrepeated_iff_nodup.1 (distinct_unrepeated _)

theorem flatMap_groups_perm (keys : List Key) :
    ((groups keys).flatMap (·.keys)).Perm keys := by
  unfold groups
  rw [List.flatMap_map]
  refine flatMap_filter_perm (fun k : Key => k.languages.effective)
    (unrepeated_iff_nodup.1 (distinct_unrepeated _)) fun k hk => ?_
  exact mem_distinct.2 (List.mem_map_of_mem hk)

/-- The resources of the keys of a language are all different. -/
theorem resources_groupOf_unrepeated (keys : List Key) (language : Tag) :
    Unrepeated ((groupOf (distinct keys) language).keys.map (·.resource)) := by
  have hkeys : (groupOf (distinct keys) language).keys.Pairwise fun a b => (a == b) = false :=
    (distinct_unrepeated keys).filter _
  refine List.pairwise_map.2 (hkeys.imp_of_mem fun {a b} ha hb hab => ?_)
  have hlanguage : a.languages.effective = b.languages.effective :=
    (of_decide_eq_true (List.mem_filter.1 ha).2).trans
      (of_decide_eq_true (List.mem_filter.1 hb).2).symm
  rw [beq_eq_false_iff_ne]
  intro hresource
  have hsame : (a == b) = true := Key.beq_iff.2 (Prod.ext hresource hlanguage)
  rw [hab] at hsame
  cases hsame

theorem keys_resolve (link : Link σ) (store : StoreName) (keys : List Key) (s : σ) :
    (((resolve link store keys).run s).1.map (·.1)).Perm (distinct keys) := by
  have hnames : ((askGroups link store (groups (distinct keys))).run s).1.map (·.1) =
      (groups (distinct keys)).flatMap (·.keys) := by
    rw [askGroups_eq link store (languages_groups_nodup (distinct keys)) s, List.map_flatMap]
    refine congrArg List.flatten (List.map_congr_left fun g _ => ?_)
    rw [List.map_map]
    exact List.map_id _
  show (((askGroups link store (groups (distinct keys))).run s).1.map (·.1)).Perm _
  rw [hnames]
  exact flatMap_groups_perm (distinct keys)

/-- The entry of a key is what the call for its language shows of its resource. -/
theorem get?_resolve (link : Link σ) (store : StoreName) {keys : List Key} {k : Key}
    (hk : k ∈ keys) (s : σ) :
    let g := groupOf (distinct keys) k.languages.effective
    Table.get? ((resolve link store keys).run s).1 k =
      some (.ofOption (shown (textOf ((link.send (g.call link.endpoint store)).run
        (before link store g.language (groups (distinct keys)) s)).1 k.resource))) := by
  have hvalue := get?_groups (fun g id => Resolution.ofOption (shown (textOf
    ((link.send (g.call link.endpoint store)).run
      (before link store g.language (groups (distinct keys)) s)).1 id))) hk
  show Table.get? ((askGroups link store (groups (distinct keys))).run s).1 k = _
  rw [askGroups_eq link store (languages_groups_nodup (distinct keys)) s]
  exact hvalue

/-! ## Agreement -/

/-- A request as which a call comes to the router. -/
structure Call.Arrives (call : Call) (r : Http.Request) : Prop where
  path : r.path = call.endpoint.path
  method : r.method = "POST"
  media : r.contentType.any Http.Media.isJson = true
  query : r.values = call.query
  body : r.body = call.body

theorem Call.Arrives.isTooLarge_iff {call : Call} {r : Http.Request} (h : call.Arrives r) :
    Http.isTooLarge r = true ↔ Http.bodyLimit < call.body.utf8ByteSize := by
  unfold Http.isTooLarge
  rw [h.body, decide_eq_true_iff]

/-- A call that is made in a state is delivered: its endpoint is where the router answers for
a kind of text, and the reply conveys what the router answers to the call as it arrives. -/
structure Link.Delivers (link : Link σ) (kind : Lookup.TextKind) (peer : σ → Application γ ε)
    (call : Call) (s : σ) : Prop where
  route : Http.Route.at? call.endpoint.path = some (.texts kind)
  reply : ∃ request, call.Arrives request ∧
    Option.Rel Reply.Conveys ((link.send call).run s).1 (Http.respond request (peer s)).1

section

variable {link : Link σ} {kind : Lookup.TextKind} {peer : σ → Application γ ε} {g : Group}
  {store : StoreName} {s : σ}

/-- What the client finds in the reply to a call that the router takes. -/
theorem Link.Delivers.textOf_eq (h : link.Delivers kind peer (g.call link.endpoint store) s)
    (hsize : (g.call link.endpoint store).body.utf8ByteSize ≤ Http.bodyLimit)
    (hstore : Text.trimmed store = store ∧ store ≠ "")
    (hids : ∀ id ∈ g.keys.map (·.resource), Text.trimmed id = id ∧ id ≠ "")
    (hunrepeated : Unrepeated (g.keys.map (·.resource))) (id : ResourceId) :
    textOf ((link.send (g.call link.endpoint store)).run s).1 id =
      textIn ((peer s).texts store (g.keys.map (·.resource)) (some g.language.text) kind).1
        id := by
  obtain ⟨hroute, request, harrives, hreply⟩ := h
  rw [← harrives.path] at hroute
  have hfits : Http.isTooLarge request = false := by
    rw [← Bool.not_eq_true, harrives.isTooLarge_iff]
    omega
  have hids' : Json.parseStrings request.body.toList = .ok (g.keys.map (·.resource)) := by
    rw [harrives.body]
    exact Json.parseStrings_writeStrings _
  rw [Http.respond_of_trimmed hroute harrives.method harrives.media hfits harrives.query hids'
    hstore hids hunrepeated (peer s)] at hreply
  exact textOf_conveyed (fun values hvalues => ⟨_, Application.texts_ok hvalues⟩) hreply id

/-- The client finds nothing in the reply to a call that is too large for the router. -/
theorem Link.Delivers.textOf_large (h : link.Delivers kind peer (g.call link.endpoint store) s)
    (hsize : Http.bodyLimit < (g.call link.endpoint store).body.utf8ByteSize)
    (id : ResourceId) : textOf ((link.send (g.call link.endpoint store)).run s).1 id = none := by
  obtain ⟨hroute, request, harrives, hreply⟩ := h
  rw [← harrives.path] at hroute
  rw [Http.respond_of_large hroute harrives.method harrives.media
    (harrives.isTooLarge_iff.2 hsize) harrives.query (peer s)] at hreply
  cases hsent : ((link.send (g.call link.endpoint store)).run s).1 with
  | none => rfl
  | some reply =>
      rw [hsent] at hreply
      cases hreply with
      | some hconveys =>
          unfold textOf
          rw [Option.bind_some, hconveys.refused (by decide)]
          rfl

end

/-- A client has one entry for each key, and if the call for the language of a key is
delivered, the entry is the text that the lookup of the peer finds for the resource, unless
the body of the call is too large for the router. Then there is no text for the key. -/
theorem resolve_agrees (link : Link σ) (kind : Lookup.TextKind) (peer : σ → Application γ ε)
    {store : StoreName} (hstore : Text.trimmed store = store ∧ store ≠ "") {keys : List Key}
    (hkeys : ∀ k ∈ keys, Text.trimmed k.resource = k.resource ∧ k.resource ≠ "") (s : σ) :
    let answers := ((resolve link store keys).run s).1
    answers.keys.Perm (distinct keys) ∧
      ∀ k ∈ keys,
        let g := groupOf (distinct keys) k.languages.effective
        let call := g.call link.endpoint store
        let arrival := before link store g.language (groups (distinct keys)) s
        (answers.get? k = some .notFound ∨ ∃ t, answers.get? k = some (.found (.plain t))) ∧
          (link.Delivers kind peer call arrival →
            (call.body.utf8ByteSize ≤ Http.bodyLimit →
              ∀ t, answers.get? k = some (.found (.plain t)) ↔
                t ≠ "" ∧ ∃ values v,
                  ((peer arrival).texts store (g.keys.map (·.resource)) (some g.language.text)
                    kind).1 = .ok values ∧
                  values.get? k.resource = some (some v) ∧ v.text = t) ∧
            (Http.bodyLimit < call.body.utf8ByteSize → answers.get? k = some .notFound)) := by
  intro answers
  refine ⟨keys_resolve link store keys s, fun k hk => ?_⟩
  intro g call arrival
  have hentry : answers.get? k = some (.ofOption (shown (textOf
      ((link.send call).run arrival).1 k.resource))) := get?_resolve link store hk s
  rw [hentry]
  refine ⟨?_, fun hdelivered => ⟨fun hsize t => ?_, fun hsize => ?_⟩⟩
  · rcases shown_none_or_plain (textOf ((link.send call).run arrival).1 k.resource) with
      h | ⟨t, h⟩
    · exact .inl (by rw [h]; rfl)
    · exact .inr ⟨t, by rw [h]; rfl⟩
  · have hids : ∀ id ∈ g.keys.map (·.resource), Text.trimmed id = id ∧ id ≠ "" := by
      intro id hid
      obtain ⟨x, hx, rfl⟩ := List.mem_map.1 hid
      exact hkeys x (mem_of_mem_distinct (List.mem_filter.1 hx).1)
    have hfound : ∀ (o : Option TextValue) v, Resolution.ofOption o = .found v ↔ o = some v := by
      intro o v
      cases o <;> simp [Resolution.ofOption]
    rw [hdelivered.textOf_eq hsize hstore hids (resources_groupOf_unrepeated keys _),
      Option.some_inj, hfound, shown_eq_plain, textIn_eq_some]
  · rw [hdelivered.textOf_large hsize]
    rfl

/-- The request that a call is written as. -/
def Call.request (c : Call) : Http.Request where
  method := "POST"
  target := c.address.path ++ "?" ++ c.address.query.getD ""
  contentType := some "application/json"
  id := none
  body := c.body

/-- The reply that a response is written as. -/
def Reply.ofResponse (r : Http.Response) : Reply :=
  ⟨r.status, (r.body.map Json.render).getD ""⟩

/-- A link with nothing but the router of an application at its other end. -/
def Link.direct (endpoint : Url) : Link (Application γ ε) where
  endpoint := endpoint
  send call := do
    let response ← modifyGet fun app => Http.respond call.request app
    return response.map Reply.ofResponse
  noteFailure := pure ()

/-- A call is delivered if its request is read as it was meant, and the response, too. -/
theorem Link.direct_delivers {endpoint : Url} {kind : Lookup.TextKind} {call : Call}
    {app : Application γ ε} (hroute : Http.Route.at? call.endpoint.path = some (.texts kind))
    (harrives : call.Arrives call.request)
    (hbody : ∀ json, (Http.respond call.request app).1.bind (·.body) = some json →
      Json.parse json.render.toList = some json) :
    (Link.direct endpoint).Delivers kind id call app := by
  refine ⟨hroute, call.request, harrives, ?_⟩
  show Option.Rel Reply.Conveys ((Http.respond call.request app).1.map Reply.ofResponse)
    (Http.respond call.request app).1
  cases hresponse : (Http.respond call.request app).1 with
  | none => exact .none
  | some response =>
      rw [hresponse, Option.bind_some] at hbody
      refine .some ⟨rfl, fun json hjson => ?_⟩
      unfold Reply.ofResponse
      rw [hjson]
      exact hbody json hjson

/-- The only call is made at once. -/
theorem before_singleton (link : Link σ) (store : StoreName) (k : Key) (s : σ) :
    before link store (groupOf (distinct [k]) k.languages.effective).language
      (groups (distinct [k])) s = s := if_pos rfl

/-! ### One resource and one call -/

/-- Where a peer answers for labels. -/
def labelsAt : Url :=
  ⟨"http", some ⟨"", .name "peer", none⟩, .segments ["api", "v1", "labels"], none, none⟩

/-- A call for English labels. -/
def englishLabels (ids : List ResourceId) : Call :=
  ⟨labelsAt, [("repository", "default"), ("preferredLanguage", "en")], ids⟩

theorem route_labelsAt : Http.Route.at? labelsAt.path = some (.texts .label) := by
  decide +kernel

/-- What is asked for stands in the body alone. -/
theorem englishLabels_arrives (ids : List ResourceId) :
    (englishLabels ids).Arrives (englishLabels ids).request := by
  have htarget : (englishLabels ids).request.target = (englishLabels []).request.target := rfl
  have hpath : (englishLabels []).request.path = labelsAt.path := by decide +kernel
  have hvalues : (englishLabels []).request.values =
      [("repository", "default"), ("preferredLanguage", "en")] := by decide +kernel
  have hmedia : Http.Media.isJson "application/json" = true := by decide +kernel
  exact ⟨(Http.Request.path_congr htarget).trans hpath, rfl, hmedia,
    (Http.Request.values_congr htarget).trans hvalues, rfl⟩

/-- The key of a resource for English texts. -/
def englishKey (id : ResourceId) : Key := ⟨id, .single (.ofString "en")⟩

/-- A graph in which one resource has a label. -/
def vase (id : ResourceId) : Graph.Memory :=
  Graph.Memory.empty.insert "default" id "http://www.w3.org/2000/01/rdf-schema#label"
    (.text (.tagged "Vase" "en"))

theorem evaluate_single (id : ResourceId) (predicate iri : String) (o : Term) :
    (Graph.Indexed.empty.insert id predicate o).evaluate id [⟨iri, false⟩] =
      if predicate == iri then [o] else [] := by
  have houtgoing : (Graph.Indexed.empty.insert id predicate o).outgoing =
      [(id, [(predicate, o)])] := rfl
  have hfollow : (Graph.Indexed.empty.insert id predicate o).follow ⟨iri, false⟩ id =
      ([(predicate, o)].filter (·.1 == iri)).map (·.2) := by
    unfold Graph.Indexed.follow
    rw [if_neg (by simp), houtgoing, Table.get?_cons, if_pos BEq.rfl]
    rfl
  unfold Graph.Indexed.evaluate
  by_cases h : predicate == iri <;> simp [Graph.Indexed.walk, Term.iri?, hfollow, h]

/-- The paths of the properties that carry labels unless others are chosen. -/
def labelPaths : Candidates :=
  [[⟨"http://www.w3.org/2004/02/skos/core#prefLabel", false⟩],
    [⟨"http://www.w3.org/2000/01/rdf-schema#label", false⟩],
    [⟨"http://purl.org/dc/terms/title", false⟩]]

/-- The label of the resource, loaded for a key. -/
theorem load_vase (k : Key) :
    (Loader.Text.resolve (vase k.resource) (Application.textOrigin .default .label) "default"
      [k]).result = .ok [(k, .ofOption (Language.choose k.languages.effective
        k.languages.fallbacks [.tagged "Vase" "en"]))] := by
  let g := Graph.Indexed.empty.insert k.resource "http://www.w3.org/2000/01/rdf-schema#label"
    (.text (.tagged "Vase" "en"))
  have hparse : Candidates.parse Settings.defaultLabelProperties = .ok labelPaths := rfl
  have hcontents : Loader.contents (vase k.resource) Term.text? Settings.defaultLabelProperties
      "default" = .ok (Loader.reached g Term.text? labelPaths) := by
    unfold Loader.contents
    rw [hparse]
    rfl
  have hreached : Loader.reached g Term.text? labelPaths k.resource =
      [.tagged "Vase" "en"] := by
    simp [Loader.reached, labelPaths, g, evaluate_single, Term.text?]
  have hone : (Application.textOrigin .default .label).batch.Admits (distinct [k]).length :=
    .inl (Nat.le_of_ble_eq_true rfl)
  rw [Loader.Text.result_resolve _ (by decide) "default" hone (List.cons_ne_nil _ _)]
  show (Loader.contents (vase k.resource) Term.text? Settings.defaultLabelProperties
    "default").map _ = _
  rw [hcontents]
  show Except.ok [(k, Loader.Text.best _ k)] = _
  unfold Loader.Text.best
  rw [hreached]

/-- A peer that has just been built finds the label of the resource. -/
theorem texts_vase (send : Call → StateM Unit (Option Reply)) (id : ResourceId) :
    ∃ app, Application.build .default send (vase id) () = .ok app ∧
      (app.texts "default" [id] (some "en") .label).1 =
        .ok [(id, some (.tagged "Vase" "en"))] := by
  have hpeers : Settings.default.peers = [] := rfl
  obtain ⟨app, hbuild, hlocal, hgraph, hempty⟩ :=
    Application.build_local hpeers send (vase id) ()
  refine ⟨app, hbuild, ?_⟩
  rw [hlocal.texts_unseen (hlocal.unseen_of_empty hempty id), hgraph, load_vase ⟨id, _⟩]
  have hloaded (v : TextValue) (k : Key) :
      Cache.Partitioned.loadedValue [(k, Resolution.found v)] k = some v := by
    unfold Cache.Partitioned.loadedValue
    rw [Table.get?_singleton]
    rfl
  exact congrArg (fun v => Except.ok [(id, v)]) (hloaded (.tagged "Vase" "en") _)

/-- Whether a body holds the text of one resource, and nothing else. -/
def showsText (id text : String) (body : Option Json) : Bool :=
  match body with
  | some (.object [(name, .text t)]) => name == id && t == text
  | _ => false

theorem eq_some_of_showsText {id text : String} {body : Option Json}
    (h : showsText id text body = true) : body = some (.object [(id, .text text)]) := by
  unfold showsText at h
  split at h
  · rw [Bool.and_eq_true, beq_iff_eq, beq_iff_eq] at h
    rw [h.1, h.2]
  · cases h

/-- A label that the peer has. -/
theorem resolve_agrees_vase :
    let send : Call → StateM Unit (Option Reply) := fun _ => pure none
    let key := englishKey "urn:vase"
    let call := (groupOf (distinct [key]) key.languages.effective).call labelsAt "default"
    let link : Link (Application Graph.Memory Unit) := Link.direct labelsAt
    ∃ app, Application.build .default send (vase "urn:vase") () = .ok app ∧
      (Text.trimmed "default" = "default" ∧ "default" ≠ "") ∧
      (∀ k ∈ [key], Text.trimmed k.resource = k.resource ∧ k.resource ≠ "") ∧
      link.Delivers .label id call app ∧ call.body.utf8ByteSize ≤ Http.bodyLimit ∧
      Table.get? ((resolve link "default" [key]).run app).1 key =
        some (.found (.plain "Vase")) := by
  intro send key call link
  obtain ⟨app, hbuild, htexts⟩ := texts_vase send "urn:vase"
  have hstore : Text.trimmed "default" = "default" ∧ "default" ≠ "" := by decide +kernel
  have hresource : Text.trimmed "urn:vase" = "urn:vase" ∧ "urn:vase" ≠ "" := by decide +kernel
  have hkeys : ∀ k ∈ [key], Text.trimmed k.resource = k.resource ∧ k.resource ≠ "" := by
    intro k hk
    rw [List.mem_singleton.1 hk]
    exact hresource
  have hsize : call.body.utf8ByteSize ≤ Http.bodyLimit := by decide +kernel
  have harrives : call.Arrives call.request := englishLabels_arrives ["urn:vase"]
  have hresponse : (Http.respond call.request app).1 =
      some (.json 200 (.object [("urn:vase", .text "Vase")])) := by
    have hroute : Http.Route.at? call.request.path = some (.texts .label) :=
      harrives.path ▸ route_labelsAt
    have hids : Json.parseStrings call.request.body.toList = .ok ["urn:vase"] :=
      Json.parseStrings_writeStrings ["urn:vase"]
    have hquery : call.request.values =
        [("repository", "default"), ("preferredLanguage", "en")] := harrives.query
    have hfits : Http.isTooLarge call.request = false := decide_eq_false (Nat.not_lt.2 hsize)
    rw [Http.respond_of_trimmed hroute harrives.method harrives.media hfits hquery hids hstore
      (by simp [hresource]) (List.pairwise_singleton _ _), htexts]
    simp [textsResponse?, foundTexts, TextValue.tagged]
  have hparse : Json.parse (Json.object [("urn:vase", .text "Vase")]).render.toList =
      some (.object [("urn:vase", .text "Vase")]) := eq_some_of_showsText (by decide +kernel)
  have hdelivers : link.Delivers .label id call app := by
    refine Link.direct_delivers route_labelsAt harrives fun json hjson => ?_
    rw [hresponse] at hjson
    obtain rfl := Option.some.inj hjson
    exact hparse
  obtain ⟨-, hentries⟩ := resolve_agrees link .label id hstore hkeys app
  obtain ⟨-, hfound⟩ := hentries key (List.mem_singleton.2 rfl)
  rw [before_singleton] at hfound
  exact ⟨app, hbuild, hstore, hkeys, hdelivers, hsize,
    ((hfound hdelivers).1 hsize "Vase").2 ⟨by decide, _, _, htexts, rfl, rfl⟩⟩

/-! ### A name without bounds -/

theorem length_le_utf8ByteSize (cs : List Char) :
    cs.length ≤ (String.ofList cs).utf8ByteSize := by
  induction cs with
  | nil => exact Nat.zero_le _
  | cons c cs ih =>
      have hsplit : String.ofList (c :: cs) = String.singleton c ++ String.ofList cs := by
        rw [String.singleton_eq_ofList, ← String.ofList_append, List.singleton_append]
      have hc := c.utf8Size_pos
      rw [hsplit, String.utf8ByteSize_append, String.utf8ByteSize_singleton, List.length_cons]
      omega

/-- Nothing gets shorter by being written down. -/
theorem length_escaped (cs : List Char) :
    cs.length ≤ (String.join (cs.map Json.escaped)).toList.length := by
  induction cs with
  | nil => exact Nat.zero_le _
  | cons c cs ih =>
      have hc : 0 < (Json.escaped c).toList.length := by
        unfold Json.escaped
        split
        case h_8 => split <;> simp
        all_goals decide
      rw [List.map_cons, String.join_cons, String.toList_append, List.length_append,
        List.length_cons]
      omega

theorem utf8ByteSize_writeStrings (s : String) :
    s.toList.length < (Json.writeStrings [s]).utf8ByteSize := by
  have hbody : (Json.writeStrings [s]).toList =
      '[' :: '"' :: ((String.join (s.toList.map Json.escaped)).toList ++ ['"', ']']) := by
    simp [Json.writeStrings, Json.quoted, Text.joinWith]
  have hescaped := length_escaped s.toList
  have hsize := length_le_utf8ByteSize (Json.writeStrings [s]).toList
  rw [String.ofList_toList, hbody] at hsize
  simp only [List.length_cons, List.length_append] at hsize
  omega

theorem trimmed_replicate (n : Nat) :
    Text.trimmed (String.ofList (List.replicate n 'a')) =
      String.ofList (List.replicate n 'a') := by
  have hkept : (List.replicate n 'a').dropWhile Text.isBlank = List.replicate n 'a' := by
    refine Text.dropWhile_eq_self fun c hc => ?_
    rw [List.eq_of_mem_replicate (List.mem_of_mem_head? hc)]
    decide
  unfold Text.trimmed Text.trim Text.trimLeft Text.trimRight
  rw [String.toList_ofList, hkept, List.reverse_replicate, hkept, List.reverse_replicate]

/-- The label of a resource whose name alone is as large as a body may be. -/
theorem resolve_agrees_large_body :
    let send : Call → StateM Unit (Option Reply) := fun _ => pure none
    let resource : ResourceId := String.ofList (List.replicate Http.bodyLimit 'a')
    let key := englishKey resource
    let call := (groupOf (distinct [key]) key.languages.effective).call labelsAt "default"
    let link : Link (Application Graph.Memory Unit) := Link.direct labelsAt
    ∃ app, Application.build .default send (vase resource) () = .ok app ∧
      (Text.trimmed "default" = "default" ∧ "default" ≠ "") ∧
      (∀ k ∈ [key], Text.trimmed k.resource = k.resource ∧ k.resource ≠ "") ∧
      link.Delivers .label id call app ∧
      (app.texts "default" [resource] (some "en") .label).1 =
        .ok [(resource, some (.tagged "Vase" "en"))] ∧
      Table.get? ((resolve link "default" [key]).run app).1 key = some .notFound := by
  intro send resource key call link
  obtain ⟨app, hbuild, htexts⟩ := texts_vase send resource
  have hstore : Text.trimmed "default" = "default" ∧ "default" ≠ "" := by decide +kernel
  have hlength : resource.toList.length = Http.bodyLimit := by
    rw [String.toList_ofList, List.length_replicate]
  have hkeys : ∀ k ∈ [key], Text.trimmed k.resource = k.resource ∧ k.resource ≠ "" := by
    intro k hk
    rw [List.mem_singleton.1 hk]
    refine ⟨trimmed_replicate Http.bodyLimit, fun hempty => ?_⟩
    have hzero : Http.bodyLimit = 0 := by
      rw [← hlength, show resource = "" from hempty]
      rfl
    cases hzero
  have hsize : Http.bodyLimit < call.body.utf8ByteSize :=
    hlength ▸ utf8ByteSize_writeStrings resource
  have harrives : call.Arrives call.request := englishLabels_arrives [resource]
  have hresponse : (Http.respond call.request app).1 = some (.bare 413) := by
    have hroute : Http.Route.at? call.request.path = some (.texts .label) :=
      harrives.path ▸ route_labelsAt
    exact Http.respond_of_large hroute harrives.method harrives.media
      (harrives.isTooLarge_iff.2 hsize) harrives.query app
  have hdelivers : link.Delivers .label id call app := by
    refine Link.direct_delivers route_labelsAt harrives fun json hjson => ?_
    rw [hresponse] at hjson
    cases hjson
  refine ⟨app, hbuild, hstore, hkeys, hdelivers, htexts, ?_⟩
  rw [get?_resolve link "default" (List.mem_singleton.2 rfl) app, before_singleton]
  rw [hdelivers.textOf_large hsize]
  rfl

end Peer

end Nomenclator

import Mathlib.Data.List.Induction
import Nomenclator.Proofs.Grammar
import Nomenclator.Proofs.Loading

/-!
# What the text of a query says

A store may be given the text of a query and nothing else, so the text has to say which
candidates and which resources are asked for. For the candidates it does: the properties of
a path passed a check that keeps blanks out, a branch therefore fills exactly one line, and
the last line carries the position of the last branch. Reading the lines from the end back
recovers every branch, whatever stands in front of them.

Resource ids pass no check. An id that holds what the query puts between two ids reads
like two of them, and nothing else about an id can be misread: the separator does not
overlap itself, so the block of resources is told up to the pieces into which it cuts the
ids. For ids without the separator the text determines the query.
-/

namespace Nomenclator

namespace Text

/-- Equal texts are cut alike at their first `c`. -/
theorem cut_first {c : Char} {s s' t t' : List Char} (hs : c ∉ s) (hs' : c ∉ s')
    (h : s ++ c :: t = s' ++ c :: t') : s = s' ∧ t = t' := by
  induction s generalizing s' with
  | nil =>
      cases s' with
      | nil => exact ⟨rfl, (List.cons.inj h).2⟩
      | cons d s' =>
          obtain rfl := (List.cons.inj h).1
          exact absurd List.mem_cons_self hs'
  | cons d s ih =>
      cases s' with
      | nil =>
          obtain rfl := (List.cons.inj h).1
          exact absurd List.mem_cons_self hs
      | cons d' s' =>
          obtain ⟨rfl, hrest⟩ := List.cons.inj h
          obtain ⟨rfl, htail⟩ := ih (fun hc => hs (List.mem_cons_of_mem _ hc))
            (fun hc => hs' (List.mem_cons_of_mem _ hc)) hrest
          exact ⟨rfl, htail⟩

theorem cut_last {c : Char} {s s' t t' : List Char} (ht : c ∉ t) (ht' : c ∉ t')
    (h : s ++ c :: t = s' ++ c :: t') : s = s' ∧ t = t' := by
  have hturned : t.reverse ++ c :: s.reverse = t'.reverse ++ c :: s'.reverse := by
    have hrev := congrArg List.reverse h
    simpa only [List.reverse_append, List.reverse_cons, List.append_assoc,
      List.singleton_append] using hrev
  obtain ⟨hbehind, hfront⟩ := cut_first (fun hc => ht (List.mem_reverse.1 hc))
    (fun hc => ht' (List.mem_reverse.1 hc)) hturned
  exact ⟨List.reverse_inj.1 hfront, List.reverse_inj.1 hbehind⟩

theorem joinWith_concat {sep : String} {ss : List String} (hss : ss ≠ []) (t : String) :
    joinWith sep (ss ++ [t]) = joinWith sep ss ++ sep ++ t := by
  induction ss with
  | nil => exact absurd rfl hss
  | cons s rest ih =>
      cases rest with
      | nil => rfl
      | cons s' rest =>
          have hrest := ih (List.cons_ne_nil _ _)
          rw [List.cons_append] at hrest
          simp only [List.cons_append, joinWith, hrest, String.append_assoc]

theorem mem_joinWith {sep : String} {ss : List String} {c : Char}
    (h : c ∈ (joinWith sep ss).toList) : c ∈ sep.toList ∨ ∃ s ∈ ss, c ∈ s.toList := by
  induction ss with
  | nil => cases h
  | cons s rest ih =>
      cases rest with
      | nil => exact .inr ⟨s, List.mem_cons_self, h⟩
      | cons t rest =>
          simp only [joinWith, String.toList_append, List.mem_append] at h
          rcases h with (h | h) | h
          · exact .inr ⟨s, List.mem_cons_self, h⟩
          · exact .inl h
          · rcases ih h with h | ⟨s', hs', h⟩
            · exact .inl h
            · exact .inr ⟨s', List.mem_cons_of_mem _ hs', h⟩

theorem toString_inj {i j : Nat} (h : (toString i).toList = (toString j).toList) : i = j := by
  rw [Nat.toString_eq_repr, Nat.toString_eq_repr, Nat.toList_repr, Nat.toList_repr] at h
  have hread := congrArg (Nat.ofDigitChars 10 · 0) h
  simpa only [Nat.ofDigitChars_toDigits (by decide : 1 < 10) (by decide : 10 ≤ 10)] using hread

end Text

namespace Path

/-! ## Written paths -/

/-- A path that some pattern stands for. -/
def Readable (path : Path) : Prop := ∃ raw, parse raw = .ok path

theorem Readable.render_inj {path path' : Path} (hpath : path.Readable)
    (hpath' : path'.Readable) (h : path.render = path'.render) : path = path' := by
  obtain ⟨raw, hraw⟩ := hpath
  obtain ⟨raw', hraw'⟩ := hpath'
  have hread := parse_render hraw
  rw [h, parse_render hraw'] at hread
  exact (Except.ok.inj hread).symm

theorem eq_of_mem_mark {inverse : Bool} {c : Char} (h : c ∈ mark inverse) : c = '^' := by
  cases inverse with
  | true => exact List.mem_singleton.1 h
  | false => cases h

theorem Readable.plain {path : Path} (hpath : path.Readable) :
    ∀ c ∈ path.render.toList, Text.isBlank c = false := by
  obtain ⟨raw, hraw⟩ := hpath
  obtain ⟨-, hiris⟩ := (parse_eq_ok_iff.1 hraw).isIri
  intro c hc
  rcases Text.mem_joinWith hc with hc | ⟨s, hs, hc⟩
  · obtain rfl := List.mem_singleton.1 hc
    decide
  · obtain ⟨step, hstep, rfl⟩ := List.mem_map.1 hs
    rw [toList_renderStep] at hc
    simp only [List.append_nil, List.nil_append, List.mem_append, List.mem_cons,
      List.not_mem_nil, or_false] at hc
    rcases hc with hc | rfl | hc | rfl
    · rw [eq_of_mem_mark hc]
      decide
    · decide
    · exact ((hiris step hstep).plain c hc).1
    · decide

theorem Readable.not_mem {path : Path} (hpath : path.Readable) {c : Char}
    (hc : Text.isBlank c = true) : c ∉ path.render.toList := by
  intro hmem
  rw [hpath.plain c hmem] at hc
  cases hc

end Path

namespace Candidates

theorem readable {patterns : List String} {paths : Candidates}
    (h : Candidates.parse patterns = .ok paths) :
    paths ≠ [] ∧ ∀ path ∈ paths, Path.Readable path := by
  obtain ⟨hne, hpaths⟩ := parse_eq_ok_iff.1 h
  refine ⟨fun hnil => hne ?_, fun path hpath => ?_⟩
  · rw [hnil] at hpaths
    exact List.map_eq_nil_iff.1 hpaths
  · have hmem : Except.ok path ∈ patterns.map Path.parse :=
      hpaths ▸ List.mem_map_of_mem hpath
    obtain ⟨raw, -, hraw⟩ := List.mem_map.1 hmem
    exact ⟨raw, hraw⟩

end Candidates

namespace PatternQuery

/-! ## Branches -/

/-- A branch without the end of its line. -/
def line (path : Path) (index : Nat) : List Char :=
  "  \x7b ?resource ".toList ++ path.render.toList ++ " ?value . BIND(".toList
    ++ (toString index).toList ++ " AS ?index) \x7d".toList

theorem toList_renderBranch (path : Path) (index : Nat) :
    (renderBranch path index).toList = line path index ++ ['\n'] := by
  have hend : " AS ?index) \x7d\n".toList = " AS ?index) \x7d".toList ++ ['\n'] := rfl
  unfold renderBranch line
  simp only [String.toList_append, hend, List.append_assoc]

/-- A line tells its path and its position: the path ends at the first blank behind it. -/
theorem line_inj {path path' : Path} (hpath : path.Readable) (hpath' : path'.Readable)
    {index index' : Nat} (h : line path index = line path' index') :
    path = path' ∧ index = index' := by
  have hblank : Text.isBlank ' ' = true := by decide
  have hbind : " ?value . BIND(".toList = ' ' :: "?value . BIND(".toList := rfl
  unfold line at h
  simp only [hbind, List.append_assoc, List.cons_append] at h
  obtain ⟨hrender, hrest⟩ := Text.cut_first (hpath.not_mem hblank) (hpath'.not_mem hblank)
    (List.append_cancel_left h)
  have hindex := List.append_cancel_right (List.append_cancel_left hrest)
  exact ⟨hpath.render_inj hpath' (String.toList_inj.1 hrender), Text.toString_inj hindex⟩

theorem newline_notMem_line {path : Path} (hpath : path.Readable) (index : Nat) :
    '\n' ∉ line path index := by
  have hdigits : '\n' ∉ (toString index).toList := by
    intro hmem
    rw [Nat.toString_eq_repr, Nat.toList_repr] at hmem
    have hdigit := Nat.isDigit_of_mem_toDigits (by decide) (by decide) hmem
    cases hdigit
  have hopen : '\n' ∉ "  \x7b ?resource ".toList := by decide
  have hbind : '\n' ∉ " ?value . BIND(".toList := by decide
  have hclose : '\n' ∉ " AS ?index) \x7d".toList := by decide
  unfold line
  simp only [List.mem_append, not_or]
  exact ⟨⟨⟨⟨hopen, hpath.not_mem (by decide)⟩, hbind⟩, hdigits⟩, hclose⟩

/-- The lines of the branches, with a separator between neighbours. -/
def block (paths : Candidates) : List Char :=
  (Text.joinWith "  UNION\n" (paths.zipIdx.map fun b => renderBranch b.1 b.2)).toList

theorem block_singleton (path : Path) : block [path] = line path 0 ++ ['\n'] :=
  toList_renderBranch path 0

theorem block_concat {paths : Candidates} (hne : paths ≠ []) (path : Path) :
    block (paths ++ [path]) =
      block paths ++ "  UNION".toList ++ '\n' :: line path paths.length ++ ['\n'] := by
  have hsome : paths.zipIdx.map (fun b => renderBranch b.1 b.2) ≠ [] := by simpa using hne
  have hlast : ([path].zipIdx (0 + paths.length)).map (fun b => renderBranch b.1 b.2) =
      [renderBranch path paths.length] := by simp
  unfold block
  rw [List.zipIdx_append, List.map_append, hlast, Text.joinWith_concat hsome]
  simp [toList_renderBranch]

/-- What stands in front of the last line of the branches. -/
def front (before : List Char) (paths : Candidates) : List Char :=
  if paths = [] then before else before ++ '\n' :: block paths ++ "  UNION".toList

theorem front_concat (before : List Char) (paths : Candidates) (path : Path) :
    before ++ '\n' :: block (paths ++ [path]) =
      front before paths ++ '\n' :: line path paths.length ++ ['\n'] := by
  unfold front
  split
  · next hnil =>
      rw [hnil, List.nil_append, block_singleton]
      simp
  · next hne =>
      rw [block_concat hne]
      simp

/-- The lines at the end of a text tell the branches, whatever stands in front of them. -/
theorem block_unique {paths paths' : Candidates} (hne : paths ≠ []) (hne' : paths' ≠ [])
    (hpaths : ∀ path ∈ paths, Path.Readable path)
    (hpaths' : ∀ path ∈ paths', Path.Readable path) {before before' : List Char}
    (h : before ++ '\n' :: block paths = before' ++ '\n' :: block paths') :
    before = before' ∧ paths = paths' := by
  induction paths using List.reverseRecOn generalizing paths' with
  | nil => exact absurd rfl hne
  | append_singleton paths path ih =>
      rcases List.eq_nil_or_concat paths' with rfl | ⟨paths', path', rfl⟩
      · exact absurd rfl hne'
      · have hpath := hpaths path (by simp)
        have hpath' := hpaths' path' (by simp)
        rw [List.concat_eq_append] at hpaths' ⊢
        rw [List.concat_eq_append, front_concat, front_concat] at h
        -- Both texts end with the line of their last branch.
        obtain ⟨hfront, hline⟩ := Text.cut_last (newline_notMem_line hpath _)
          (newline_notMem_line hpath' _) (List.append_cancel_right h)
        obtain ⟨rfl, hlength⟩ := line_inj hpath hpath' hline
        -- Its position is the number of those before it, so both lists begin together.
        by_cases hnil : paths = []
        · subst hnil
          obtain rfl := List.eq_nil_of_length_eq_zero hlength.symm
          exact ⟨hfront, rfl⟩
        · have hnil' : paths' ≠ [] := by
            rintro rfl
            exact hnil (List.eq_nil_of_length_eq_zero hlength)
          unfold front at hfront
          rw [if_neg hnil, if_neg hnil'] at hfront
          obtain ⟨hbefore, rfl⟩ := ih hnil hnil' (fun p hp => hpaths p (by simp [hp]))
            (fun p hp => hpaths' p (by simp [hp])) (List.append_cancel_right hfront)
          exact ⟨hbefore, rfl⟩

/-! ## Resources -/

/-- What stands between two resource ids. -/
def separator : List Char := ['>', ' ', '<']

/-- A text cut at every place where it reads like the end of one id and the beginning of
the next. -/
def pieces : List Char → List (List Char)
  | '>' :: ' ' :: '<' :: s => [] :: pieces s
  | c :: s => (pieces s).modifyHead (c :: ·)
  | [] => [[]]

theorem pieces_cons {c : Char} {s : List Char} (h : ¬ separator <+: c :: s) :
    pieces (c :: s) = (pieces s).modifyHead (c :: ·) := by
  rw [pieces.eq_def]
  split
  · next s' heq =>
      rw [heq] at h
      exact absurd ⟨s', rfl⟩ h
  · next heq =>
      obtain ⟨rfl, rfl⟩ := List.cons.inj heq
      rfl
  · next heq => cases heq

theorem pieces_separator (s : List Char) : pieces (separator ++ s) = [] :: pieces s := rfl

theorem pieces_ne_nil (s : List Char) : pieces s ≠ [] := by
  fun_induction pieces s with
  | case1 s ih => exact List.cons_ne_nil _ _
  | case2 c s hsep ih =>
      cases hs : pieces s with
      | nil => exact absurd hs ih
      | cons p ps => exact List.cons_ne_nil _ _
  | case3 => exact List.cons_ne_nil _ _

/-- A separator that begins in a text ends there, if another separator follows it. -/
theorem separator_prefix {c : Char} {s t : List Char}
    (h : separator <+: c :: (s ++ separator ++ t)) : separator <+: c :: s := by
  match s with
  | [] => simp [separator, List.cons_prefix_cons] at h
  | [_] => simp [separator, List.cons_prefix_cons] at h
  | _ :: _ :: _ => simpa [separator, List.cons_prefix_cons] using h

/-- The separator does not overlap itself, so a text falls apart at each one. -/
theorem pieces_append (s t : List Char) :
    pieces (s ++ separator ++ t) = pieces s ++ pieces t := by
  fun_induction pieces s with
  | case1 s ih => exact congrArg ([] :: ·) ih
  | case2 c s hsep ih =>
      have hfree : ¬ separator <+: c :: (s ++ separator ++ t) := by
        intro hbegins
        obtain ⟨rest, hrest⟩ := separator_prefix hbegins
        obtain ⟨hc, hs⟩ := List.cons.inj hrest
        exact hsep rest hc.symm hs.symm
      calc pieces (c :: s ++ separator ++ t)
          = (pieces (s ++ separator ++ t)).modifyHead (c :: ·) := pieces_cons hfree
        _ = (pieces s ++ pieces t).modifyHead (c :: ·) := by rw [ih]
        _ = (pieces s).modifyHead (c :: ·) ++ pieces t := by
          cases hs : pieces s with
          | nil => exact absurd hs (pieces_ne_nil s)
          | cons p ps => rfl
  | case3 => exact pieces_separator t

theorem intercalate_pieces (s : List Char) : separator.intercalate (pieces s) = s := by
  fun_induction pieces s with
  | case1 s ih =>
      rw [List.intercalate_cons_of_ne_nil (pieces_ne_nil s), ih]
      rfl
  | case2 c s hsep ih =>
      cases hs : pieces s with
      | nil => exact absurd hs (pieces_ne_nil s)
      | cons p ps =>
          rw [hs] at ih
          rw [List.modifyHead_cons, ← ih]
          cases ps with
          | nil => simp
          | cons p' ps => simp [List.intercalate_cons_cons]
  | case3 => rfl

theorem pieces_intercalate {ids : List (List Char)} (hne : ids ≠ []) :
    pieces (separator.intercalate ids) = ids.flatMap pieces := by
  induction ids with
  | nil => exact absurd rfl hne
  | cons s rest ih =>
      cases rest with
      | nil => simp
      | cons t rest =>
          rw [List.intercalate_cons_cons, pieces_append, ih (List.cons_ne_nil _ _)]
          rfl

theorem intercalate_eq_iff {ids ids' : List (List Char)} (hne : ids ≠ []) (hne' : ids' ≠ []) :
    separator.intercalate ids = separator.intercalate ids' ↔
      ids.flatMap pieces = ids'.flatMap pieces := by
  rw [← pieces_intercalate hne, ← pieces_intercalate hne']
  constructor
  · exact congrArg pieces
  · intro h
    have hglued := congrArg separator.intercalate h
    rwa [intercalate_pieces, intercalate_pieces] at hglued

theorem pieces_of_separable {s : List Char} (h : ¬ separator <:+: s) : pieces s = [s] := by
  induction s with
  | nil => rfl
  | cons c s ih =>
      have hfree : ¬ separator <+: c :: s := fun hbegins => h hbegins.isInfix
      have hrest : ¬ separator <:+: s := fun hin => h (List.infix_cons hin)
      rw [pieces_cons hfree, ih hrest, List.modifyHead_cons]

/-- The pieces of a resource id. -/
def parts (id : ResourceId) : List (List Char) := pieces id.toList

theorem parts_cons_ne_nil (id : ResourceId) (ids : List ResourceId) :
    (id :: ids).flatMap parts ≠ [] := by
  intro hnil
  rw [List.flatMap_cons, List.append_eq_nil_iff] at hnil
  exact pieces_ne_nil _ hnil.1

/-- The block of the resource ids. -/
def values (ids : List ResourceId) : List Char :=
  (Text.joinWith " " (ids.map fun r => "<" ++ r ++ ">")).toList

theorem values_cons (id : ResourceId) (ids : List ResourceId) :
    values (id :: ids) =
      '<' :: (separator.intercalate ((id :: ids).map String.toList) ++ ['>']) := by
  unfold values
  induction ids generalizing id with
  | nil => simp [Text.joinWith]
  | cons next ids ih =>
      have hrest := ih next
      simp only [List.map_cons] at hrest ⊢
      rw [Text.joinWith, List.intercalate_cons_cons]
      · simp [hrest, separator]
      · simp

theorem values_eq_iff {ids ids' : List ResourceId} :
    values ids = values ids' ↔ ids.flatMap parts = ids'.flatMap parts := by
  cases ids with
  | nil =>
      cases ids' with
      | nil => exact ⟨fun _ => rfl, fun _ => rfl⟩
      | cons id' rest' =>
          rw [values_cons]
          exact ⟨fun h => (nomatch h), fun h => absurd h.symm (parts_cons_ne_nil id' rest')⟩
  | cons id rest =>
      cases ids' with
      | nil =>
          rw [values_cons]
          exact ⟨fun h => (nomatch h), fun h => absurd h (parts_cons_ne_nil id rest)⟩
      | cons id' rest' =>
          have hsome : ∀ (id : ResourceId) (rest : List ResourceId),
              (id :: rest).map String.toList ≠ [] := fun _ _ => List.cons_ne_nil _ _
          rw [values_cons, values_cons, List.cons_inj_right, List.append_left_inj,
            intercalate_eq_iff (hsome id rest) (hsome id' rest'), List.flatMap_map,
            List.flatMap_map]
          rfl

/-- An id that holds no separator. -/
def Separable (id : ResourceId) : Prop := ¬ separator <:+: id.toList

instance : DecidablePred Separable := fun id =>
  inferInstanceAs (Decidable (¬ separator <:+: id.toList))

theorem flatMap_parts_of_separable {ids : List ResourceId} (h : ∀ id ∈ ids, Separable id) :
    ids.flatMap parts = ids.map fun id => id.toList := by
  induction ids with
  | nil => rfl
  | cons id ids ih =>
      have hid : parts id = [id.toList] := pieces_of_separable (h id List.mem_cons_self)
      rw [List.flatMap_cons, hid, ih fun id' hid' => h id' (List.mem_cons_of_mem _ hid')]
      rfl

/-- Every id that would pass the check of the candidates' properties is separable. -/
theorem separable_of_checkIri {pattern : String} {id iri : String}
    (h : Path.checkIri pattern id.toList = .ok iri) : Separable id := by
  intro hin
  obtain ⟨hiri, -⟩ := Path.checkIri_eq_ok.1 h
  exact hiri.not_mem (by decide : Path.isDelimiter '>' = true) (hin.subset (by decide))

/-! ## The whole text -/

theorem toList_text (q : PatternQuery) :
    q.text.toList =
      "SELECT ?resource ?index ?value WHERE \x7b\n  VALUES ?resource \x7b ".toList
        ++ values q.resources ++ " \x7d".toList ++ '\n' :: block q.branches ++ ['}'] := by
  have hclose : " \x7d\n".toList = " \x7d".toList ++ ['\n'] := rfl
  have hend : "\x7d".toList = ['}'] := rfl
  unfold text values block
  simp only [String.toList_append, hclose, hend, List.append_assoc, List.cons_append,
    List.nil_append]

theorem build_eq_ok {patterns : List String} {resources : List ResourceId} {q : PatternQuery}
    (h : build patterns resources = .ok q) :
    q.resources = resources ∧ q.branches ≠ [] ∧ ∀ path ∈ q.branches, Path.Readable path := by
  unfold build at h
  obtain ⟨paths, hpaths, h⟩ := exists_of_bind_eq_ok h
  obtain rfl := Except.ok.inj h
  exact ⟨rfl, Candidates.readable hpaths⟩

theorem text_eq_iff {patterns patterns' : List String} {resources resources' : List ResourceId}
    {q q' : PatternQuery} (h : build patterns resources = .ok q)
    (h' : build patterns' resources' = .ok q') :
    q.text = q'.text ↔
      q.branches = q'.branches ∧ resources.flatMap parts = resources'.flatMap parts := by
  obtain ⟨rfl, hne, hread⟩ := build_eq_ok h
  obtain ⟨rfl, hne', hread'⟩ := build_eq_ok h'
  rw [← String.toList_inj, toList_text, toList_text, List.append_left_inj, ← values_eq_iff]
  constructor
  · intro htext
    obtain ⟨hfront, hbranches⟩ := block_unique hne hne' hread hread' htext
    exact ⟨hbranches, List.append_cancel_left (List.append_cancel_right hfront)⟩
  · rintro ⟨hbranches, hvalues⟩
    rw [hbranches, hvalues]

/-- Equal texts come from equal branches, always, and from resource ids with the same
pieces: the block of resources loses nothing but the bounds of an id that looks like two.
Where no id holds the separator the text determines the query. -/
theorem text_determines {patterns patterns' : List String}
    {resources resources' : List ResourceId} {q q' : PatternQuery}
    (h : build patterns resources = .ok q) (h' : build patterns' resources' = .ok q') :
    (q.text = q'.text ↔
      q.branches = q'.branches ∧ resources.flatMap parts = resources'.flatMap parts) ∧
      ((∀ id ∈ resources ++ resources', Separable id) → q.text = q'.text →
        resources = resources' ∧ q = q') := by
  refine ⟨text_eq_iff h h', fun hseparable htext => ?_⟩
  obtain ⟨hbranches, hparts⟩ := (text_eq_iff h h').1 htext
  rw [flatMap_parts_of_separable fun id hid => hseparable id (List.mem_append_left _ hid),
    flatMap_parts_of_separable fun id hid => hseparable id (List.mem_append_right _ hid)] at hparts
  have hresources : resources = resources' :=
    (List.map_inj_right fun _ _ => String.toList_inj.1).1 hparts
  obtain ⟨hq, -⟩ := build_eq_ok h
  obtain ⟨hq', -⟩ := build_eq_ok h'
  refine ⟨hresources, ?_⟩
  cases q
  cases q'
  obtain rfl := hq.trans (hresources.trans hq'.symm)
  obtain rfl := hbranches
  rfl

/-- A candidate written with brackets and without them, for the same ids. -/
theorem text_determines_bare_and_bracketed :
    ∃ q q', build ["urn:p"] ["urn:a", "urn:b"] = .ok q ∧
      build ["< urn:p >"] ["urn:a", "urn:b"] = .ok q' ∧
      (∀ id ∈ ["urn:a", "urn:b"] ++ ["urn:a", "urn:b"], Separable id) ∧
      q.text = q'.text ∧ q = q' := by
  have h : build ["urn:p"] ["urn:a", "urn:b"] =
      .ok ⟨["urn:a", "urn:b"], [[⟨"urn:p", false⟩]]⟩ := by decide +kernel
  have h' : build ["< urn:p >"] ["urn:a", "urn:b"] =
      .ok ⟨["urn:a", "urn:b"], [[⟨"urn:p", false⟩]]⟩ := by decide +kernel
  have hids : ∀ id ∈ ["urn:a", "urn:b"] ++ ["urn:a", "urn:b"], Separable id := by decide
  exact ⟨_, _, h, h', hids, rfl, ((text_determines h h').2 hids rfl).2⟩

/-- One id that holds the separator and the two ids around it give one text. -/
theorem text_of_two_ids :
    ∃ q q', build ["urn:label"] ["urn:a> <urn:b"] = .ok q ∧
      build ["urn:label"] ["urn:a", "urn:b"] = .ok q' ∧ q.text = q'.text ∧
      q.resources ≠ q'.resources := by
  refine ⟨⟨["urn:a> <urn:b"], [[⟨"urn:label", false⟩]]⟩,
    ⟨["urn:a", "urn:b"], [[⟨"urn:label", false⟩]]⟩, ?_, ?_, ?_, ?_⟩
  all_goals decide +kernel

end PatternQuery

end Nomenclator

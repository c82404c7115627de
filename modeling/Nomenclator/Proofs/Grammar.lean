import Nomenclator.Proofs.Effect
import Nomenclator.Query

/-!
# The grammar of property paths

The reader of paths cuts the front of a text off again and again and trims what is
left. What it accepts can be said without it: a pattern is either one bare property
or a sequence of properties in brackets, and in the second case it is told by its
opening bracket. The grammar below is written with the blanks where they may stand
and knows nothing of trimming; that a text has no blanks at its ends is all that the
reader has to bring about before it begins.

Reading a sequence is followed step by step. The one observation behind both
directions is that a step ends at its first closing bracket, because neither blanks
nor properties hold one: what is in front of it is the property with its blanks, and
what is behind it is blank or begins, after blanks, with a slash.
-/

namespace Nomenclator

namespace Text

/-! ## Blanks -/

/-- Nothing but blanks. -/
def Blank (s : List Char) : Prop := ∀ c ∈ s, isBlank c = true

theorem blank_nil : Blank [] := fun _ h => nomatch h

theorem Blank.append {s t : List Char} (hs : Blank s) (ht : Blank t) : Blank (s ++ t) := by
  intro c hc
  rcases List.mem_append.1 hc with hc | hc
  · exact hs c hc
  · exact ht c hc

theorem Blank.reverse {s : List Char} (hs : Blank s) : Blank s.reverse :=
  fun c hc => hs c (List.mem_reverse.1 hc)

theorem Blank.not_mem {s : List Char} (hs : Blank s) {c : Char} (hc : isBlank c = false) :
    c ∉ s := by
  intro hmem
  rw [hs c hmem] at hc
  cases hc

theorem trimLeft_append {b : List Char} (hb : Blank b) (s : List Char) :
    trimLeft (b ++ s) = trimLeft s :=
  List.dropWhile_append_of_pos hb

theorem Blank.trimLeft_eq {s : List Char} (hs : Blank s) : trimLeft s = [] := by
  have hnil := trimLeft_append hs []
  rw [List.append_nil] at hnil
  exact hnil

theorem trimLeft_cons {c : Char} (hc : isBlank c = false) (s : List Char) :
    trimLeft (c :: s) = c :: s :=
  List.dropWhile_cons_of_neg (by rw [hc]; exact Bool.false_ne_true)

theorem exists_trimLeft (s : List Char) : ∃ b, Blank b ∧ s = b ++ trimLeft s :=
  ⟨s.takeWhile isBlank, fun c hc => List.all_eq_true.1 List.all_takeWhile c hc,
    List.takeWhile_append_dropWhile.symm⟩

theorem blank_of_trimLeft {s : List Char} (h : trimLeft s = []) : Blank s := by
  obtain ⟨b, hb, hs⟩ := exists_trimLeft s
  rw [hs, h, List.append_nil]
  exact hb

theorem head_trimLeft (s : List Char) : ∀ c ∈ (trimLeft s).head?, isBlank c = false := by
  intro c hc
  cases h : trimLeft s with
  | nil => rw [h] at hc; cases hc
  | cons d rest =>
      rw [h] at hc
      obtain rfl := Option.some.inj hc
      exact dropWhile_head h

theorem exists_trim (s : List Char) :
    ∃ b b', Blank b ∧ Blank b' ∧ s = b ++ trim s ++ b' := by
  obtain ⟨b, hb, hs⟩ := exists_trimLeft s
  obtain ⟨b', hb', hs'⟩ := exists_trimLeft (trimLeft s).reverse
  refine ⟨b, b'.reverse, hb, hb'.reverse, ?_⟩
  have hright : trimLeft s = trim s ++ b'.reverse := by
    have hturned := congrArg List.reverse hs'
    rw [List.reverse_reverse, List.reverse_append] at hturned
    exact hturned
  rw [List.append_assoc, ← hright]
  exact hs

/-- Blanks around a text that neither begins nor ends with one are trimmed away. -/
theorem trim_around {b b' s : List Char} (hb : Blank b) (hb' : Blank b')
    (hhead : ∀ c ∈ s.head?, isBlank c = false)
    (hlast : ∀ c ∈ s.getLast?, isBlank c = false) : trim (b ++ s ++ b') = s := by
  have hleft : trimLeft (b ++ s ++ b') = trimLeft (s ++ b') := by
    rw [List.append_assoc, trimLeft_append hb]
  cases s with
  | nil =>
      unfold trim
      rw [hleft, List.nil_append, hb'.trimLeft_eq]
      rfl
  | cons c rest =>
      have hc : isBlank c = false := hhead c rfl
      have hkept : trimLeft ((c :: rest) ++ b') = (c :: rest) ++ b' := trimLeft_cons hc _
      have hturned : ∀ d ∈ (c :: rest).reverse.head?, isBlank d = false := by
        rw [List.head?_reverse]
        exact hlast
      unfold trim trimRight
      rw [hleft, hkept, List.reverse_append, List.dropWhile_append_of_pos hb'.reverse,
        dropWhile_eq_self hturned, List.reverse_reverse]

/-- A trimmed text begins and ends with something else than a blank. -/
theorem trimLeft_trim (s : List Char) : trimLeft (trim s) = trim s := by
  apply dropWhile_eq_self
  intro c hc
  rw [trim, trimRight_head? (head_trimLeft s)] at hc
  exact head_trimLeft s c hc

theorem eq_nil_of_trim {s t b : List Char} (h : trim s = t ++ b) (hb : Blank b) : b = [] := by
  have hturned : trimLeft (trim s).reverse = (trim s).reverse := by
    unfold trim trimRight
    rw [List.reverse_reverse]
    exact dropWhile_idem _ _
  have hends : b.reverse = [] := by
    cases hb' : b.reverse with
    | nil => rfl
    | cons c rest =>
        have hc : isBlank c = true := hb.reverse c (hb' ▸ List.mem_cons_self)
        rw [h, List.reverse_append, hb'] at hturned
        have hgone := head_trimLeft (c :: rest ++ t.reverse)
        rw [hturned] at hgone
        rw [hgone c rfl] at hc
        cases hc
  exact List.reverse_eq_nil_iff.1 hends

end Text

namespace Path

open Text (Blank isBlank trim trimLeft)

/-! ## The grammar -/

/-- A property: not empty, and without blanks and delimiters. -/
structure IsIri (s : List Char) : Prop where
  nonempty : s ≠ []
  plain : ∀ c ∈ s, isBlank c = false ∧ isDelimiter c = false

/-- How the direction of a step is written. -/
def mark (inverse : Bool) : List Char := if inverse then ['^'] else []

/-- A property without brackets. The first mark is the direction, and any further one
belongs to the property. -/
inductive Bare : List Char → Step → Prop where
  | forward {iri : List Char} (hiri : IsIri iri) (hmark : iri.head? ≠ some '^') :
      Bare iri ⟨String.ofList iri, false⟩
  | inverse {b iri : List Char} (hb : Blank b) (hiri : IsIri iri) :
      Bare ('^' :: (b ++ iri)) ⟨String.ofList iri, true⟩

/-- A property in brackets. -/
inductive Bracketed : List Char → Step → Prop where
  | step (inverse : Bool) {b b₁ iri b₂ : List Char} (hb : Blank b) (hb₁ : Blank b₁)
      (hiri : IsIri iri) (hb₂ : Blank b₂) :
      Bracketed (mark inverse ++ b ++ '<' :: (b₁ ++ iri ++ b₂ ++ ['>']))
        ⟨String.ofList iri, inverse⟩

/-- Properties in brackets, with a slash between neighbours. -/
inductive Sequence : List Char → Path → Prop where
  | last {s : List Char} {step : Step} (hs : Bracketed s step) : Sequence s [step]
  | more {s b b' rest : List Char} {step : Step} {path : Path} (hs : Bracketed s step)
      (hb : Blank b) (hb' : Blank b') (hrest : Sequence rest path) :
      Sequence (s ++ b ++ '/' :: (b' ++ rest)) (step :: path)

/-- The texts without blanks at their ends that stand for a path. -/
inductive Written (s : List Char) : Path → Prop where
  | bare {step : Step} (hopen : '<' ∉ s) (hs : Bare s step) : Written s [step]
  | bracketed {path : Path} (hopen : '<' ∈ s) (hs : Sequence s path) : Written s path

/-! ## Properties -/

theorem IsIri.not_mem {s : List Char} (hs : IsIri s) {c : Char} (hc : isDelimiter c = true) :
    c ∉ s := by
  intro hmem
  rw [(hs.plain c hmem).2] at hc
  cases hc

theorem IsIri.head {s : List Char} (hs : IsIri s) : ∀ c ∈ s.head?, isBlank c = false :=
  fun c hc => (hs.plain c (List.mem_of_head? hc)).1

theorem IsIri.last {s : List Char} (hs : IsIri s) : ∀ c ∈ s.getLast?, isBlank c = false :=
  fun c hc => (hs.plain c (List.mem_of_getLast? hc)).1

theorem checkIri_eq_ok {pattern iri : String} {s : List Char} :
    checkIri pattern s = .ok iri ↔ IsIri s ∧ iri = String.ofList s := by
  unfold checkIri
  split
  · next hempty =>
      rw [List.isEmpty_iff] at hempty
      exact ⟨fun h => (nomatch h), fun h => absurd hempty h.1.nonempty⟩
  · next hempty =>
      rw [List.isEmpty_iff] at hempty
      split
      · next hany =>
          obtain ⟨c, hc, hbad⟩ := List.any_eq_true.1 hany
          refine ⟨fun h => (nomatch h), fun h => ?_⟩
          rw [(h.1.plain c hc).1, (h.1.plain c hc).2] at hbad
          cases hbad
      · next hany =>
          have hplain : ∀ c ∈ s, isBlank c = false ∧ isDelimiter c = false := by
            intro c hc
            have hnot := List.any_eq_false.1 (Bool.eq_false_iff.2 hany) c hc
            rwa [Bool.not_eq_true, Bool.or_eq_false_iff] at hnot
          constructor
          · intro h
            exact ⟨⟨hempty, hplain⟩, (Except.ok.inj h).symm⟩
          · rintro ⟨-, rfl⟩
            rfl

/-! ## The mark -/

theorem exists_splitInverse {s rest : List Char} {inverse : Bool}
    (h : splitInverse s = (inverse, rest)) :
    ∃ b, Blank b ∧ s = mark inverse ++ b ++ rest := by
  unfold splitInverse at h
  split at h
  · next tail =>
      obtain ⟨rfl, rfl⟩ := Prod.mk.inj h
      obtain ⟨b, hb, hs⟩ := Text.exists_trimLeft tail
      exact ⟨b, hb, congrArg ('^' :: ·) hs⟩
  · obtain ⟨rfl, rfl⟩ := Prod.mk.inj h
    exact ⟨[], Text.blank_nil, rfl⟩

theorem splitInverse_of_head {s : List Char} (h : s.head? ≠ some '^') :
    splitInverse s = (false, s) := by
  unfold splitInverse
  split
  · exact absurd rfl h
  · rfl

theorem splitInverse_mark (inverse : Bool) {b rest : List Char} {c : Char} (hb : Blank b)
    (hc : isBlank c = false) (hmark : c ≠ '^') :
    splitInverse (trimLeft (mark inverse ++ b ++ c :: rest)) = (inverse, c :: rest) := by
  have hrest : trimLeft (b ++ c :: rest) = c :: rest := by
    rw [Text.trimLeft_append hb, Text.trimLeft_cons hc]
  cases inverse with
  | true =>
      show splitInverse (trimLeft ('^' :: (b ++ c :: rest))) = _
      rw [Text.trimLeft_cons (by decide)]
      exact congrArg (Prod.mk true) hrest
  | false =>
      show splitInverse (trimLeft (b ++ c :: rest)) = _
      rw [hrest]
      exact splitInverse_of_head fun h => hmark (Option.some.inj h)

/-! ## Sequences -/

/-- A step that opens is read up to its first closing bracket; what is behind that
decides whether another step follows. -/
theorem parseSteps_open (pattern : String) {s inner after : List Char} {inverse : Bool}
    (hs : splitInverse s = (inverse, '<' :: (inner ++ '>' :: after))) (hinner : '>' ∉ inner) :
    parseSteps pattern s = (do
      let iri ← checkIri pattern (trim inner)
      match trimLeft after with
      | [] => return [⟨iri, inverse⟩]
      | '/' :: next =>
        let rest ← parseSteps pattern (trimLeft next)
        return ⟨iri, inverse⟩ :: rest
      | _ :: _ => .error (.invalidPath pattern "steps must be separated by `/`")) := by
  have hpass : ∀ c ∈ inner, (c != '>') = true := fun c hc =>
    bne_iff_ne.2 fun h => hinner (h ▸ hc)
  have htake : (inner ++ '>' :: after).takeWhile (· != '>') = inner := by
    rw [List.takeWhile_append_of_pos hpass]
    exact List.append_nil inner
  have hdrop : (inner ++ '>' :: after).dropWhile (· != '>') = '>' :: after :=
    List.dropWhile_append_of_pos hpass
  rw [parseSteps.eq_def]
  split
  · cases hs
  · cases hs
  · split
    · next inverse' body h =>
        rw [hs] at h
        obtain ⟨rfl, hbody⟩ := Prod.mk.inj h
        obtain rfl := (List.cons.inj hbody).2
        split
        · next hnone =>
            rw [hdrop] at hnone
            cases hnone
        · next d after' hsome =>
            rw [hdrop] at hsome
            obtain rfl := (List.cons.inj hsome).2
            rw [htake]
            refine congrArg (checkIri pattern (trim inner) >>= ·) (funext fun iri => ?_)
            split
            · next h => rw [h]
            · next h =>
                rw [h]
                rfl
            · next hother h =>
                rw [h]
                split
                · next h' => cases h'
                · next h' => exact (hother (List.cons.inj h').1).elim
                · rfl
    · next hnone => exact absurd hs (hnone _ _)

/-- What is taken up to a closing bracket holds none. -/
theorem exists_cut {body after : List Char} {d : Char}
    (h : body.dropWhile (· != '>') = d :: after) :
    ∃ inner, '>' ∉ inner ∧ body = inner ++ '>' :: after := by
  obtain rfl : d = '>' := by
    have hstop := Text.dropWhile_head h
    rwa [bne_eq_false_iff_eq] at hstop
  refine ⟨body.takeWhile (· != '>'), ?_, ?_⟩
  · intro hmem
    have hpass := List.all_eq_true.1 List.all_takeWhile _ hmem
    cases hpass
  · rw [← h, List.takeWhile_append_dropWhile]

theorem sequence_of_parseSteps {pattern : String} {s : List Char} {path : Path}
    (h : parseSteps pattern s = .ok path) :
    ∃ t b, s = t ++ b ∧ Blank b ∧ Sequence t path := by
  induction s using parseSteps.induct generalizing path with
  | case1 =>
      rw [parseSteps.eq_def] at h
      cases h
  | case2 tail =>
      rw [parseSteps.eq_def] at h
      cases h
  | case3 s hne hslash inverse body hs hnone =>
      rw [parseSteps.eq_def] at h
      split at h
      · cases h
      · cases h
      · split at h
        · next inverse' body' hs' =>
            rw [hs] at hs'
            obtain rfl := (List.cons.inj (Prod.mk.inj hs').2).2
            split at h
            · cases h
            · next hsome =>
                rw [hnone] at hsome
                cases hsome
        · cases h
  | case4 s hne hslash inverse body hs d after hafter ih =>
      obtain ⟨inner, hclosed, rfl⟩ := exists_cut hafter
      rw [parseSteps_open pattern hs hclosed] at h
      obtain ⟨iri, hcheck, h⟩ := exists_of_bind_eq_ok h
      obtain ⟨hiri, rfl⟩ := checkIri_eq_ok.1 hcheck
      obtain ⟨b, hb, hsplit⟩ := exists_splitInverse hs
      obtain ⟨b₁, b₂, hb₁, hb₂, htrim⟩ := Text.exists_trim inner
      have hstep := Bracketed.step inverse hb hb₁ hiri hb₂
      rw [← htrim] at hstep
      have hfront : s = (mark inverse ++ b ++ '<' :: (inner ++ ['>'])) ++ after := by
        rw [hsplit]
        simp
      split at h
      · next hend =>
          obtain rfl := Except.ok.inj h
          exact ⟨_, after, hfront, Text.blank_of_trimLeft hend, .last hstep⟩
      · next next hnext =>
          obtain ⟨rest, hrest, h⟩ := exists_of_bind_eq_ok h
          obtain rfl := Except.ok.inj h
          obtain ⟨t, b', hnexts, hb', hsequence⟩ := ih next hnext hrest
          obtain ⟨b₃, hb₃, hbefore⟩ := Text.exists_trimLeft after
          obtain ⟨b₄, hb₄, hbehind⟩ := Text.exists_trimLeft next
          refine ⟨_, b', ?_, hb', .more hstep hb₃ hb₄ hsequence⟩
          rw [hfront, hbefore, hnext, hbehind, hnexts]
          simp
      · cases h
  | case5 s hne hslash hs =>
      rw [parseSteps.eq_def] at h
      split at h
      · cases h
      · cases h
      · split at h
        · next inverse body hopen => exact absurd hopen (hs _ _)
        · cases h

/-- How a step is taken off the front of what it stands before. -/
theorem Bracketed.exists_inner {t : List Char} {step : Step} (ht : Bracketed t step)
    (pattern : String) (after : List Char) :
    ∃ inner, '>' ∉ inner ∧ checkIri pattern (trim inner) = .ok step.iri ∧
      splitInverse (trimLeft (t ++ after)) =
        (step.inverse, '<' :: (inner ++ '>' :: after)) := by
  obtain ⟨inverse, hb, hb₁, hiri, hb₂⟩ := ht
  next b b₁ iri b₂ =>
    have hopen : isBlank '<' = false := by decide
    have hclose : isBlank '>' = false := by decide
    refine ⟨b₁ ++ iri ++ b₂, ?_, ?_, ?_⟩
    · intro hmem
      simp only [List.mem_append] at hmem
      rcases hmem with (hmem | hmem) | hmem
      · exact hb₁.not_mem hclose hmem
      · exact hiri.not_mem (by decide) hmem
      · exact hb₂.not_mem hclose hmem
    · rw [Text.trim_around hb₁ hb₂ hiri.head hiri.last, checkIri_eq_ok]
      exact ⟨hiri, rfl⟩
    · have hshape : mark inverse ++ b ++ '<' :: (b₁ ++ iri ++ b₂ ++ ['>']) ++ after =
          mark inverse ++ b ++ '<' :: (b₁ ++ iri ++ b₂ ++ '>' :: after) := by simp
      rw [hshape]
      exact splitInverse_mark inverse hb hopen (by decide)

theorem parseSteps_bracketed (pattern : String) {t : List Char} {step : Step}
    (ht : Bracketed t step) (after : List Char) :
    parseSteps pattern (trimLeft (t ++ after)) =
      match trimLeft after with
      | [] => .ok [step]
      | '/' :: next => (parseSteps pattern (trimLeft next)).map (step :: ·)
      | _ :: _ => .error (.invalidPath pattern "steps must be separated by `/`") := by
  obtain ⟨inner, hinner, hcheck, hs⟩ := ht.exists_inner pattern after
  rw [parseSteps_open pattern hs hinner, hcheck]
  rfl

theorem parseSteps_of_sequence (pattern : String) {s : List Char} {path : Path}
    (h : Sequence s path) : parseSteps pattern (trimLeft s) = .ok path := by
  induction h with
  | last hs =>
      have hread := parseSteps_bracketed pattern hs []
      rwa [List.append_nil] at hread
  | more hs hb hb' hrest ih =>
      have hslash : isBlank '/' = false := by decide
      rw [List.append_assoc, parseSteps_bracketed pattern hs, Text.trimLeft_append hb,
        Text.trimLeft_cons hslash]
      show (parseSteps pattern (trimLeft (_ ++ _))).map _ = _
      rw [Text.trimLeft_append hb', ih]
      rfl

theorem Sequence.opens {s : List Char} {path : Path} (h : Sequence s path) : '<' ∈ s := by
  have hopens : ∀ {t step}, Bracketed t step → '<' ∈ t := by
    rintro t step ⟨inverse, hb, hb₁, hiri, hb₂⟩
    simp
  cases h with
  | last hs => exact hopens hs
  | more hs => exact List.mem_append_left _ (List.mem_append_left _ (hopens hs))

/-! ## Whole patterns -/

theorem bare_iff (pattern : String) {s : List Char} {step : Step} :
    checkIri pattern (splitInverse s).2 = .ok step.iri ∧ (splitInverse s).1 = step.inverse ↔
      Bare s step := by
  constructor
  · rintro ⟨hcheck, hinverse⟩
    obtain ⟨iri, inverse⟩ := step
    obtain ⟨hiri, rfl⟩ := checkIri_eq_ok.1 hcheck
    obtain rfl : (splitInverse s).1 = inverse := hinverse
    by_cases hmark : s.head? = some '^'
    · obtain ⟨rest, rfl⟩ := List.head?_eq_some_iff.1 hmark
      obtain ⟨b, hb, hrest⟩ := Text.exists_trimLeft rest
      have hbare := Bare.inverse hb hiri
      rw [show (splitInverse ('^' :: rest)).2 = trimLeft rest from rfl, ← hrest] at hbare
      exact hbare
    · rw [splitInverse_of_head hmark] at hiri ⊢
      exact .forward hiri hmark
  · rintro (⟨hiri, hmark⟩ | ⟨hb, hiri⟩)
    · rw [splitInverse_of_head hmark]
      exact ⟨checkIri_eq_ok.2 ⟨hiri, rfl⟩, rfl⟩
    · next b iri =>
        have hrest : trimLeft (b ++ iri) = iri := by
          rw [Text.trimLeft_append hb]
          exact Text.dropWhile_eq_self hiri.head
        refine ⟨?_, rfl⟩
        show checkIri pattern (trimLeft (b ++ iri)) = _
        rw [hrest]
        exact checkIri_eq_ok.2 ⟨hiri, rfl⟩

theorem Written.ne_nil {s : List Char} {path : Path} (h : Written s path) : s ≠ [] := by
  rintro rfl
  cases h with
  | bare hopen hs =>
      cases hs with
      | forward hiri hmark => exact hiri.nonempty rfl
  | bracketed hopen hs => cases hopen

theorem parse_of_bare {raw : String} (hne : trim raw.toList ≠ [])
    (hopen : '<' ∉ trim raw.toList) :
    parse raw = (checkIri (String.ofList (trim raw.toList))
      (splitInverse (trim raw.toList)).2 >>= fun iri =>
        pure [⟨iri, (splitInverse (trim raw.toList)).1⟩]) := by
  have hempty : (trim raw.toList).isEmpty = false := by simpa using hne
  have hcontains : (trim raw.toList).contains '<' = false := by simpa using hopen
  unfold parse
  dsimp only
  rw [hempty, hcontains]
  rfl

theorem parse_of_open {raw : String} (hopen : '<' ∈ trim raw.toList) :
    parse raw = parseSteps (String.ofList (trim raw.toList)) (trim raw.toList) := by
  have hempty : (trim raw.toList).isEmpty = false := by
    simpa using List.ne_nil_of_mem hopen
  have hcontains : (trim raw.toList).contains '<' = true := by simpa using hopen
  unfold parse
  dsimp only
  rw [hempty, hcontains]
  rfl

theorem parse_eq_ok_iff {raw : String} {path : Path} :
    parse raw = .ok path ↔ Written (trim raw.toList) path := by
  by_cases hopen : '<' ∈ trim raw.toList
  · rw [parse_of_open hopen]
    constructor
    · intro h
      obtain ⟨t, b, hsplit, hb, hsequence⟩ := sequence_of_parseSteps h
      -- What was trimmed has no blanks left behind its last bracket.
      obtain rfl := Text.eq_nil_of_trim hsplit hb
      rw [List.append_nil] at hsplit
      exact .bracketed hopen (hsplit ▸ hsequence)
    · intro h
      cases h with
      | bare hnone hs => exact absurd hopen hnone
      | bracketed _ hs =>
          have hread := parseSteps_of_sequence (String.ofList (trim raw.toList)) hs
          rwa [Text.trimLeft_trim] at hread
  · by_cases hne : trim raw.toList = []
    · constructor
      · intro h
        unfold parse at h
        dsimp only at h
        rw [hne] at h
        cases h
      · exact fun h => absurd hne h.ne_nil
    · rw [parse_of_bare hne hopen]
      constructor
      · intro h
        obtain ⟨iri, hcheck, h⟩ := exists_of_bind_eq_ok h
        obtain rfl := Except.ok.inj h
        exact .bare hopen ((bare_iff _).1 ⟨hcheck, rfl⟩)
      · intro h
        cases h with
        | bare _ hs =>
            obtain ⟨hcheck, hinverse⟩ := (bare_iff (String.ofList (trim raw.toList))).2 hs
            rw [hcheck, hinverse]
            rfl
        | bracketed hsome hs => exact absurd hsome hopen

/-! ## Written forms -/

theorem Written.isIri {s : List Char} {path : Path} (h : Written s path) :
    path ≠ [] ∧ ∀ step ∈ path, IsIri step.iri.toList := by
  cases h with
  | bare hopen hs =>
      refine ⟨List.cons_ne_nil _ _, fun step hstep => ?_⟩
      rw [List.mem_singleton.1 hstep]
      cases hs with
      | forward hiri => rwa [String.toList_ofList]
      | inverse hb hiri => rwa [String.toList_ofList]
  | bracketed hopen hs =>
      clear hopen
      induction hs with
      | last hs =>
          obtain ⟨inverse, hb, hb₁, hiri, hb₂⟩ := hs
          refine ⟨List.cons_ne_nil _ _, fun step hstep => ?_⟩
          rw [List.mem_singleton.1 hstep, String.toList_ofList]
          exact hiri
      | more hs hb hb' hrest ih =>
          obtain ⟨inverse, hb, hb₁, hiri, hb₂⟩ := hs
          refine ⟨List.cons_ne_nil _ _, fun step hstep => ?_⟩
          rcases List.mem_cons.1 hstep with rfl | hstep
          · rw [String.toList_ofList]
            exact hiri
          · exact ih.2 step hstep

theorem toList_renderStep (step : Step) :
    step.render.toList = mark step.inverse ++ [] ++ '<' :: ([] ++ step.iri.toList ++ [] ++ ['>']) := by
  obtain ⟨iri, inverse⟩ := step
  cases inverse <;> simp [Step.render, mark, toString]

theorem bracketed_render {step : Step} (h : IsIri step.iri.toList) :
    Bracketed step.render.toList step := by
  have hstep := Bracketed.step step.inverse Text.blank_nil Text.blank_nil h Text.blank_nil
  rw [String.ofList_toList, ← toList_renderStep] at hstep
  exact hstep

theorem sequence_render {path : Path} (hne : path ≠ [])
    (hiris : ∀ step ∈ path, IsIri step.iri.toList) : Sequence path.render.toList path := by
  induction path with
  | nil => exact absurd rfl hne
  | cons step path ih =>
      have hstep := bracketed_render (hiris step List.mem_cons_self)
      cases path with
      | nil => exact .last hstep
      | cons next path =>
          have hrest := ih (List.cons_ne_nil _ _) fun s hs => hiris s (List.mem_cons_of_mem _ hs)
          have hall := Sequence.more hstep Text.blank_nil Text.blank_nil hrest
          have htext : (render (step :: next :: path)).toList =
              step.render.toList ++ [] ++ '/' :: ([] ++ (render (next :: path)).toList) := by
            unfold render
            simp [Text.joinWith]
          rw [htext]
          exact hall

theorem Sequence.getLast?_eq {s : List Char} {path : Path} (h : Sequence s path) :
    s.getLast? = some '>' := by
  induction h with
  | last hs =>
      obtain ⟨inverse, hb, hb₁, hiri, hb₂⟩ := hs
      next b b₁ iri b₂ =>
        have hsplit : mark inverse ++ b ++ '<' :: (b₁ ++ iri ++ b₂ ++ ['>']) =
            (mark inverse ++ b ++ '<' :: (b₁ ++ iri ++ b₂)) ++ ['>'] := by simp
        rw [hsplit, List.getLast?_concat]
  | more hs hb hb' hrest ih =>
      next s b b' rest step path =>
        have hsplit : s ++ b ++ '/' :: (b' ++ rest) = (s ++ b ++ '/' :: b') ++ rest := by simp
        rw [hsplit, List.getLast?_append, ih]
        rfl

theorem head_render {step : Step} (path : Path) :
    ∀ c ∈ (render (step :: path)).toList.head?, isBlank c = false := by
  have hfront : ∃ rest, (render (step :: path)).toList = step.render.toList ++ rest := by
    cases path with
    | nil => exact ⟨[], (List.append_nil _).symm⟩
    | cons next path =>
        refine ⟨'/' :: (render (next :: path)).toList, ?_⟩
        unfold render
        simp [Text.joinWith]
  obtain ⟨rest, hrest⟩ := hfront
  rw [hrest, toList_renderStep]
  cases step.inverse with
  | true => exact fun c hc => by obtain rfl := Option.some.inj hc; rfl
  | false => exact fun c hc => by obtain rfl := Option.some.inj hc; rfl

/-- The written form of a path that was read is read as the same path. -/
theorem parse_render {raw : String} {path : Path} (h : parse raw = .ok path) :
    parse path.render = .ok path := by
  obtain ⟨hne, hiris⟩ := (parse_eq_ok_iff.1 h).isIri
  have hsequence := sequence_render hne hiris
  have hhead : ∀ c ∈ path.render.toList.head?, isBlank c = false := by
    cases path with
    | nil => exact absurd rfl hne
    | cons step path => exact head_render path
  have hlast : ∀ c ∈ path.render.toList.getLast?, isBlank c = false := by
    intro c hc
    rw [hsequence.getLast?_eq] at hc
    obtain rfl := Option.some.inj hc
    rfl
  have htrim := Text.trim_around Text.blank_nil Text.blank_nil hhead hlast
  rw [List.nil_append, List.append_nil] at htrim
  rw [parse_eq_ok_iff, htrim]
  exact .bracketed hsequence.opens hsequence

end Path

namespace Candidates

/-! ## Lists of patterns -/

/-- Why a list of patterns is refused: it is empty, or the first pattern that is no path
decides. A blank one is told by its place. -/
inductive Refused : List String → PatternError → Prop where
  | empty : Refused [] .emptyCandidateList
  | first {before after : List String} {s : String} {e : PatternError}
      (hbefore : ∀ t ∈ before, ∃ path, Path.parse t = .ok path) (hs : Path.parse s = .error e) :
      Refused (before ++ s :: after)
        (if Text.trim s.toList = [] then .emptyPattern before.length else e)

theorem allBlank_iff {s : String} : Text.allBlank s = true ↔ Text.trim s.toList = [] := by
  unfold Text.allBlank
  rw [List.all_eq_true]
  constructor
  · intro h
    have hblank : Text.Blank s.toList := h
    unfold Text.trim
    rw [hblank.trimLeft_eq]
    rfl
  · intro h
    obtain ⟨b, b', hb, hb', hs⟩ := Text.exists_trim s.toList
    rw [hs, h, List.append_nil]
    exact hb.append hb'

theorem parseFrom_of_ok {s : String} {path : Path} (h : Path.parse s = .ok path) (index : Nat)
    (rest : List String) :
    parseFrom index (s :: rest) = (parseFrom (index + 1) rest).map (path :: ·) := by
  have hsome : Text.allBlank s = false := by
    rw [← Bool.not_eq_true, allBlank_iff]
    exact (Path.parse_eq_ok_iff.1 h).ne_nil
  rw [parseFrom, hsome, h]
  cases parseFrom (index + 1) rest <;> rfl

theorem parseFrom_of_error {s : String} {e : PatternError} (h : Path.parse s = .error e)
    (index : Nat) (rest : List String) :
    parseFrom index (s :: rest) =
      .error (if Text.trim s.toList = [] then .emptyPattern index else e) := by
  rw [parseFrom]
  split
  · next hblank =>
      rw [if_pos (allBlank_iff.1 hblank)]
      rfl
  · next hsome =>
      rw [if_neg fun hblank => hsome (allBlank_iff.2 hblank), h]
      rfl

theorem parseFrom_eq_ok_iff {index : Nat} {patterns : List String} {paths : Candidates} :
    parseFrom index patterns = .ok paths ↔
      patterns.map Path.parse = paths.map Except.ok := by
  induction patterns generalizing index paths with
  | nil =>
      constructor
      · intro h
        obtain rfl := Except.ok.inj h
        rfl
      · intro h
        obtain rfl := List.map_eq_nil_iff.1 h.symm
        rfl
  | cons s rest ih =>
      cases hs : Path.parse s with
      | error e =>
          rw [parseFrom_of_error hs, List.map_cons, hs]
          constructor
          · exact fun h => (nomatch h)
          · intro h
            cases paths with
            | nil => cases h
            | cons path paths => cases (List.cons.inj h).1
      | ok path =>
          rw [parseFrom_of_ok hs, List.map_cons, hs]
          constructor
          · intro h
            cases hrest : parseFrom (index + 1) rest with
            | error e => rw [hrest] at h; cases h
            | ok others =>
                rw [hrest] at h
                obtain rfl := Except.ok.inj h
                rw [ih.1 hrest]
                rfl
          · intro h
            cases paths with
            | nil => cases h
            | cons path' paths =>
                obtain ⟨hpath, hrest⟩ := List.cons.inj h
                obtain rfl := Except.ok.inj hpath
                rw [ih.2 hrest]
                rfl

theorem parseFrom_eq_error_iff {index : Nat} {patterns : List String} {e : PatternError} :
    parseFrom index patterns = .error e ↔
      ∃ before s after f, patterns = before ++ s :: after ∧
        (∀ t ∈ before, ∃ path, Path.parse t = .ok path) ∧ Path.parse s = .error f ∧
        e = if Text.trim s.toList = [] then .emptyPattern (index + before.length) else f := by
  induction patterns generalizing index with
  | nil =>
      constructor
      · exact fun h => (nomatch h)
      · rintro ⟨before, s, after, f, h, -⟩
        cases before <;> cases h
  | cons s rest ih =>
      cases hs : Path.parse s with
      | error f =>
          rw [parseFrom_of_error hs]
          constructor
          · intro h
            obtain rfl := Except.error.inj h
            exact ⟨[], s, rest, f, rfl, fun _ ht => (nomatch ht), hs, rfl⟩
          · rintro ⟨before, t, after, f', h, hbefore, ht, rfl⟩
            cases before with
            | nil =>
                obtain ⟨rfl, -⟩ := List.cons.inj h
                rw [hs] at ht
                obtain rfl := Except.error.inj ht
                rfl
            | cons s' before =>
                obtain ⟨rfl, -⟩ := List.cons.inj h
                obtain ⟨path, hpath⟩ := hbefore s List.mem_cons_self
                rw [hs] at hpath
                cases hpath
      | ok path =>
          rw [parseFrom_of_ok hs]
          rw [map_eq_error_iff, ih]
          constructor
          · rintro ⟨before, t, after, f, rfl, hbefore, ht, rfl⟩
            refine ⟨s :: before, t, after, f, rfl, fun u hu => ?_, ht, ?_⟩
            · rcases List.mem_cons.1 hu with rfl | hu
              · exact ⟨path, hs⟩
              · exact hbefore u hu
            · rw [List.length_cons, Nat.add_assoc, Nat.add_comm 1]
          · rintro ⟨before, t, after, f, h, hbefore, ht, rfl⟩
            cases before with
            | nil =>
                obtain ⟨rfl, -⟩ := List.cons.inj h
                rw [hs] at ht
                cases ht
            | cons s' before =>
                obtain ⟨rfl, hrest⟩ := List.cons.inj h
                refine ⟨before, t, after, f, hrest,
                  fun u hu => hbefore u (List.mem_cons_of_mem _ hu), ht, ?_⟩
                rw [List.length_cons, Nat.add_assoc, Nat.add_comm 1]

theorem parse_eq_ok_iff {patterns : List String} {paths : Candidates} :
    parse patterns = .ok paths ↔
      patterns ≠ [] ∧ patterns.map Path.parse = paths.map Except.ok := by
  cases patterns with
  | nil => exact ⟨fun h => (nomatch h), fun h => absurd rfl h.1⟩
  | cons s rest =>
      rw [show parse (s :: rest) = parseFrom 0 (s :: rest) from rfl, parseFrom_eq_ok_iff]
      exact ⟨fun h => ⟨List.cons_ne_nil _ _, h⟩, And.right⟩

theorem parse_eq_error_iff {patterns : List String} {e : PatternError} :
    parse patterns = .error e ↔ Refused patterns e := by
  cases patterns with
  | nil =>
      constructor
      · intro h
        rw [← Except.error.inj h]
        exact .empty
      · intro h
        generalize hnil : ([] : List String) = patterns at h
        cases h with
        | empty => rfl
        | first hbefore hs =>
            next before after s f =>
              cases before <;> cases hnil
  | cons s rest =>
      rw [show parse (s :: rest) = parseFrom 0 (s :: rest) from rfl, parseFrom_eq_error_iff]
      constructor
      · rintro ⟨before, t, after, f, hsplit, hbefore, ht, rfl⟩
        rw [hsplit, Nat.zero_add]
        exact .first hbefore ht
      · intro h
        generalize hcons : s :: rest = patterns at h
        cases h with
        | empty => cases hcons
        | first hbefore hs =>
            next before after t f =>
              exact ⟨before, t, after, f, rfl, hbefore, hs, by rw [Nat.zero_add]⟩

end Candidates

namespace Path

/-- Reading accepts the grammar and nothing else: patterns, lists of patterns with the
reason for which one is refused, and the written forms of what was read. -/
theorem parse_exact :
    (∀ raw path, parse raw = .ok path ↔ Written (Text.trim raw.toList) path) ∧
      (∀ patterns paths, Candidates.parse patterns = .ok paths ↔
        patterns ≠ [] ∧ patterns.map parse = paths.map Except.ok) ∧
      (∀ patterns e, Candidates.parse patterns = .error e ↔ Candidates.Refused patterns e) ∧
      ∀ raw path, parse raw = .ok path → parse path.render = .ok path :=
  ⟨fun _ _ => parse_eq_ok_iff, fun _ _ => Candidates.parse_eq_ok_iff,
    fun _ _ => Candidates.parse_eq_error_iff, fun _ _ h => parse_render h⟩

/-- The second mark belongs to the property. -/
example : (parse " ^ ^urn:p").toOption = some [⟨"^urn:p", true⟩] := by decide +kernel

end Path

end Nomenclator

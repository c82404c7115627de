/-!
# Blank characters

Language tags, store names, property paths and identifiers that arrive over the wire are all
trimmed before they are compared, so what counts as a blank decides which of them are equal.
The class is the `White_Space` property of Unicode: it is wider than the four ASCII blanks and
narrower than "invisible" (U+200B and U+FEFF are not in it).
-/

namespace Nomenclator.Text

/-- The characters of the Unicode property `White_Space`. -/
def isBlank (c : Char) : Bool :=
  let n := c.toNat
  (9 ≤ n && n ≤ 13) || n == 0x20 || n == 0x85 || n == 0xA0 || n == 0x1680
    || (0x2000 ≤ n && n ≤ 0x200A) || n == 0x2028 || n == 0x2029 || n == 0x202F
    || n == 0x205F || n == 0x3000

/-- Drops the blanks in front. -/
def trimLeft (s : List Char) : List Char :=
  s.dropWhile isBlank

/-- Drops the blanks behind. -/
def trimRight (s : List Char) : List Char :=
  (s.reverse.dropWhile isBlank).reverse

/-- Drops the blanks on both sides. -/
def trim (s : List Char) : List Char :=
  trimRight (trimLeft s)

/-- A string without the blanks on both sides. -/
def trimmed (s : String) : String :=
  String.ofList (trim s.toList)

/-- Joins texts with a separator between neighbours. -/
def joinWith (sep : String) : List String → String
  | [] => ""
  | [s] => s
  | s :: rest => s ++ sep ++ joinWith sep rest

/-- A string holds nothing but blanks. -/
def allBlank (s : String) : Bool :=
  s.toList.all isBlank

theorem dropWhile_head {p : Char → Bool} {s : List Char} {c : Char} {rest : List Char}
    (h : s.dropWhile p = c :: rest) : p c = false := by
  induction s with
  | nil => simp at h
  | cons d s ih =>
    by_cases hd : p d
    · exact ih (by simpa [List.dropWhile_cons, hd] using h)
    · simp only [List.dropWhile_cons, hd] at h
      simp only [Bool.false_eq_true, if_false, List.cons.injEq] at h
      rw [← h.1]
      simpa using hd

theorem dropWhile_eq_self {p : Char → Bool} {s : List Char}
    (h : ∀ c ∈ s.head?, p c = false) : s.dropWhile p = s := by
  cases s with
  | nil => rfl
  | cons c rest => simp [h c (by simp)]

theorem dropWhile_idem (p : Char → Bool) (s : List Char) :
    (s.dropWhile p).dropWhile p = s.dropWhile p := by
  apply dropWhile_eq_self
  intro c hc
  cases h : s.dropWhile p with
  | nil => simp [h] at hc
  | cons d rest =>
    simp only [h, List.head?_cons, Option.mem_def, Option.some.injEq] at hc
    exact hc ▸ dropWhile_head h

/-- Trimming on the right only shortens, so a first character that is no blank stays first. -/
theorem trimRight_head? {s : List Char} (h : ∀ c ∈ s.head?, isBlank c = false) :
    (trimRight s).head? = s.head? := by
  cases s with
  | nil => rfl
  | cons c rest =>
    have hc : isBlank c = false := h c (by simp)
    unfold trimRight
    rw [List.reverse_cons, List.dropWhile_append]
    split
    · simp [hc]
    · simp

theorem trim_idem (s : List Char) : trim (trim s) = trim s := by
  have hl : trimLeft (trim s) = trim s := by
    apply dropWhile_eq_self
    intro c hc
    have hd : ∀ c ∈ (trimLeft s).head?, isBlank c = false := by
      intro c hc
      cases h : trimLeft s with
      | nil => simp [h] at hc
      | cons d rest =>
        simp only [h, List.head?_cons, Option.mem_def, Option.some.injEq] at hc
        exact hc ▸ dropWhile_head h
    rw [trim, trimRight_head? hd] at hc
    exact hd c hc
  rw [trim, hl, trim, trimRight, trimRight, List.reverse_reverse, dropWhile_idem]

/-- A map that keeps blanks blank and the others not commutes with trimming. -/
theorem trim_map {f : Char → Char} (hf : ∀ c, isBlank (f c) = isBlank c) (s : List Char) :
    trim (s.map f) = (trim s).map f := by
  have hcomp : isBlank ∘ f = isBlank := funext hf
  simp only [trim, trimLeft, trimRight, List.dropWhile_map, ← List.map_reverse, hcomp]

end Nomenclator.Text

import Nomenclator.Text.Blank

/-!
# Language tags

A tag names the language of a text. Tags are compared without regard to ASCII case and to the
blanks around them, so the type holds normal forms only: two tags are equal exactly when their
texts are. The empty tag stands for text in no language.
-/

namespace Nomenclator.Language

/-- Trims a tag and lowers its ASCII letters; other letters keep their case. -/
def normalise (s : String) : String :=
  String.ofList ((Text.trim s.toList).map Char.toLower)

theorem toLower_of_not_upper {c : Char} (h : ¬ (c.val ≥ 'A'.val ∧ c.val ≤ 'Z'.val)) :
    c.toLower = c := by
  unfold Char.toLower
  rw [dif_neg h]

theorem toNat_toLower_of_upper {c : Char} (h : c.val ≥ 'A'.val ∧ c.val ≤ 'Z'.val) :
    c.toLower.val.toNat = c.val.toNat + 32 := by
  have h2 : c.val.toNat ≤ 90 := h.2
  unfold Char.toLower
  rw [dif_pos h]
  simp only [UInt32.toNat_add]
  have : ('a'.val - 'A'.val : UInt32).toNat = 32 := by decide
  rw [this]
  omega

theorem isBlank_of_letter {c : Char} (h : 65 ≤ c.val.toNat) (h' : c.val.toNat ≤ 122) :
    Text.isBlank c = false := by
  have h1 : 65 ≤ c.toNat := h
  have h2 : c.toNat ≤ 122 := h'
  simp [Text.isBlank, - Char.toNat_val]
  omega

theorem isBlank_toLower (c : Char) : Text.isBlank c.toLower = Text.isBlank c := by
  by_cases h : c.val ≥ 'A'.val ∧ c.val ≤ 'Z'.val
  · have h1 : 65 ≤ c.val.toNat := h.1
    have h2 : c.val.toNat ≤ 90 := h.2
    have h3 := toNat_toLower_of_upper h
    rw [isBlank_of_letter (by omega) (by omega), isBlank_of_letter (by omega) (by omega)]
  · rw [toLower_of_not_upper h]

theorem toLower_toLower (c : Char) : c.toLower.toLower = c.toLower := by
  by_cases h : c.val ≥ 'A'.val ∧ c.val ≤ 'Z'.val
  · apply toLower_of_not_upper
    intro hc
    have h1 : 65 ≤ c.val.toNat := h.1
    have h2 : c.toLower.val.toNat ≤ 90 := hc.2
    have h3 := toNat_toLower_of_upper h
    omega
  · rw [toLower_of_not_upper h, toLower_of_not_upper h]

theorem normalise_idem (s : String) : normalise (normalise s) = normalise s := by
  unfold normalise
  rw [String.toList_ofList, Text.trim_map isBlank_toLower, Text.trim_idem, List.map_map]
  have : Char.toLower ∘ Char.toLower = Char.toLower := funext toLower_toLower
  rw [this]

/-- A language tag in normal form; the empty text means "no language". -/
structure Tag where
  text : String
  normal : normalise text = text

namespace Tag

instance : DecidableEq Tag := fun a b =>
  if h : a.text = b.text then isTrue (by cases a; cases b; cases h; rfl)
  else isFalse (fun e => h (e ▸ rfl))

/-- The tag that a text stands for. -/
def ofString (s : String) : Tag :=
  ⟨normalise s, normalise_idem s⟩

/-- The tag of text in no language. -/
def none : Tag := ofString ""

instance : Inhabited Tag := ⟨none⟩

/-- The tag names no language. -/
def isNone (t : Tag) : Bool := t.text.isEmpty

instance : ToString Tag := ⟨text⟩

/-- Tags are ordered by their texts, code point by code point. -/
instance : LT Tag := ⟨fun a b => a.text < b.text⟩

instance (a b : Tag) : Decidable (a < b) :=
  inferInstanceAs (Decidable (a.text < b.text))

/-- How a tag is written in a list, where the empty tag would otherwise vanish. -/
def listed (t : Tag) : String :=
  if t.isNone then "\"\"" else t.text

@[simp] theorem ofString_text (t : Tag) : ofString t.text = t := by
  cases t with
  | mk s h => simp only [ofString]; congr

end Tag

end Nomenclator.Language

/-!
# Text as octets

Escapes in addresses name octets, and octets come back as text through UTF-8. Octets that are no
UTF-8 are not refused: every longest piece of them that could have begun a character turns into
one replacement character.
-/

namespace Nomenclator.Text.Octets

/-- The UTF-8 octets of a character. -/
def ofChar (c : Char) : List Nat := (String.utf8EncodeChar c).map (·.toNat)

/-- What an octet begins: how many octets follow, the bits it carries, and the range of the
octet after it. -/
def lead? (b : Nat) : Option (Nat × Nat × Nat × Nat) :=
  if b < 0x80 then some (0, b, 0, 0)
  else if b < 0xC2 then none
  else if b < 0xE0 then some (1, b - 0xC0, 0x80, 0xBF)
  else if b = 0xE0 then some (2, 0, 0xA0, 0xBF)
  else if b = 0xED then some (2, 0xD, 0x80, 0x9F)
  else if b < 0xF0 then some (2, b - 0xE0, 0x80, 0xBF)
  else if b = 0xF0 then some (3, 0, 0x90, 0xBF)
  else if b < 0xF4 then some (3, b - 0xF0, 0x80, 0xBF)
  else if b = 0xF4 then some (3, 4, 0x80, 0x8F)
  else none

/-- Reads the octets behind a first one: the character, unless they break off, and the rest. -/
def follow : Nat → Nat → Nat → Nat → List Nat → Option Nat × List Nat
  | 0, value, _, _, rest => (some value, rest)
  | _ + 1, _, _, _, [] => (none, [])
  | n + 1, value, lo, hi, b :: rest =>
    if lo ≤ b ∧ b ≤ hi then follow n (value * 64 + (b - 0x80)) 0x80 0xBF rest
    else (none, b :: rest)

theorem length_follow_le (n value lo hi : Nat) (s : List Nat) :
    (follow n value lo hi s).2.length ≤ s.length := by
  induction n generalizing value lo hi s with
  | zero => simp [follow]
  | succ n ih =>
    cases s with
    | nil => simp [follow]
    | cons b rest =>
      unfold follow
      split
      · exact Nat.le_succ_of_le (ih _ _ _ _)
      · simp

/-- The replacement for octets that are no text. -/
def replacement : Char := Char.ofNat 0xFFFD

/-- The text of some octets. -/
def decode (s : List Nat) : List Char :=
  match s with
  | [] => []
  | b :: rest =>
    match lead? b with
    | none => replacement :: decode rest
    | some (n, value, lo, hi) =>
      match _h : follow n value lo hi rest with
      | (some v, after) => Char.ofNat v :: decode after
      | (none, after) => replacement :: decode after
termination_by s.length
decreasing_by
  · simp
  all_goals
    have hle := length_follow_le n value lo hi rest
    simp only [_h] at hle
    simp only [List.length_cons]
    omega

/-- The text of some octets that are UTF-8. -/
def decode? (s : List Nat) : Option (List Char) :=
  let t := decode s
  if t.flatMap ofChar = s then some t else none

end Nomenclator.Text.Octets

import Nomenclator.Text.Form
import Nomenclator.Text.Number

/-!
# Moments

A day of the calendar, a time of the day, or both, and then perhaps with the distance from the
time of reference. However a moment is written down, it has one usual text: a capital letter
between day and time, nine places of a second at most and none that say nothing.
-/

namespace Nomenclator.Toml

open Text (digits?)

/-- A day of the calendar. -/
structure Day where
  year : Nat
  month : Nat
  day : Nat
  deriving Repr, DecidableEq, Inhabited

/-- A second and, if it is given, how many milliardths of the next one have gone by. -/
structure Second where
  whole : Nat
  fraction : Option Nat
  deriving Repr, DecidableEq, Inhabited

/-- A time of the day; the seconds may be missing. -/
structure Clock where
  hour : Nat
  minute : Nat
  second : Option Second
  deriving Repr, DecidableEq, Inhabited

/-- The distance from the time of reference. -/
inductive Offset where
  | none
  /-- It is the time of reference. -/
  | reference
  | minutes (distance : Int)
  deriving Repr, DecidableEq, Inhabited

/-- A day, a time, or both. -/
inductive Moment where
  | date (day : Day)
  | time (clock : Clock)
  | both (day : Day) (clock : Clock) (offset : Offset)
  deriving Repr, DecidableEq, Inhabited

namespace Moment

/-- Exactly so many digits as a number within bounds. -/
def field? (width lo hi : Nat) (s : List Char) : Option Nat :=
  if s.length = width then (digits? 10 s).filter fun n => lo ≤ n && n ≤ hi else none

/-- The number of days of a month. -/
def daysOf (year month : Nat) : Nat :=
  if month = 2 then
    if year % 4 = 0 && (year % 100 ≠ 0 || year % 400 = 0) then 29 else 28
  else if [4, 6, 9, 11].contains month then 30
  else 31

/-- Reads a day of the calendar. -/
def day? (s : List Char) : Option Day := do
  match Text.Form.splitAt '-' s with
  | [y, m, d] =>
    let year ← field? 4 0 9999 y
    let month ← field? 2 1 12 m
    return ⟨year, month, ← field? 2 1 (daysOf year month) d⟩
  | _ => none

/-- The number of places of a second that count. -/
def places : Nat := 9

/-- Reads a number of seconds, perhaps with a fraction; places that do not count are dropped. -/
def second? (s : List Char) : Option Second := do
  let whole ← field? 2 0 60 (s.take 2)
  match s.drop 2 with
  | [] => return ⟨whole, none⟩
  | '.' :: ds =>
    if ds.isEmpty || !ds.all Char.isDigit then none
    else
      let counted := ds.take places
      return ⟨whole, some (Text.valueOf 10 counted * Nat.pow 10 (places - counted.length))⟩
  | _ => none

/-- Reads hours and minutes. -/
def hourMinute? (h m : List Char) : Option (Nat × Nat) := do
  return (← field? 2 0 23 h, ← field? 2 0 59 m)

/-- Reads a time of the day. -/
def clock? (s : List Char) : Option Clock :=
  match Text.Form.splitAt ':' s with
  | [h, m] => (hourMinute? h m).map fun p => ⟨p.1, p.2, none⟩
  | [h, m, sec] => do
    let (hour, minute) ← hourMinute? h m
    return ⟨hour, minute, some (← second? sec)⟩
  | _ => none

/-- Reads a time of the day with its distance from the time of reference. -/
def offsetClock? (s : List Char) : Option (Clock × Offset) := do
  match s.getLast? with
  | some 'Z' | some 'z' => return (← clock? s.dropLast, .reference)
  | _ =>
    let isSign (c : Char) : Bool := c == '+' || c == '-'
    match s.dropWhile fun c => !isSign c with
    | [] => return (← clock? s, .none)
    | sign :: offset =>
      match Text.Form.splitAt ':' offset with
      | [h, m] =>
        let (hours, minutes) ← hourMinute? h m
        let distance : Int := hours * 60 + minutes
        let clock ← clock? (s.takeWhile fun c => !isSign c)
        return (clock, .minutes (if sign == '-' then -distance else distance))
      | _ => none

/-- The length of a day in writing. -/
def dayLength : Nat := 10

/-- Reads a day and a time with a letter or a blank between them. -/
def both? (s : List Char) : Option Moment := do
  let day ← day? (s.take dayLength)
  match s.drop dayLength with
  | c :: s =>
    if c == 'T' || c == 't' || c == ' ' then
      let (clock, offset) ← offsetClock? s
      return .both day clock offset
    else none
  | [] => none

/-- Reads a moment. -/
def ofText? (s : List Char) : Option Moment :=
  ((day? s).map .date).or (((clock? s).map .time).or (both? s))

end Moment

/-- A number in so many digits at least. -/
def padded (width n : Nat) : String :=
  let ds := Nat.toDigits 10 n
  String.ofList (List.replicate (width - ds.length) '0' ++ ds)

/-- The text of a day. -/
def Day.render (d : Day) : String := s!"{padded 4 d.year}-{padded 2 d.month}-{padded 2 d.day}"

/-- The text of the places of a second, without zeros that say nothing, but not empty. -/
def fractionText (n : Nat) : String :=
  let ds := ((padded Moment.places n).toList.reverse.dropWhile (· == '0')).reverse
  "." ++ String.ofList (if ds.isEmpty then ['0'] else ds)

/-- The text of a time. -/
def Clock.render (c : Clock) : String :=
  s!"{padded 2 c.hour}:{padded 2 c.minute}"
    ++ (match c.second with
      | some sec => s!":{padded 2 sec.whole}" ++ (sec.fraction.map fractionText).getD ""
      | none => "")

/-- The text of a distance; none at all has no sign of its own. -/
def Offset.render : Offset → String
  | .none => ""
  | .reference => "Z"
  | .minutes n =>
    (if n < 0 then "-" else "+") ++ s!"{padded 2 (n.natAbs / 60)}:{padded 2 (n.natAbs % 60)}"

/-- The usual text of a moment. -/
def Moment.render : Moment → String
  | .date d => d.render
  | .time c => c.render
  | .both d c o => d.render ++ "T" ++ c.render ++ o.render

end Nomenclator.Toml

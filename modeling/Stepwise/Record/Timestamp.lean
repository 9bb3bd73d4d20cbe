import Stepwise.Numeric.Decimal

/-! # Points in time -/

namespace Stepwise

structure Timestamp where
  year : Fin 10000
  month : Fin 100
  day : Fin 100
  hour : Fin 100
  minute : Fin 100
  second : Fin 100
  nanos : Fin 1000000000
deriving DecidableEq, Repr

namespace Timestamp

/-! ## Text -/

/-- The last `width` decimal digits of a number. -/
def padded : Nat → Nat → List Char
  | 0, _ => []
  | width + 1, n => padded width (n / 10) ++ [Nat.digitChar (n % 10)]

def chars (t : Timestamp) : List Char :=
  padded 4 t.year ++ '-' :: padded 2 t.month ++ '-' :: padded 2 t.day ++ 'T' :: padded 2 t.hour
    ++ ':' :: padded 2 t.minute ++ ':' :: padded 2 t.second ++ '.' :: padded 9 t.nanos ++ ['Z']

def text (t : Timestamp) : String := String.ofList t.chars

/-- A field of `width` digits, and the text after it. -/
def readField (width : Nat) (bound : Nat) (cs : List Char) : Option (Fin bound × List Char) :=
  let digits := cs.take width
  if h : digits.length = width ∧ digits.all Char.isDigit ∧ natOfDigits digits < bound then
    some (⟨natOfDigits digits, h.2.2⟩, cs.drop width)
  else none

def readMark (c : Char) : List Char → Option (List Char)
  | d :: rest => if c = d then some rest else none
  | [] => none

def ofText? (s : String) : Option Timestamp := do
  let (year, cs) ← readField 4 10000 s.toList
  let cs ← readMark '-' cs
  let (month, cs) ← readField 2 100 cs
  let cs ← readMark '-' cs
  let (day, cs) ← readField 2 100 cs
  let cs ← readMark 'T' cs
  let (hour, cs) ← readField 2 100 cs
  let cs ← readMark ':' cs
  let (minute, cs) ← readField 2 100 cs
  let cs ← readMark ':' cs
  let (second, cs) ← readField 2 100 cs
  let cs ← readMark '.' cs
  let (nanos, cs) ← readField 9 1000000000 cs
  let cs ← readMark 'Z' cs
  if cs = [] then some ⟨year, month, day, hour, minute, second, nanos⟩ else none

/-! ## Distances -/

/-- The number of days before a date, counted in years that start in March. -/
def dayNumber (year month day : Nat) : Nat :=
  let y := if month ≤ 2 then year - 1 else year
  let m := if month ≤ 2 then month + 9 else month - 3
  365 * y + y / 4 - y / 100 + y / 400 + (153 * m + 2) / 5 + day

def toNanos (t : Timestamp) : Nat :=
  let seconds := ((dayNumber t.year t.month t.day * 24 + t.hour) * 60 + t.minute) * 60 + t.second
  seconds * 1000000000 + t.nanos

/-- The day with a number, as a year, a month and a day. -/
def dateOf (number : Nat) : Nat × Nat × Nat :=
  let z := number - 1
  let cycle := z / 146097
  let inCycle := z % 146097
  let years := (inCycle - inCycle / 1460 + inCycle / 36524 - inCycle / 146096) / 365
  let inYear := inCycle - (365 * years + years / 4 - years / 100)
  let m := (5 * inYear + 2) / 153
  let day := inYear - (153 * m + 2) / 5 + 1
  let month := if m < 10 then m + 3 else m - 9
  (cycle * 400 + years + (if month ≤ 2 then 1 else 0), month, day)

/-- The point that is some nanoseconds after the start of 1970. -/
def ofUnixNanos (n : Nat) : Timestamp :=
  let seconds := n / 1000000000
  let (year, month, day) := dateOf (dayNumber 1970 1 1 + seconds / 86400)
  { year := Fin.ofNat 10000 year, month := Fin.ofNat 100 month, day := Fin.ofNat 100 day
    hour := Fin.ofNat 100 (seconds / 3600 % 24), minute := Fin.ofNat 100 (seconds / 60 % 60)
    second := Fin.ofNat 100 (seconds % 60), nanos := Fin.ofNat 1000000000 n }

/-- Whole milliseconds from one point to a later one. -/
def elapsedMs (start stop : Timestamp) : UInt64 :=
  UInt64.ofNat ((stop.toNanos - start.toNanos) / 1000000)

end Timestamp

end Stepwise

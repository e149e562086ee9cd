import SerialBus.Text.Numeral
import SerialBus.Toml.Scan
import SerialBus.Toml.Value

/-! Numbers, dates and times of a TOML document. -/

namespace SerialBus.Toml

/-- Digits, one at least; underscores may stand between two of them, one at a time. -/
def digitGroup (isDigit : Char → Bool) : Scan (List Char) := do
  let run ← Scan.takeWhile fun c => isDigit c || c == '_'
  let parts := run.splitOn '_'
  if parts.any List.isEmpty then failure
  return parts.flatten

/-- A whole number of 64 bits with sign. -/
def word (n : Int) : Scan Toml :=
  if -0x8000000000000000 ≤ n ∧ n < 0x8000000000000000 then return .integer n else failure

/-- The value of digits in a base. -/
def valueOf (base : Nat) (ds : List Char) : Scan Nat := StateT.lift (Text.digitsFrom? base 0 ds)

/-- A whole number behind the mark of its base. -/
def basedInteger (base : Nat) : Scan Toml := do
  let n ← valueOf base (← digitGroup fun c => (Text.digit? base c).isSome)
  word n

/-- A sign, if there is one; true for a minus. -/
def sign : Scan Bool := do
  if ← Scan.accept ['-'] then return true
  let _ ← Scan.accept ['+']
  return false

/-- The digits of a fraction, if there is one. -/
def fraction : Scan (Option (List Char)) := do
  if ← Scan.accept ['.'] then return some (← digitGroup Char.isDigit)
  return none

/-- The value of an exponent, if there is one. -/
def exponent : Scan (Option Int) := do
  if ← Scan.acceptOneOf [['e'], ['E']] then
    let negative ← sign
    let n ← valueOf 10 (← digitGroup Char.isDigit)
    return some (if negative then -n else n)
  return none

/--
Whether `n` times ten to the power `e` is too large for a binary float of 64 bits: it is not below
the middle between the largest such float and the next power of two.
-/
def overflows (n : Nat) (e : Int) : Bool :=
  let limit := Nat.pow 2 1024 - Nat.pow 2 970
  let magnitude := (Nat.toDigits 10 n).length + e
  if n = 0 ∨ magnitude < 308 then false
  else if 310 < magnitude then true
  else if 0 ≤ e then limit ≤ n * Nat.pow 10 e.toNat
  else limit * Nat.pow 10 (-e).toNat ≤ n

/-- A number with a sign and decimal digits, or one of the words for what is no number. -/
def decimalNumber : Scan Toml := do
  let negative ← sign
  if ← Scan.acceptOneOf [['i', 'n', 'f'], ['n', 'a', 'n']] then return .float
  let whole ← digitGroup Char.isDigit
  if whole.head? = some '0' ∧ 1 < whole.length then failure
  match ← fraction, ← exponent with
  | none, none =>
    let n ← valueOf 10 whole
    word (if negative then -n else n)
  | places, power =>
    let places := places.getD []
    let n ← valueOf 10 (whole ++ places)
    if !negative && overflows n (power.getD 0 - places.length) then failure
    return .float

/-- Two digits, with a value in a range. -/
def twoDigits (low high : Nat) : Scan Nat := do
  let n ← valueOf 10 (← Scan.take 2)
  if low ≤ n ∧ n ≤ high then return n
  failure

def isLeapYear (year : Nat) : Bool := year % 4 == 0 && (year % 100 != 0 || year % 400 == 0)

def daysIn (year month : Nat) : Nat :=
  if month = 2 then if isLeapYear year then 29 else 28
  else if month ∈ [4, 6, 9, 11] then 30
  else 31

/-- A year, a month and a day, with dashes between them. -/
def date : Scan Unit := do
  let year ← valueOf 10 (← Scan.take 4)
  Scan.expect ['-']
  let month ← twoDigits 1 12
  Scan.expect ['-']
  let _ ← twoDigits 1 (daysIn year month)

/-- Hours, minutes and seconds, with colons between them, and a fraction of the second. -/
def time : Scan Unit := do
  let _ ← twoDigits 0 23
  Scan.expect [':']
  let _ ← twoDigits 0 59
  Scan.expect [':']
  let _ ← twoDigits 0 60
  if ← Scan.accept ['.'] then
    if (← Scan.takeWhile Char.isDigit).isEmpty then failure

/-- The distance from universal time, if there is one. -/
def offset : Scan Unit := do
  if ← Scan.acceptOneOf [['Z'], ['z']] then return
  if ← Scan.acceptOneOf [['+'], ['-']] then
    let _ ← twoDigits 0 23
    Scan.expect [':']
    let _ ← twoDigits 0 59

/-- The time of a day behind its date. -/
def timeOfDate : Scan Unit := do
  match ← Scan.next with
  | 'T' => time; offset
  | 't' => time; offset
  | ' ' => time; offset
  | _ => failure

/-- A date, a time, or a date with a time. -/
def moment : Scan Unit := do
  match ← Scan.optional date with
  | some () => let _ ← Scan.optional timeOfDate
  | none => time

/-- A number, a date or a time, which begins with a digit or a sign. -/
def numberOrMoment : Scan Toml := do
  if (← Scan.optional moment).isSome then return .dateTime
  if ← Scan.accept ['0', 'x'] then return ← basedInteger 16
  if ← Scan.accept ['0', 'o'] then return ← basedInteger 8
  if ← Scan.accept ['0', 'b'] then return ← basedInteger 2
  decimalNumber

end SerialBus.Toml

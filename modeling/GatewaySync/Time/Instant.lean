import GatewaySync.Time.Calendar
/-!
# Instants

An instant is a count of UTC seconds since 1970-01-01T00:00:00Z with a fraction in nanoseconds. In the
last second of a minute the fraction may reach past one second: that is a leap second, written `:60`.
The written form has the fewest of 0, 3, 6 or 9 fraction digits that are exact.
-/
namespace GatewaySync

structure Instant where
  seconds : Int
  nanos : Nat
  deriving DecidableEq, Repr, Inhabited

namespace Instant

/-- The decimal digits of a number, filled with zeros from the left. -/
def padded (width n : Nat) : String :=
  let digits := Nat.toDigits 10 n
  String.ofList (List.replicate (width - digits.length) '0' ++ digits)

/-- A year of four digits, or a signed one outside them. -/
def yearText (year : Int) : String :=
  if 0 ≤ year ∧ year ≤ 9999 then padded 4 year.toNat
  else if year < 0 then "-" ++ padded 4 year.natAbs
  else "+" ++ padded 4 year.natAbs

def fractionText (nanos : Nat) : String :=
  if nanos = 0 then ""
  else if nanos % 1000000 = 0 then "." ++ padded 3 (nanos / 1000000)
  else if nanos % 1000 = 0 then "." ++ padded 6 (nanos / 1000)
  else "." ++ padded 9 nanos

/-- The date, the second of the day and the fraction, which is past one second in a leap second. -/
def dayAndTime (t : Instant) : Calendar.Date × Nat :=
  (Calendar.ofDayNumber (t.seconds.fdiv 86400), (t.seconds.fmod 86400).toNat)

def secondText (t : Instant) : String :=
  let (date, second) := t.dayAndTime
  let shown := second % 60 + (if 1000000000 ≤ t.nanos then 1 else 0)
  yearText date.year ++ "-" ++ padded 2 date.month ++ "-" ++ padded 2 date.day ++ "T" ++
    padded 2 (second / 3600) ++ ":" ++ padded 2 (second / 60 % 60) ++ ":" ++ padded 2 shown

def text (t : Instant) : String := t.secondText ++ fractionText (t.nanos % 1000000000) ++ "Z"

def wholeText (t : Instant) : String := t.secondText ++ "Z"

/-- The instant that `wholeText` denotes: the fraction is dropped, a leap second stays one. -/
def whole (t : Instant) : Instant :=
  ⟨t.seconds, if 1000000000 ≤ t.nanos then 1000000000 else 0⟩

end Instant

end GatewaySync

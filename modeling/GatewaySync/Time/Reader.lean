import GatewaySync.Text.Blank
import GatewaySync.Time.Instant
/-!
# Reading instants

The form of RFC 3339, read leniently: blanks may stand before each field and its separator, months
and other fields may have one digit, a year may have a sign and then any number of digits, the date
and the time are separated by `T`, `t` or a blank, and the offset is `Z`, `UTC` or hours and minutes
with an optional colon. Digits of the fraction past the ninth are dropped.
-/
namespace GatewaySync.Instant

/-- A natural number of one to `width` digits, and the rest. -/
def number (width : Nat) (cs : List Char) : Option (Nat × List Char) :=
  let digits := (cs.take width).takeWhile Char.isDigit
  if digits = [] then none
  else some (digits.foldl (fun n c => n * 10 + (c.toNat - 48)) 0, cs.drop digits.length)

/-- A field of at most two digits after blanks. -/
def field (cs : List Char) : Option (Nat × List Char) := number 2 (Text.trimStart cs)

def separator (c : Char) (cs : List Char) : Option (List Char) :=
  match Text.trimStart cs with
  | d :: rest => if d = c then some rest else none
  | [] => none

/-- A year: four digits, or a sign and any number of digits. -/
def yearField (cs : List Char) : Option (Int × List Char) :=
  match Text.trimStart cs with
  | '-' :: rest => (number rest.length rest).map fun (n, rest) => (-(n : Int), rest)
  | '+' :: rest => (number rest.length rest).map fun (n, rest) => ((n : Int), rest)
  | cs => (number 4 cs).map fun (n, rest) => ((n : Int), rest)

def fraction (cs : List Char) : Option (Nat × List Char) :=
  match cs with
  | '.' :: rest => do
    let (n, after) ← number 9 rest
    some (n * Nat.pow 10 (9 - (rest.length - after.length)), after.dropWhile Char.isDigit)
  | cs => some (0, cs)

def twoDigits (cs : List Char) : Option (Nat × List Char) :=
  match cs with
  | a :: b :: rest =>
    if a.isDigit ∧ b.isDigit then some ((a.toNat - 48) * 10 + (b.toNat - 48), rest) else none
  | _ => none

def offset (cs : List Char) : Option (Int × List Char) :=
  if Text.lowerAscii (cs.take 3) = ['u', 't', 'c'] then some (0, cs.drop 3)
  else
    match cs with
    | 'Z' :: rest => some (0, rest)
    | 'z' :: rest => some (0, rest)
    | sign :: rest => do
      guard (sign = '+' ∨ sign = '-' ∨ sign = '−')
      let (hours, rest) ← twoDigits rest
      let (minutes, rest) ← twoDigits (rest.dropWhile fun c => c = ':' || Text.isBlank c)
      guard (minutes < 60)
      let seconds : Int := hours * 3600 + minutes * 60
      some (if sign = '+' then seconds else -seconds, rest)
    | [] => none

/-- The largest year, and the distance of the least one below zero less one, of an instant. -/
def lastYear : Int := 262142

def inRange (seconds : Int) : Bool :=
  Calendar.dayNumber ⟨-lastYear - 1, 1, 1⟩ ≤ seconds.fdiv 86400 &&
    seconds.fdiv 86400 ≤ Calendar.dayNumber ⟨lastYear, 12, 31⟩

def ofChars? (cs : List Char) : Option Instant := do
  let (year, cs) ← yearField cs
  let (month, cs) ← field (← separator '-' cs)
  let (day, cs) ← field (← separator '-' cs)
  let cs ← match cs with
    | c :: rest => if c = 't' ∨ c = 'T' ∨ c = ' ' then some rest else none
    | [] => none
  let (hour, cs) ← field cs
  let (minute, cs) ← field (← separator ':' cs)
  let (second, cs) ← field (← separator ':' cs)
  let (nanos, cs) ← fraction cs
  let (east, cs) ← offset (Text.trimStart cs)
  guard (Text.trimStart cs = [])
  guard (-lastYear - 1 ≤ year ∧ year ≤ lastYear)
  guard (1 ≤ month ∧ month ≤ 12 ∧ 1 ≤ day ∧ day ≤ Calendar.daysInMonth year month)
  guard (hour < 24 ∧ minute < 60 ∧ second ≤ 60 ∧ -86400 < east ∧ east < 86400)
  let shown : Int := if second = 60 then 59 else second
  let seconds := Calendar.dayNumber ⟨year, month, day⟩ * 86400 + hour * 3600 + minute * 60 + shown - east
  guard (inRange seconds)
  some ⟨seconds, nanos + (if second = 60 then 1000000000 else 0)⟩

def ofString? (s : String) : Option Instant := ofChars? s.toList

end GatewaySync.Instant

import GatewaySync.Number.Binary64
/-!
# The shortest decimal of a double

Among the decimals that round to a finite double, the ones with the fewest digits are sought on the
grids of one, two, … seventeen digits: on each grid only the two neighbours of the value can qualify.
Of two that qualify the nearer is taken, an exact tie goes to the even digit.
-/
namespace GatewaySync.Shortest

/-- A positive decimal `digits · 10 ^ scale` whose last digit is not zero. -/
structure Decimal where
  digits : List Char
  scale : Int
  deriving Repr, DecidableEq

/-- A decimal grid point: the natural number times a power of ten, as a fraction. -/
def point (n : Nat) (scale : Int) : Nat × Nat :=
  if 0 ≤ scale then (n * Nat.pow 10 scale.toNat, 1) else (n, Nat.pow 10 (-scale).toNat)

def roundsTo (bits : UInt64) (n : Nat) (scale : Int) : Bool :=
  Binary64.ofRatio (point n scale).1 (point n scale).2 == bits

/-- Where the lower neighbour lies below the value by a remainder of `rest` out of `den`, the
neighbour to take when both qualify. -/
def nearer (low rest den : Nat) : Nat :=
  if 2 * rest < den then low
  else if den < 2 * rest then low + 1
  else if low % 2 = 0 then low else low + 1

/-- The grid of the given step: the lower neighbour of the value, the remainder and its unit. -/
def below (bits : UInt64) (scale : Int) : Nat × Nat × Nat :=
  let (num, den) := Binary64.ratio bits
  let (num, den) := if 0 ≤ scale then (num, den * Nat.pow 10 scale.toNat) else (num * Nat.pow 10 (-scale).toNat, den)
  (num / den, num % den, den)

def onGrid (bits : UInt64) (scale : Int) : Option Nat :=
  let (low, rest, den) := below bits scale
  match roundsTo bits low scale && low != 0, roundsTo bits (low + 1) scale with
  | true, true => some (nearer low rest den)
  | true, false => some low
  | false, true => some (low + 1)
  | false, false => none

/-- The first grid, from coarse to fine, that holds a decimal of the word. -/
def search (bits : UInt64) : Nat → Int → Option (Nat × Int)
  | 0, _ => none
  | fuel + 1, scale =>
    match onGrid bits scale with
    | some n => some (n, scale)
    | none => search bits fuel (scale - 1)

def normal (fuel : Nat) (n : Nat) (scale : Int) : Nat × Int :=
  match fuel with
  | 0 => (n, scale)
  | fuel + 1 => if n % 10 = 0 ∧ n ≠ 0 then normal fuel (n / 10) (scale + 1) else (n, scale)

/-- The decimal order of magnitude of a positive finite word: its integer part has at most this many
digits, or it lies below `10 ^` this number. -/
def decimalOrder (bits : UInt64) : Int :=
  let (num, den) := Binary64.ratio bits
  ((Nat.toDigits 10 num).length : Int) - ((Nat.toDigits 10 den).length : Int) + 1

/-- The shortest decimal of a positive finite word. -/
def ofBits (bits : UInt64) : Decimal :=
  match search bits 20 (decimalOrder bits - 1) with
  | some (n, scale) =>
    let (n, scale) := normal 20 n scale
    ⟨Nat.toDigits 10 n, scale⟩
  | none => ⟨['0'], 0⟩

def sign (bits : UInt64) : String := if Binary64.isNegative bits then "-" else ""

/-- Positional notation with an integer part and, if needed, a fraction. -/
def Decimal.positional (d : Decimal) : String :=
  let point : Int := d.digits.length + d.scale
  if 0 ≤ d.scale then String.ofList (d.digits ++ List.replicate d.scale.toNat '0')
  else if 0 < point then
    String.ofList (d.digits.take point.toNat) ++ "." ++ String.ofList (d.digits.drop point.toNat)
  else "0." ++ String.ofList (List.replicate (-point).toNat '0' ++ d.digits)

/-- The way documents write a double: positional for a decimal point within sixteen digits to the
left and five zeros to the right, with a fraction always; otherwise scientific. -/
def document (bits : UInt64) : String :=
  if Binary64.magnitude bits = 0 then sign bits ++ "0.0"
  else
    let d := ofBits (Binary64.magnitude bits)
    let point : Int := d.digits.length + d.scale
    let text :=
      if 0 ≤ d.scale ∧ point ≤ 16 then d.positional ++ ".0"
      else if -5 < point ∧ point ≤ 16 then d.positional
      else
        let head := String.ofList (d.digits.take 1)
        let tail := String.ofList (d.digits.drop 1)
        head ++ (if tail = "" then "" else "." ++ tail) ++ "e" ++ toString (point - 1)
    sign bits ++ text

/-- The plain way: always positional, a fraction only where there is one. -/
def plain (bits : UInt64) : String :=
  if Binary64.infinity < Binary64.magnitude bits then "NaN"
  else if Binary64.magnitude bits = Binary64.infinity then sign bits ++ "inf"
  else if Binary64.magnitude bits = 0 then sign bits ++ "0"
  else sign bits ++ (ofBits (Binary64.magnitude bits)).positional

end GatewaySync.Shortest

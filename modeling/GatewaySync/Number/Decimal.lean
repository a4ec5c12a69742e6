import GatewaySync.Number.Binary64
import GatewaySync.Text.Digits
/-!
# Doubles from decimal text

A decimal of any length is rounded once, to the nearest word. The way back to whole numbers rounds a
half away from zero and stays within bounds.
-/
namespace GatewaySync.Binary64

def nan : UInt64 := 0x7FF8000000000000

/-- From this decimal order on every word is infinite, and below its negative every word is zero. -/
def decimalRange : Int := 400

/-- The word nearest to `n · 10 ^ e`, a tie to the even significand. -/
def ofDecimal (n : Nat) (e : Int) : UInt64 :=
  let order : Int := (Nat.toDigits 10 n).length + e
  if n = 0 ∨ order < -decimalRange then 0
  else if decimalRange < order then infinity
  else if 0 ≤ e then ofRatio (n * Nat.pow 10 e.toNat) 1
  else ofRatio n (Nat.pow 10 (-e).toNat)

def withSign (negative : Bool) (bits : UInt64) : UInt64 := if negative then negate bits else bits

def splitSign : List Char → Bool × List Char
  | '-' :: rest => (true, rest)
  | '+' :: rest => (false, rest)
  | cs => (false, cs)

def exponent? (cs : List Char) : Option Int :=
  let (negative, digits) := splitSign cs
  (Text.numeral? 10 digits).map fun n => if negative then -(n : Int) else n

/-- Reads digits with at most one point among them, and an exponent. -/
def ofDigits? (cs : List Char) : Option UInt64 := do
  let whole := cs.takeWhile Char.isDigit
  let rest := cs.dropWhile Char.isDigit
  let (fraction, rest) := match rest with
    | '.' :: rest => (rest.takeWhile Char.isDigit, rest.dropWhile Char.isDigit)
    | rest => ([], rest)
  let n ← Text.numeral? 10 (whole ++ fraction)
  let e ← match rest with
    | [] => some 0
    | letter :: rest => if letter = 'e' ∨ letter = 'E' then exponent? rest else none
  some (ofDecimal n (e - fraction.length))

/-- Reads a signed decimal, or in any case of their letters the names of infinity and of what is not a
number. -/
def ofText? (cs : List Char) : Option UInt64 :=
  let (negative, cs) := splitSign cs
  let name := String.ofList (cs.map Char.toLower)
  let magnitude :=
    if name = "inf" ∨ name = "infinity" then some infinity
    else if name = "nan" then some nan
    else ofDigits? cs
  magnitude.map (withSign negative)

/-- The word as a natural number up to a bound: rounded to the nearest, a half upward; zero for what
is negative or not a number. -/
def toNatUpTo (bound : Nat) (bits : UInt64) : Nat :=
  if infinity < magnitude bits ∨ isNegative bits then 0
  else if magnitude bits = infinity then bound
  else min bound ((2 * (ratio bits).1 + (ratio bits).2) / (2 * (ratio bits).2))

end GatewaySync.Binary64

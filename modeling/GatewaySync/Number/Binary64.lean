import GatewaySync.Number.Range
/-!
# Binary64 numbers as words

A double is kept as its 64-bit word, so equality of documents is equality of data. The value of a
finite word is `significand · 2 ^ exponent`; rounding a quotient of natural numbers to the nearest
word, ties to even, is done in exact integer arithmetic.
-/
namespace GatewaySync.Binary64

def infinity : UInt64 := 0x7FF0000000000000

/-- The word of minus zero, which is also the sign bit. -/
def signBit : UInt64 := 0x8000000000000000

def isNegative (bits : UInt64) : Bool := bits &&& signBit != 0

def magnitude (bits : UInt64) : UInt64 := bits &&& 0x7FFFFFFFFFFFFFFF

def negate (bits : UInt64) : UInt64 := bits ^^^ signBit

def isFinite (bits : UInt64) : Bool := magnitude bits < infinity

/-- The significand of a finite magnitude, the hidden bit included. -/
def significand (bits : UInt64) : Nat :=
  let word : Nat := (magnitude bits).toNat
  if word < wordCount 52 then word else word % wordCount 52 + wordCount 52

/-- The power of two that the significand of a finite magnitude is scaled by. -/
def exponent (bits : UInt64) : Int :=
  let field : Nat := (magnitude bits).toNat / wordCount 52
  if field = 0 then -1074 else (field : Int) - 1075

def ratio (bits : UInt64) : Nat × Nat :=
  if 0 ≤ exponent bits then (significand bits <<< (exponent bits).toNat, 1)
  else (significand bits, 1 <<< (-exponent bits).toNat)

/-- The quotient rounded to the nearest natural number, a tie to the even one. -/
def divideToEven (num den : Nat) : Nat :=
  let quotient := num / den
  let twice := 2 * (num % den)
  if twice > den ∨ (twice = den ∧ quotient % 2 = 1) then quotient + 1 else quotient

/-- The largest `e` with `2 ^ e ≤ num / den`. -/
def binaryOrder (num den : Nat) : Int :=
  let guess : Int := (Nat.log2 num : Int) - (Nat.log2 den : Int)
  let reaches :=
    if 0 ≤ guess then den <<< guess.toNat ≤ num else den ≤ num <<< (-guess).toNat
  if reaches then guess else guess - 1

/-- The word nearest to `num / den`, a tie to the even significand, infinity past the largest. -/
def ofRatio (num den : Nat) : UInt64 :=
  if num = 0 then 0
  else
    let scale : Int := max (binaryOrder num den - 52) (-1074)
    let m :=
      if 0 ≤ scale then divideToEven num (den <<< scale.toNat)
      else divideToEven (num <<< (-scale).toNat) den
    -- a significand that rounds up to `2 ^ 53` carries into the exponent field by addition
    let word : Nat := (scale + 1074).toNat * wordCount 52 + m
    if infinity.toNat ≤ word then infinity else word.toUInt64

def ofNat (n : Nat) : UInt64 := ofRatio n 1

/-- The word nearest to the product of two nonnegative finite words. -/
def multiply (a b : UInt64) : UInt64 :=
  ofRatio ((ratio a).1 * (ratio b).1) ((ratio a).2 * (ratio b).2)

def divide (a b : UInt64) : UInt64 :=
  ofRatio ((ratio a).1 * (ratio b).2) ((ratio a).2 * (ratio b).1)

def powerOfTen (n : Nat) : UInt64 := ofNat (Nat.pow 10 n)

end GatewaySync.Binary64

import GatewaySync.Json.Basic
import GatewaySync.Number.Range
import GatewaySync.Text.Digits
/-!
# Tokens of a JSON text

The text is cut into brackets, separators, strings and words in one walk over its characters; a word
is a literal or a number. A number keeps its exact integer value where it is written as an integer in
the 64-bit ranges, and is a double otherwise.
-/
namespace GatewaySync.Json

inductive Token where
  | openObject
  | closeObject
  | openArray
  | closeArray
  | colon
  | comma
  /-- A string, `none` if an escape in it denotes no character. -/
  | text (s : Option String)
  | word (value : Json)
  deriving Inhabited

def spanDigits (cs : List Char) : List Char × List Char := (cs.takeWhile Char.isDigit, cs.dropWhile Char.isDigit)

def digitValue (c : Char) : Nat := c.toNat - 48

def numberOf (digits : List Char) : Nat := digits.foldl (fun n c => n * 10 + digitValue c) 0

/-- A decimal in its written form: the digits before the point, the fraction digits and the exponent
with its sign. -/
structure Decimal where
  negative : Bool
  whole : List Char
  fraction : Option (List Char)
  exponent : Option (Bool × List Char)

def spanMinus (cs : List Char) : Bool × List Char :=
  match cs with
  | '-' :: rest => (true, rest)
  | rest => (false, rest)

def spanSign (cs : List Char) : Bool × List Char :=
  match cs with
  | '+' :: rest => (false, rest)
  | rest => spanMinus rest

def fractionOf (cs : List Char) : Option (Option (List Char) × List Char) :=
  match cs with
  | '.' :: rest =>
    let (digits, rest) := spanDigits rest
    if digits = [] then none else some (some digits, rest)
  | rest => some (none, rest)

/-- The exponent that the rest of a number is, if there is a rest: a letter, a sign and digits. -/
def exponentOf (cs : List Char) : Option (Option (Bool × List Char)) :=
  match cs with
  | [] => some none
  | letter :: rest =>
    let (negative, digits) := spanSign rest
    if (letter = 'e' ∨ letter = 'E') ∧ digits ≠ [] ∧ digits.all Char.isDigit then some (some (negative, digits))
    else none

/-- Reads the grammar of numbers: no leading zero, a digit on both sides of the point. -/
def Decimal.ofWord (cs : List Char) : Option Decimal :=
  let (negative, cs) := spanMinus cs
  let (whole, cs) := spanDigits cs
  if whole ≠ [] ∧ (whole.length = 1 ∨ whole.head? ≠ some '0') then do
    let (fraction, cs) ← fractionOf cs
    let exponent ← exponentOf cs
    some ⟨negative, whole, fraction, exponent⟩
  else none

/-- The bound of significands: digits that would carry one past it are dropped. -/
def significandBound : Nat := wordCount 64

/-- Takes digits into the significand while it stays below the bound, and counts the rest. -/
def accumulate (significand : Nat) : List Char → Nat × List Char
  | [] => (significand, [])
  | c :: rest =>
    if significand * 10 + digitValue c < significandBound then
      accumulate (significand * 10 + digitValue c) rest
    else (significand, c :: rest)

/-- The double of a significand and a decimal exponent: one multiplication or division by a rounded
power of ten, or, below the least power, repeated divisions by the largest. `none` beyond the range. -/
def scaled (fuel : Nat) (bits : UInt64) (exponent : Int) : Option UInt64 :=
  if exponent.natAbs ≤ 308 then
    let power := Binary64.powerOfTen exponent.natAbs
    if 0 ≤ exponent then
      let product := Binary64.multiply bits power
      if Binary64.isFinite product then some product else none
    else some (Binary64.divide bits power)
  else if bits = 0 then some 0
  else if 0 ≤ exponent then none
  else
    match fuel with
    | 0 => some 0
    | fuel + 1 => scaled fuel (Binary64.divide bits (Binary64.powerOfTen 308)) (exponent + 308)

/-- Decimal exponents are held between the bounds of 32-bit integers. -/
def clampExponent (n : Int) : Int := max (-2147483648) (min 2147483647 n)

/-- The value of a decimal that is not a 64-bit integer. -/
def Decimal.toFloat (d : Decimal) : Json :=
  let (whole, dropped) := accumulate 0 d.whole
  let (significand, kept) :=
    match d.fraction with
    | none => (whole, 0)
    | some digits =>
      let (s, rest) := accumulate whole digits
      (s, digits.length - rest.length)
  let base : Int := (dropped.length : Int) - kept
  let withSign := fun bits => float (if d.negative then Binary64.negate bits else bits)
  match d.exponent with
  | none => (scaled 8 (Binary64.ofNat significand) base).elim unreadable withSign
  | some (negative, digits) =>
    let n := numberOf digits
    if 2147483647 < n then
      if significand = 0 ∨ negative then withSign 0 else unreadable
    else
      let exponent := clampExponent (if negative then base - n else base + n)
      (scaled 8 (Binary64.ofNat significand) exponent).elim unreadable withSign

/-- The value of a number: an integer where it is written as one and fits, minus zero excepted. -/
def Decimal.toJson (d : Decimal) : Json :=
  match d.fraction, d.exponent with
  | none, none =>
    let n := numberOf d.whole
    if d.negative then
      if 0 < n ∧ n ≤ wordCount 63 then int (-(n : Int)) else d.toFloat
    else if n < wordCount 64 then int n
    else d.toFloat
  | _, _ => d.toFloat

def wordValue (cs : List Char) : Option Json :=
  if cs = "null".toList then some null
  else if cs = "true".toList then some (bool true)
  else if cs = "false".toList then some (bool false)
  else (Decimal.ofWord cs).map Decimal.toJson

def isBlank (c : Char) : Bool := c = ' ' || c = '\n' || c = '\t' || c = '\r'

def isWordChar (c : Char) : Bool := c.isAlphanum || c = '-' || c = '+' || c = '.'

/-- Where the walk over the characters stands. Collected characters are in reverse. -/
inductive Mode where
  | between
  | word (rev : List Char)
  /-- In a string: its characters, whether all escapes so far denote characters, and the first half
  of a surrogate pair that the last escape left open. -/
  | string (rev : List Char) (sound : Bool) (high : Option Nat)
  | escape (rev : List Char) (sound : Bool) (high : Option Nat)
  /-- After `\u`: the digits still to come and the value of those read. -/
  | unit (rev : List Char) (sound : Bool) (high : Option Nat) (left : Nat) (value : Nat)

def shortEscape (c : Char) : Option Char :=
  match c with
  | '"' => some '"'
  | '\\' => some '\\'
  | '/' => some '/'
  | 'b' => some (Char.ofNat 8)
  | 'f' => some (Char.ofNat 12)
  | 'n' => some '\n'
  | 'r' => some '\r'
  | 't' => some '\t'
  | _ => none

/-- The string after a complete `\u` escape. -/
def afterUnit (rev : List Char) (sound : Bool) (high : Option Nat) (value : Nat) : Mode :=
  let isHigh := 0xD800 ≤ value ∧ value < 0xDC00
  let isLow := 0xDC00 ≤ value ∧ value < 0xE000
  match high with
  | some first =>
    if isLow then
      .string (Char.ofNat (0x10000 + (first - 0xD800) * 0x400 + (value - 0xDC00)) :: rev) sound none
    else .string rev false none
  | none =>
    if isHigh then .string rev sound (some value)
    else if isLow then .string rev false none
    else .string (Char.ofNat value :: rev) sound none

def startToken (c : Char) : Option (Mode × List Token) :=
  match c with
  | '\x7b' => some (.between, [.openObject])
  | '\x7d' => some (.between, [.closeObject])
  | '[' => some (.between, [.openArray])
  | ']' => some (.between, [.closeArray])
  | ':' => some (.between, [.colon])
  | ',' => some (.between, [.comma])
  | '"' => some (.string [] true none, [])
  | c =>
    if isBlank c then some (.between, [])
    else if isWordChar c then some (.word [c], [])
    else none

/-- One character of the walk: the new position and the tokens that it completes. -/
def step (mode : Mode) (c : Char) : Option (Mode × List Token) :=
  match mode with
  | .between => startToken c
  | .word rev =>
    if isWordChar c then some (.word (c :: rev), [])
    else do
      let value ← wordValue rev.reverse
      let (mode, more) ← startToken c
      some (mode, .word value :: more)
  | .string rev sound high =>
    match c with
    | '"' => some (.between, [.text (if sound && high.isNone then some (String.ofList rev.reverse) else none)])
    | '\\' => some (.escape rev sound high, [])
    | c => if c.toNat < 32 then none else some (.string (c :: rev) (sound && high.isNone) none, [])
  | .escape rev sound high =>
    if c = 'u' then some (.unit rev sound high 4 0, [])
    else do
      let d ← shortEscape c
      some (.string (d :: rev) (sound && high.isNone) none, [])
  | .unit rev sound high left value => do
    let digit ← Text.hexValue? c
    let value := value * 16 + digit
    if left ≤ 1 then some (afterUnit rev sound high value, [])
    else some (.unit rev sound high (left - 1) value, [])

/-- The tokens from a position on, in front of those already found in reverse. -/
def walk (mode : Mode) (rev : List Token) : List Char → Option (List Token)
  | [] =>
    match mode with
    | .between => some rev.reverse
    | .word word => do
      let value ← wordValue word.reverse
      some (Token.word value :: rev).reverse
    | _ => none
  | c :: rest =>
    match step mode c with
    | some (mode, tokens) => walk mode (tokens.reverse ++ rev) rest
    | none => none

/-- All tokens of a text, `none` if it is not made of tokens. -/
def tokens (text : String) : Option (List Token) := walk .between [] text.toList

end GatewaySync.Json

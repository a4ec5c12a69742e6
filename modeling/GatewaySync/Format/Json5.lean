import GatewaySync.Json.Basic
import GatewaySync.Number.Decimal
import GatewaySync.Number.Range
import GatewaySync.Text.Blank
/-!
# Reading JSON5

JSON with comments, trailing commas, unquoted keys, single quotes and more ways to write numbers. An
integer has to fit in 64 bits. Nesting is bounded by the length of the text, which is the fuel of the
reader.
-/
namespace GatewaySync.Json5

def isLineEnd (c : Char) : Bool :=
  c = '\n' || c = '\r' || c.toNat = 0x2028 || c.toNat = 0x2029

def isBlank (c : Char) : Bool := (Text.isBlank c && c.toNat != 0x85) || c.toNat = 0xFEFF

def afterBlock : List Char → Option (List Char)
  | [] => none
  | '*' :: '/' :: rest => some rest
  | _ :: rest => afterBlock rest

def skip? (fuel : Nat) (cs : List Char) : Option (List Char) :=
  match fuel with
  | 0 => none
  | fuel + 1 =>
    match cs.dropWhile isBlank with
    | '/' :: '/' :: rest => skip? fuel (rest.dropWhile fun c => !isLineEnd c)
    | '/' :: '*' :: rest => do skip? fuel (← afterBlock rest)
    | rest => some rest

def skip (cs : List Char) : Option (List Char) := skip? (cs.length + 1) cs

def escape? (c : Char) : Option Char :=
  match c with
  | 'b' => some (Char.ofNat 8)
  | 'f' => some (Char.ofNat 12)
  | 'n' => some '\n'
  | 'r' => some '\r'
  | 't' => some '\t'
  | 'v' => some (Char.ofNat 11)
  | '0' => some (Char.ofNat 0)
  | c => if c.isDigit ∨ c = 'x' ∨ c = 'u' then none else some c

def pair? (high low : List Char) : Option Char := do
  let high ← Text.numeral? 16 high
  let low ← Text.numeral? 16 low
  guard (0xD800 ≤ high ∧ high < 0xDC00 ∧ 0xDC00 ≤ low ∧ low < 0xE000)
  Text.ofCode? (0x10000 + (high - 0xD800) * 0x400 + (low - 0xDC00))

/-- The rest of a string up to its quote, its characters so far in reverse. -/
def string? (quote : Char) (rev : List Char) : List Char → Option (String × List Char)
  | [] => none
  | '\\' :: 'u' :: a :: b :: c :: d :: '\\' :: 'u' :: e :: f :: g :: h :: rest =>
    match pair? [a, b, c, d] [e, f, g, h] with
    | some x => string? quote (x :: rev) rest
    | none => do
      let x ← Text.ofHex? [a, b, c, d]
      let y ← Text.ofHex? [e, f, g, h]
      string? quote (y :: x :: rev) rest
  | '\\' :: 'u' :: a :: b :: c :: d :: rest => do
    string? quote ((← Text.ofHex? [a, b, c, d]) :: rev) rest
  | '\\' :: 'x' :: a :: b :: rest => do string? quote ((← Text.ofHex? [a, b]) :: rev) rest
  | '\\' :: '\r' :: '\n' :: rest => string? quote rev rest
  | '\\' :: c :: rest =>
    if isLineEnd c then string? quote rev rest
    else do string? quote ((← escape? c) :: rev) rest
  | c :: rest =>
    if c = quote then some (String.ofList rev.reverse, rest)
    else if c = '\n' ∨ c = '\r' then none
    else string? quote (c :: rev) rest

/-- A character of a name; beyond ASCII every character but a blank counts as a letter. -/
def isNameChar (c : Char) : Bool :=
  c.isAlphanum || c = '_' || c = '$' || (128 ≤ c.toNat && !isBlank c)

def key? (cs : List Char) : Option (String × List Char) :=
  match cs with
  | '"' :: rest => string? '"' [] rest
  | c :: rest =>
    if c = Text.apostrophe then string? Text.apostrophe [] rest
    else if isNameChar c ∧ ¬ c.isDigit then
      some (String.ofList (cs.takeWhile isNameChar), cs.dropWhile isNameChar)
    else none
  | [] => none

/-- Whether a decimal starts with a single zero or none. -/
def isCanonical (cs : List Char) : Bool :=
  let whole := cs.takeWhile Char.isDigit
  whole.length ≤ 1 || whole.head? != some '0'

/-- A number, which is an integer unless it has a point or an exponent. -/
def number? (cs : List Char) : Option Json :=
  let (negative, digits) := Binary64.splitSign cs
  let float := fun bits => Json.float (Binary64.withSign negative bits)
  if digits = "Infinity".toList then some (float Binary64.infinity)
  else if digits = "NaN".toList then some (float Binary64.nan)
  else
    match cs with
    | '0' :: x :: hex =>
      if x = 'x' ∨ x = 'X' then do
        let n ← Text.numeral? 16 hex
        if n < wordCount 32 then some (.int n) else none
      else decimal? negative digits
    | _ => decimal? negative digits
where
  decimal? (negative : Bool) (digits : List Char) : Option Json := do
    guard (isCanonical digits)
    if digits.all Char.isDigit then do
      let n ← Text.numeral? 10 digits
      let value : Int := if negative then -(n : Int) else n
      if isInt64 value then some (.int value) else none
    else do some (.float (Binary64.withSign negative (← Binary64.ofDigits? digits)))

def isWordChar (c : Char) : Bool := c.isAlphanum || c = '+' || c = '-' || c = '.'

def word? (cs : List Char) : Option Json :=
  if cs = "null".toList then some .null
  else if cs = "true".toList then some (.bool true)
  else if cs = "false".toList then some (.bool false)
  else number? cs

mutual

def value? (fuel : Nat) (cs : List Char) : Option (Json × List Char) :=
  match fuel with
  | 0 => none
  | fuel + 1 => do
    match ← skip cs with
    | '[' :: rest => items? fuel [] rest
    | '\x7b' :: rest => members? fuel [] rest
    | '"' :: rest => (string? '"' [] rest).map fun (s, rest) => (.str s, rest)
    | c :: rest =>
      if c = Text.apostrophe then
        (string? Text.apostrophe [] rest).map fun (s, rest) => (.str s, rest)
      else do
        some (← word? ((c :: rest).takeWhile isWordChar), (c :: rest).dropWhile isWordChar)
    | [] => none

def items? (fuel : Nat) (rev : List Json) (cs : List Char) : Option (Json × List Char) :=
  match fuel with
  | 0 => none
  | fuel + 1 => do
    match ← skip cs with
    | ']' :: rest => some (.arr rev.reverse, rest)
    | cs =>
      let (item, rest) ← value? fuel cs
      match ← skip rest with
      | ',' :: rest => items? fuel (item :: rev) rest
      | ']' :: rest => some (.arr (item :: rev).reverse, rest)
      | _ => none

def members? (fuel : Nat) (rev : List (String × Json)) (cs : List Char) :
    Option (Json × List Char) :=
  match fuel with
  | 0 => none
  | fuel + 1 => do
    match ← skip cs with
    | '\x7d' :: rest => some (.obj rev.reverse, rest)
    | cs =>
      let (key, rest) ← key? cs
      match ← skip rest with
      | ':' :: rest =>
        let (v, rest) ← value? fuel rest
        match ← skip rest with
        | ',' :: rest => members? fuel ((key, v) :: rev) rest
        | '\x7d' :: rest => some (.obj ((key, v) :: rev).reverse, rest)
        | _ => none
      | _ => none

end

def read? (text : String) : Option Json := do
  let cs := text.toList
  let (v, rest) ← value? (cs.length + 1) cs
  if (← skip rest) = [] then some v else none

end GatewaySync.Json5

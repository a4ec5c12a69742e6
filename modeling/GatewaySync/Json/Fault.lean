import GatewaySync.Json.Token
/-!
# Why a text is not JSON

The first fault of a text and the place where it shows. The text is gone through octet by octet, as
columns count octets.
-/
namespace GatewaySync.Json

inductive Fault where
  | endInList
  | endInObject
  | endInString
  | endInValue
  | noColon
  | noListEnd
  | noObjectEnd
  | noLiteral
  | noValue
  | badEscape
  | badNumber
  | outOfRange
  | control
  | badKey
  | loneSurrogate
  | trailingComma
  | trailing
  | openPair
  | tooDeep
  deriving DecidableEq, Repr

def Fault.message : Fault → String
  | endInList => "EOF while parsing a list"
  | endInObject => "EOF while parsing an object"
  | endInString => "EOF while parsing a string"
  | endInValue => "EOF while parsing a value"
  | noColon => "expected `:`"
  | noListEnd => "expected `,` or `]`"
  | noObjectEnd => "expected `,` or `\x7d`"
  | noLiteral => "expected ident"
  | noValue => "expected value"
  | badEscape => "invalid escape"
  | badNumber => "invalid number"
  | outOfRange => "number out of range"
  | control => "control character (\\u0000-\\u001F) found while parsing a string"
  | badKey => "key must be a string"
  | loneSurrogate => "lone leading surrogate in hex escape"
  | trailingComma => "trailing comma"
  | trailing => "trailing characters"
  | openPair => "unexpected end of hex escape"
  | tooDeep => "recursion limit exceeded"

/-- A fault with the count of octets after the place where it shows. -/
structure Stop where
  fault : Fault
  left : Nat
  deriving DecidableEq, Repr

namespace Stop

/-- The octets that are left, or the fault. -/
abbrev Check := Except Stop (List Char)

def before (fault : Fault) (cs : List Char) : Check := .error ⟨fault, cs.length⟩

def shownAt (fault : Fault) (cs : List Char) : Check := .error ⟨fault, cs.length - 1⟩

def skipBlanks (cs : List Char) : List Char := cs.dropWhile isBlank

def literal : List Char → List Char → Check
  | [], cs => .ok cs
  | _ :: _, [] => before .endInValue []
  | expected :: more, c :: rest => if c = expected then literal more rest else before .noLiteral rest

def unit (cs : List Char) : Except Stop (Nat × List Char) :=
  if cs.length < 4 then .error ⟨.endInString, 0⟩
  else
    match Text.numeral? 16 (cs.take 4) with
    | some n => .ok (n, cs.drop 4)
    | none => .error ⟨.badEscape, cs.length - 4⟩

/-- One octet that has to follow the first half of a pair. -/
def pairMark (mark : Char) : List Char → Check
  | [] => before .endInString []
  | c :: rest => if c = mark then .ok rest else before .openPair rest

def escape : List Char → Check
  | [] => before .endInString []
  | 'u' :: rest => do
    let (n, rest) ← unit rest
    if 0xDC00 ≤ n ∧ n < 0xE000 then before .loneSurrogate rest
    else if 0xD800 ≤ n ∧ n < 0xDC00 then do
      let (low, rest) ← unit (← pairMark 'u' (← pairMark '\\' rest))
      if 0xDC00 ≤ low ∧ low < 0xE000 then .ok rest else before .loneSurrogate rest
    else .ok rest
  | c :: rest => if (shortEscape c).isSome then .ok rest else before .badEscape rest

def string (fuel : Nat) (cs : List Char) : Check :=
  match fuel, cs with
  | _, [] => before .endInString []
  | 0, _ => .ok []
  | fuel + 1, c :: rest =>
    if c = '"' then .ok rest
    else if c = '\\' then do string fuel (← escape rest)
    else if c.toNat < 32 then before .control rest
    else string fuel rest

def exponent (cs : List Char) : Check :=
  let digits := match cs with
    | '+' :: rest => rest
    | '-' :: rest => rest
    | cs => cs
  match digits with
  | [] => before .endInValue []
  | c :: rest => if c.isDigit then .ok (rest.dropWhile Char.isDigit) else before .badNumber rest

/-- What may follow the digits of an integer. -/
def fraction (cs : List Char) : Check :=
  let exponent? := fun
    | 'e' :: rest => exponent rest
    | 'E' :: rest => exponent rest
    | cs => .ok cs
  match cs with
  | '.' :: rest =>
    match rest with
    | [] => before .endInValue []
    | c :: _ => if c.isDigit then exponent? (rest.dropWhile Char.isDigit) else shownAt .badNumber rest
  | cs => exponent? cs

/-- A number after its sign. -/
def number (cs : List Char) : Check :=
  match cs with
  | [] => before .endInValue []
  | c :: rest =>
    if c = '0' then if rest.head?.any Char.isDigit then shownAt .badNumber rest else fraction rest
    else if c.isDigit then fraction (rest.dropWhile Char.isDigit)
    else before .badNumber rest

/-- A number, which also has to be one of a finite double. -/
def finiteNumber (cs digits : List Char) : Check := do
  let rest ← number digits
  match wordValue (cs.take (cs.length - rest.length)) with
  | some .unreadable => before .outOfRange rest
  | _ => .ok rest

/-- What stands before the next item of a container: whether there is one, and what is left. -/
def nextItem (close : Char) (atEnd noEnd : Fault) (first : Bool) (cs : List Char) :
    Except Stop (Bool × List Char) :=
  match skipBlanks cs with
  | [] => .error ⟨atEnd, 0⟩
  | c :: rest =>
    if c = close then .ok (false, rest)
    else if first then .ok (true, c :: rest)
    else if c = ',' then
      match skipBlanks rest with
      | [] => .error ⟨.endInValue, 0⟩
      | d :: rest => if d = close then .error ⟨.trailingComma, rest.length⟩ else .ok (true, d :: rest)
    else .error ⟨noEnd, rest.length⟩

/-- The key of a member and the colon after it. -/
def key : List Char → Check
  | '"' :: rest => do
    match skipBlanks (← string rest.length rest) with
    | [] => before .endInObject []
    | c :: rest => if c = ':' then .ok rest else before .noColon rest
  | cs => shownAt .badKey cs

mutual

/-- A value below `depth` more containers. -/
def value (fuel depth : Nat) (cs : List Char) : Check :=
  match fuel with
  | 0 => .ok []
  | fuel + 1 =>
    match skipBlanks cs with
    | [] => before .endInValue []
    | c :: rest =>
      if c = 'n' then literal "ull".toList rest
      else if c = 't' then literal "rue".toList rest
      else if c = 'f' then literal "alse".toList rest
      else if c = '-' then finiteNumber (c :: rest) rest
      else if c.isDigit then finiteNumber (c :: rest) (c :: rest)
      else if c = '"' then string rest.length rest
      else if c = '[' ∨ c = '\x7b' then
        match depth with
        | 0 => before .tooDeep rest
        | depth + 1 => if c = '[' then items fuel depth true rest else members fuel depth true rest
      else before .noValue rest

def items (fuel depth : Nat) (first : Bool) (cs : List Char) : Check :=
  match fuel with
  | 0 => .ok []
  | fuel + 1 => do
    let (more, rest) ← nextItem ']' .endInList .noListEnd first cs
    if more then items fuel depth false (← value fuel depth rest) else .ok rest

def members (fuel depth : Nat) (first : Bool) (cs : List Char) : Check :=
  match fuel with
  | 0 => .ok []
  | fuel + 1 => do
    let (more, rest) ← nextItem '\x7d' .endInObject .noObjectEnd first cs
    if more then members fuel depth false (← value fuel depth (← key rest)) else .ok rest

end

end Stop

def octets (text : String) : List Char := text.toUTF8.toList.map fun b => Char.ofNat b.toNat

/-- The first fault of a text, if it does not hold one value and nothing else. -/
def stop? (text : String) : Option Stop :=
  let cs := octets text
  match Stop.value (2 * cs.length + 2) 127 cs with
  | .error stop => some stop
  | .ok rest =>
    match Stop.skipBlanks rest with
    | [] => none
    | _ :: rest => some ⟨.trailing, rest.length⟩

/-- The message about the first fault of a text, with its line and column. -/
def faultMessage? (text : String) : Option String :=
  (stop? text).map fun stop =>
    let cs := octets text
    let before := cs.take (cs.length - stop.left)
    let column := (before.reverse.takeWhile (· != '\n')).length
    stop.fault.message ++ " at line " ++ toString (before.count '\n' + 1) ++
      " column " ++ toString column

end GatewaySync.Json

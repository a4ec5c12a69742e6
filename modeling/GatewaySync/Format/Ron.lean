import GatewaySync.Json.Basic
import GatewaySync.Number.Decimal
import GatewaySync.Number.Range
import GatewaySync.Text.Blank
/-!
# Reading RON

Structures with named fields and maps both become objects, tuples and lists arrays; names of structures
are dropped, and a bare name or an empty tuple is nothing. Nesting is bounded by the length of the
text, which is the fuel of the reader.
-/
namespace GatewaySync.Ron

/-- The text after the end of block comments that are open to a depth. -/
def afterBlock (depth : Nat) : List Char → Option (List Char)
  | [] => none
  | '/' :: '*' :: rest => afterBlock (depth + 1) rest
  | '*' :: '/' :: rest => if depth = 0 then some rest else afterBlock (depth - 1) rest
  | _ :: rest => afterBlock depth rest

def skip? (fuel : Nat) (cs : List Char) : Option (List Char) :=
  match fuel with
  | 0 => none
  | fuel + 1 =>
    match cs.dropWhile Text.isBlank with
    | '/' :: '/' :: rest => skip? fuel (rest.dropWhile (· != '\n'))
    | '/' :: '*' :: rest => do skip? fuel (← afterBlock 0 rest)
    | rest => some rest

def skip (cs : List Char) : Option (List Char) := skip? (cs.length + 1) cs

def escape? (c : Char) : Option Char :=
  match c with
  | '"' => some '"'
  | '\\' => some '\\'
  | 'n' => some '\n'
  | 'r' => some '\r'
  | 't' => some '\t'
  | '0' => some (Char.ofNat 0)
  | c => if c = Text.apostrophe then some c else none

/-- The rest of a string up to its quote. In an escape by code point, `code` holds the digits so far. -/
def string? (rev : List Char) (code : Option (List Char)) : List Char → Option (String × List Char)
  | [] => none
  | '\\' :: 'x' :: a :: b :: rest =>
    if code.isSome then none else do string? ((← Text.ofHex? [a, b]) :: rev) none rest
  | '\\' :: 'u' :: '\x7b' :: rest => if code.isSome then none else string? rev (some []) rest
  | '\\' :: c :: rest =>
    if code.isSome then none else do string? ((← escape? c) :: rev) none rest
  | c :: rest =>
    match code with
    | some digits =>
      if c = '\x7d' then do
        guard (digits.length ≤ 6)
        string? ((← Text.ofHex? digits.reverse) :: rev) none rest
      else string? rev (some (c :: digits)) rest
    | none =>
      if c = '"' then some (String.ofList rev.reverse, rest) else string? (c :: rev) none rest

/-- The rest of a raw string: up to a quote with as many number signs after it as before. -/
def raw? (signs : Nat) (rev : List Char) : List Char → Option (String × List Char)
  | [] => none
  | c :: rest =>
    if c = '"' ∧ (rest.take signs) = List.replicate signs '#' then
      some (String.ofList rev.reverse, rest.drop signs)
    else raw? signs (c :: rev) rest

def rawString? (cs : List Char) : Option (String × List Char) :=
  match cs.dropWhile (· = '#') with
  | '"' :: rest => raw? (cs.takeWhile (· = '#')).length [] rest
  | _ => none

def character? : List Char → Option (String × List Char)
  | '\\' :: c :: q :: rest => do
    if q = Text.apostrophe then some (String.singleton (← escape? c), rest) else none
  | c :: q :: rest => if q = Text.apostrophe then some (String.singleton c, rest) else none
  | _ => none

def isNameStart (c : Char) : Bool := c.isAlpha || c = '_'

def isNameChar (c : Char) : Bool := c.isAlphanum || c = '_'

def isNumberChar (c : Char) : Bool := c.isAlphanum || c = '_' || c = '.' || c = '+' || c = '-'

/-- An integer; past 63 bits it becomes a double. -/
def integer? (negative : Bool) (base : Nat) (digits : List Char) : Option Json := do
  let n ← Text.numeral? base (digits.filter (· != '_'))
  let value : Int := if negative then -(n : Int) else n
  if isInt64 value then some (.int value)
  else some (.float (Binary64.withSign negative (Binary64.ofNat n)))

def number? (cs : List Char) : Option Json :=
  let (negative, digits) := Binary64.splitSign cs
  match digits with
  | '0' :: 'x' :: hex => integer? negative 16 hex
  | '0' :: 'o' :: octal => integer? negative 8 octal
  | '0' :: 'b' :: bits => integer? negative 2 bits
  | digits =>
    if digits.all (fun c => c.isDigit || c = '_') then integer? negative 10 digits
    else if digits = "inf".toList then some (.float (Binary64.withSign negative Binary64.infinity))
    else if digits = "NaN".toList then some (.float (Binary64.withSign negative Binary64.nan))
    else do
      some (.float (Binary64.withSign negative
        (← Binary64.ofDigits? (digits.filter (· != '_')))))

/-- Whether the text after an opening parenthesis starts with the name of a field. -/
def startsField (cs : List Char) : Bool :=
  match cs with
  | c :: _ =>
    isNameStart c &&
      match skip (cs.dropWhile isNameChar) with
      | some (':' :: _) => true
      | _ => false
  | [] => false

mutual

def value? (fuel : Nat) (cs : List Char) : Option (Json × List Char) :=
  match fuel with
  | 0 => none
  | fuel + 1 => do
    let text := fun (s, rest) => (Json.str s, rest)
    match ← skip cs with
    | '[' :: rest => items? fuel ']' [] rest
    | '\x7b' :: rest => members? fuel '\x7d' [] rest
    | '(' :: ')' :: rest => some (.null, rest)
    | '(' :: rest => body? fuel rest
    | '"' :: rest => (string? [] none rest).map text
    | 'r' :: '"' :: rest => (rawString? ('"' :: rest)).map text
    | 'r' :: '#' :: rest => (rawString? ('#' :: rest)).map text
    | c :: rest =>
      if c = Text.apostrophe then (character? rest).map text
      else if isNameStart c then
        let name := String.ofList ((c :: rest).takeWhile isNameChar)
        named? fuel name ((c :: rest).dropWhile isNameChar)
      else do
        let word := (c :: rest).takeWhile isNumberChar
        some (← number? word, (c :: rest).dropWhile isNumberChar)
    | [] => none

def named? (fuel : Nat) (name : String) (cs : List Char) : Option (Json × List Char) :=
  match fuel with
  | 0 => none
  | fuel + 1 =>
    match name with
    | "true" => some (.bool true, cs)
    | "false" => some (.bool false, cs)
    | "None" => some (.null, cs)
    | "inf" => some (.float Binary64.infinity, cs)
    | "NaN" => some (.float Binary64.nan, cs)
    | "Some" => do
      match ← skip cs with
      | '(' :: rest =>
        let (v, rest) ← value? fuel rest
        match ← skip rest with
        | ')' :: rest => some (v, rest)
        | _ => none
      | _ => none
    | _ => do
      match ← skip cs with
      | '(' :: rest => body? fuel rest
      | rest => some (.null, rest)

def body? (fuel : Nat) (cs : List Char) : Option (Json × List Char) :=
  match fuel with
  | 0 => none
  | fuel + 1 => do
    let cs ← skip cs
    if startsField cs then members? fuel ')' [] cs else items? fuel ')' [] cs

def items? (fuel : Nat) (stop : Char) (rev : List Json) (cs : List Char) :
    Option (Json × List Char) :=
  match fuel with
  | 0 => none
  | fuel + 1 => do
    match ← skip cs with
    | [] => none
    | c :: rest =>
      if c = stop then some (.arr rev.reverse, rest)
      else
        let (item, rest) ← value? fuel (c :: rest)
        match ← skip rest with
        | ',' :: rest => items? fuel stop (item :: rev) rest
        | c :: rest => if c = stop then some (.arr (item :: rev).reverse, rest) else none
        | [] => none

/-- Fields or entries up to the stop; a field's name counts as text. -/
def members? (fuel : Nat) (stop : Char) (rev : List (String × Json)) (cs : List Char) :
    Option (Json × List Char) :=
  match fuel with
  | 0 => none
  | fuel + 1 => do
    match ← skip cs with
    | [] => none
    | c :: rest =>
      if c = stop then some (.obj rev.reverse, rest)
      else
        let (key, rest) ←
          if stop = ')' then
            if isNameStart c then
              some (String.ofList ((c :: rest).takeWhile isNameChar), (c :: rest).dropWhile isNameChar)
            else none
          else
            match ← value? fuel (c :: rest) with
            | (.str key, rest) => some (key, rest)
            | _ => none
        match ← skip rest with
        | ':' :: rest =>
          let (v, rest) ← value? fuel rest
          match ← skip rest with
          | ',' :: rest => members? fuel stop ((key, v) :: rev) rest
          | c :: rest => if c = stop then some (.obj ((key, v) :: rev).reverse, rest) else none
          | [] => none
        | _ => none

end

/-- The text after an attribute that enables extensions, if there is one. -/
def skipAttribute (cs : List Char) : List Char :=
  match cs with
  | '#' :: '!' :: '[' :: rest => (rest.dropWhile (· != ']')).drop 1
  | cs => cs

def read? (text : String) : Option Json := do
  let cs := skipAttribute (← skip text.toList)
  let (v, rest) ← value? (2 * cs.length + 2) cs
  if (← skip rest) = [] then some v else none

end GatewaySync.Ron

import GatewaySync.Format.TomlTable
import GatewaySync.Number.Decimal
import GatewaySync.Number.Range
/-!
# Reading TOML

A document is a sequence of assignments and headers, one a line. Dates and times are read as text.
Nesting is bounded by the length of the document, which is the fuel of the reader.
-/
namespace GatewaySync.Toml

def isBlank (c : Char) : Bool := c = ' ' || c = '\t'

/-- A control character that may not stand in a text or a comment. -/
def isControl (c : Char) : Bool := (c.toNat < 32 && c != '\t') || c.toNat = 127

def skipBlanks (cs : List Char) : List Char := cs.dropWhile isBlank

/-- The rest after a line end, which a carriage return may start. -/
def lineEnd? : List Char → Option (List Char)
  | '\n' :: rest => some rest
  | '\r' :: '\n' :: rest => some rest
  | _ => none

def skipComment (cs : List Char) : Option (List Char) :=
  match skipBlanks cs with
  | '#' :: rest =>
    let after := rest.dropWhile fun c => !isControl c
    if after = [] ∨ (lineEnd? after).isSome then some after else none
  | rest => some rest

def skipLines (fuel : Nat) (cs : List Char) : Option (List Char) :=
  match fuel with
  | 0 => none
  | fuel + 1 => do
    let cs ← skipComment cs
    match lineEnd? cs with
    | some rest => skipLines fuel rest
    | none => some cs

def escape? (c : Char) : Option Char :=
  match c with
  | 'b' => some (Char.ofNat 8)
  | 't' => some '\t'
  | 'n' => some '\n'
  | 'f' => some (Char.ofNat 12)
  | 'r' => some '\r'
  | '"' => some '"'
  | '\\' => some '\\'
  | _ => none

/-- The rest of a basic string, its characters so far in reverse. -/
def basic (rev : List Char) : List Char → Option (String × List Char)
  | [] => none
  | '"' :: rest => some (String.ofList rev.reverse, rest)
  | '\\' :: 'u' :: a :: b :: c :: d :: rest => do
    basic ((← Text.ofHex? [a, b, c, d]) :: rev) rest
  | '\\' :: 'U' :: a :: b :: c :: d :: e :: f :: g :: h :: rest => do
    basic ((← Text.ofHex? [a, b, c, d, e, f, g, h]) :: rev) rest
  | '\\' :: c :: rest => do basic ((← escape? c) :: rev) rest
  | c :: rest => if isControl c then none else basic (c :: rev) rest

def literal (rev : List Char) : List Char → Option (String × List Char)
  | [] => none
  | c :: rest =>
    if c = Text.apostrophe then some (String.ofList rev.reverse, rest)
    else if isControl c then none
    else literal (c :: rev) rest

/-- At three quotes: up to two more belong to the text. -/
def closing (quote : Char) (rev : List Char) (cs : List Char) : Option (String × List Char) :=
  let extra := min 2 (cs.takeWhile (· = quote)).length
  some (String.ofList (rev.reverse ++ List.replicate extra quote), cs.drop extra)

/-- Whether a backslash before the text ends the line, so that blanks up to the next text go. -/
def endsLine (cs : List Char) : Bool := (lineEnd? (skipBlanks cs)).isSome

/-- The rest of a string over several lines; `trimming` while blanks are dropped. -/
def multiBasic (trimming : Bool) (rev : List Char) : List Char → Option (String × List Char)
  | [] => none
  | '"' :: '"' :: '"' :: rest => closing '"' rev rest
  | '\\' :: 'u' :: a :: b :: c :: d :: rest => do
    multiBasic false ((← Text.ofHex? [a, b, c, d]) :: rev) rest
  | '\\' :: 'U' :: a :: b :: c :: d :: e :: f :: g :: h :: rest => do
    multiBasic false ((← Text.ofHex? [a, b, c, d, e, f, g, h]) :: rev) rest
  | '\\' :: c :: rest =>
    if endsLine (c :: rest) then multiBasic true rev rest
    else do multiBasic false ((← escape? c) :: rev) rest
  | '\r' :: '\n' :: rest => multiBasic trimming (if trimming then rev else '\n' :: rev) rest
  | c :: rest =>
    if trimming ∧ (isBlank c ∨ c = '\n') then multiBasic true rev rest
    else if isControl c ∧ c ≠ '\n' then none
    else multiBasic false (c :: rev) rest

def multiLiteral (rev : List Char) : List Char → Option (String × List Char)
  | a :: b :: c :: rest =>
    if [a, b, c].all (· = Text.apostrophe) then closing Text.apostrophe rev rest
    else if a = '\r' ∧ b = '\n' then multiLiteral ('\n' :: rev) (c :: rest)
    else if isControl a ∧ a ≠ '\n' then none
    else multiLiteral (a :: rev) (b :: c :: rest)
  | _ => none

def withoutFirstLineEnd (cs : List Char) : List Char := (lineEnd? cs).getD cs

def string? (cs : List Char) : Option (String × List Char) :=
  match cs with
  | '"' :: '"' :: '"' :: rest => multiBasic false [] (withoutFirstLineEnd rest)
  | '"' :: rest => basic [] rest
  | c :: rest =>
    if c = Text.apostrophe then
      if rest.take 2 = [Text.apostrophe, Text.apostrophe] then multiLiteral [] (withoutFirstLineEnd (rest.drop 2))
      else literal [] rest
    else none
  | [] => none

def isBare (c : Char) : Bool := c.isAlphanum || c = '_' || c = '-'

def keyPart? (cs : List Char) : Option (String × List Char) :=
  match cs with
  | '"' :: rest => basic [] rest
  | c :: rest =>
    if c = Text.apostrophe then literal [] rest
    else
      let part := cs.takeWhile isBare
      if part = [] then none else some (String.ofList part, cs.dropWhile isBare)
  | [] => none

/-- A key of parts with points between them, and the text after blanks that follow. -/
def key? (fuel : Nat) (cs : List Char) : Option (List String × List Char) :=
  match fuel with
  | 0 => none
  | fuel + 1 => do
    let (part, rest) ← keyPart? (skipBlanks cs)
    match skipBlanks rest with
    | '.' :: rest => do
      let (more, rest) ← key? fuel rest
      some (part :: more, rest)
    | rest => some ([part], rest)

/-- An integer in a base that is named by its letter. -/
def basedInteger? (base : Nat) (digits : List Char) : Option Json := do
  let n ← Text.numeral? base (← Text.withoutUnderscores base digits)
  if n < wordCount 63 then some (.int n) else none

def isCanonical (digits : List Char) : Bool := digits.length ≤ 1 || digits.head? != some '0'

def decimalInteger? (negative : Bool) (digits : List Char) : Option Json := do
  guard (isCanonical digits)
  let n ← Text.numeral? 10 digits
  let value : Int := if negative then -(n : Int) else n
  if isInt64 value then some (.int value) else none

def pointsInside (cs : List Char) : Bool :=
  let whole := cs.takeWhile Char.isDigit
  whole != [] && isCanonical whole &&
    match cs.dropWhile Char.isDigit with
    | '.' :: d :: _ => d.isDigit
    | '.' :: [] => false
    | _ => true

def number? (negative : Bool) (cs : List Char) : Option Json :=
  if cs = "inf".toList then some (.float (Binary64.withSign negative Binary64.infinity))
  else if cs = "nan".toList then some (.float (Binary64.withSign negative Binary64.nan))
  else do
    let digits ← Text.withoutUnderscores 10 cs
    if digits.all Char.isDigit then decimalInteger? negative digits
    else do
      guard (pointsInside digits)
      some (.float (Binary64.withSign negative (← Binary64.ofDigits? digits)))

/-- A number within bounds, of the given count of digits. -/
def inRange (low high count : Nat) (cs : List Char) : Bool :=
  cs.length = count && ((Text.numeral? 10 cs).map fun n => decide (low ≤ n ∧ n ≤ high)).getD false

def isLeap (y : Nat) : Bool := (y % 4 = 0 && y % 100 != 0) || y % 400 = 0

def daysIn (y m : Nat) : Nat :=
  if m = 2 then (if isLeap y then 29 else 28)
  else if m = 4 ∨ m = 6 ∨ m = 9 ∨ m = 11 then 30 else 31

/-- Ten characters of the form `2000-12-31`. -/
def isDate (cs : List Char) : Bool :=
  cs.length = 10 && cs[4]? = some '-' && cs[7]? = some '-' && inRange 0 9999 4 (cs.take 4) &&
    inRange 1 12 2 ((cs.drop 5).take 2) &&
    inRange 1 (daysIn ((Text.numeral? 10 (cs.take 4)).getD 0)
      ((Text.numeral? 10 ((cs.drop 5).take 2)).getD 0)) 2 (cs.drop 8)

/-- Eight characters of the form `23:59:60`. -/
def isClock (cs : List Char) : Bool :=
  cs.length = 8 && cs[2]? = some ':' && cs[5]? = some ':' && inRange 0 23 2 (cs.take 2) &&
    inRange 0 59 2 ((cs.drop 3).take 2) && inRange 0 60 2 (cs.drop 6)

/-- The fraction of a second as it is written back: at most nine digits, no zeros at the end. -/
def fractionText (digits : List Char) : List Char :=
  let kept := ((digits.take 9).reverse.dropWhile (· = '0')).reverse
  if digits.all (· = '0') then ['.', '0'] else '.' :: kept

def time? (cs : List Char) : Option (List Char × List Char) :=
  if isClock (cs.take 8) then
    match cs.drop 8 with
    | '.' :: rest =>
      let digits := rest.takeWhile Char.isDigit
      if digits = [] then none
      else some (cs.take 8 ++ fractionText digits, rest.dropWhile Char.isDigit)
    | rest => some (cs.take 8, rest)
  else none

def offset? : List Char → Option (List Char)
  | [] => some []
  | ['Z'] => some ['Z']
  | ['z'] => some ['Z']
  | sign :: a :: b :: ':' :: c :: d :: [] =>
    if (sign = '+' ∨ sign = '-') ∧ inRange 0 23 2 [a, b] ∧ inRange 0 59 2 [c, d] then
      some [sign, a, b, ':', c, d]
    else none
  | _ => none

def moment? (cs : List Char) : Option Json :=
  if isDate (cs.take 10) then
    match cs.drop 10 with
    | [] => some (.str (String.ofList cs))
    | mark :: rest => do
      guard (mark = 'T' ∨ mark = 't' ∨ mark = ' ')
      let (time, rest) ← time? rest
      some (.str (String.ofList (cs.take 10 ++ 'T' :: time ++ (← offset? rest))))
  else do
    let (time, rest) ← time? cs
    if rest = [] then some (.str (String.ofList time)) else none

def isWordChar (c : Char) : Bool := isBare c || c = '+' || c = '.' || c = ':'

/-- The word at the front. A date takes the time in that follows it after a blank. -/
def word (cs : List Char) : List Char × List Char :=
  let first := cs.takeWhile isWordChar
  let rest := cs.dropWhile isWordChar
  match rest with
  | ' ' :: a :: b :: ':' :: more =>
    if isDate first ∧ a.isDigit ∧ b.isDigit then
      let time := a :: b :: ':' :: more
      (first ++ ' ' :: time.takeWhile isWordChar, time.dropWhile isWordChar)
    else (first, rest)
  | _ => (first, rest)

def wordValue? (cs : List Char) : Option Json :=
  match cs with
  | '0' :: 'x' :: digits => basedInteger? 16 digits
  | '0' :: 'o' :: digits => basedInteger? 8 digits
  | '0' :: 'b' :: digits => basedInteger? 2 digits
  | '+' :: digits => number? false digits
  | '-' :: digits => number? true digits
  | cs =>
    if cs = "true".toList then some (.bool true)
    else if cs = "false".toList then some (.bool false)
    else (moment? cs).or (number? false cs)

mutual

def value? (fuel : Nat) (cs : List Char) : Option (Json × List Char) :=
  match fuel with
  | 0 => none
  | fuel + 1 =>
    match cs with
    | '[' :: rest => items? fuel [] rest
    | '\x7b' :: rest =>
      match skipBlanks rest with
      | '\x7d' :: rest => some (.obj [], rest)
      | rest => members? fuel [] rest
    | '"' :: _ => (string? cs).map fun (s, rest) => (.str s, rest)
    | c :: _ =>
      if c = Text.apostrophe then (string? cs).map fun (s, rest) => (.str s, rest)
      else do
        let (w, rest) := word cs
        some (← wordValue? w, rest)
    | [] => none

def items? (fuel : Nat) (rev : List Json) (cs : List Char) : Option (Json × List Char) :=
  match fuel with
  | 0 => none
  | fuel + 1 => do
    match ← skipLines (cs.length + 1) cs with
    | ']' :: rest => some (.arr rev.reverse, rest)
    | cs =>
      let (item, rest) ← value? fuel cs
      match ← skipLines (rest.length + 1) rest with
      | ',' :: rest => items? fuel (item :: rev) rest
      | ']' :: rest => some (.arr (item :: rev).reverse, rest)
      | _ => none

/-- The members of an inline table, all on one line. -/
def members? (fuel : Nat) (entries : Entries) (cs : List Char) : Option (Json × List Char) :=
  match fuel with
  | 0 => none
  | fuel + 1 => do
    let (path, rest) ← key? (cs.length + 1) cs
    match rest with
    | '=' :: rest =>
      let (v, rest) ← value? fuel (skipBlanks rest)
      let entries ← entries.assign v path
      match skipBlanks rest with
      | ',' :: rest => members? fuel entries rest
      | '\x7d' :: rest => some (.obj (Entries.toMembers entries), rest)
      | _ => none
    | _ => none

end

/-- The header of a table, after its first bracket: the path and whether it opens an array. -/
def header? (cs : List Char) : Option (List String × Bool × List Char) :=
  match cs with
  | '[' :: rest => do
    match ← key? (rest.length + 1) rest with
    | (path, ']' :: ']' :: rest) => some (path, true, rest)
    | _ => none
  | rest => do
    match ← key? (rest.length + 1) rest with
    | (path, ']' :: rest) => some (path, false, rest)
    | _ => none

def enter (root : Entries) (path : List String) (isItem : Bool) : Option Entries := do
  let last ← path.getLast?
  let opened := if isItem then Entries.openItem last else Entries.openTable last
  root.descend opened path.dropLast

/-- The document from the start of a line, under the header that was read last. -/
def lines? (fuel : Nat) (header : List String) (root : Entries) (cs : List Char) : Option Entries :=
  match fuel with
  | 0 => none
  | fuel + 1 => do
    let ended := fun (root : Entries) (header : List String) (rest : List Char) => do
      match ← skipComment rest with
      | [] => some root
      | rest => lines? fuel header root (← lineEnd? rest)
    match ← skipLines (cs.length + 1) cs with
    | [] => some root
    | '[' :: rest =>
      let (path, isItem, rest) ← header? rest
      ended (← enter root path isItem) path rest
    | cs =>
      let (path, rest) ← key? (cs.length + 1) cs
      match rest with
      | '=' :: rest =>
        let (v, rest) ← value? (rest.length + 1) (skipBlanks rest)
        ended (← root.descend (Entries.assign v path) header) header rest
      | _ => none

def read? (text : String) : Option Json :=
  let cs := text.toList
  (lines? (cs.length + 2) [] [] cs).map fun entries => .obj (Entries.toMembers entries)

end GatewaySync.Toml

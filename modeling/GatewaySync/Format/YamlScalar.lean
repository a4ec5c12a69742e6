import GatewaySync.Json.Basic
import GatewaySync.Number.Decimal
import GatewaySync.Number.Range
import GatewaySync.Text.Blank
/-!
# Scalars of YAML

What a plain scalar means, and how the lines of quoted and block scalars are put together.
-/
namespace GatewaySync.Yaml

def isBlank (c : Char) : Bool := c = ' ' || c = '\t'

def isBreak (c : Char) : Bool := c = '\n' || c = '\r'

def atGap : List Char → Bool
  | [] => true
  | c :: _ => isBlank c || isBreak c

def isFlowMark (c : Char) : Bool := c = ',' || c = '[' || c = ']' || c = '\x7b' || c = '\x7d'

def afterBreak? : List Char → Option (List Char)
  | '\r' :: '\n' :: rest => some rest
  | c :: rest => if isBreak c then some rest else none
  | [] => none

def integer? (cs : List Char) : Option Json := do
  let (negative, digits) := Binary64.splitSign cs
  guard (digits.all Char.isDigit)
  let n ← Text.numeral? 10 digits
  let value : Int := if negative then -(n : Int) else n
  if isInt64 value then some (.int value) else none

def basedInteger? (cs : List Char) : Option Json := do
  let n ← match cs with
    | '0' :: 'x' :: digits => Text.numeral? 16 digits
    | '0' :: 'o' :: digits => Text.numeral? 8 digits
    | _ => none
  if n < wordCount 63 then some (.int n) else none

/-- The names of infinity and of what is not a number, which are recognised and have no value. -/
def numberNames : List String :=
  [".inf", ".Inf", ".INF", "+.inf", "+.Inf", "+.INF", "-.inf", "-.Inf", "-.INF", ".nan", ".NAN"]

/-- The value of a plain scalar; `none` for a number that has none. -/
def resolve (text : String) : Option Json :=
  let cs := text.toList
  if text = "~" ∨ text = "null" then some .null
  else if text = "true" then some (.bool true)
  else if text = "false" then some (.bool false)
  else if numberNames.contains text then none
  else some (((basedInteger? cs).or (integer? cs)).getD
    (((Binary64.ofText? cs).map Json.float).getD (.str text)))

/-- The value of a plain scalar under a tag. A text that does not fit the tag is nothing. -/
def resolveAs (tag text : String) : Option Json :=
  match tag with
  | "!!bool" => some (if text = "true" then .bool true else if text = "false" then .bool false else .null)
  | "!!int" => some ((integer? text.toList).getD .null)
  | "!!float" =>
    if numberNames.contains text then none
    else some (((Binary64.ofText? text.toList).map Json.float).getD .null)
  | "!!null" => some .null
  | _ => some (.str text)

/-- What line ends between two pieces of a scalar become: a single one a blank, more of them one less. -/
def folded (breaks : Nat) : List Char :=
  if breaks ≤ 1 then [' '] else List.replicate (breaks - 1) '\n'

/-- The line ends in front of the text with the blanks around them, and the rest. -/
def takeBreaks (fuel : Nat) (breaks : Nat) (cs : List Char) : Nat × List Char :=
  match fuel with
  | 0 => (breaks, cs)
  | fuel + 1 =>
    match afterBreak? (cs.dropWhile isBlank) with
    | some rest => takeBreaks fuel (breaks + 1) rest
    | none => (breaks, if breaks = 0 then cs else cs.dropWhile isBlank)

def escape? (c : Char) : Option Char :=
  match c with
  | '0' => some (Char.ofNat 0)
  | 'a' => some (Char.ofNat 7)
  | 'b' => some (Char.ofNat 8)
  | 't' => some '\t'
  | '\t' => some '\t'
  | 'n' => some '\n'
  | 'v' => some (Char.ofNat 11)
  | 'f' => some (Char.ofNat 12)
  | 'r' => some '\r'
  | 'e' => some (Char.ofNat 27)
  | ' ' => some ' '
  | '"' => some '"'
  | '/' => some '/'
  | '\\' => some '\\'
  | 'N' => some (Char.ofNat 0x85)
  | '_' => some (Char.ofNat 0xA0)
  | 'L' => some (Char.ofNat 0x2028)
  | 'P' => some (Char.ofNat 0x2029)
  | c => if c = Text.apostrophe then some c else none

/-- The rest of a single-quoted scalar, its characters so far in reverse. -/
def single? (fuel : Nat) (rev : List Char) (cs : List Char) : Option (String × List Char) :=
  match fuel with
  | 0 => none
  | fuel + 1 =>
    match cs with
    | [] => none
    | c :: rest =>
      if c = Text.apostrophe then
        if rest.head? = some Text.apostrophe then single? fuel (c :: rev) (rest.drop 1)
        else some (String.ofList rev.reverse, rest)
      else
        match takeBreaks cs.length 0 cs with
        | (0, _) => single? fuel (c :: rev) rest
        | (breaks, rest) => single? fuel ((folded breaks).reverse ++ rev) rest

def double? (fuel : Nat) (rev : List Char) (cs : List Char) : Option (String × List Char) :=
  match fuel with
  | 0 => none
  | fuel + 1 =>
    match cs with
    | [] => none
    | '"' :: rest => some (String.ofList rev.reverse, rest)
    | '\\' :: 'x' :: a :: b :: rest => do double? fuel ((← Text.ofHex? [a, b]) :: rev) rest
    | '\\' :: 'u' :: a :: b :: c :: d :: rest => do
      double? fuel ((← Text.ofHex? [a, b, c, d]) :: rev) rest
    | '\\' :: 'U' :: a :: b :: c :: d :: e :: f :: g :: h :: rest => do
      double? fuel ((← Text.ofHex? [a, b, c, d, e, f, g, h]) :: rev) rest
    | '\\' :: c :: rest =>
      match takeBreaks cs.length 0 (c :: rest) with
      | (0, _) => do double? fuel ((← escape? c) :: rev) rest
      | (breaks, rest) => double? fuel (List.replicate (breaks - 1) '\n' ++ rev) rest
    | c :: rest =>
      match takeBreaks cs.length 0 cs with
      | (0, _) => double? fuel (c :: rev) rest
      | (breaks, rest) => double? fuel ((folded breaks).reverse ++ rev) rest

/-- What becomes of the line ends after a block scalar. -/
inductive Chomping where
  | strip
  | clip
  | keep
  deriving DecidableEq, Repr

/-- The lines of a block scalar put together: those that are not indented further are joined with
blanks if `folding`. `pending` tells that the text so far ends in a line end not yet written, `breaks`
counts the empty lines after it, `deeper` whether the last line was indented further. -/
def joinLines (folding : Bool) (chomping : Chomping) :
    List (List Char) → List Char → Bool → Nat → Bool → List Char
  | [], text, pending, breaks, _ =>
    text ++ (if pending ∧ chomping ≠ .strip then ['\n'] else []) ++
      (if chomping = .keep then List.replicate breaks '\n' else [])
  | [] :: rest, text, pending, breaks, deeper =>
    joinLines folding chomping rest text pending (breaks + 1) deeper
  | line :: rest, text, pending, breaks, deeper =>
    let isDeeper := (line.head?.map isBlank).getD false
    let gap :=
      if folding ∧ pending ∧ ¬ deeper ∧ ¬ isDeeper then (if breaks = 0 then [' '] else [])
      else if pending then ['\n'] else []
    joinLines folding chomping rest (text ++ gap ++ List.replicate breaks '\n' ++ line) true 0 isDeeper

end GatewaySync.Yaml

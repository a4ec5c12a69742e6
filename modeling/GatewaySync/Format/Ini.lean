import GatewaySync.Json.Basic
import GatewaySync.Text.Blank
import GatewaySync.Text.Digits
/-!
# Reading INI

Lines assign texts to keys, in a section or before the first. A comment starts at the first column. A
value may be quoted, and a backslash escapes. A key extends to its separator, over lines if need be.
-/
namespace GatewaySync.Ini

/-- The place in the text: whether a line starts here, and what is left. -/
structure Cursor where
  lineStart : Bool
  rest : List Char

def Cursor.after (taken rest : List Char) : Cursor := ⟨taken.getLast? = some '\n', rest⟩

def skipBlanks (c : Cursor) : Cursor :=
  let taken := c.rest.takeWhile Text.isBlank
  if taken = [] then c else Cursor.after taken (c.rest.dropWhile Text.isBlank)

def skipInLine (cs : List Char) : List Char :=
  cs.dropWhile fun c => Text.isBlank c && c != '\n' && c != '\r'

/-- The character that a backslash and the given one stand for; a line end stands for nothing. -/
def escape (c : Char) : List Char :=
  match c with
  | '0' => [Char.ofNat 0]
  | 'a' => [Char.ofNat 7]
  | 'b' => [Char.ofNat 8]
  | 't' => ['\t']
  | 'r' => ['\r']
  | 'n' => ['\n']
  | '\n' => []
  | c => [c]

/-- The text up to one of the stops, escapes resolved, and what is left from the stop on. Without a
stop the end of the text stops only where `toEnd` says so. -/
def upTo? (stops : List Char) (toEnd : Bool) (rev : List Char) : List Char → Option (List Char × List Char)
  | [] => if toEnd then some (rev.reverse, []) else none
  | '\\' :: 'x' :: a :: b :: c :: d :: rest => do
    upTo? stops toEnd ((← Text.ofHex? [a, b, c, d]) :: rev) rest
  | '\\' :: c :: rest => if c = 'x' then none else upTo? stops toEnd (escape c ++ rev) rest
  | c :: rest =>
    if stops.contains c then some (rev.reverse, c :: rest)
    else if c = '\\' then none
    else upTo? stops toEnd (c :: rev) rest

/-- A value from its start: quoted parts, then plain text to the end of the line. -/
def value? (fuel : Nat) (first : Bool) (sofar : List Char) (cs : List Char) :
    Option (List Char × List Char) :=
  match fuel with
  | 0 => none
  | fuel + 1 =>
    match cs with
    | [] => some (sofar, [])
    | c :: rest =>
      if c = '"' ∨ c = Text.apostrophe then do
        let (part, rest) ← upTo? [c] false [] rest
        value? fuel false (sofar ++ part) (rest.drop 1)
      else do
        let (part, rest) ← upTo? ['\n', '\r'] true [] cs
        some (sofar ++ (if first then Text.trim part else Text.trimEnd part), rest)

/-- What was read so far: the keys before the first section, and the sections in order. -/
structure Document where
  general : List (String × Json)
  sections : List (String × List (String × Json))

def Document.assign (d : Document) (key value : String) : Document :=
  match d.sections.reverse with
  | [] => { d with general := d.general ++ [(key, .str value)] }
  | (name, members) :: earlier =>
    { d with sections := (((name, members ++ [(key, .str value)]) :: earlier).reverse) }

def Document.toJson (d : Document) : Json :=
  .obj (d.general ++ d.sections.map fun (name, members) => (name, .obj members))

/-- Reads on from a place; `key` is the key whose separator comes next. -/
def lines? (fuel : Nat) (key : List Char) (d : Document) (c : Cursor) : Option Document :=
  match fuel with
  | 0 => none
  | fuel + 1 =>
    let c := skipBlanks c
    match c.rest with
    | [] => some d
    | first :: rest =>
      if first = ';' ∨ first = '#' then
        if c.lineStart then
          let after := rest.dropWhile (· != '\n')
          lines? fuel key d ⟨true, after.drop 1⟩
        else none
      else if first = '[' then do
        let (name, rest) ← upTo? [']'] false [] rest
        let name := String.ofList (Text.trim name)
        lines? fuel key { d with sections := d.sections ++ [(name, [])] } ⟨false, rest.drop 1⟩
      else if first = '=' ∨ first = ':' then
        if key = [] then none
        else do
          let (value, rest) ← value? (rest.length + 2) true [] (skipInLine rest)
          lines? fuel [] (d.assign (String.ofList key) (String.ofList value)) ⟨false, rest⟩
      else do
        let (name, rest) ← upTo? ['=', ':'] false [] c.rest
        lines? fuel (Text.trim name) d ⟨false, rest⟩

/-- Reads a document; of sections with the same name the last counts. -/
def read? (text : String) : Option Json :=
  let cs := text.toList
  (lines? (2 * cs.length + 2) [] ⟨[], []⟩ ⟨true, cs⟩).map Document.toJson

end GatewaySync.Ini

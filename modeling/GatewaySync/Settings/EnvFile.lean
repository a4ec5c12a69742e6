import GatewaySync.Settings.FileTree
import GatewaySync.Text.Alphanumeric
import GatewaySync.Text.Digits
/-!
# Variables from a file

The file `.env` of the current directory, or of the nearest directory above it, adds to the environment.
Each line names a variable and its value, which may be quoted and may refer to other variables. A
variable that is set already keeps its value, and the first line that is not of this form ends the file.
-/
namespace GatewaySync.EnvFile

inductive Quoting where
  | bare
  | double
  deriving DecidableEq, Repr

inductive Stage where
  | text (quoting : Quoting)
  | single
  | escape (quoting : Quoting)
  /-- In a name after a dollar sign, of which these characters were read. -/
  | reference (quoting : Quoting) (name : List Char)
  | braced (quoting : Quoting) (name : List Char)
  /-- After a blank that ends the value. -/
  | ended
  deriving DecidableEq, Repr

def escaped? (c : Char) : Option Char :=
  if c = 'n' then some '\n'
  else if ['\\', Text.apostrophe, '"', '$', ' '].contains c then some c
  else none

def Stage.step (valueOf : String → String) : Stage → Char → Option (Stage × List Char)
  | text q, c =>
    if c = '$' then some (reference q [], [])
    else if c = '\\' then some (escape q, [])
    else if c = '"' then some (text (if q = .bare then .double else .bare), [])
    else if q = .double then some (text q, [c])
    else if c = Text.apostrophe then some (single, [])
    else if c = ' ' ∨ c = '\t' then some (ended, [])
    else some (text q, [c])
  | single, c => if c = Text.apostrophe then some (text .bare, []) else some (single, [c])
  | escape q, c => (escaped? c).map fun c => (text q, [c])
  | reference q name, c =>
    if Text.isAlphanumeric c then some (reference q (name ++ [c]), [])
    else if c = '\x7b' ∧ name = [] then some (braced q [], [])
    else
      let value := (valueOf (String.ofList name)).toList
      if c = '$' then some (reference q [], value) else some (text q, value ++ [c])
  | braced q name, c =>
    if c = '\x7d' then some (text q, (valueOf (String.ofList name)).toList)
    else some (braced q (name ++ [c]), [])
  | ended, c => if c = ' ' ∨ c = '\t' then some (ended, []) else none

/-- What the end of the line adds to the value, unless something is still open. -/
def Stage.finish? (valueOf : String → String) : Stage → Option (List Char)
  | text .bare => some []
  | escape .bare => some []
  | ended => some []
  | reference .bare name => some (valueOf (String.ofList name)).toList
  | _ => none

/-- The value that the rest of a line writes. After a blank only a comment may follow. -/
def valueFrom? (valueOf : String → String) : Stage → List Char → Option (List Char)
  | stage, [] => stage.finish? valueOf
  | stage, c :: rest =>
    if stage = .ended ∧ c = '#' then some []
    else do
      let (next, added) ← stage.step valueOf c
      return added ++ (← valueFrom? valueOf next rest)

def isKeyStart (c : Char) : Bool := c.isAlpha || c = '_'

def isKeyChar (c : Char) : Bool := c.isAlphanum || c = '_' || c = '.'

def key? (cs : List Char) : Option (List Char × List Char) :=
  if cs.head?.any isKeyStart then some (cs.takeWhile isKeyChar, cs.dropWhile isKeyChar) else none

def isIdle (cs : List Char) : Bool := cs = [] || cs.head? = some '#'

/-- What a line without blanks at its ends says: the name, and the text behind the equals sign. The word
`export` may stand before the name. -/
def assignment? (cs : List Char) : Option (List Char × List Char) := do
  let (key, rest) ← key? cs
  match Text.trimStart rest with
  | '=' :: value => some (key, Text.trimStart value)
  | rest =>
    if key = "export".toList then do
      let (key, rest) ← key? rest
      match Text.trimStart rest with
      | '=' :: value => some (key, Text.trimStart value)
      | _ => none
    else none

def addLines (environment : List (String × String)) : List (List Char) → List (String × String)
  | [] => environment
  | line :: rest =>
    let line := Text.trim line
    if isIdle line then addLines environment rest
    else
      let valueOf := fun name => (environment.lookup name).getD ""
      let entry? := do
        let (key, text) ← assignment? line
        let value ← if isIdle text then some [] else valueFrom? valueOf (.text .bare) text
        return (String.ofList key, String.ofList value)
      match entry? with
      | none => environment
      | some (key, value) =>
        addLines (if (environment.lookup key).isSome then environment else environment ++ [(key, value)])
          rest

def extend (environment : List (String × String)) (text : String) : List (String × String) :=
  addLines environment (Text.splitOn '\n' text.toList)

/-- The environment with the variables of the tree's file for them. -/
def apply (t : FileTree) (environment : List (String × String)) : List (String × String) :=
  match t.nearest? ".env" with
  | some text => extend environment text
  | none => environment

end GatewaySync.EnvFile

import GatewaySync.Text.Blank
/-!
# Switches on a command line

A command has switches with a long name and perhaps a letter; some take a value. Words are gone through
in order, up to the word that names a subcommand. The value of a switch is checked late: when the next
switch is entered or the command line ends, so a word that is not known is reported before it.
-/
namespace GatewaySync.CommandLine

inductive Topic where
  | program
  | run
  | info
  | help
  deriving DecidableEq, Repr

/-- Why a command line is not carried out. The first two are what the user asked for. -/
inductive UsageError where
  | help (topic : Topic)
  | version (topic : Topic)
  | nothingGiven
  | noCommand
  | unknownCommand
  | unknownArgument
  /-- A value is missing, or empty where it may not be. -/
  | noValue
  | badValue
  | repeated
  | needlessValue
  deriving DecidableEq, Repr

inductive Role where
  | flag
  /-- A switch with a value, which help texts call by a name. -/
  | valued (name : String)
  | help (topic : Topic)
  | version (topic : Topic)
  deriving DecidableEq, Repr

def Role.takesValue : Role → Bool
  | valued _ => true
  | _ => false

structure Switch where
  long : String
  letter : Option Char
  role : Role
  about : String
  check : String → Except UsageError Unit := fun _ => .ok ()

structure Command where
  topic : Topic
  about : String
  ownSwitches : List Switch
  subcommands : List String

namespace Command

/-- All switches of a command; help and version are among those of every command. -/
def switches (c : Command) : List Switch :=
  c.ownSwitches ++ [
    { long := "help", letter := some 'h', role := .help c.topic, about := "Print help" },
    { long := "version", letter := some 'V', role := .version c.topic, about := "Print version" }]

def withLong? (c : Command) (long : String) : Option Switch := c.switches.find? (·.long = long)

def withLetter? (c : Command) (letter : Char) : Option Switch :=
  c.switches.find? (·.letter = some letter)

end Command

/-- What was read of a command: the switches with their values, and the one whose value is not checked
yet or still to come. -/
structure Progress where
  given : List (String × String)
  pending : Option (Switch × Option String)

namespace Progress

def start : Progress := ⟨[], none⟩

def isGiven (p : Progress) (long : String) : Bool := p.given.any (·.1 = long)

def value? (p : Progress) (long : String) : Option String := p.given.lookup long

def enter (p : Progress) (s : Switch) (value : String) : Except UsageError Progress := do
  if p.isGiven s.long then throw .repeated
  s.check value
  return ⟨p.given ++ [(s.long, value)], none⟩

def settle (p : Progress) : Except UsageError Progress :=
  match p.pending with
  | none => .ok p
  | some (_, none) => .error .noValue
  | some (s, some value) => enter ⟨p.given, none⟩ s value

def enterBare (p : Progress) (s : Switch) : Except UsageError Progress := do
  let p ← p.settle
  match s.role with
  | .help topic => throw (.help topic)
  | .version topic => throw (.version topic)
  | .flag => p.enter s ""
  | .valued _ => return ⟨p.given, some (s, none)⟩

def enterAttached (p : Progress) (s : Switch) (value : String) : Except UsageError Progress := do
  let p ← p.settle
  p.enter s value

def longWord (c : Command) (p : Progress) (cs : List Char) : Except UsageError Progress :=
  let (long, attached) := match Text.splitOnce '=' cs with
    | some (long, value) => (long, some (String.ofList value))
    | none => (cs, none)
  match c.withLong? (String.ofList long), attached with
  | none, _ => .error .unknownArgument
  | some s, none => p.enterBare s
  | some s, some value => if s.role.takesValue then p.enterAttached s value else .error .needlessValue

/-- The letters of a word that starts with one hyphen. What follows the letter of a switch with a value
is the value. -/
def letters (c : Command) (p : Progress) : List Char → Except UsageError Progress
  | [] => .ok p
  | letter :: rest =>
    match c.withLetter? letter with
    | none => .error .unknownArgument
    | some s =>
      if s.role.takesValue ∧ rest ≠ [] then
        let value := match rest with
          | '=' :: value => value
          | value => value
        p.enterAttached s (String.ofList value)
      else do
        let p ← p.enterBare s
        letters c p rest

end Progress

/-- A word that is not a switch, a value or a subcommand. After two hyphens the name of a subcommand is
an argument. -/
def strayWord (c : Command) (trailing : Bool) (word : String) : UsageError :=
  if c.subcommands = [] then .unknownArgument
  else if trailing ∧ c.subcommands.contains word then .unknownArgument
  else .unknownCommand

/-- Goes through words up to a subcommand: what was read, and the subcommand with the words after it. -/
def Command.walk (c : Command) (trailing : Bool) (p : Progress) :
    List String → Except UsageError (Progress × Option (String × List String))
  | [] => .ok (p, none)
  | word :: rest =>
    if trailing then .error (strayWord c trailing word)
    else
      match p.pending, word.toList with
      | some (_, none), ['-', '-'] => walk c true p rest
      | some (s, none), cs =>
        match cs with
        | '-' :: '-' :: long => do
          let p ← p.longWord c long
          walk c false p rest
        | '-' :: first :: more => do
          let p ← p.letters c (first :: more)
          walk c false p rest
        | _ => walk c false { p with pending := some (s, some word) } rest
      | _, cs =>
        if c.subcommands.contains word then .ok (p, some (word, rest))
        else
          match cs with
          | ['-', '-'] => walk c true p rest
          | '-' :: '-' :: long => do
            let p ← p.longWord c long
            walk c false p rest
          | '-' :: first :: more => do
            let p ← p.letters c (first :: more)
            walk c false p rest
          | _ => .error (strayWord c false word)

end GatewaySync.CommandLine

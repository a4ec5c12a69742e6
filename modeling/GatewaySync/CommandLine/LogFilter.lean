import GatewaySync.Settings.Basic
import GatewaySync.Text.Alphanumeric
import GatewaySync.Text.Blank
import GatewaySync.Text.Digits
/-!
# Log filters

A log filter is a list of directives with commas between them. Of those that concern an event the most
specific one decides up to which level such events are shown. What is no directive is left out, and a
default level holds if nothing is left.
-/
namespace GatewaySync

/-- Something that happened: where, with which named values, and how important it is. -/
structure LogEvent where
  level : LogLevel
  target : String
  message : String
  values : List (String × String)
  deriving DecidableEq, Repr

def LogEvent.line (e : LogEvent) : String :=
  e.level.name ++ " " ++ e.target ++ ": " ++ e.message ++
    String.join (e.values.map fun (name, value) => " " ++ name ++ "=" ++ value)

/-- The names of the values of an event, of which the message is one. -/
def LogEvent.fields (e : LogEvent) : List String := "message" :: e.values.map (·.1)

inductive Directive where
  /-- Events whose target starts with a text and that have a field, as far as these are given. -/
  | events (target : Option String) (field : Option String) (level : LogLevel)
  /-- Only events inside of spans of a name, or with a certain value. -/
  | spans
  deriving DecidableEq, Repr

namespace Directive

/-- A level by its name or its rank. -/
def level? (text : String) : Option LogLevel :=
  let digits := match text.toList with
    | '+' :: rest => rest
    | cs => cs
  match Text.numeral? 10 digits with
  | some n => LogLevel.all.find? (·.rank = n)
  | none => LogLevel.ofName? text

/-- The level after an equals sign; without one all events are shown. -/
def levelAfter? : List Char → Option LogLevel
  | [] => some .trace
  | cs => level? (String.ofList cs)

def isStart (c : Char) : Bool := Text.isAlphanumeric c || ['-', ':', '_'].contains c

/-- What stands between square brackets: a span's name, and a field in braces. The result is what
follows the brackets, and the field if neither a span nor a value is asked for. -/
def brackets? (cs : List Char) : Option (List Char × Option String) :=
  let name := cs.takeWhile fun c => c != ']' && c != '\x7b'
  match cs.drop name.length with
  | ']' :: rest => some (rest, none)
  | _ :: rest => do
    let (field, rest) ← Text.splitOnce '\x7d' rest
    if field = [] then none
    else
      let isPlain := name = [] ∧ !field.contains '='
      match rest with
      | ']' :: rest => some (rest, if isPlain then some (String.ofList field) else none)
      | _ => none
  | [] => none

/-- The directive that starts with a target, perhaps an empty one, before brackets. -/
def bracketed? (target rest : List Char) : Option Directive := do
  let (rest, field) ← brackets? rest
  let level ← match rest with
    | [] => some .trace
    | '=' :: level => levelAfter? level
    | _ => none
  let target := if target = [] then none else some (String.ofList target)
  match field with
  | some field => some (.events target (some field) level)
  | none => some .spans

/-- Reads a directive without blanks at its ends. -/
def bare? (cs : List Char) : Option Directive :=
  let word := cs.takeWhile fun c => c != '=' && c != '['
  match cs with
  | '[' :: rest => bracketed? [] rest
  | first :: _ =>
    if !isStart first then none
    else
      match cs.drop word.length with
      | '=' :: level => (levelAfter? level).map (.events (some (String.ofList word)) none)
      | '[' :: rest => bracketed? word rest
      | _ =>
        match level? (String.ofList cs) with
        | some level => some (.events none none level)
        | none => some (.events (some (String.ofList cs)) none .trace)
  | [] => none

/-- Reads a directive. One with blanks at its ends is a name that no target has; blanks next to a level
make it unreadable. -/
def read? (cs : List Char) : Option Directive :=
  let body := Text.trim cs
  if body = cs then bare? cs
  else if body.contains '=' then none
  else (bare? body).map fun _ => .events (some (String.ofList cs)) none .trace

/-- Whether the directive says something about an event outside of spans. -/
def concerns (e : LogEvent) : Directive → Bool
  | events target field _ => target.all (e.target.startsWith ·) && field.all (e.fields.contains ·)
  | spans => false

/-- Whether the first directive is no more specific than the second: a longer target first, then a
field. -/
def atMost : Directive → Directive → Bool
  | events target field _, events target' field' _ =>
    let length := target.elim 0 (·.length + 1)
    let length' := target'.elim 0 (·.length + 1)
    length < length' || (length = length' && field.getD "" ≤ field'.getD "")
  | _, _ => false

def shows (e : LogEvent) : Directive → Bool
  | events _ _ level => e.level.rank ≤ level.rank
  | spans => false

end Directive

structure LogFilter where
  directives : List Directive
  deriving DecidableEq, Repr

namespace LogFilter

def upTo (level : LogLevel) : LogFilter := ⟨[.events none none level]⟩

def ofText (level : LogLevel) (text : String) : LogFilter :=
  match (Text.splitOn ',' text.toList).filterMap Directive.read? with
  | [] => upTo level
  | directives => ⟨directives⟩

/-- The most specific directive about an event, of equal ones the last. -/
def decisive? (f : LogFilter) (e : LogEvent) : Option Directive :=
  (f.directives.filter (Directive.concerns e)).foldl
    (fun best d => match best with
      | some b => some (if b.atMost d then d else b)
      | none => some d)
    none

def shows (f : LogFilter) (e : LogEvent) : Bool := (f.decisive? e).any (Directive.shows e)

end LogFilter

end GatewaySync

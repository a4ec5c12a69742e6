import GatewaySync.Json.Basic
/-!
# Writing JSON

Strings escape the quote, the backslash and the control characters, everything else is written as it
is. `compact` puts no blank between tokens; `pretty` puts each member and item on a line of its own,
two blanks deeper than its container.
-/
namespace GatewaySync.Json

def hexDigit (n : Nat) : Char := (Nat.digitChar n)

def escapeChar (c : Char) : List Char :=
  if c = '"' then ['\\', '"']
  else if c = '\\' then ['\\', '\\']
  else if c = '\n' then ['\\', 'n']
  else if c = '\r' then ['\\', 'r']
  else if c = '\t' then ['\\', 't']
  else if c.toNat = 8 then ['\\', 'b']
  else if c.toNat = 12 then ['\\', 'f']
  else if c.toNat < 32 then
    ['\\', 'u', '0', '0', hexDigit (c.toNat / 16), hexDigit (c.toNat % 16)]
  else [c]

def quote (s : String) : String :=
  "\"" ++ String.ofList (s.toList.flatMap escapeChar) ++ "\""

def scalarText : Json → String
  | bool true => "true"
  | bool false => "false"
  | int n => toString n
  | float bits => if Binary64.isFinite bits then Shortest.document bits else "null"
  | str s => quote s
  | _ => "null"

mutual

def compact : Json → String
  | arr [] => "[]"
  | arr (item :: rest) => "[" ++ compact item ++ compactItems rest
  | obj [] => "\x7b\x7d"
  | obj ((key, value) :: rest) => "\x7b" ++ quote key ++ ":" ++ compact value ++ compactMembers rest
  | other => scalarText other

/-- The items after the first, each with its comma, and the closing bracket. -/
def compactItems : List Json → String
  | [] => "]"
  | item :: rest => "," ++ compact item ++ compactItems rest

/-- The members after the first, each with its comma, and the closing brace. -/
def compactMembers : List (String × Json) → String
  | [] => "\x7d"
  | (key, value) :: rest => "," ++ quote key ++ ":" ++ compact value ++ compactMembers rest

end

def newline (depth : Nat) : String := "\n" ++ String.ofList (List.replicate (2 * depth) ' ')

mutual

def prettyAt (depth : Nat) : Json → String
  | arr [] => "[]"
  | arr (item :: rest) =>
    "[" ++ newline (depth + 1) ++ prettyAt (depth + 1) item ++ prettyItems depth rest
  | obj [] => "\x7b\x7d"
  | obj ((key, value) :: rest) =>
    "\x7b" ++ newline (depth + 1) ++ quote key ++ ": " ++ prettyAt (depth + 1) value ++
      prettyMembers depth rest
  | other => scalarText other

def prettyItems (depth : Nat) : List Json → String
  | [] => newline depth ++ "]"
  | item :: rest =>
    "," ++ newline (depth + 1) ++ prettyAt (depth + 1) item ++ prettyItems depth rest

def prettyMembers (depth : Nat) : List (String × Json) → String
  | [] => newline depth ++ "\x7d"
  | (key, value) :: rest =>
    "," ++ newline (depth + 1) ++ quote key ++ ": " ++ prettyAt (depth + 1) value ++
      prettyMembers depth rest

end

def pretty (value : Json) : String := prettyAt 0 value

end GatewaySync.Json

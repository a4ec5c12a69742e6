import GatewaySync.Format.Ini
import GatewaySync.Format.Json5
import GatewaySync.Format.Ron
import GatewaySync.Format.Toml
import GatewaySync.Format.Yaml
import GatewaySync.Json.Fault
import GatewaySync.Json.Reader
import GatewaySync.Number.Range
/-!
# Formats of settings files

The extension of a file tells its format. Every format is read into a document in which a key stands
once; integers of more than 63 bits are doubles there.
-/
namespace GatewaySync

inductive Format where
  | toml
  | json
  | yaml
  | ini
  | ron
  | json5
  deriving DecidableEq, Repr

namespace Format

/-- The formats in the order in which their files are looked for. -/
def all : List Format := [toml, json, yaml, ini, ron, json5]

def extensions : Format → List String
  | toml => ["toml"]
  | json => ["json"]
  | yaml => ["yaml", "yml"]
  | ini => ["ini"]
  | ron => ["ron"]
  | json5 => ["json5"]

def ofExtension? (extension : String) : Option Format :=
  all.find? fun format => format.extensions.contains extension

mutual

/-- Makes doubles of the integers that do not fit in 63 bits. -/
def narrow : Json → Json
  | .int n => if n < wordCount 63 then .int n else .float (Binary64.ofNat n.toNat)
  | .arr items => .arr (narrowItems items)
  | .obj members => .obj (narrowMembers members)
  | other => other

def narrowItems : List Json → List Json
  | [] => []
  | item :: rest => narrow item :: narrowItems rest

def narrowMembers : List (String × Json) → List (String × Json)
  | [] => []
  | (key, value) :: rest => (key, narrow value) :: narrowMembers rest

end

def readJson? (text : String) : Option Json :=
  ((Json.read? text).filter Json.isReadable).map narrow

def document? (format : Format) (text : String) : Option Json :=
  match format with
  | toml => Toml.read? text
  | json => readJson? text
  | yaml => Yaml.read? text
  | ini => Ini.read? text
  | ron => Ron.read? text
  | json5 => Json5.read? text

def refusal (format : Format) (text : String) : String :=
  let told := match format with
    | json => Json.faultMessage? text
    | _ => none
  told.getD "malformed settings"

end Format

end GatewaySync

import EventRules.Json.Reader
import EventRules.Settings.Path
import EventRules.Text.Search
import EventRules.Toml.Reader

/-!
# Layers of settings

Settings come in layers, first those of a file and then those of the environment; a later layer goes over an earlier
one. A layer is a list of settings by path.
-/

namespace EventRules

/-- Settings by path, in the order in which they apply. -/
abbrev Layer := List (String × Setting)

namespace Layer

/-- The forms in which a file may hold settings. -/
inductive Form where
  | toml
  | json
  deriving DecidableEq, Repr

/-- The forms, each with the extension of its files. -/
def forms : List (String × Form) :=
  [("toml", .toml), ("json", .json)]

/-- The extension of a file: what follows the last point of its name, unless the name starts with that point. -/
def extension (path : String) : String :=
  let name := (path.toList.reverse.dropWhile (· = '/')).takeWhile (· ≠ '/')
  match name.span (· ≠ '.') with
  | (extension, '.' :: _ :: _) => String.ofList extension.reverse
  | _ => ""

/-- The layer that a text writes in a form. -/
def ofText? : Form → String → Option Layer
  | .toml, text => Toml.parse? text
  | .json, text => ((Json.parse? text).bind Document.members?).map Setting.ofMembers

/-- What the names of the variables start with, in any case. -/
def variableStart : String := "stellar_"

/-- A boolean, an integer or a float, if the value of a variable writes one, and its text otherwise. -/
def scalar (value : String) : Setting :=
  let word := Text.toLower value
  if word = "true" then .boolean true
  else if word = "false" then .boolean false
  else match Decimal.readInt64? value.toList with
    | some n => .integer n.toInt
    | none =>
      match Decimal.readFloat? value.toList with
      | some x => .float x
      | none => .text value

/-- The setting of a variable. In its name, two underscores separate the keys of a path. -/
def ofVariable? (name value : String) : Option (String × Setting) :=
  let name := (Text.toLower name).toList
  if variableStart.toList.isPrefixOf name then
    let path := String.ofList (name.drop variableStart.length)
    some (".".intercalate (Text.split path "__"), scalar value)
  else none

/-- The layer of the environment. -/
def ofEnvironment (environment : List (String × String)) : Layer :=
  environment.filterMap fun (name, value) => ofVariable? name value

/-- Puts a layer over the settings so far. -/
def apply (settings : Setting) (layer : Layer) : Setting :=
  layer.foldl (fun all (path, setting) => all.put (.ofText path) setting) settings

end Layer

end EventRules

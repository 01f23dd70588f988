import QueryCache.Json.Read
import QueryCache.Settings.Reading
import QueryCache.Text.Case

/-! Settings of a component: named fields with types and defaults, given directly or by the
environment.

An environment variable is known by a prefix and the field's name, whatever the case. Lists and
mappings are JSON there, and an entry of a mapping may have a variable of its own, its name
after two low lines. What is given directly wins, entry by entry. -/

set_option autoImplicit false

namespace QueryCache

structure SettingField where
  name : String
  type : SettingType
  default : Value
  /-- Whether the default is made anew each time, and then has no fixed value to show. -/
  computed : Bool := false

structure SettingsSchema where
  /-- The start of the names of environment variables. -/
  mark : String
  fields : List SettingField
  /-- The fields that are wrong only beside each other. -/
  check : Record → List String := fun _ => []

/-- Environment variables, later ones replacing earlier ones of the same name. -/
abbrev Environment := List (String × String)

namespace Environment

def folded (name : String) : String := String.ofList (Text.lower name.toList)

def get? (env : Environment) (name : String) : Option String :=
  (env.reverse.find? fun entry => folded entry.1 == folded name).map (·.2)

end Environment

mutual

/-- One mapping over another, entry by entry. -/
def overlay : List (String × Value) → List (String × Value) → List (String × Value)
  | base, [] => base
  | base, (name, value) :: rest =>
    overlay (Record.set base name (overlayValue (Record.get? base name) value)) rest

def overlayValue : Option Value → Value → Value
  | some (.dict base), .dict given => .dict (overlay base given)
  | _, value => value

end

/-- A value at the end of a path of names. -/
def nested (path : List String) (value : Value) : Value :=
  path.foldr (fun name inner => .dict [(name, inner)]) value

namespace SettingsSchema

/-- The entries of a composite field that have variables of their own. -/
def entriesFromEnvironment (schema : SettingsSchema) (env : Environment)
    (field : SettingField) : List (String × Value) :=
  let start := Environment.folded (schema.mark ++ field.name ++ "__")
  env.foldl (fun found entry =>
    let name := Environment.folded entry.1
    if start.toList.isPrefixOf name.toList then
      let path := (String.ofList (name.toList.drop start.toList.length)).splitOn "__"
      let plain := Value.str entry.2
      let value :=
        match field.type with
        | .textMap => if entry.2.isEmpty then plain else (Json.read? entry.2.toList).getD plain
        | _ => plain
      match nested path value with
      | .dict entries => overlay found entries
      | _ => found
    else found) []

/-- What the environment gives for a field. -/
def fromEnvironment (schema : SettingsSchema) (env : Environment) (field : SettingField) :
    Except Failure (Option Value) :=
  let given := env.get? (schema.mark ++ field.name)
  if field.type.isComposite then
    let entries := schema.entriesFromEnvironment env field
    match given with
    | none => .ok (if entries.isEmpty then none else some (.dict entries))
    | some text =>
      match Json.read? text.toList with
      | none => .error (.unreadableSetting field.name)
      | some .null => .ok none
      | some value => .ok (some (overlayValue (some value) (match value with
        | .dict _ => .dict entries
        | _ => value)))
  else .ok (given.map .str)

/-- What is given for a field, directly and by the environment. -/
def given (schema : SettingsSchema) (env : Environment) (direct : Record)
    (field : SettingField) : Except Failure Value := do
  let outer ← schema.fromEnvironment env field
  match direct.get? field.name with
  | some value => return overlayValue outer value
  | none => return outer.getD field.default

/-- The settings from the environment and what is given directly; unknown names are ignored. -/
def load (schema : SettingsSchema) (env : Environment) (direct : Record) :
    Except Failure Record := do
  let values ← schema.fields.mapM fun field => do
    return (field, ← schema.given env direct field)
  let read := values.map fun (field, value) => (field, field.type.read value)
  let faults := read.flatMap fun (field, outcome) =>
    match outcome with
    | .ok _ => []
    | .error paths => paths.map fun path => ".".intercalate (field.name :: path)
  let settings := read.filterMap fun (field, outcome) =>
    outcome.toOption.map ((field.name, ·))
  let faults := faults ++ schema.check settings
  if faults.isEmpty then return settings
  throw (.invalidSettings (faults.mergeSort fun a b => a ≤ b))

/-- Every field with its value and its default, as they are shown. -/
def describe (schema : SettingsSchema) (settings : Record) : List (String × Value × Value) :=
  schema.fields.map fun field =>
    (field.name, field.type.shown ((settings.get? field.name).getD .null),
      if field.computed then .str "undefined" else field.type.shown field.default)

end SettingsSchema

end QueryCache

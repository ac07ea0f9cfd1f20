import OperatorShell.Settings.Field
import OperatorShell.Settings.Places
import OperatorShell.Toml.Basic

/-!
# Settings files

A settings file is a JSON document when its name says so and a TOML document
otherwise.  What it leaves out keeps its default, and names that no setting has are
passed over.  A JSON file can also be an array of the settings in their order.
-/

namespace OperatorShell.Settings

open Text

/-- How a settings file is written. -/
inductive Format where
  | json
  | toml
  deriving DecidableEq, Repr

/-- The format of the file at a path. -/
def Format.ofPath (path : String) : Format :=
  if extension? path = some "json".toList then .json else .toml

def Format.name : Format → String
  | .json => "JSON"
  | .toml => "TOML"

/-- Why settings cannot be loaded. -/
inductive LoadError where
  | unreadable (path reason : String)
  | malformed (format : Format)
  deriving DecidableEq, Repr

def LoadError.message : LoadError → String
  | .unreadable path _ => "Failed to read config file: " ++ path
  | .malformed format => "Failed to parse " ++ format.name ++ " config file"

/-- The message with what caused the error. -/
def LoadError.describe (error : LoadError) : String :=
  match error with
  | .unreadable _ reason => error.message ++ ": " ++ reason
  | .malformed _ => error.message

namespace Given

/-- The largest number that a JSON file can give. -/
def maxCount : Nat := 0xFFFFFFFFFFFFFFFF

/-- What a JSON value gives. -/
def ofJson : Json → Given
  | .string (some value) => .text value
  | .natural value => if value ≤ maxCount then .count value else .unusable
  | .null => .nothing
  | _ => .unusable

/-- What a key of a TOML document gives. -/
def ofNode : Toml.Node → Given
  | .value (.text value) => .text value
  | .value (.integer (.ofNat value)) => .count value
  | _ => .unusable

end Given

/-- The fields among the members of a JSON object.  Every key has to denote a text, and
no field can be there twice. -/
def fieldsOfMembers? : List (Option String × Json) → Option (List (Field × Given))
  | [] => some []
  | (none, _) :: _ => none
  | (some key, value) :: rest =>
      (fieldsOfMembers? rest).bind fun fields =>
        match Field.ofName? key with
        | none => some fields
        | some field =>
            if (fields.map Prod.fst).contains field then none
            else some ((field, .ofJson value) :: fields)

/-- The fields that a JSON document gives. -/
def fieldsOfJson? : Json → Option (List (Field × Given))
  | .object members => fieldsOfMembers? members
  | .array items =>
      if items.length ≤ Field.all.length then
        some (Field.all.zip (items.map Given.ofJson))
      else none
  | _ => none

/-- The fields that a TOML document gives. -/
def fieldsOfToml (entries : Toml.Entries) : List (Field × Given) :=
  entries.filterMap fun entry =>
    (Field.ofName? entry.1).map fun field => (field, .ofNode entry.2)

/-- The settings in the content of a file. -/
def read? (format : Format) (content : String) : Option Settings :=
  let fields :=
    match format with
    | .json => (Json.parse? content).bind fieldsOfJson?
    | .toml => (Toml.parse? content).map fieldsOfToml
  fields.bind default.setAll?

/-- The settings in the file at a path. -/
def ofDisk (path : String) (disk : Disk) : Except LoadError Settings :=
  match disk.read with
  | .error reason => .error (.unreadable path reason)
  | .ok content =>
      match read? (.ofPath path) content with
      | some settings => .ok settings
      | none => .error (.malformed (.ofPath path))

/-- Load settings from the file that the operator names, or from the default place.  A
file that is named has to be there. -/
def load {m : Type → Type} [Monad m] (look : String → m Disk) (places : Places)
    (named : Option String) : m (Except LoadError Settings) :=
  match named with
  | some path => return ofDisk path (← look path)
  | none =>
      match places.configFile with
      | none => return .ok default
      | some path => do
          let disk ← look path
          if disk.isThere then return ofDisk path disk else return .ok default

end OperatorShell.Settings

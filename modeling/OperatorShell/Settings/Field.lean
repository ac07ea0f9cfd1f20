import OperatorShell.Settings

/-!
# Fields of a settings file

The settings by the names that they have in a file, and how a value that a file gives
for one of them is taken over.
-/

namespace OperatorShell.Settings

/-- A setting. -/
inductive Field where
  | prompt | maskGlyph | historyFile | historyLimit | pageSize | busyDebounce | blink
  | logLevel | logDir
  deriving DecidableEq, Repr

/-- What a file gives for a setting. -/
inductive Given where
  | text (value : String)
  | count (value : Nat)
  /-- The word that there is no value. -/
  | nothing
  /-- A value of a kind that no setting has. -/
  | unusable
  deriving DecidableEq, Repr

namespace Field

/-- All fields in the order in which a file without names lists them. -/
def all : List Field :=
  [.prompt, .maskGlyph, .historyFile, .historyLimit, .pageSize, .busyDebounce, .blink,
   .logLevel, .logDir]

/-- The name of a field in a file. -/
def name : Field → String
  | .prompt => "prompt"
  | .maskGlyph => "mask_glyph"
  | .historyFile => "history_file"
  | .historyLimit => "history_limit"
  | .pageSize => "page_size"
  | .busyDebounce => "busy_debounce_ms"
  | .blink => "blink_ms"
  | .logLevel => "log_level"
  | .logDir => "log_dir"

/-- The field with a name. -/
def ofName? (name : String) : Option Field := all.find? (·.name == name)

end Field

namespace Given

/-- The text that is given. -/
def text? : Given → Option String
  | .text value => some value
  | _ => none

/-- The number that is given. -/
def count? : Given → Option Nat
  | .count value => some value
  | _ => none

/-- The single character that is given. -/
def glyph? : Given → Option Char
  | .text value =>
      match value.toList with
      | [character] => some character
      | _ => none
  | _ => none

/-- The path that is given, which can be none. -/
def path? : Given → Option (Option String)
  | .text value => some (some value)
  | .nothing => some none
  | _ => none

end Given

/-- Take over what a file gives for a field; `none` when the field cannot have it. -/
def set? (settings : Settings) (field : Field) (given : Given) : Option Settings :=
  match field with
  | .prompt => given.text?.map fun value => { settings with prompt := value }
  | .maskGlyph => given.glyph?.map fun value => { settings with maskGlyph := value }
  | .historyFile => given.path?.map fun value => { settings with historyFile := value }
  | .historyLimit =>
      given.count?.map fun value => { settings with historyLimit := value }
  | .pageSize => given.count?.map fun value => { settings with pageSize := value }
  | .busyDebounce =>
      given.count?.map fun value => { settings with busyDebounce := value }
  | .blink => given.count?.map fun value => { settings with blink := value }
  | .logLevel => given.text?.map fun value => { settings with logLevel := value }
  | .logDir => given.path?.map fun value => { settings with logDir := value }

/-- Take over fields from left to right. -/
def setAll? (settings : Settings) (given : List (Field × Given)) : Option Settings :=
  given.foldlM (fun settings entry => settings.set? entry.1 entry.2) settings

end OperatorShell.Settings

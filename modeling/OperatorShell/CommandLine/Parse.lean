import OperatorShell.CommandLine.Basic

/-!
# Reading the words of a start

Words are read from left to right.  An option is settled when the next one comes or
the words end: only then does it count that its value is missing or that it has been
there before.  What follows a subcommand belongs to the subcommand.
-/

namespace OperatorShell.CommandLine

/-- What a word looks like. -/
inductive Word where
  /-- Two dashes alone: no options follow. -/
  | separator
  /-- A name after two dashes, maybe with a value after an equals sign. -/
  | long (name : String) (value : Option String)
  /-- A letter after one dash, and what is written behind it. -/
  | short (letter : Char) (rest : List Char)
  | plain (text : String)
  deriving DecidableEq, Repr

namespace Word

/-- A name with the value after the first equals sign. -/
def splitValue (text : List Char) : String × Option String :=
  let name := String.ofList (text.takeWhile (· != '='))
  match text.dropWhile (· != '=') with
  | _ :: value => (name, some (String.ofList value))
  | [] => (name, none)

/-- Look at a word. -/
def ofText (text : String) : Word :=
  match text.toList with
  | ['-', '-'] => .separator
  | '-' :: '-' :: rest => .long (splitValue rest).1 (splitValue rest).2
  | '-' :: letter :: rest => .short letter rest
  | _ => .plain text

end Word

/-- An option with its value, if it takes one. -/
structure Setting where
  flag : Flag
  value : String
  deriving DecidableEq, Repr

/-- An option that is not settled yet. -/
structure Pending where
  flag : Flag
  /-- None while the value is still to come. -/
  value : Option String
  deriving DecidableEq, Repr

/-- What the words so far say. -/
structure Reading where
  /-- Settled options in their order. -/
  settings : List Setting
  pending : Option Pending
  deriving DecidableEq, Repr

namespace Reading

/-- Nothing has been read. -/
def start : Reading := ⟨[], none⟩

/-- Whether an option is settled. -/
def has (reading : Reading) (flag : Flag) : Bool :=
  reading.settings.any (·.flag == flag)

/-- Settle an option.  Every option is there at most once, and a path is not empty. -/
def settle (reading : Reading) (flag : Flag) (value : String) :
    Except Stop Reading :=
  if reading.has flag then .error (.misuse (.repeated flag))
  else if flag.isPath ∧ value = "" then .error (.misuse (.missingValue flag))
  else .ok ⟨reading.settings ++ [⟨flag, value⟩], none⟩

/-- Settle the option that is pending. -/
def resolve (reading : Reading) : Except Stop Reading :=
  match reading.pending with
  | none => .ok reading
  | some ⟨flag, none⟩ => .error (.misuse (.missingValue flag))
  | some ⟨flag, some value⟩ => { reading with pending := none }.settle flag value

/-- Whether the next word can be the value of an option. -/
def awaitsValue (reading : Reading) : Bool :=
  reading.pending.any (·.value.isNone)

/-- Take a word as the value that an option waits for. -/
def supply (reading : Reading) (value : String) : Reading :=
  { reading with
    pending := reading.pending.map fun pending => { pending with value := some value } }

/-- Take an option that has no value. -/
def takeSwitch (reading : Reading) (flag : Flag) : Except Stop Reading := do
  let settled ← reading.resolve
  match flag with
  | .help => .error (.help .program)
  | .version => .error .version
  | flag => settled.settle flag ""

/-- Take an option that has a value, which may still be to come. -/
def takeOption (reading : Reading) (flag : Flag) (value : Option String) :
    Except Stop Reading := do
  let settled ← reading.resolve
  match value with
  | some value => settled.settle flag value
  | none => .ok { settled with pending := some ⟨flag, none⟩ }

/-- Take an option by its long name. -/
def takeLong (reading : Reading) (name : String) (value : Option String) :
    Except Stop Reading :=
  match Flag.all.find? (·.long == name) with
  | none => .error (.misuse (.unexpectedArgument ("--" ++ name)))
  | some flag =>
      if flag.valueName?.isSome then reading.takeOption flag value
      else
        match value with
        | some value => .error (.misuse (.unexpectedValue value flag))
        | none => reading.takeSwitch flag

/-- The value behind the letter of an option.  An equals sign can stand before it. -/
def attached? : List Char → Option String
  | [] => none
  | '=' :: value => some (String.ofList value)
  | value => some (String.ofList value)

/-- Take an option by its letter. -/
def takeShort (reading : Reading) (letter : Char) (rest : List Char) :
    Except Stop Reading :=
  match Flag.all.find? (·.short? == some letter) with
  | none => .error (.misuse (.unexpectedArgument ("-" ++ String.singleton letter)))
  | some flag =>
      if flag.valueName?.isSome then reading.takeOption flag (attached? rest)
      else reading.takeSwitch flag

/-- The value of a settled option. -/
def value? (reading : Reading) (flag : Flag) : Option String :=
  (reading.settings.find? (·.flag == flag)).map Setting.value

/-- Refuse to keep the history both in a file and in no file. -/
def checkConflict (reading : Reading) : Except Stop Unit :=
  match (reading.settings.map Setting.flag).filter
    fun flag => flag == .noHistory || flag == .historyFile with
  | flag :: other :: _ => .error (.misuse (.conflict flag other))
  | _ => .ok ()

/-- What all words say together. -/
def finish (reading : Reading) (completion : Option String) : Except Stop Options := do
  let settled ← reading.resolve
  settled.checkConflict
  return {
    config := settled.value? .config
    historyFile := settled.value? .historyFile
    noHistory := settled.has .noHistory
    logLevel := settled.value? .logLevel
    logDir := settled.value? .logDir
    command := settled.value? .command
    completion := completion }

end Reading

/-- Read the words after the subcommand that prints completions: the text to complete.
The flag tells whether options can still come. -/
def readCompletion : Bool → Option String → List String → Except Stop String
  | _, some line, [] => .ok line
  | _, none, [] => .error (.misuse .missingLine)
  | optionsAllowed, line, word :: rest =>
      match if optionsAllowed then Word.ofText word else .plain word with
      | .separator => readCompletion false line rest
      | .long name value =>
          if name = Flag.help.long then
            match value with
            | some value => .error (.misuse (.unexpectedValue value .help))
            | none => .error (.help .complete)
          else .error (.misuse (.unexpectedArgument ("--" ++ name)))
      | .short letter _ =>
          if Flag.help.short? = some letter then .error (.help .complete)
          else .error (.misuse (.unexpectedArgument ("-" ++ String.singleton letter)))
      | .plain text =>
          match line with
          | none => readCompletion optionsAllowed (some text) rest
          | some _ => .error (.misuse (.unexpectedArgument text))

/-- The name of the subcommand that prints completions. -/
def completeName : String := "complete"

/-- The name of the subcommand that prints help. -/
def helpName : String := "help"

/-- What the words after the subcommand that prints help ask for. -/
def readHelp : List String → Stop
  | [] => .help .program
  | topic :: rest =>
      if topic ≠ completeName ∧ topic ≠ helpName then .misuse (.unknownSubcommand topic)
      else
        match rest with
        | word :: _ => .misuse (.unknownSubcommand word)
        | [] => .help (if topic = completeName then .complete else .help)

/-- What a word after the separator is.  Subcommands are not known there. -/
def readOperand (word : String) : Stop :=
  if word = completeName ∨ word = helpName then .misuse (.unexpectedArgument word)
  else .misuse (.unknownSubcommand word)

/-- Read words on, given what the words before them say. -/
def readWords (reading : Reading) : List String → Except Stop Options
  | [] => reading.finish none
  | text :: rest =>
      if ¬reading.awaitsValue ∧ text = completeName then do
        let line ← readCompletion true none rest
        reading.finish (some line)
      else if ¬reading.awaitsValue ∧ text = helpName then .error (readHelp rest)
      else
        match Word.ofText text with
        | .separator =>
            match rest with
            | [] => reading.finish none
            | word :: _ => .error (readOperand word)
        | .long name value => do
            let reading ← reading.takeLong name value
            readWords reading rest
        | .short letter behind => do
            let reading ← reading.takeShort letter behind
            readWords reading rest
        | .plain text =>
            if reading.awaitsValue then readWords (reading.supply text) rest
            else .error (.misuse (.unknownSubcommand text))

/-- Read the words of a start. -/
def parse (words : List String) : Except Stop Options := readWords .start words

end OperatorShell.CommandLine

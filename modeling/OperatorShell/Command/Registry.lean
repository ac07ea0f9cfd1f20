import OperatorShell.Command.Help

/-!
# The command registry

A registry holds every command of every registered tree under its qualified id.
Registering a tree either adds all its commands or, when a name is not allowed or an
id is taken, changes nothing.  Resolving words picks the longest run of leading words
that is the id of a command that is not hidden; a hidden top-level command hides
everything below it.
-/

namespace OperatorShell.Command

variable {σ : Type}

/-- Why a tree cannot be registered. -/
inductive RegistryError where
  | duplicate (id : String)
  | invalidName (name : String)
  deriving DecidableEq, Repr

/-- Why words name no command. -/
inductive ResolveError where
  | notFound (command : String)
  | disabled (command : String)
  deriving DecidableEq, Repr

def RegistryError.message : RegistryError → String
  | .duplicate id => "command id `" ++ id ++ "` is already registered"
  | .invalidName name => "invalid command name `" ++ name ++ "`"

def ResolveError.message : ResolveError → String
  | .notFound command => "unknown command: " ++ command
  | .disabled command => "command is disabled: " ++ command

/-- What words resolve to. -/
structure Resolution (σ : Type) where
  /-- Number of leading words in the id. -/
  depth : Nat
  id : String
  command : Command σ

mutual

/-- The commands of a tree with their ids, each before its subcommands. -/
def entries (parent : Option String) : Command σ → List (String × Command σ)
  | ⟨name, description, longDescription, arguments, options, disabled, body,
      subcommands⟩ =>
      let id := childId parent name
      (id, ⟨name, description, longDescription, arguments, options, disabled, body,
        subcommands⟩) :: entriesAll id subcommands

/-- The commands below an id with their ids. -/
def entriesAll (parent : String) : List (Command σ) → List (String × Command σ)
  | [] => []
  | command :: rest => command.entries (some parent) ++ entriesAll parent rest

end

/-- Commands by qualified id. -/
structure Registry (σ : Type) where
  entries : List (String × Command σ)
  /-- Names of the top-level commands in the order of their registration. -/
  topLevel : List String

namespace Registry

/-- The registry without commands. -/
def empty : Registry σ := ⟨[], []⟩

/-- The command with an id. -/
def get? (registry : Registry σ) (id : String) : Option (Command σ) :=
  registry.entries.lookup id

/-- Whether there is a command with the id. -/
def contains (registry : Registry σ) (id : String) : Bool :=
  (registry.get? id).isSome

/-- Number of commands. -/
def size (registry : Registry σ) : Nat := registry.entries.length

/-- The first of some ids that is taken or repeats an earlier one. -/
def firstTaken? (taken : List String) : List String → Option String
  | [] => none
  | id :: rest =>
      if taken.contains id then some id else firstTaken? (id :: taken) rest

/-- Add a command with its whole tree. -/
def register (registry : Registry σ) (command : Command σ) :
    Except RegistryError (Registry σ) :=
  let tree := command.entries none
  match tree.find? fun entry => !isValidName entry.2.name with
  | some entry => .error (.invalidName entry.2.name)
  | none =>
      match firstTaken? (registry.entries.map Prod.fst) (tree.map Prod.fst) with
      | some id => .error (.duplicate id)
      | none =>
          .ok ⟨registry.entries ++ tree, registry.topLevel ++ [command.name]⟩

/-- Add commands one after another, up to the first that cannot be added. -/
def ofCommands (commands : List (Command σ)) : Except RegistryError (Registry σ) :=
  commands.foldlM register empty

/-- The top-level commands that are not hidden, in the order of their
registration. -/
def topLevelCandidates (registry : Registry σ) (store : σ) : List Candidate :=
  ((registry.topLevel.filterMap registry.get?).filter
    fun command => !command.isDisabled store).map Command.candidate

/-- The subcommands of an id that are not hidden. -/
def subcommandCandidates (registry : Registry σ) (id : String) (store : σ) :
    List Candidate :=
  match registry.get? id with
  | some command => (command.enabledSubcommands store).map Command.candidate
  | none => []

/-- The longest run of at most `depth` leading words that names a command that is
not hidden. -/
def longestMatch? (registry : Registry σ) (store : σ) (words : List String) :
    Nat → Option (Resolution σ)
  | 0 => none
  | depth + 1 =>
      let id := qualifiedId (words.take (depth + 1))
      match registry.get? id with
      | some command =>
          if command.isDisabled store then registry.longestMatch? store words depth
          else some ⟨depth + 1, id, command⟩
      | none => registry.longestMatch? store words depth

/-- Whether a word names a hidden command. -/
def hides (registry : Registry σ) (store : σ) (word : String) : Bool :=
  match registry.get? word with
  | some command => command.isDisabled store
  | none => false

/-- Look up the command that words start with. -/
def resolve (registry : Registry σ) (store : σ) (words : List String) :
    Except ResolveError (Resolution σ) :=
  match words with
  | [] => .error (.notFound "")
  | first :: _ =>
      if registry.hides store first then .error (.disabled first)
      else
        match registry.longestMatch? store words words.length with
        | some resolution => .ok resolution
        | none => .error (.notFound (" ".intercalate words))

end Registry

end OperatorShell.Command

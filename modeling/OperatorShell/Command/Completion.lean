import OperatorShell.Command.Item
import OperatorShell.Command.Registry

/-!
# Completion

What can follow the text before the cursor.  Only the last clause matters: its tokens
without the one being typed lead to a command, and the slot at the cursor is an option
key, an option value or a positional place.  The answer is a `Plan`: candidates that
are known at once, or a provider to ask.
-/

namespace OperatorShell.Command

open Line

variable {σ : Type}

/-- A provider failed. -/
structure ProviderError where
  /-- The argument or option whose candidates were wanted. -/
  target : String
  source : Failure
  deriving DecidableEq, Repr

def ProviderError.message (error : ProviderError) : String :=
  "candidate provider for " ++ error.target ++ " failed: " ++ error.source.describe

/-- How the candidates for a line are found. -/
inductive Plan (σ : Type) where
  | ready (candidates : List Candidate)
  /-- Ask a provider and keep the candidates that begin with the typed stem. -/
  | ask (provider : Provider σ) (target stem : String)

/-- The place in a clause where the cursor is. -/
inductive Slot where
  | positional
  | optionKey
  | optionValue
  deriving DecidableEq, Repr

namespace Plan

/-- Ask a provider, if there is one. -/
def ofProvider (provider : Option (Provider σ)) (target stem : String) : Plan σ :=
  match provider with
  | some provider => .ask provider target stem
  | none => .ready []

/-- Milliseconds until the candidates are there; nothing to wait for is `none`. -/
def delay? (plan : Plan σ) (line : String) (store : σ) : Option Nat :=
  match plan with
  | .ready _ => none
  | .ask provider _ _ => some (provider.delay line store)

/-- Find the candidates. -/
def run (plan : Plan σ) (line : String) (store : σ) :
    Except ProviderError (List Candidate) × σ :=
  match plan with
  | .ready candidates => (.ok candidates, store)
  | .ask provider target stem =>
      match provider.candidates line store with
      | (.ok candidates, store) => (.ok (Candidate.matching stem candidates), store)
      | (.error failure, store) => (.error ⟨target, failure⟩, store)

end Plan

/-- The key of a token, for an option key. -/
def keyName? (token : Token) : Option String := token.optionName?.map String.ofList

/-- Whether the text after a token is the value of an option.  A key that names no
option is taken to have a value. -/
def ownerTakesValue (command : Command σ) (owner : Option Token) : Bool :=
  match owner.bind keyName? with
  | none => false
  | some key =>
      match command.findOption? key with
      | some option => option.takesValue
      | none => true

/-- The slot at the cursor, from the tokens before it and the one being typed. -/
def slot (command : Command σ) (committed : List Token) (typing : Option Token) :
    Slot :=
  match typing with
  | some token =>
      match token.kind with
      | .key _ => .optionKey
      | .value =>
          if ownerTakesValue command committed.getLast? then .optionValue
          else .positional
      | _ => .positional
  | none =>
      match committed.getLast? with
      | some last =>
          if last.kind.isKey && ownerTakesValue command (some last) then .optionValue
          else .positional
      | none => .positional

/-- Number of positional values among tokens, given the token before them.  A value
after a flag is a positional one. -/
def countPositionals (command : Command σ) : Option Token → List Token → Nat
  | _, [] => 0
  | previous, token :: rest =>
      let here :=
        match token.kind with
        | .word | .argument => 1
        | .value => if ownerTakesValue command previous then 0 else 1
        | _ => 0
      here + countPositionals command (some token) rest

/-- The single character of a key with one dash. -/
def shortLetter? (token : Token) : Option Char :=
  match token.style? with
  | some .short =>
      match token.optionName? with
      | some [letter] => some letter
      | _ => none
  | _ => none

/-- The option keys that can stand at the cursor: those of the command that are not
there yet, and the help key. -/
def optionKeys (command : Command σ) (committed : List Token) (typing : Option Token) :
    List Candidate :=
  let present := committed.filterMap keyName?
  let typed := (typing.map tokenValue).getD ""
  let letter := typing.bind shortLetter?
  let absent := command.options.filter fun option => !present.any option.answersTo
  let declared := absent.map fun option =>
    (Candidate.mk ("--" ++ option.name) option.description, option.short)
  let help :=
    if (command.findOption? "help").isNone && !present.any isHelpKey then
      [(Candidate.mk "--help" (some "Show help"), some 'h')]
    else []
  ((declared ++ help).filter fun offer =>
    isStemOf typed offer.1.value || (letter.isSome && offer.2 == letter)).map Prod.fst

/-- What can stand in a positional place: the subcommands, or the candidates of the
argument whose turn it is. -/
def positionalPlan (registry : Registry σ) (store : σ) (anchor : Resolution σ)
    (committed : List Token) (typed : String) : Plan σ :=
  match registry.subcommandCandidates anchor.id store with
  | [] =>
      let index := countPositionals anchor.command none (committed.drop anchor.depth)
      match anchor.command.arguments[index]? with
      | some argument =>
          .ofProvider argument.provider ("<" ++ argument.name ++ ">") typed
      | none => .ready []
  | subcommands => .ready (Candidate.matching typed subcommands)

/-- What can stand after the committed tokens of a clause. -/
def clausePlan (registry : Registry σ) (store : σ) (committed : List Token)
    (typing : Option Token) : Plan σ :=
  let typed := (typing.map tokenValue).getD ""
  match (Clause.mk committed).leadingWords with
  | [] => .ready (Candidate.matching typed (registry.topLevelCandidates store))
  | words =>
      match registry.resolve store words with
      | .error _ => .ready []
      | .ok anchor =>
          match slot anchor.command committed typing with
          | .positional => positionalPlan registry store anchor committed typed
          | .optionKey => .ready (optionKeys anchor.command committed typing)
          | .optionValue =>
              match (committed.getLast?.bind keyName?).bind
                anchor.command.findOption? with
              | some option =>
                  .ofProvider option.provider ("--" ++ option.name) typed
              | none => .ready []

/-- Whether the cursor is behind a space, so that no token is being typed. -/
def isFresh (parsed : Line) (line : List Char) : Bool :=
  match parsed.tokens.getLast? with
  | some last => last.stop < Text.byteLength line
  | none => true

/-- How the candidates for the end of a line are found. -/
def plan (registry : Registry σ) (store : σ) (line : List Char) : Plan σ :=
  let parsed := parse line
  let fresh := isFresh parsed line
  if parsed.clauses.isEmpty then .ready (registry.topLevelCandidates store)
  else
    match parsed.nodes.getLast? with
    | some (.operator token) =>
        .ready
          (if fresh then registry.topLevelCandidates store
          else [.plain (String.ofList token.text)])
    | some (.clause body) =>
        if fresh then clausePlan registry store body.tokens none
        else clausePlan registry store body.tokens.dropLast body.tokens.getLast?
    | none => .ready []

/-- The candidates for the end of a line. -/
def complete (registry : Registry σ) (line : String) (store : σ) :
    Except ProviderError (List Candidate) × σ :=
  (plan registry store line.toList).run line store

end OperatorShell.Command

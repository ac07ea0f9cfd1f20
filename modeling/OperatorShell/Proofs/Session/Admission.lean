import Mathlib.Data.List.TakeWhile
import OperatorShell.Proofs.Command.Checks
import OperatorShell.Proofs.Command.Reading
import OperatorShell.Proofs.Command.Resolving
import OperatorShell.Session.Execution

/-!
# When a clause runs the body of its command

A clause is admitted if its words resolve, its tokens can be read, nothing asks for
help, the command has a body, and the values are neither too few nor too many and pass
their checks.  Otherwise it is withheld, and the first of these conditions that fails
says what becomes of it.  Every clause is admitted or withheld, and never both.
-/

namespace OperatorShell

open Line

namespace Command

variable {σ : Type}

namespace Resolution

variable (resolution : Resolution σ) (clause : Clause)

/-- The items of the tokens behind the path. -/
def items : List Item :=
  resolution.command.readings none (clause.tokens.drop resolution.depth)

/-- The positional values behind the path. -/
def values : List String := Item.positionals (resolution.items clause)

/-- The options behind the path. -/
def options : OptionMap := Item.options (resolution.items clause)

/-- What the body is to be called with. -/
def invocation (text : String) : Invocation where
  id := resolution.id
  positional := resolution.values clause
  options := resolution.options clause
  line := text

/-- The values that are looked at, in order. -/
def checks : List (ValueCheck σ) :=
  resolution.command.valueChecks (resolution.values clause) (resolution.options clause)

end Resolution

section Conditions

variable (registry : Registry σ) (store : σ) (clause : Clause)
  (resolution : Resolution σ)

/-- The words resolve, and every option that takes a value has one. -/
structure IsRead : Prop where
  resolved : registry.resolve store clause.leadingWords = .ok resolution
  supplied : ∀ index option,
    ¬resolution.command.LacksValue clause.tokens index option

/-- Nothing asks for help. -/
structure IsMeant : Prop extends IsRead registry store clause resolution where
  unasked : ¬resolution.command.AsksForHelp clause.tokens

/-- The command has a body. -/
structure IsCall (body : Invocation → Script σ Unit) : Prop
    extends IsMeant registry store clause resolution where
  has_body : resolution.command.body = some body

/-- The command only groups others. -/
structure IsGroup : Prop extends IsMeant registry store clause resolution where
  bodyless : resolution.command.body = none

/-- There is a value for every required argument and an argument for every value. -/
structure IsCounted (body : Invocation → Script σ Unit) : Prop
    extends IsCall registry store clause resolution body where
  covers : resolution.command.Covers (resolution.values clause)
  bounded : (resolution.values clause).length ≤ resolution.command.arguments.length

/-- Every value passes: the positional ones at the argument of the same index, and those
in the option map at their option. -/
structure Admitted (body : Invocation → Script σ Unit) : Prop
    extends IsCounted registry store clause resolution body where
  positional_passes : ∀ (index : Nat) (argument : Argument σ) (value : String),
    resolution.command.arguments[index]? = some argument →
    (resolution.values clause)[index]? = some value →
    ∀ validator ∈ argument.validator, validator store value = .ok ()
  option_passes : ∀ option ∈ resolution.command.options, ∀ value,
    (resolution.options clause).get? (Text.camelCaseName option.name) =
      some (.value value) →
    ∀ validator ∈ option.validator, validator store value = .ok ()

end Conditions

section Reading

variable {registry : Registry σ} {store : σ} {clause : Clause}
  {resolution : Resolution σ}

/-- The path lies within the words and arguments at the start. -/
theorem depth_le_of_resolve
    (resolved : registry.resolve store clause.leadingWords = .ok resolution) :
    resolution.depth ≤ (clause.tokens.takeWhile Token.isPositional).length := by
  obtain ⟨-, -, -, -, longest⟩ := Registry.resolve_eq_ok resolved
  simpa [Clause.leadingWords] using longest.depth_le

theorem isPositional_of_mem_path
    (resolved : registry.resolve store clause.leadingWords = .ok resolution) :
    ∀ token ∈ clause.tokens.take resolution.depth, token.isPositional = true := by
  intro token member
  rw [← List.takeWhile_append_dropWhile (p := Token.isPositional) (l := clause.tokens),
    List.take_append_of_le_length (depth_le_of_resolve resolved)] at member
  exact List.mem_takeWhile_imp (List.mem_of_mem_take member)

/-- The tokens of the path are no keys. -/
theorem tokenKey?_of_mem_path
    (resolved : registry.resolve store clause.leadingWords = .ok resolution) :
    ∀ token ∈ clause.tokens.take resolution.depth, tokenKey? token = none := by
  intro token member
  exact tokenKey?_of_isPositional (isPositional_of_mem_path resolved token member)

/-- Reading the tokens behind the path stops where reading all tokens would. -/
theorem readItems_eq_error {option : OptionSpec σ}
    (resolved : registry.resolve store clause.leadingWords = .ok resolution)
    (first : resolution.command.FirstLacks clause.tokens option) :
    readItems resolution.command (clause.tokens.drop resolution.depth) =
      .error option.name := by
  have whole := readItems_of_firstLacks resolution.command first
  rw [← List.take_append_drop resolution.depth clause.tokens,
    readItems_append _ (tokenKey?_of_mem_path resolved)] at whole
  cases read : readItems resolution.command (clause.tokens.drop resolution.depth) with
  | error name =>
      rw [read] at whole
      exact whole
  | ok items =>
      rw [read] at whole
      cases whole

theorem readItems_eq_ok (read : IsRead registry store clause resolution) :
    readItems resolution.command (clause.tokens.drop resolution.depth) =
      .ok (resolution.items clause) := by
  have whole := readItems_of_forall_not_lacksValue resolution.command read.supplied
  rw [← List.take_append_drop resolution.depth clause.tokens,
    readItems_append _ (tokenKey?_of_mem_path read.resolved)] at whole
  rcases exists_firstLacks_or resolution.command
    (clause.tokens.drop resolution.depth) with ⟨option, first⟩ | supplied
  · rw [readItems_of_firstLacks _ first] at whole
    cases whole
  · exact readItems_of_forall_not_lacksValue _ supplied

/-- A clause that can be read is prepared. -/
theorem prepare_eq_ok (read : IsRead registry store clause resolution) (text : String) :
    prepare registry store clause text =
      .ok ⟨resolution, resolution.invocation clause text,
        Item.askForHelp (resolution.items clause)⟩ := by
  rw [prepare, read.resolved]
  simp only [readItems_eq_ok read]
  rfl

/-- A clause that is prepared can be read, and its invocation says what its tokens do. -/
theorem isRead_of_prepare {text : String} {invocation : Invocation} {asked : Bool}
    (prepared : prepare registry store clause text = .ok ⟨resolution, invocation, asked⟩) :
    IsRead registry store clause resolution ∧
      invocation = resolution.invocation clause text ∧
      asked = Item.askForHelp (resolution.items clause) := by
  cases resolved : registry.resolve store clause.leadingWords with
  | error error =>
      rw [prepare, resolved] at prepared
      cases prepared
  | ok found =>
      rcases exists_firstLacks_or found.command clause.tokens with
        ⟨option, first⟩ | supplied
      · rw [prepare, resolved] at prepared
        simp only [readItems_eq_error resolved first] at prepared
        cases prepared
      · have read : IsRead registry store clause found := ⟨resolved, supplied⟩
        rw [prepare_eq_ok read] at prepared
        cases prepared
        exact ⟨read, rfl, rfl⟩

theorem askForHelp_items (read : IsRead registry store clause resolution) :
    Item.askForHelp (resolution.items clause) = true ↔
      resolution.command.AsksForHelp clause.tokens := by
  have whole := asksForHelp_append_iff resolution.command
    (tokenKey?_of_mem_path read.resolved) (clause.tokens.drop resolution.depth)
  rw [List.take_append_drop] at whole
  rw [whole]
  exact askForHelp_readings resolution.command none

end Reading

section Deciding

variable {registry : Registry σ} {store : σ} {clause : Clause}
  {resolution : Resolution σ}

theorem validate_invocation (text : String) :
    validate resolution.command store (resolution.invocation clause text) =
      ValueCheck.run store (resolution.checks clause) :=
  validate_eq_run ..

/-- Where nothing asks for help, the body of the command decides how to go on. -/
theorem decide_of_isMeant (meant : IsMeant registry store clause resolution)
    (text : String) :
    decide registry store clause text =
      match resolution.command.body with
      | none =>
          (checkGroupWords resolution.command (resolution.invocation clause text)).map
            fun _ => resolution.help store
      | some body =>
          (checkArguments resolution.command (resolution.invocation clause text)).bind
            fun _ =>
              (ValueCheck.run store (resolution.checks clause)).map fun _ =>
                .execute (resolution.invocation clause text)
                  (body (resolution.invocation clause text)) := by
  have unasked : Item.askForHelp (resolution.items clause) = false := by
    rw [← Bool.not_eq_true, askForHelp_items meant.toIsRead]
    exact meant.unasked
  rw [decide, prepare_eq_ok meant.toIsRead]
  simp only [unasked, Bool.false_eq_true, if_false, validate_invocation]
  cases resolution.command.body with
  | none =>
      cases checkGroupWords resolution.command (resolution.invocation clause text) <;> rfl
  | some body =>
      cases checkArguments resolution.command (resolution.invocation clause text) with
      | error error => rfl
      | ok => cases ValueCheck.run store (resolution.checks clause) <;> rfl

variable {body : Invocation → Script σ Unit}

/-- Words that a group does not know keep it from showing its help. -/
theorem decide_eq_error_of_isGroup (group : IsGroup registry store clause resolution)
    {text : String} {error : DispatchError}
    (refused : checkGroupWords resolution.command (resolution.invocation clause text) =
      .error error) : decide registry store clause text = .error error := by
  rw [decide_of_isMeant group.toIsMeant, group.bodyless]
  simp only [refused]
  rfl

theorem decide_eq_help_of_isGroup (group : IsGroup registry store clause resolution)
    {text : String}
    (passed : checkGroupWords resolution.command (resolution.invocation clause text) =
      .ok ()) : decide registry store clause text = .ok (resolution.help store) := by
  rw [decide_of_isMeant group.toIsMeant, group.bodyless]
  simp only [passed]
  rfl

/-- Values that do not fit the arguments keep the body from being called. -/
theorem decide_eq_error_of_isCall (call : IsCall registry store clause resolution body)
    {text : String} {error : DispatchError}
    (refused : checkArguments resolution.command (resolution.invocation clause text) =
      .error error) : decide registry store clause text = .error error := by
  rw [decide_of_isMeant call.toIsMeant, call.has_body]
  simp only [refused]
  rfl

/-- What fits goes on to the checks of the values. -/
theorem decide_of_isCounted (counted : IsCounted registry store clause resolution body)
    (text : String) :
    decide registry store clause text =
      (ValueCheck.run store (resolution.checks clause)).map fun _ =>
        .execute (resolution.invocation clause text)
          (body (resolution.invocation clause text)) := by
  have passed : checkArguments resolution.command (resolution.invocation clause text) =
      .ok () :=
    (checkArguments_of_covers counted.covers).trans (checkCount_of_le counted.bounded)
  rw [decide_of_isMeant counted.toIsMeant, counted.has_body]
  simp only [passed]
  rfl

/-- An admitted clause calls the body. -/
theorem decide_of_admitted (admitted : Admitted registry store clause resolution body)
    (text : String) :
    decide registry store clause text =
      .ok (.execute (resolution.invocation clause text)
        (body (resolution.invocation clause text))) := by
  have passed : ValueCheck.run store (resolution.checks clause) = .ok () := by
    refine ValueCheck.run_of_accepts (forall_accepts_iff.mpr ⟨?_, ?_⟩)
    · exact admitted.positional_passes
    · exact admitted.option_passes
  rw [decide_of_isCounted admitted.toIsCounted, passed]
  rfl

end Deciding

end Command

namespace Session

open Command

variable {σ : Type} (registry : Registry σ) (store : σ) (clause : Clause)

/-- The body is not called, and this is what becomes of the clause. -/
inductive Withheld : Except DispatchError Outcome → Prop
  | unresolved {error : ResolveError}
      (failed : registry.resolve store clause.leadingWords = .error error) :
      Withheld (.error (.resolve error))
  | missingValue {resolution : Resolution σ} {option : OptionSpec σ}
      (resolved : registry.resolve store clause.leadingWords = .ok resolution)
      (first : resolution.command.FirstLacks clause.tokens option) :
      Withheld (.error (.missingOptionValue option.name))
  | help {resolution : Resolution σ} (read : IsRead registry store clause resolution)
      (asked : resolution.command.AsksForHelp clause.tokens) :
      Withheld (.ok (.help resolution.id
        (resolution.command.helpText resolution.id store)))
  | unknownSubcommand {resolution : Resolution σ} {word : String} {others : List String}
      (group : IsGroup registry store clause resolution)
      (parent : resolution.command.subcommands ≠ [])
      (given : resolution.values clause = word :: others) :
      Withheld (.error (.resolve (.notFound (usage resolution.id ++ " " ++ word))))
  | groupExcess {resolution : Resolution σ}
      (group : IsGroup registry store clause resolution)
      (childless : resolution.command.subcommands = [])
      (excess : resolution.command.arguments.length <
        (resolution.values clause).length) :
      Withheld (.error (.tooManyArguments (usage resolution.id)
        resolution.command.arguments.length (resolution.values clause).length))
  | groupHelp {resolution : Resolution σ}
      (group : IsGroup registry store clause resolution)
      (fits : resolution.values clause = [] ∨ resolution.command.subcommands = [] ∧
        (resolution.values clause).length ≤ resolution.command.arguments.length) :
      Withheld (.ok (.help resolution.id
        (resolution.command.helpText resolution.id store)))
  | missingArguments {resolution : Resolution σ} {body : Invocation → Script σ Unit}
      (call : IsCall registry store clause resolution body)
      (uncovered : ¬resolution.command.Covers (resolution.values clause)) :
      Withheld (.error (.missingArguments (usage resolution.id)
        (resolution.command.uncoveredNames (resolution.values clause))))
  | excess {resolution : Resolution σ} {body : Invocation → Script σ Unit}
      (call : IsCall registry store clause resolution body)
      (covers : resolution.command.Covers (resolution.values clause))
      (excess : resolution.command.arguments.length <
        (resolution.values clause).length) :
      Withheld (.error (.tooManyArguments (usage resolution.id)
        resolution.command.arguments.length (resolution.values clause).length))
  | invalid {resolution : Resolution σ} {body : Invocation → Script σ Unit}
      {front back : List (ValueCheck σ)} {check : ValueCheck σ} {failure : Failure}
      (counted : IsCounted registry store clause resolution body)
      (split : resolution.checks clause = front ++ check :: back)
      (earlier : ∀ other ∈ front, other.Accepts store)
      (rejects : check.Rejects store failure) :
      Withheld (.error (.validation check.target failure))

section Outcomes

variable {registry : Registry σ} {store : σ} {clause : Clause}
  {resolution : Resolution σ}

/-- A group without a body is never called. -/
theorem exists_withheld_of_isGroup (group : IsGroup registry store clause resolution) :
    ∃ result, Withheld registry store clause result := by
  cases given : resolution.values clause with
  | nil => exact ⟨_, .groupHelp group (.inl given)⟩
  | cons word others =>
      by_cases parent : resolution.command.subcommands = []
      · rcases Nat.lt_or_ge resolution.command.arguments.length
          (resolution.values clause).length with excess | bounded
        · exact ⟨_, .groupExcess group parent excess⟩
        · exact ⟨_, .groupHelp group (.inr ⟨parent, bounded⟩)⟩
      · exact ⟨_, .unknownSubcommand group parent given⟩

/-- A command with a body is called, or its values keep it from being called. -/
theorem withheld_or_admitted_of_isCall {body : Invocation → Script σ Unit}
    (call : IsCall registry store clause resolution body) :
    (∃ result, Withheld registry store clause result) ∨
      Admitted registry store clause resolution body := by
  by_cases covers : resolution.command.Covers (resolution.values clause)
  · rcases Nat.lt_or_ge resolution.command.arguments.length
      (resolution.values clause).length with excess | bounded
    · exact .inl ⟨_, .excess call covers excess⟩
    · have counted : IsCounted registry store clause resolution body :=
        ⟨call, covers, bounded⟩
      rcases ValueCheck.forall_accepts_or store (resolution.checks clause) with
        accepts | ⟨front, check, back, failure, split, earlier, rejects⟩
      · obtain ⟨positional_passes, option_passes⟩ := forall_accepts_iff.mp accepts
        exact .inr ⟨counted, positional_passes, option_passes⟩
      · exact .inl ⟨_, .invalid counted split earlier rejects⟩
  · exact .inl ⟨_, .missingArguments call covers⟩

/-- Every clause is withheld or admitted. -/
theorem withheld_or_admitted (registry : Registry σ) (store : σ) (clause : Clause) :
    (∃ result, Withheld registry store clause result) ∨
      ∃ resolution body, Admitted registry store clause resolution body := by
  cases resolved : registry.resolve store clause.leadingWords with
  | error error => exact .inl ⟨_, .unresolved resolved⟩
  | ok resolution =>
      rcases exists_firstLacks_or resolution.command clause.tokens with
        ⟨option, first⟩ | supplied
      · exact .inl ⟨_, .missingValue resolved first⟩
      · have read : IsRead registry store clause resolution := ⟨resolved, supplied⟩
        by_cases asked : resolution.command.AsksForHelp clause.tokens
        · exact .inl ⟨_, .help read asked⟩
        · have meant : IsMeant registry store clause resolution := ⟨read, asked⟩
          cases has_body : resolution.command.body with
          | none => exact .inl (exists_withheld_of_isGroup ⟨meant, has_body⟩)
          | some body =>
              exact (withheld_or_admitted_of_isCall ⟨meant, has_body⟩).imp_right
                fun admitted => ⟨resolution, body, admitted⟩

/-- A withheld clause changes nothing and is reported with its result. -/
theorem perform_of_withheld {scene : Scene σ} {result : Except DispatchError Outcome}
    (withheld : Withheld registry scene.store clause result) (style : AskStyle)
    (text : String) :
    perform style text (decide registry scene.store clause text) scene =
      (⟨text, none, result⟩, scene) := by
  cases withheld with
  | unresolved failed =>
      rw [Command.decide, prepare, failed]
      rfl
  | missingValue resolved first =>
      rw [Command.decide, prepare, resolved]
      simp only [readItems_eq_error resolved first]
      rfl
  | help read asked =>
      rw [Command.decide, prepare_eq_ok read, (askForHelp_items read).mpr asked]
      rfl
  | unknownSubcommand group parent given =>
      rw [decide_eq_error_of_isGroup group (checkGroupWords_of_cons parent given)]
      rfl
  | groupExcess group childless excess =>
      rw [decide_eq_error_of_isGroup group
        ((checkGroupWords_of_childless childless).trans (checkCount_of_lt excess))]
      rfl
  | groupHelp group fits =>
      rcases fits with empty | ⟨childless, bounded⟩
      · rw [decide_eq_help_of_isGroup group (checkGroupWords_of_nil empty)]
        rfl
      · rw [decide_eq_help_of_isGroup group
          ((checkGroupWords_of_childless childless).trans (checkCount_of_le bounded))]
        rfl
  | missingArguments call uncovered =>
      rw [decide_eq_error_of_isCall call (checkArguments_of_not_covers uncovered)]
      rfl
  | excess call covers excess =>
      rw [decide_eq_error_of_isCall call
        ((checkArguments_of_covers covers).trans (checkCount_of_lt excess))]
      rfl
  | invalid counted split earlier rejects =>
      rw [decide_of_isCounted counted, split, ValueCheck.run_of_rejects earlier rejects]
      rfl

end Outcomes

end Session

end OperatorShell

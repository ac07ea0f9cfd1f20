import Mathlib.Data.List.Basic
import OperatorShell.Command.Decision

/-!
# The checks of an invocation

An invocation is checked twice: its positional values are counted against the arguments,
and then the values are looked at one after another, the positional ones first and those
of the options in the order of their declaration.  The first value that is turned down
decides.
-/

namespace OperatorShell.Command

variable {σ : Type}

section Counting

variable (command : Command σ)

/-- Every required argument has its value. -/
def Covers (values : List String) : Prop :=
  ∀ index argument, command.arguments[index]? = some argument →
    argument.required = true → index < values.length

/-- The names of the required arguments behind the last value, in order. -/
def uncoveredNames (values : List String) : List String :=
  (command.arguments.zipIdx.filter fun entry =>
    entry.1.required && (values.length ≤ entry.2 : Bool)).map (·.1.name)

variable {command}

/-- Passing over entries is looking at their indices. -/
theorem filter_drop_eq_zipIdx {α : Type} (keep : α → Bool) (entries : List α)
    (count start : Nat) :
    (entries.drop (count - start)).filter keep =
      ((entries.zipIdx start).filter fun entry =>
        keep entry.1 && (count ≤ entry.2 : Bool)).map Prod.fst := by
  induction entries generalizing start with
  | nil => simp
  | cons entry rest ih =>
      rw [List.zipIdx_cons, List.filter_cons]
      rcases Nat.lt_or_ge start count with before | behind
      · obtain ⟨gap, rfl⟩ := Nat.exists_eq_add_of_lt before
        have step : start + gap + 1 - start = gap + 1 := by omega
        have next : start + gap + 1 - (start + 1) = gap := by omega
        have skipped : ¬start + gap + 1 ≤ start := by omega
        rw [step, List.drop_succ_cons, ← next, ih]
        simp [skipped]
      · have step : count - start = 0 := by omega
        have next : count - (start + 1) = 0 := by omega
        have rest_kept := ih (start + 1)
        rw [next, List.drop_zero] at rest_kept
        rw [step, List.drop_zero, List.filter_cons, rest_kept]
        cases keep entry <;> simp [behind]

theorem uncovered_eq_uncoveredNames (invocation : Invocation) :
    uncovered command invocation = command.uncoveredNames invocation.positional := by
  have kept := filter_drop_eq_zipIdx (fun argument : Argument σ => argument.required)
    command.arguments invocation.positional.length 0
  rw [Nat.sub_zero] at kept
  rw [uncovered, kept, uncoveredNames, List.map_map]
  rfl

/-- No name is left over just when every required argument has its value. -/
theorem uncoveredNames_eq_nil_iff {values : List String} :
    command.uncoveredNames values = [] ↔ command.Covers values := by
  rw [uncoveredNames, List.map_eq_nil_iff, List.filter_eq_nil_iff, Covers]
  constructor
  · intro nothing index argument found required
    have checked :=
      nothing (argument, index) (List.mk_mem_zipIdx_iff_getElem?.mpr found)
    simpa [required] using checked
  · rintro covers ⟨argument, index⟩ member
    have below := covers index argument (List.mk_mem_zipIdx_iff_getElem?.mp member)
    simpa using below

variable {invocation : Invocation}

theorem checkCount_of_le
    (bounded : invocation.positional.length ≤ command.arguments.length) :
    checkCount command invocation = .ok () :=
  if_neg (Nat.not_lt.mpr bounded)

theorem checkCount_of_lt
    (excess : command.arguments.length < invocation.positional.length) :
    checkCount command invocation =
      .error (.tooManyArguments (usage invocation.id) command.arguments.length
        invocation.positional.length) :=
  if_pos excess

theorem checkArguments_of_covers (covers : command.Covers invocation.positional) :
    checkArguments command invocation = checkCount command invocation := by
  rw [checkArguments, uncovered_eq_uncoveredNames, uncoveredNames_eq_nil_iff.mpr covers]

theorem checkArguments_of_not_covers
    (uncovered : ¬command.Covers invocation.positional) :
    checkArguments command invocation =
      .error (.missingArguments (usage invocation.id)
        (command.uncoveredNames invocation.positional)) := by
  rw [checkArguments, uncovered_eq_uncoveredNames]
  cases names : command.uncoveredNames invocation.positional with
  | nil => exact (uncovered (uncoveredNames_eq_nil_iff.mp names)).elim
  | cons name others => rfl

theorem checkGroupWords_of_nil (empty : invocation.positional = []) :
    checkGroupWords command invocation = .ok () := by
  rw [checkGroupWords, empty]

/-- Without subcommands a word is one value too many at most. -/
theorem checkGroupWords_of_childless (childless : command.subcommands = []) :
    checkGroupWords command invocation = checkCount command invocation := by
  cases given : invocation.positional with
  | nil => rw [checkGroupWords_of_nil given, checkCount_of_le (by simp [given])]
  | cons word others =>
      rw [checkGroupWords, given, childless]
      rfl

/-- With subcommands the first word is taken for one that does not exist. -/
theorem checkGroupWords_of_cons {word : String} {others : List String}
    (parent : command.subcommands ≠ [])
    (given : invocation.positional = word :: others) :
    checkGroupWords command invocation =
      .error (.resolve (.notFound (usage invocation.id ++ " " ++ word))) := by
  rw [checkGroupWords, given]
  exact if_neg (by simpa using parent)

end Counting

/-- A value that was given, with the check it has to pass. -/
structure ValueCheck (σ : Type) where
  /-- How the message names what the value was given for. -/
  target : String
  validator : Option (Validator σ)
  value : String

namespace ValueCheck

variable (check : ValueCheck σ) (store : σ)

/-- The value passes; without a validator every value does. -/
def Accepts : Prop :=
  ∀ validator ∈ check.validator, validator store check.value = .ok ()

/-- The value is turned down. -/
def Rejects (failure : Failure) : Prop :=
  ∃ validator ∈ check.validator, validator store check.value = .error failure

theorem accepts_or_rejects :
    check.Accepts store ∨ ∃ failure, check.Rejects store failure := by
  obtain ⟨target, validator, value⟩ := check
  cases validator with
  | none => exact .inl (by simp [Accepts])
  | some validator =>
      cases answer : validator store value with
      | ok => exact .inl (by simp [Accepts, answer])
      | error failure => exact .inr ⟨failure, validator, rfl, answer⟩

/-- Look at one value after another, up to the first that is turned down. -/
def run (store : σ) : List (ValueCheck σ) → Except DispatchError Unit
  | [] => .ok ()
  | check :: rest =>
      match checkValue check.validator store check.target check.value with
      | .error error => .error error
      | .ok () => run store rest

variable {check store}

theorem checkValue_of_accepts (accepts : check.Accepts store) :
    checkValue check.validator store check.target check.value = .ok () := by
  cases given : check.validator with
  | none => rfl
  | some validator =>
      rw [checkValue, accepts validator given]
      rfl

theorem checkValue_of_rejects {failure : Failure}
    (rejects : check.Rejects store failure) :
    checkValue check.validator store check.target check.value =
      .error (.validation check.target failure) := by
  obtain ⟨validator, given, answer⟩ := rejects
  rw [Option.mem_def.mp given, checkValue, answer]
  rfl

/-- Values that pass do not keep later ones from being looked at. -/
theorem run_append {front : List (ValueCheck σ)}
    (accepts : ∀ check ∈ front, check.Accepts store) (back : List (ValueCheck σ)) :
    run store (front ++ back) = run store back := by
  induction front with
  | nil => rfl
  | cons check front ih =>
      rw [List.cons_append, run, checkValue_of_accepts (accepts check (by simp))]
      exact ih fun other member => accepts other (by simp [member])

theorem run_of_accepts {checks : List (ValueCheck σ)}
    (accepts : ∀ check ∈ checks, check.Accepts store) : run store checks = .ok () := by
  have all := run_append accepts []
  rwa [List.append_nil] at all

/-- The first value that is turned down decides. -/
theorem run_of_rejects {front back : List (ValueCheck σ)} {failure : Failure}
    (accepts : ∀ check ∈ front, check.Accepts store)
    (rejects : check.Rejects store failure) :
    run store (front ++ check :: back) = .error (.validation check.target failure) := by
  rw [run_append accepts, run, checkValue_of_rejects rejects]

/-- All values pass, or some value is the first that is turned down. -/
theorem forall_accepts_or (store : σ) (checks : List (ValueCheck σ)) :
    (∀ check ∈ checks, check.Accepts store) ∨
      ∃ front check back failure, checks = front ++ check :: back ∧
        (∀ check ∈ front, check.Accepts store) ∧ check.Rejects store failure := by
  induction checks with
  | nil => exact .inl (by simp)
  | cons check rest ih =>
      rcases check.accepts_or_rejects store with accepts | ⟨failure, rejects⟩
      · rcases ih with all | ⟨front, other, back, failure, split, before, rejects⟩
        · exact .inl (List.forall_mem_cons.mpr ⟨accepts, all⟩)
        · rw [split]
          refine .inr ⟨check :: front, other, back, failure, rfl, ?_, rejects⟩
          exact List.forall_mem_cons.mpr ⟨accepts, before⟩
      · exact .inr ⟨[], check, rest, failure, rfl, by simp, rejects⟩

end ValueCheck

section Values

variable (command : Command σ) (values : List String) (options : OptionMap)

/-- The positional values with the arguments they are given for. -/
def positionalChecks (arguments : List (Argument σ)) : List (ValueCheck σ) :=
  List.zipWith (fun argument value =>
    ⟨"<" ++ argument.name ++ ">", argument.validator, value⟩) arguments values

/-- The value of a declared option, if the operator gave one. -/
def optionCheck? (option : OptionSpec σ) : Option (ValueCheck σ) :=
  match options.get? (Text.camelCaseName option.name) with
  | some (.value value) => some ⟨"--" ++ option.name, option.validator, value⟩
  | _ => none

/-- All values that are looked at, in order. -/
def valueChecks : List (ValueCheck σ) :=
  positionalChecks values command.arguments ++
    command.options.filterMap (optionCheck? options)

variable {command values options}

theorem checkPositionals_eq_run (store : σ) (arguments : List (Argument σ))
    (values : List String) :
    checkPositionals store arguments values =
      ValueCheck.run store (positionalChecks values arguments) := by
  induction arguments generalizing values with
  | nil => rfl
  | cons argument arguments ih =>
      cases values with
      | nil => rfl
      | cons value values =>
          rw [checkPositionals, ih]
          rfl

theorem checkOptions_eq_run (store : σ) (declared : List (OptionSpec σ)) :
    checkOptions store options declared =
      ValueCheck.run store (declared.filterMap (optionCheck? options)) := by
  induction declared with
  | nil => rfl
  | cons option declared ih =>
      rw [checkOptions, ih, List.filterMap_cons]
      cases given : options.get? (Text.camelCaseName option.name) with
      | none => simp [optionCheck?, given]
      | some entry =>
          cases entry with
          | flag => simp [optionCheck?, given]
          | value text =>
              simp only [optionCheck?, given]
              rfl

/-- Checking an invocation is looking at all its values in order. -/
theorem validate_eq_run (command : Command σ) (store : σ) (invocation : Invocation) :
    validate command store invocation =
      ValueCheck.run store
        (command.valueChecks invocation.positional invocation.options) := by
  rw [validate, checkPositionals_eq_run, checkOptions_eq_run, valueChecks]
  rcases ValueCheck.forall_accepts_or store
    (positionalChecks invocation.positional command.arguments) with
    accepts | ⟨front, check, back, failure, split, accepts, rejects⟩
  · rw [ValueCheck.run_append accepts, ValueCheck.run_of_accepts accepts]
  · rw [split, List.append_assoc, List.cons_append,
      ValueCheck.run_of_rejects accepts rejects,
      ValueCheck.run_of_rejects accepts rejects]

/-- All values pass just when each positional value passes at its argument and each value
in the option map passes at its option. -/
theorem forall_accepts_iff {store : σ} :
    (∀ check ∈ command.valueChecks values options, check.Accepts store) ↔
      (∀ (index : Nat) (argument : Argument σ) (value : String),
        command.arguments[index]? = some argument →
        values[index]? = some value →
        ∀ validator ∈ argument.validator, validator store value = .ok ()) ∧
      ∀ option ∈ command.options, ∀ value,
        options.get? (Text.camelCaseName option.name) = some (.value value) →
        ∀ validator ∈ option.validator, validator store value = .ok () := by
  rw [valueChecks, List.forall_mem_append]
  refine and_congr ?_ ?_
  · constructor
    · intro accepts index argument value found given
      refine accepts ⟨"<" ++ argument.name ++ ">", argument.validator, value⟩ ?_
      refine List.mem_iff_getElem?.mpr ⟨index, ?_⟩
      simp [positionalChecks, List.getElem?_zipWith, found, given]
    · intro accepts check member
      obtain ⟨index, found⟩ := List.mem_iff_getElem?.mp member
      rw [positionalChecks, List.getElem?_zipWith_eq_some] at found
      obtain ⟨argument, value, declared, given, rfl⟩ := found
      exact accepts index argument value declared given
  · constructor
    · intro accepts option member value given
      refine accepts ⟨"--" ++ option.name, option.validator, value⟩ ?_
      exact List.mem_filterMap.mpr ⟨option, member, by rw [optionCheck?, given]⟩
    · intro accepts check member
      obtain ⟨option, declared, found⟩ := List.mem_filterMap.mp member
      rw [optionCheck?] at found
      split at found
      · rename_i value given
        cases found
        exact accepts option declared value given
      · cases found

end Values

end OperatorShell.Command

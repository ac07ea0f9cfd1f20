import OperatorShell.Command.Completion

/-!
# Delays of providers

A provider takes its time, and completion does not look at how much: for registries that differ in
nothing but the delays of their providers it asks the same provider for the same line, and gets
the same answer.
-/

namespace OperatorShell

open Command Line

variable {σ : Type}

namespace Command

/-- The provider without its delay. -/
def Provider.undelayed (provider : Provider σ) : Provider σ :=
  { provider with delay := fun _ _ => 0 }

/-- The argument without the delay of its provider. -/
def Argument.undelayed (argument : Argument σ) : Argument σ :=
  { argument with provider := argument.provider.map Provider.undelayed }

/-- The option without the delay of its provider. -/
def OptionSpec.undelayed (option : OptionSpec σ) : OptionSpec σ :=
  { option with provider := option.provider.map Provider.undelayed }

mutual

/-- The command and everything below it without the delays of providers. -/
def undelayed : Command σ → Command σ
  | ⟨name, description, longDescription, arguments, options, disabled, body, subcommands⟩ =>
      ⟨name, description, longDescription, arguments.map Argument.undelayed,
        options.map OptionSpec.undelayed, disabled, body, undelayedAll subcommands⟩

/-- Commands without the delays of providers. -/
def undelayedAll : List (Command σ) → List (Command σ)
  | [] => []
  | command :: rest => command.undelayed :: undelayedAll rest

end

/-- The resolution without the delays of providers. -/
def Resolution.undelayed (resolution : Resolution σ) : Resolution σ :=
  { resolution with command := resolution.command.undelayed }

/-- The registry without the delays of providers. -/
def Registry.undelayed (registry : Registry σ) : Registry σ :=
  { registry with entries := registry.entries.map fun entry => (entry.1, entry.2.undelayed) }

/-- The plan without the delay of its provider. -/
def Plan.undelayed : Plan σ → Plan σ
  | .ready candidates => .ready candidates
  | .ask provider target stem => .ask provider.undelayed target stem

/-- One call of a provider. -/
structure ProviderCall (σ : Type) where
  /-- The argument or option whose candidates are wanted. -/
  target : String
  candidates : String → σ → Except Failure (List Candidate) × σ
  line : String

/-- The store after a call. -/
def ProviderCall.leaves (call : ProviderCall σ) (store : σ) : σ :=
  (call.candidates call.line store).2

/-- The call that is made to carry out a plan, if it takes one. -/
def Plan.call? (plan : Plan σ) (line : String) : Option (ProviderCall σ) :=
  match plan with
  | .ready _ => none
  | .ask provider target _ => some ⟨target, provider.candidates, line⟩

section Commands

variable (command : Command σ)

theorem undelayedAll_eq_map (commands : List (Command σ)) :
    undelayedAll commands = commands.map undelayed := by
  induction commands with
  | nil => rfl
  | cons command rest ih => rw [undelayedAll, ih, List.map_cons]

@[simp] theorem arguments_undelayed :
    command.undelayed.arguments = command.arguments.map Argument.undelayed := by
  cases command
  rfl

@[simp] theorem options_undelayed :
    command.undelayed.options = command.options.map OptionSpec.undelayed := by
  cases command
  rfl

@[simp] theorem subcommands_undelayed :
    command.undelayed.subcommands = command.subcommands.map undelayed := by
  cases command
  exact undelayedAll_eq_map _

@[simp] theorem isDisabled_undelayed (store : σ) :
    command.undelayed.isDisabled store = command.isDisabled store := by
  cases command
  rfl

@[simp] theorem candidate_undelayed : command.undelayed.candidate = command.candidate := by
  cases command
  rfl

@[simp] theorem findOption?_undelayed (key : String) :
    command.undelayed.findOption? key = (command.findOption? key).map OptionSpec.undelayed := by
  rw [findOption?, options_undelayed, List.find?_map]
  rfl

@[simp] theorem enabledSubcommands_undelayed (store : σ) :
    command.undelayed.enabledSubcommands store =
      (command.enabledSubcommands store).map undelayed := by
  simp only [enabledSubcommands, subcommands_undelayed, List.filter_map, Function.comp_def,
    isDisabled_undelayed]

end Commands

namespace Registry

variable (registry : Registry σ) (store : σ)

@[simp] theorem get?_undelayed (id : String) :
    registry.undelayed.get? id = (registry.get? id).map Command.undelayed := by
  obtain ⟨entries, topLevel⟩ := registry
  simp only [undelayed, get?]
  induction entries with
  | nil => rfl
  | cons entry rest ih =>
      obtain ⟨key, command⟩ := entry
      cases same : id == key <;> simp [List.lookup_cons, same, ih]

@[simp] theorem topLevelCandidates_undelayed :
    registry.undelayed.topLevelCandidates store = registry.topLevelCandidates store := by
  have looked : registry.undelayed.topLevel.filterMap registry.undelayed.get? =
      (registry.topLevel.filterMap registry.get?).map Command.undelayed := by
    rw [List.map_filterMap, ← funext registry.get?_undelayed]
    rfl
  simp only [topLevelCandidates, looked, List.filter_map, List.map_map, Function.comp_def,
    isDisabled_undelayed, candidate_undelayed]

@[simp] theorem subcommandCandidates_undelayed (id : String) :
    registry.undelayed.subcommandCandidates id store = registry.subcommandCandidates id store := by
  rw [subcommandCandidates, subcommandCandidates, get?_undelayed]
  cases registry.get? id with
  | none => rfl
  | some command =>
      simp only [Option.map_some, enabledSubcommands_undelayed, List.map_map, Function.comp_def,
        candidate_undelayed]

theorem longestMatch?_undelayed (words : List String) (depth : Nat) :
    registry.undelayed.longestMatch? store words depth =
      (registry.longestMatch? store words depth).map Resolution.undelayed := by
  induction depth with
  | zero => rfl
  | succ depth ih =>
      simp only [longestMatch?, get?_undelayed]
      cases registry.get? (qualifiedId (words.take (depth + 1))) with
      | none => exact ih
      | some command =>
          simp only [Option.map_some, isDisabled_undelayed]
          split
          · exact ih
          · rfl

theorem hides_undelayed (word : String) :
    registry.undelayed.hides store word = registry.hides store word := by
  rw [hides, hides, get?_undelayed]
  cases registry.get? word <;> simp

@[simp] theorem resolve_undelayed (words : List String) :
    registry.undelayed.resolve store words =
      (registry.resolve store words).map Resolution.undelayed := by
  cases words with
  | nil => rfl
  | cons first rest =>
      simp only [resolve, hides_undelayed, longestMatch?_undelayed]
      split
      · rfl
      · cases registry.longestMatch? store (first :: rest) (first :: rest).length <;> rfl

end Registry

section Plans

variable (registry : Registry σ) (command : Command σ)

@[simp] theorem ownerTakesValue_undelayed (owner : Option Token) :
    ownerTakesValue command.undelayed owner = ownerTakesValue command owner := by
  simp only [ownerTakesValue, findOption?_undelayed]
  cases owner.bind keyName? with
  | none => rfl
  | some key => cases found : command.findOption? key <;> simp [found, OptionSpec.undelayed]

@[simp] theorem slot_undelayed (committed : List Token) (typing : Option Token) :
    slot command.undelayed committed typing = slot command committed typing := by
  simp only [slot, ownerTakesValue_undelayed]

@[simp] theorem countPositionals_undelayed (previous : Option Token) (tokens : List Token) :
    countPositionals command.undelayed previous tokens =
      countPositionals command previous tokens := by
  induction tokens generalizing previous with
  | nil => rfl
  | cons token rest ih => simp only [countPositionals, ownerTakesValue_undelayed, ih]

@[simp] theorem optionKeys_undelayed (committed : List Token) (typing : Option Token) :
    optionKeys command.undelayed committed typing = optionKeys command committed typing := by
  simp only [optionKeys, options_undelayed, findOption?_undelayed, List.filter_map, List.map_map,
    Option.isNone_map]
  rfl

theorem ofProvider_undelayed (provider : Option (Provider σ)) (target stem : String) :
    Plan.ofProvider (provider.map Provider.undelayed) target stem =
      (Plan.ofProvider provider target stem).undelayed := by
  cases provider <;> rfl

theorem positionalPlan_undelayed (store : σ) (anchor : Resolution σ) (committed : List Token)
    (typed : String) :
    positionalPlan registry.undelayed store anchor.undelayed committed typed =
      (positionalPlan registry store anchor committed typed).undelayed := by
  simp only [positionalPlan, Resolution.undelayed, Registry.subcommandCandidates_undelayed,
    countPositionals_undelayed, arguments_undelayed, List.getElem?_map]
  cases registry.subcommandCandidates anchor.id store with
  | cons child others => rfl
  | nil =>
      dsimp only
      cases anchor.command.arguments[countPositionals anchor.command none
          (committed.drop anchor.depth)]? with
      | none => rfl
      | some argument => exact ofProvider_undelayed argument.provider _ typed

theorem clausePlan_undelayed (store : σ) (committed : List Token) (typing : Option Token) :
    clausePlan registry.undelayed store committed typing =
      (clausePlan registry store committed typing).undelayed := by
  simp only [clausePlan, Registry.topLevelCandidates_undelayed, Registry.resolve_undelayed]
  cases (Clause.mk committed).leadingWords with
  | nil => rfl
  | cons first rest =>
      dsimp only
      cases registry.resolve store (first :: rest) with
      | error error => rfl
      | ok anchor =>
          simp only [Except.map, positionalPlan_undelayed]
          simp only [Resolution.undelayed, slot_undelayed, optionKeys_undelayed]
          cases slot anchor.command committed typing with
          | positional => rfl
          | optionKey => rfl
          | optionValue =>
              dsimp only
              cases committed.getLast?.bind keyName? with
              | none => rfl
              | some key =>
                  simp only [Option.bind_some, findOption?_undelayed]
                  cases anchor.command.findOption? key with
                  | none => rfl
                  | some option => exact ofProvider_undelayed option.provider _ _

/-- Delays make no difference to what is asked. -/
theorem plan_undelayed (store : σ) (line : List Char) :
    plan registry.undelayed store line = (plan registry store line).undelayed := by
  simp only [plan, Registry.topLevelCandidates_undelayed, clausePlan_undelayed]
  split
  · rfl
  · split
    · rfl
    · split <;> rfl
    · rfl

variable {registry : Registry σ} {other : Registry σ}

/-- The answer does not depend on how long it takes. -/
theorem run_plan_of_undelayed (same : registry.undelayed = other.undelayed) (store : σ)
    (line : List Char) (text : String) :
    (plan registry store line).run text store = (plan other store line).run text store := by
  have run_undelayed (plan : Plan σ) : plan.undelayed.run text store = plan.run text store := by
    cases plan <;> rfl
  rw [← run_undelayed, ← plan_undelayed, same, plan_undelayed, run_undelayed]

theorem call?_plan_of_undelayed (same : registry.undelayed = other.undelayed) (store : σ)
    (line : List Char) (text : String) :
    (plan registry store line).call? text = (plan other store line).call? text := by
  have call?_undelayed (plan : Plan σ) : plan.undelayed.call? text = plan.call? text := by
    cases plan <;> rfl
  rw [← call?_undelayed, ← plan_undelayed, same, plan_undelayed, call?_undelayed]

end Plans

end Command

end OperatorShell

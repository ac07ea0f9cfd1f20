import Mathlib.Data.List.Basic
import OperatorShell.Command.Completion
import OperatorShell.Proofs.Command.Registration
import OperatorShell.Proofs.Line.Nodes
import OperatorShell.Proofs.Session.Admission

/-!
# The argument whose turn it is

Completion counts the positional values of a clause to find the argument that comes next,
and it counts them in its own way: by the kind of a token and the key right before it.
Both ways come to the same number unless a key is nothing but dashes.  Such a key is a
positional value itself and takes no value, but completion does not count it and takes the
value behind it for that of an option.
-/

namespace OperatorShell.Command

open Line

variable {σ : Type}

/-- The token is a key that is nothing but dashes. -/
def IsBareKey (token : Token) : Prop :=
  token.kind.isKey = true ∧ tokenKey? token = none

instance (token : Token) : Decidable (IsBareKey token) :=
  inferInstanceAs (Decidable (_ ∧ _))

theorem not_isBareKey_of_isPositional {token : Token}
    (positional : token.isPositional = true) : ¬IsBareKey token := by
  rintro ⟨isKey, -⟩
  cases kind : token.kind <;> simp_all [Token.isPositional, Kind.isPositional, Kind.isKey]

section Counting

variable (command : Command σ)

/-- The token is read as a positional value. -/
def IsPlaced (previous : Option Token) (token : Token) : Prop :=
  ¬command.IsTaken previous token ∧ tokenKey? token = none

instance (previous : Option Token) (token : Token) :
    Decidable (command.IsPlaced previous token) :=
  inferInstanceAs (Decidable (_ ∧ _))

/-- The token is a positional value that completion does not count. -/
def IsOverlooked (previous : Option Token) (token : Token) : Prop :=
  IsBareKey token ∨
    token.kind = .value ∧ (∃ key ∈ previous, IsBareKey key) ∧
      ownerTakesValue command previous = true

instance (previous : Option Token) (token : Token) :
    Decidable (command.IsOverlooked previous token) :=
  inferInstanceAs (Decidable (_ ∨ _ ∧ (∃ key ∈ previous, _) ∧ _))

/-- Number of positional values that completion does not count. -/
def overlooked : Option Token → List Token → Nat
  | _, [] => 0
  | previous, token :: rest =>
      (if command.IsOverlooked previous token then 1 else 0) + overlooked (some token) rest

variable {command} {previous : Option Token} {token : Token} {rest : List Token}

theorem positionals_readings_cons (previous : Option Token) (token : Token)
    (rest : List Token) :
    Item.positionals (command.readings previous (token :: rest)) =
      (if command.IsPlaced previous token then [tokenValue token] else []) ++
        Item.positionals (command.readings (some token) rest) := by
  rw [readings, Item.positionals, List.filterMap_append]
  congr 1
  by_cases taken : command.IsTaken previous token
  · simp [reading?, IsPlaced, taken]
  · cases keyed : tokenKey? token with
    | none => simp [reading?, IsPlaced, taken, keyed]
    | some key => cases found : command.findOption? key <;> cases asks : isHelpKey key <;>
        simp [reading?, IsPlaced, taken, keyed, found, asks]

theorem keyName?_of_tokenKey? {key : String} (keyed : tokenKey? token = some key) :
    token.kind.isKey = true ∧ keyName? token = some key := by
  rw [tokenKey?] at keyed
  cases named : token.optionName? with
  | none => simp [named] at keyed
  | some name =>
      constructor
      · by_contra notKey
        simp [Token.optionName?, notKey] at named
      · cases name with
        | nil => simp [named] at keyed
        | cons first others => simpa [keyName?, named] using keyed

/-- A key that takes the value behind it is the owner of that value. -/
theorem ownerTakesValue_of_takesNext (takes : command.takesNext token = true) :
    token.kind.isKey = true ∧ ownerTakesValue command (some token) = true := by
  rw [takesNext] at takes
  cases keyed : tokenKey? token with
  | none => simp [keyed] at takes
  | some key =>
      obtain ⟨isKey, name⟩ := keyName?_of_tokenKey? keyed
      refine ⟨isKey, ?_⟩
      cases found : command.findOption? key with
      | none => simp [ownerTakesValue, name, found]
      | some option => simpa [ownerTakesValue, keyed, name, found] using takes

/-- The owner of a value takes it unless it is bare or asks for help. -/
theorem takesNext_eq_ownerTakesValue (named : ¬IsBareKey token)
    (unasked : ¬command.AsksForHelp [token]) :
    command.takesNext token = ownerTakesValue command (some token) := by
  cases keyed : tokenKey? token with
  | none =>
      have notKey : ¬token.kind.isKey = true := fun isKey => named ⟨isKey, keyed⟩
      simp [takesNext, keyed, ownerTakesValue, keyName?, Token.optionName?, notKey]
  | some key =>
      obtain ⟨-, name⟩ := keyName?_of_tokenKey? keyed
      cases found : command.findOption? key with
      | some option => simp [takesNext, keyed, ownerTakesValue, name, found]
      | none =>
          have meant : isHelpKey key = false := by
            simpa [AsksForHelp, keyed, found] using unasked
          simp [takesNext, keyed, ownerTakesValue, name, found, meant]

/-- A value belongs to the key before it unless completion takes it to, or the key is
bare. -/
theorem isTaken_iff (isValue : token.kind = .value)
    (unasked : ¬command.AsksForHelp previous.toList) :
    command.IsTaken previous token ↔
      ownerTakesValue command previous = true ∧ ∀ key ∈ previous, ¬IsBareKey key := by
  cases previous with
  | none => simp [IsTaken, ownerTakesValue]
  | some key =>
      by_cases bare : IsBareKey key
      · simp [IsTaken, takesNext, bare.2, bare]
      · simp [IsTaken, isValue, bare, takesNext_eq_ownerTakesValue bare unasked]

/-- What completion counts and what it overlooks make up the positional values. -/
theorem count_add_overlooked (plain : token.kind.isOperator = false)
    (unasked : ¬command.AsksForHelp previous.toList) :
    (if command.IsPlaced previous token then 1 else 0) =
      (match token.kind with
        | .word | .argument => 1
        | .value => if ownerTakesValue command previous then 0 else 1
        | _ => 0) +
      (if command.IsOverlooked previous token then 1 else 0) := by
  cases kind : token.kind with
  | operator connective => simp [kind, Kind.isOperator] at plain
  | word | argument =>
      have keyless : tokenKey? token = none :=
        tokenKey?_of_isPositional (by simp [Token.isPositional, kind, Kind.isPositional])
      simp [IsPlaced, IsTaken, IsOverlooked, IsBareKey, kind, keyless, Kind.isKey]
  | key style =>
      simp [IsPlaced, IsTaken, IsOverlooked, IsBareKey, kind, Kind.isKey]
  | value =>
      have keyless := tokenKey?_of_kind_eq_value kind
      have taken := isTaken_iff kind unasked
      by_cases owned : ownerTakesValue command previous = true <;>
        simp [IsPlaced, IsOverlooked, IsBareKey, kind, keyless, Kind.isKey, taken, owned]

theorem not_asksForHelp_of_subset {tokens others : List Token}
    (unasked : ¬command.AsksForHelp tokens) (within : others ⊆ tokens) :
    ¬command.AsksForHelp others := by
  rintro ⟨token, member, asks⟩
  exact unasked ⟨token, within member, asks⟩

theorem length_positionals_readings {tokens : List Token}
    (plain : ∀ token ∈ tokens, token.kind.isOperator = false)
    (unasked : ¬command.AsksForHelp (previous.toList ++ tokens)) :
    (Item.positionals (command.readings previous tokens)).length =
      countPositionals command previous tokens + command.overlooked previous tokens := by
  -- The token in front stays open: both counts look back at it, and so does a reading.
  induction tokens generalizing previous with
  | nil => rfl
  | cons token rest ih =>
      obtain ⟨plainHere, plainLater⟩ := List.forall_mem_cons.mp plain
      have here := count_add_overlooked plainHere
        (not_asksForHelp_of_subset unasked (List.subset_append_left _ _))
      have later := @ih (some token) plainLater
        (not_asksForHelp_of_subset unasked (List.subset_append_right _ _))
      calc (Item.positionals (command.readings previous (token :: rest))).length
          = (if command.IsPlaced previous token then 1 else 0) +
              (Item.positionals (command.readings (some token) rest)).length := by
            rw [positionals_readings_cons, List.length_append]
            split <;> rfl
        _ = countPositionals command previous (token :: rest) +
              command.overlooked previous (token :: rest) := by
            rw [here, later, countPositionals, overlooked]
            exact Nat.add_add_add_comm _ _ _ _

/-- Nothing is overlooked just when no key is bare. -/
theorem overlooked_eq_zero_iff {tokens : List Token}
    (named : ∀ key ∈ previous, ¬IsBareKey key) :
    command.overlooked previous tokens = 0 ↔ ∀ token ∈ tokens, ¬IsBareKey token := by
  induction tokens generalizing previous with
  | nil => simp [overlooked]
  | cons token rest ih =>
      have here : command.IsOverlooked previous token ↔ IsBareKey token := by
        rw [IsOverlooked, or_iff_left]
        rintro ⟨-, ⟨key, same, bare⟩, -⟩
        exact named key same bare
      rw [overlooked, List.forall_mem_cons]
      by_cases bare : IsBareKey token
      · simp [here, bare]
      · simp [here, bare, ih]

/-- A token that belongs to nothing is read as one more positional value. -/
theorem positionals_readings_append {tokens : List Token}
    (free : ¬command.IsTaken (tokens.getLast?.or previous) token)
    (keyless : tokenKey? token = none) :
    Item.positionals (command.readings previous (tokens ++ [token])) =
      Item.positionals (command.readings previous tokens) ++ [tokenValue token] := by
  induction tokens generalizing previous with
  | nil =>
      have placed : command.IsPlaced previous token := ⟨free, keyless⟩
      rw [List.nil_append, positionals_readings_cons, if_pos placed]
      rfl
  | cons first rest ih =>
      have later : ¬command.IsTaken (rest.getLast?.or (some first)) token := by
        cases last : rest.getLast? <;> simpa [List.getLast?_cons, last] using free
      rw [List.cons_append, positionals_readings_cons, positionals_readings_cons, ih later,
        List.append_assoc]

/-- Where completion expects a positional value, nothing takes the token to come. -/
theorem not_isTaken_of_slot {committed : List Token}
    (positional : slot command committed none = .positional) :
    ¬command.IsTaken committed.getLast? token := by
  rintro ⟨-, last, isLast, takes⟩
  obtain ⟨isKey, owner⟩ := ownerTakesValue_of_takesNext takes
  rw [Option.mem_def] at isLast
  simp [slot, isLast, isKey, owner] at positional

end Counting

section Plans

variable {registry : Registry σ} {store : σ}

/-- The place among the arguments that completion finds for what comes next. -/
def Resolution.nextIndex (anchor : Resolution σ) (committed : List Token) : Nat :=
  countPositionals anchor.command none (committed.drop anchor.depth)

/-- How all candidates of the argument at an index are found. -/
def argumentPlan (command : Command σ) (index : Nat) : Plan σ :=
  match command.arguments[index]? with
  | some argument => .ofProvider argument.provider ("<" ++ argument.name ++ ">") ""
  | none => .ready []

theorem clausePlan_of_positional {committed : List Token} {anchor : Resolution σ}
    (resolved : registry.resolve store (Clause.mk committed).leadingWords = .ok anchor)
    (positional : slot anchor.command committed none = .positional)
    (childless : registry.subcommandCandidates anchor.id store = []) :
    clausePlan registry store committed none =
      argumentPlan anchor.command (anchor.nextIndex committed) := by
  rw [clausePlan]
  cases words : (Clause.mk committed).leadingWords with
  | nil =>
      rw [words] at resolved
      cases resolved
  | cons first rest =>
      rw [words] at resolved
      simp only [resolved, positional, positionalPlan, childless]
      rfl

/-- Behind a space it is the last clause that is completed. -/
theorem plan_of_fresh {line : List Char} {body : Clause}
    (fresh : isFresh (parse line) line = true)
    (last : (parse line).nodes.getLast? = some (.clause body)) :
    plan registry store line = clausePlan registry store body.tokens none := by
  have occupied : (parse line).clauses.isEmpty = false := by
    rw [List.isEmpty_eq_false_iff_exists_mem]
    exact ⟨body, List.mem_filterMap.mpr ⟨_, List.mem_of_getLast? last, rfl⟩⟩
  simp [plan, occupied, last, fresh]

end Plans

section Behind

variable {registry : Registry σ} {store : σ} {body : Clause} {resolution : Resolution σ}

theorem nextIndex_add_eq (unasked : ¬resolution.command.AsksForHelp body.tokens)
    (plain : ∀ token ∈ body.tokens, token.kind.isOperator = false) :
    resolution.nextIndex body.tokens +
        resolution.command.overlooked none (body.tokens.drop resolution.depth) =
      (resolution.values body).length := by
  symm
  apply length_positionals_readings
  · intro token member
    exact plain token (List.mem_of_mem_drop member)
  · exact not_asksForHelp_of_subset unasked (List.drop_subset _ _)

/-- The path has no keys, so it makes no difference whether it is looked at. -/
theorem overlooked_drop_eq_zero_iff
    (resolved : registry.resolve store body.leadingWords = .ok resolution) :
    resolution.command.overlooked none (body.tokens.drop resolution.depth) = 0 ↔
      ∀ token ∈ body.tokens, ¬IsBareKey token := by
  rw [overlooked_eq_zero_iff (by simp)]
  constructor
  · intro named token member
    rw [← List.take_append_drop resolution.depth body.tokens] at member
    rcases List.mem_append.mp member with path | behind
    · apply not_isBareKey_of_isPositional
      exact isPositional_of_mem_path resolved token path
    · exact named token behind
  · intro named token member
    exact named token (List.mem_of_mem_drop member)

/-- Where completion expects a positional value, a token to come is one. -/
theorem values_append (resolved : registry.resolve store body.leadingWords = .ok resolution)
    (positional : slot resolution.command body.tokens none = .positional) {next : Token}
    (keyless : tokenKey? next = none) :
    resolution.values ⟨body.tokens ++ [next]⟩ =
      resolution.values body ++ [tokenValue next] := by
  have within : resolution.depth ≤ body.tokens.length :=
    (depth_le_of_resolve resolved).trans (List.takeWhile_prefix _).length_le
  have free : ¬resolution.command.IsTaken
      ((body.tokens.drop resolution.depth).getLast?.or none) next := by
    rw [Option.or_none, List.getLast?_drop]
    split
    · simp [IsTaken]
    · exact not_isTaken_of_slot positional
  rw [Resolution.values, Resolution.items, List.drop_append_of_le_length within]
  exact positionals_readings_append free keyless

end Behind

/-- Completion offers what belongs to the argument at its own count of positional values.
It counts all of them but the keys that are nothing but dashes and the values behind these,
so the count is that of the invocation just when the clause has no such key; and the word
to come is one more positional value. -/
theorem nextIndex_add_overlooked {registry : Registry σ} {store : σ} {line : List Char}
    {body : Clause} {text : String} {resolution : Resolution σ} {invocation : Invocation}
    (fresh : isFresh (parse line) line = true)
    (last : (parse line).nodes.getLast? = some (.clause body))
    (prepared : prepare registry store body text = .ok ⟨resolution, invocation, false⟩)
    (positional : slot resolution.command body.tokens none = .positional) :
    let command := resolution.command
    let index := resolution.nextIndex body.tokens
    index + command.overlooked none (body.tokens.drop resolution.depth) =
        invocation.positional.length ∧
      (index = invocation.positional.length ↔ ∀ token ∈ body.tokens, ¬IsBareKey token) ∧
      (registry.subcommandCandidates resolution.id store = [] →
        plan registry store line = argumentPlan command index) ∧
      ∀ next, tokenKey? next = none →
        resolution.values ⟨body.tokens ++ [next]⟩ =
          invocation.positional ++ [tokenValue next] := by
  intro command index
  obtain ⟨read, rfl, asked⟩ := isRead_of_prepare prepared
  have unasked : ¬command.AsksForHelp body.tokens := by
    rw [← askForHelp_items read, ← asked]
    decide
  obtain ⟨-, plain⟩ := isProper_nodes line _ (List.mem_of_getLast? last)
  have counted := nextIndex_add_eq unasked plain
  refine ⟨counted, ?_, ?_, ?_⟩
  · rw [← overlooked_drop_eq_zero_iff read.resolved, ← Nat.add_eq_left, counted]
    exact eq_comm
  · intro childless
    rw [plan_of_fresh fresh last]
    exact clausePlan_of_positional read.resolved positional childless
  · intro next keyless
    exact values_append read.resolved positional keyless

/-- A command with a flag and two arguments. -/
def pick : Command Unit :=
  { Command.ofName "pick" "Picks two things" with
    arguments := [⟨"left", none, true, none, none⟩, ⟨"right", none, true, none, none⟩]
    options := [⟨"force", none, none, false, none, none⟩]
    body := some fun _ => .done () }

/-- What is typed in `pick --force a`. -/
def forcedPick : Clause :=
  ⟨[⟨0, "pick".toList, .word⟩, ⟨5, "--force".toList, .key .full⟩, ⟨13, "a".toList, .value⟩]⟩

/-- The value behind a flag is counted by both. -/
theorem nextIndex_behind_force :
    (parse "pick --force a ".toList).nodes.getLast? = some (.clause forcedPick) ∧
      ∃ invocation,
        prepare (.afterCalls [pick]) () forcedPick "pick --force a" =
            .ok ⟨⟨1, "pick", pick⟩, invocation, false⟩ ∧
          Resolution.nextIndex ⟨1, "pick", pick⟩ forcedPick.tokens =
            invocation.positional.length := by
  have fresh : isFresh (parse "pick --force a ".toList) "pick --force a ".toList = true := by
    decide
  have last : (parse "pick --force a ".toList).nodes.getLast? = some (.clause forcedPick) := by
    decide
  refine ⟨last, _, rfl, ?_⟩
  have prepared : prepare (.afterCalls [pick]) () forcedPick "pick --force a" =
      .ok ⟨⟨1, "pick", pick⟩, _, false⟩ := rfl
  have counted := nextIndex_add_overlooked fresh last prepared (by decide)
  exact counted.2.1.mpr (by decide)

/-- Behind two dashes alone completion expects the first argument, though two values are
given. -/
theorem nextIndex_behind_dashes :
    ∃ body, isFresh (parse "pick -- x ".toList) "pick -- x ".toList = true ∧
      (parse "pick -- x ".toList).nodes.getLast? = some (.clause body) ∧
      slot pick body.tokens none = .positional ∧
      ∃ invocation,
        prepare (.afterCalls [pick]) () body "pick -- x" =
            .ok ⟨⟨1, "pick", pick⟩, invocation, false⟩ ∧
          Resolution.nextIndex ⟨1, "pick", pick⟩ body.tokens = 0 ∧
          invocation.positional = ["--", "x"] :=
  ⟨⟨[⟨0, "pick".toList, .word⟩, ⟨5, "--".toList, .key .full⟩, ⟨8, "x".toList, .value⟩]⟩,
    by decide, by decide, by decide, _, rfl, by decide, rfl⟩

end OperatorShell.Command

import OperatorShell.Command.Item

/-!
# Reading tokens one by one

The items of a clause come from a loop that consumes a key together with its value.
What it does to a single token is settled by the tokens next to it: a value belongs to
the key right before it unless that key takes none.  So the items are a reading of each
token by itself, and reading fails at the first key that has to be followed by a value
and is not.
-/

namespace OperatorShell.Command

open Line

variable {σ : Type} (command : Command σ)

/-- Whether a value right behind the token would be read as part of it. -/
def takesNext (token : Token) : Bool :=
  match tokenKey? token with
  | none => false
  | some key =>
      match command.findOption? key with
      | some option => option.takesValue
      | none => !isHelpKey key

/-- Whether a token is the value of the key right before it. -/
def IsTaken (previous : Option Token) (token : Token) : Prop :=
  token.kind = .value ∧ ∃ key ∈ previous, command.takesNext key = true

instance (previous : Option Token) (token : Token) :
    Decidable (command.IsTaken previous token) :=
  inferInstanceAs (Decidable (_ ∧ ∃ key ∈ previous, _))

/-- What an option gets from the token behind its key. -/
def valueBehind : Option Token → OptionValue
  | some next => if next.kind = .value then .value (tokenValue next) else .flag
  | none => .flag

/-- The item of a token between its neighbours; a value that belongs to the key before
it is no item of its own. -/
def reading? (previous : Option Token) (token : Token) (next : Option Token) :
    Option Item :=
  if command.IsTaken previous token then none
  else
    match tokenKey? token with
    | none => some (.positional (tokenValue token))
    | some key =>
        match command.findOption? key with
        | some option =>
            let value := if option.takesValue then valueBehind next else .flag
            some (.option option.name value)
        | none =>
            some (if isHelpKey key then .help else .option key (valueBehind next))

/-- The items of tokens, each read between its neighbours. -/
def readings : Option Token → List Token → List Item
  | _, [] => []
  | previous, token :: rest =>
      (command.reading? previous token rest.head?).toList ++ readings (some token) rest

/-- The token at an index is the key of an option that takes a value, and the token
behind it is no value. -/
def LacksValue (tokens : List Token) (index : Nat) (option : OptionSpec σ) : Prop :=
  ∃ token key, tokens[index]? = some token ∧ tokenKey? token = some key ∧
    command.findOption? key = some option ∧ option.takesValue = true ∧
    ∀ next, tokens[index + 1]? = some next → next.kind ≠ .value

/-- The option of the first key that lacks its value. -/
def FirstLacks (tokens : List Token) (option : OptionSpec σ) : Prop :=
  ∃ index, command.LacksValue tokens index option ∧
    ∀ earlier < index, ∀ other, ¬command.LacksValue tokens earlier other

/-- Some token is a help key that no option of the command has. -/
def AsksForHelp (tokens : List Token) : Prop :=
  ∃ token ∈ tokens, ∃ key, tokenKey? token = some key ∧
    command.findOption? key = none ∧ isHelpKey key = true

variable {command}

/-- A value is no key. -/
theorem tokenKey?_of_kind_eq_value {token : Token} (isValue : token.kind = .value) :
    tokenKey? token = none := by
  simp [tokenKey?, Token.optionName?, isValue, Kind.isKey]

/-- A word or argument is no key. -/
theorem tokenKey?_of_isPositional {token : Token}
    (positional : token.isPositional = true) : tokenKey? token = none := by
  have notKey : token.kind.isKey = false := by
    rw [Token.isPositional] at positional
    cases kind : token.kind with
    | word | argument | value | operator connective => rfl
    | key style =>
        rw [kind] at positional
        cases positional
  simp [tokenKey?, Token.optionName?, notKey]

/-- A key is never taken by the key before it. -/
theorem not_isTaken_of_tokenKey? {previous : Option Token} {token : Token}
    {key : String} (keyed : tokenKey? token = some key) :
    ¬command.IsTaken previous token := by
  rintro ⟨isValue, -⟩
  rw [tokenKey?_of_kind_eq_value isValue] at keyed
  cases keyed

/-- A token that takes nothing leaves the value behind it alone. -/
theorem not_isTaken_of_not_takesNext {previous : Token} {rest : List Token}
    (takesNone : ¬command.takesNext previous = true) :
    ∀ token ∈ rest.head?, ¬command.IsTaken (some previous) token := by
  rintro token - ⟨-, key, same, takes⟩
  cases same
  exact takesNone takes

section Lacking

variable {token : Token} {rest : List Token} {option : OptionSpec σ}

theorem lacksValue_cons_zero :
    command.LacksValue (token :: rest) 0 option ↔
      ∃ key, tokenKey? token = some key ∧ command.findOption? key = some option ∧
        option.takesValue = true ∧ ∀ next ∈ rest.head?, next.kind ≠ .value := by
  simp [LacksValue, List.head?_eq_getElem?]

theorem lacksValue_cons_succ {index : Nat} :
    command.LacksValue (token :: rest) (index + 1) option ↔
      command.LacksValue rest index option := by
  simp [LacksValue]

/-- No key that has to be followed by a value comes before the first that lacks it. -/
theorem FirstLacks.cons
    (supplied : ∀ other, ¬command.LacksValue (token :: rest) 0 other)
    (first : command.FirstLacks rest option) :
    command.FirstLacks (token :: rest) option := by
  obtain ⟨index, lacks, none_earlier⟩ := first
  refine ⟨index + 1, lacksValue_cons_succ.mpr lacks, ?_⟩
  intro earlier below other
  cases earlier with
  | zero => exact supplied other
  | succ earlier =>
      rw [lacksValue_cons_succ]
      exact none_earlier earlier (by omega) other

theorem firstLacks_of_lacksValue_zero
    (lacks : command.LacksValue (token :: rest) 0 option) :
    command.FirstLacks (token :: rest) option :=
  ⟨0, lacks, fun _ below => absurd below (Nat.not_lt_zero _)⟩

theorem forall_not_lacksValue_cons
    (supplied : ∀ other, ¬command.LacksValue (token :: rest) 0 other)
    (others : ∀ index other, ¬command.LacksValue rest index other) (index : Nat)
    (other : OptionSpec σ) : ¬command.LacksValue (token :: rest) index other := by
  cases index with
  | zero => exact supplied other
  | succ index =>
      rw [lacksValue_cons_succ]
      exact others index other

/-- The first key that lacks its value is one key. -/
theorem FirstLacks.unique {tokens : List Token} {other : OptionSpec σ}
    (first : command.FirstLacks tokens option)
    (second : command.FirstLacks tokens other) : option = other := by
  obtain ⟨index, lacks, none_earlier⟩ := first
  obtain ⟨index', lacks', none_earlier'⟩ := second
  rcases Nat.lt_trichotomy index index' with below | rfl | above
  · exact (none_earlier' index below option lacks).elim
  · obtain ⟨token, key, at_index, keyed, found, -⟩ := lacks
    obtain ⟨token', key', at_index', keyed', found', -⟩ := lacks'
    rw [at_index] at at_index'
    obtain rfl := Option.some.inj at_index'
    rw [keyed] at keyed'
    obtain rfl := Option.some.inj keyed'
    rw [found] at found'
    exact Option.some.inj found'
  · exact (none_earlier index' above other lacks').elim

end Lacking

section ReadsTo

variable {previous : Option Token} {token : Token} {rest : List Token}
  {result : Except String (List Item)}

/-- What reading tokens comes to: an error for the first key that lacks its value, or
the items of all tokens. -/
def ReadsTo (command : Command σ) (previous : Option Token) (tokens : List Token) :
    Except String (List Item) → Prop
  | .error name => ∃ option, command.FirstLacks tokens option ∧ name = option.name
  | .ok items =>
      (∀ index option, ¬command.LacksValue tokens index option) ∧
        items = command.readings previous tokens

theorem ReadsTo.nil : command.ReadsTo previous [] (.ok []) :=
  ⟨by simp [LacksValue], rfl⟩

/-- A token with an item of its own puts it in front of the later ones. -/
theorem ReadsTo.cons {item : Item}
    (supplied : ∀ other, ¬command.LacksValue (token :: rest) 0 other)
    (read : command.reading? previous token rest.head? = some item)
    (later : command.ReadsTo (some token) rest result) :
    command.ReadsTo previous (token :: rest) (result.map (item :: ·)) := by
  cases result with
  | error name =>
      obtain ⟨option, first, named⟩ := later
      exact ⟨option, first.cons supplied, named⟩
  | ok items =>
      obtain ⟨others, read_later⟩ := later
      exact ⟨forall_not_lacksValue_cons supplied others,
        by simp [readings, read, read_later]⟩

/-- A value that belongs to the key before it adds nothing. -/
theorem ReadsTo.skip (taken : command.IsTaken previous token)
    (later : command.ReadsTo (some token) rest result) :
    command.ReadsTo previous (token :: rest) result := by
  have supplied : ∀ other, ¬command.LacksValue (token :: rest) 0 other := by
    intro other
    simp [lacksValue_cons_zero, tokenKey?_of_kind_eq_value taken.1]
  cases result with
  | error name =>
      obtain ⟨option, first, named⟩ := later
      exact ⟨option, first.cons supplied, named⟩
  | ok items =>
      obtain ⟨others, read_later⟩ := later
      exact ⟨forall_not_lacksValue_cons supplied others,
        by simp [readings, reading?, taken, read_later]⟩

end ReadsTo

/-- Reading tokens, of which the first does not belong to what came before. -/
theorem readsTo_readItems (command : Command σ) (tokens : List Token)
    (previous : Option Token)
    (free : ∀ token ∈ tokens.head?, ¬command.IsTaken previous token) :
    command.ReadsTo previous tokens (readItems command tokens) := by
  -- A key that takes the value behind it is read with the next token skipped; whatever
  -- else was read takes nothing from the token behind it.
  fun_induction readItems command tokens generalizing previous with
  | case1 => exact ReadsTo.nil
  | case2 token rest keyless ih =>
      refine ReadsTo.cons ?_ ?_ (ih (some token) (not_isTaken_of_not_takesNext ?_))
      · simp [lacksValue_cons_zero, keyless]
      · rw [reading?, if_neg (free token rfl), keyless]
      · simp [takesNext, keyless]
  | case3 token key keyed option found takes =>
      refine ⟨option, firstLacks_of_lacksValue_zero ?_, rfl⟩
      rw [lacksValue_cons_zero]
      exact ⟨key, keyed, found, takes, by simp⟩
  | case4 token key keyed option found takes next later isValue ih =>
      have taken : command.IsTaken (some token) next :=
        ⟨isValue, token, rfl, by simp [takesNext, keyed, found, takes]⟩
      refine ReadsTo.cons ?_ ?_ (ReadsTo.skip taken (ih (some next)
        (not_isTaken_of_not_takesNext ?_)))
      · simp [lacksValue_cons_zero, isValue]
      · simp [reading?, not_isTaken_of_tokenKey? keyed, keyed, found, takes,
          valueBehind, isValue]
      · simp [takesNext, tokenKey?_of_kind_eq_value isValue]
  | case5 token key keyed option found takes next later notValue =>
      refine ⟨option, firstLacks_of_lacksValue_zero ?_, rfl⟩
      rw [lacksValue_cons_zero]
      exact ⟨key, keyed, found, takes, by simpa using notValue⟩
  | case6 token rest key keyed option found takesNone ih =>
      refine ReadsTo.cons ?_ ?_ (ih (some token) (not_isTaken_of_not_takesNext ?_))
      · simp [lacksValue_cons_zero, keyed, found, takesNone]
      · simp [reading?, not_isTaken_of_tokenKey? keyed, keyed, found, takesNone]
      · simp [takesNext, keyed, found, takesNone]
  | case7 token rest key keyed unknown help ih =>
      refine ReadsTo.cons ?_ ?_ (ih (some token) (not_isTaken_of_not_takesNext ?_))
      · simp [lacksValue_cons_zero, keyed, unknown]
      · simp [reading?, not_isTaken_of_tokenKey? keyed, keyed, unknown, help]
      · simp [takesNext, keyed, unknown, help]
  | case8 token key keyed unknown noHelp =>
      show command.ReadsTo previous [token]
        (Except.map (Item.option key .flag :: ·) (.ok []))
      refine ReadsTo.cons ?_ ?_ ReadsTo.nil
      · simp [lacksValue_cons_zero, keyed, unknown]
      · simp [reading?, not_isTaken_of_tokenKey? keyed, keyed, unknown, noHelp,
          valueBehind]
  | case9 token key keyed unknown noHelp next later isValue ih =>
      have taken : command.IsTaken (some token) next :=
        ⟨isValue, token, rfl, by simp [takesNext, keyed, unknown, noHelp]⟩
      refine ReadsTo.cons ?_ ?_ (ReadsTo.skip taken (ih (some next)
        (not_isTaken_of_not_takesNext ?_)))
      · simp [lacksValue_cons_zero, isValue]
      · simp [reading?, not_isTaken_of_tokenKey? keyed, keyed, unknown, noHelp,
          valueBehind, isValue]
      · simp [takesNext, tokenKey?_of_kind_eq_value isValue]
  | case10 token key keyed unknown noHelp next later notValue ih =>
      refine ReadsTo.cons ?_ ?_ (ih (some token) ?_)
      · simp [lacksValue_cons_zero, keyed, unknown]
      · simp [reading?, not_isTaken_of_tokenKey? keyed, keyed, unknown, noHelp,
          valueBehind, notValue]
      · simp [IsTaken, notValue]

section Results

variable (command) {tokens : List Token}

/-- Reading stops at the first key that lacks its value, or none lacks it and reading
gives the items of all tokens. -/
theorem readItems_cases (tokens : List Token) :
    (∃ option, command.FirstLacks tokens option ∧
        readItems command tokens = .error option.name) ∨
      (∀ index option, ¬command.LacksValue tokens index option) ∧
        readItems command tokens = .ok (command.readings none tokens) := by
  have spec := readsTo_readItems command tokens none (by simp [IsTaken])
  cases read : readItems command tokens with
  | error name =>
      rw [read] at spec
      obtain ⟨option, first, rfl⟩ := spec
      exact .inl ⟨option, first, rfl⟩
  | ok items =>
      rw [read] at spec
      obtain ⟨supplied, rfl⟩ := spec
      exact .inr ⟨supplied, rfl⟩

/-- Where every value is supplied, reading gives the items of all tokens. -/
theorem readItems_of_forall_not_lacksValue
    (supplied : ∀ index option, ¬command.LacksValue tokens index option) :
    readItems command tokens = .ok (command.readings none tokens) := by
  rcases readItems_cases command tokens with ⟨option, ⟨index, lacks, -⟩, -⟩ | ⟨-, read⟩
  · exact (supplied index option lacks).elim
  · exact read

/-- Where a value is missing, reading stops at the first one. -/
theorem readItems_of_firstLacks {option : OptionSpec σ}
    (first : command.FirstLacks tokens option) :
    readItems command tokens = .error option.name := by
  rcases readItems_cases command tokens with ⟨other, second, read⟩ | ⟨supplied, -⟩
  · rw [read, first.unique second]
  · obtain ⟨index, lacks, -⟩ := first
    exact (supplied index option lacks).elim

/-- Some key is the first that lacks its value, or none lacks it. -/
theorem exists_firstLacks_or (tokens : List Token) :
    (∃ option, command.FirstLacks tokens option) ∨
      ∀ index option, ¬command.LacksValue tokens index option := by
  rcases readItems_cases command tokens with ⟨option, first, -⟩ | ⟨supplied, -⟩
  · exact .inl ⟨option, first⟩
  · exact .inr supplied

/-- Tokens that are no keys are read as positional values. -/
theorem readItems_append {front : List Token}
    (keyless : ∀ token ∈ front, tokenKey? token = none) (tokens : List Token) :
    readItems command (front ++ tokens) =
      (readItems command tokens).map
        ((front.map fun token => .positional (tokenValue token)) ++ ·) := by
  induction front with
  | nil =>
      rw [List.nil_append]
      cases readItems command tokens <;> rfl
  | cons token front ih =>
      rw [List.cons_append, readItems, keyless token (by simp),
        ih fun token member => keyless token (by simp [member])]
      cases readItems command tokens <;> rfl

theorem asksForHelp_append_iff {front : List Token}
    (keyless : ∀ token ∈ front, tokenKey? token = none) (tokens : List Token) :
    command.AsksForHelp (front ++ tokens) ↔ command.AsksForHelp tokens := by
  constructor
  · rintro ⟨token, member, key, keyed, unanswered⟩
    rcases List.mem_append.mp member with before | behind
    · rw [keyless token before] at keyed
      cases keyed
    · exact ⟨token, behind, key, keyed, unanswered⟩
  · rintro ⟨token, member, asks⟩
    exact ⟨token, List.mem_append_right _ member, asks⟩

/-- A token asks for help whatever stands next to it. -/
theorem reading?_eq_help_iff {previous next : Option Token} {token : Token} :
    command.reading? previous token next = some .help ↔
      ∃ key, tokenKey? token = some key ∧ command.findOption? key = none ∧
        isHelpKey key = true := by
  cases keyed : tokenKey? token with
  | none => simp [reading?, keyed]
  | some key =>
      rw [reading?, if_neg (not_isTaken_of_tokenKey? keyed), keyed]
      cases found : command.findOption? key with
      | none => simp [found]
      | some option => simp [found]

/-- The items of tokens ask for help just when one of the tokens does. -/
theorem askForHelp_readings (previous : Option Token) :
    Item.askForHelp (command.readings previous tokens) = true ↔
      command.AsksForHelp tokens := by
  rw [Item.askForHelp, List.contains_iff_mem]
  induction tokens generalizing previous with
  | nil => simp [readings, AsksForHelp]
  | cons token rest ih =>
      rw [readings, List.mem_append, ih (some token), Option.mem_toList,
        reading?_eq_help_iff]
      simp [AsksForHelp]

end Results

end OperatorShell.Command

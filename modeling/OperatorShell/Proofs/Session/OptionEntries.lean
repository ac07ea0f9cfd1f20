import Mathlib.Data.List.Induction
import OperatorShell.Proofs.Command.Registration
import OperatorShell.Proofs.Session.Admission

/-!
# Where the options of an invocation come from

A key is recognized by its name as it was typed, and what it gives is kept under a name in
camel case.  Camel case brings different names together, so what is kept for an option
comes from the keys that name it and from others that only look like it in camel case: keys
that no option has, and keys of another option.  The last of all these keys decides.
-/

namespace OperatorShell.Command

open Line Text

variable {σ : Type}

namespace Item

/-- What an item puts into the option map under a name. -/
def stored? (name : String) : Item → Option OptionValue
  | .option given value => if camelCaseName given = name then some value else none
  | .positional _ | .help => none

/-- The last item that puts something under a name counts. -/
theorem get?_options (items : List Item) (name : String) :
    (Item.options items).get? name = (items.filterMap (stored? name)).getLast? := by
  induction items using List.reverseRecOn with
  | nil => rfl
  | append_singleton items item ih =>
      rw [Item.options] at ih ⊢
      rw [List.foldl_append, List.filterMap_append, List.getLast?_append, ← ih]
      cases item with
      | positional value => rfl
      | help => rfl
      | option given value =>
          simp only [List.foldl_cons, List.foldl_nil, OptionMap.get?_insert]
          by_cases same : camelCaseName given = name
          · simp [stored?, same]
          · simp [stored?, same, Ne.symm same]

end Item

section Kept

variable (command : Command σ)

/-- The name under which a key is kept, which a request for help is not. -/
def keptName? (token : Token) : Option String :=
  match tokenKey? token with
  | none => none
  | some key =>
      match command.findOption? key with
      | some option => some (camelCaseName option.name)
      | none => if isHelpKey key then none else some (camelCaseName key)

/-- What a key gives, with the token behind it. -/
def given (token : Token) (next : Option Token) : OptionValue :=
  match (tokenKey? token).bind command.findOption? with
  | some option => if option.takesValue then valueBehind next else .flag
  | none => valueBehind next

/-- What the last of the keys that are kept under a name gives. -/
def lastGiven? (name : String) : List Token → Option OptionValue
  | [] => none
  | token :: rest =>
      (lastGiven? name rest).or
        (if command.keptName? token = some name then some (command.given token rest.head?)
        else none)

variable {command} {name : String}

/-- A token puts something under a name if it is a key that is kept there, whatever stands
before it. -/
theorem reading?_bind_stored? (previous next : Option Token) (token : Token) :
    (command.reading? previous token next).bind (Item.stored? name) =
      if command.keptName? token = some name then some (command.given token next)
      else none := by
  cases keyed : tokenKey? token with
  | none =>
      rw [reading?, keyed]
      split <;> simp [keptName?, keyed, Item.stored?]
  | some key =>
      rw [reading?, if_neg (not_isTaken_of_tokenKey? keyed), keyed]
      cases found : command.findOption? key with
      | some option => simp [keptName?, given, keyed, found, Item.stored?]
      | none => cases asks : isHelpKey key <;>
          simp [keptName?, given, keyed, found, asks, Item.stored?]

theorem get?_options_readings (previous : Option Token) (tokens : List Token) :
    (Item.options (command.readings previous tokens)).get? name =
      command.lastGiven? name tokens := by
  rw [Item.get?_options]
  induction tokens generalizing previous with
  | nil => rfl
  | cons token rest ih =>
      rw [readings, List.filterMap_append, List.getLast?_append, ih (some token), lastGiven?,
        ← reading?_bind_stored? previous rest.head? token]
      congr 1
      cases command.reading? previous token rest.head? with
      | none => rfl
      | some item => cases entry : Item.stored? name item <;> simp [entry]

/-- Something is given just when some key is kept under the name. -/
theorem exists_lastGiven?_iff {tokens : List Token} :
    (∃ value, command.lastGiven? name tokens = some value) ↔
      ∃ token ∈ tokens, command.keptName? token = some name := by
  induction tokens with
  | nil => simp [lastGiven?]
  | cons token rest ih =>
      simp only [← Option.isSome_iff_exists] at ih ⊢
      rw [lastGiven?, Option.isSome_or, Bool.or_eq_true, ih]
      by_cases kept : command.keptName? token = some name <;> simp [kept]

theorem lastGiven?_eq_none {tokens : List Token}
    (absent : ∀ token ∈ tokens, command.keptName? token ≠ some name) :
    command.lastGiven? name tokens = none := by
  rw [Option.eq_none_iff_forall_ne_some]
  intro value given
  obtain ⟨token, member, kept⟩ := exists_lastGiven?_iff.mp ⟨value, given⟩
  exact absent token member kept

/-- The last key that is kept under a name decides. -/
theorem lastGiven?_append {token : Token} {back : List Token}
    (kept : command.keptName? token = some name)
    (last : ∀ later ∈ back, command.keptName? later ≠ some name) (front : List Token) :
    command.lastGiven? name (front ++ token :: back) =
      some (command.given token back.head?) := by
  induction front with
  | nil => simp [lastGiven?, lastGiven?_eq_none last, kept]
  | cons other front ih => rw [List.cons_append, lastGiven?, ih, Option.some_or]

/-- Tokens that are no keys give nothing. -/
theorem lastGiven?_append_of_keyless {front : List Token}
    (keyless : ∀ token ∈ front, tokenKey? token = none) (tokens : List Token) :
    command.lastGiven? name (front ++ tokens) = command.lastGiven? name tokens := by
  induction front with
  | nil => rfl
  | cons token front ih =>
      obtain ⟨here, later⟩ := List.forall_mem_cons.mp keyless
      rw [List.cons_append, lastGiven?, ih later]
      simp [keptName?, here]

end Kept

section Declared

variable (command : Command σ) (token : Token) (option : OptionSpec σ)

/-- The token is a key of the option. -/
def Names : Prop :=
  ∃ key, tokenKey? token = some key ∧ command.findOption? key = some option

/-- The token is not a key of the option, and in camel case it cannot be told from one. -/
inductive StandsIn : Prop
  | unknown {key : String} (keyed : tokenKey? token = some key)
      (unknown : command.findOption? key = none) (meant : isHelpKey key = false)
      (same : camelCaseName key = camelCaseName option.name)
  | other {key : String} {other : OptionSpec σ} (keyed : tokenKey? token = some key)
      (found : command.findOption? key = some other) (differs : other ≠ option)
      (same : camelCaseName other.name = camelCaseName option.name)

variable {command token option}

/-- What is kept under the name of an option comes from its keys and from those that stand
in for them. -/
theorem keptName?_eq_some_iff :
    command.keptName? token = some (camelCaseName option.name) ↔
      command.Names token option ∨ command.StandsIn token option := by
  constructor
  · intro kept
    rw [keptName?] at kept
    cases keyed : tokenKey? token with
    | none => simp [keyed] at kept
    | some key =>
        cases found : command.findOption? key with
        | none =>
            cases asks : isHelpKey key with
            | true => simp [keyed, found, asks] at kept
            | false =>
                right
                exact .unknown keyed found asks (by simpa [keyed, found, asks] using kept)
        | some other =>
            by_cases named : other = option
            · exact .inl ⟨key, keyed, named ▸ found⟩
            · right
              exact .other keyed found named (by simpa [keyed, found] using kept)
  · rintro (⟨key, keyed, found⟩ | ⟨keyed, unknown, meant, same⟩ | ⟨keyed, found, -, same⟩)
    · simp [keptName?, keyed, found]
    · simp [keptName?, keyed, unknown, meant, same]
    · simp [keptName?, keyed, found, same]

/-- Where every value is supplied, one stands behind each key that has to have it. -/
theorem exists_value_behind {tokens front back : List Token}
    (supplied : ∀ index option, ¬command.LacksValue tokens index option)
    (split : tokens = front ++ token :: back) (names : command.Names token option)
    (takes : option.takesValue = true) :
    ∃ next, back.head? = some next ∧ next.kind = .value := by
  obtain ⟨key, keyed, found⟩ := names
  by_contra nothing
  apply supplied front.length option
  refine ⟨token, key, by simp [split], keyed, found, takes, ?_⟩
  intro next behind isValue
  rw [split, List.getElem?_append_right (Nat.le_add_right _ _)] at behind
  apply nothing
  refine ⟨next, ?_, isValue⟩
  simpa [List.head?_eq_getElem?] using behind

end Declared

section Prepared

variable {registry : Registry σ} {store : σ} {clause : Clause} {text : String}
  {resolution : Resolution σ} {invocation : Invocation} {asked : Bool}

/-- What the invocation holds under a name is what the last key that is kept there gives. -/
theorem get?_options_of_prepare (name : String)
    (prepared : prepare registry store clause text = .ok ⟨resolution, invocation, asked⟩) :
    invocation.options.get? name =
      resolution.command.lastGiven? name clause.tokens := by
  obtain ⟨read, rfl, -⟩ := isRead_of_prepare prepared
  -- Only the tokens behind the path are read, but the path gives nothing anyway.
  have behind_path : resolution.command.lastGiven? name clause.tokens =
      resolution.command.lastGiven? name (clause.tokens.drop resolution.depth) := by
    have whole := List.take_append_drop resolution.depth clause.tokens
    rw [← whole, lastGiven?_append_of_keyless (tokenKey?_of_mem_path read.resolved), whole]
  rw [behind_path]
  exact get?_options_readings none _

/-- A declared option has an entry just when some key of the clause names it or stands in
for it, and the last of these keys decides.  Where it names the option, the entry is the
value behind the key, or a flag for an option that takes none. -/
theorem declared_option_entry (option : OptionSpec σ)
    (prepared : prepare registry store clause text = .ok ⟨resolution, invocation, asked⟩) :
    let command := resolution.command
    let entry := invocation.options.get? (camelCaseName option.name)
    ((∃ value, entry = some value) ↔
        ∃ token ∈ clause.tokens,
          command.Names token option ∨ command.StandsIn token option) ∧
      ∀ front token back, clause.tokens = front ++ token :: back →
        (∀ later ∈ back, ¬command.Names later option ∧ ¬command.StandsIn later option) →
        (command.StandsIn token option →
          entry = some (command.given token back.head?)) ∧
        (command.Names token option →
          if option.takesValue then
            ∃ next, back.head? = some next ∧ next.kind = .value ∧
              entry = some (.value (tokenValue next))
          else entry = some .flag) := by
  intro command entry
  have entry_eq : entry = command.lastGiven? (camelCaseName option.name) clause.tokens :=
    get?_options_of_prepare _ prepared
  constructor
  · rw [entry_eq, exists_lastGiven?_iff]
    simp only [keptName?_eq_some_iff]
  · intro front token back split last
    have decided (kept : command.Names token option ∨ command.StandsIn token option) :
        entry = some (command.given token back.head?) := by
      rw [entry_eq, split]
      apply lastGiven?_append (keptName?_eq_some_iff.mpr kept)
      intro later member
      rw [ne_eq, keptName?_eq_some_iff, not_or]
      exact last later member
    refine ⟨fun standsIn => decided (.inr standsIn), ?_⟩
    intro names
    have given_entry := decided (.inl names)
    obtain ⟨key, keyed, found⟩ := names
    cases takes : option.takesValue with
    | false => simpa [given, keyed, found, takes] using given_entry
    | true =>
        obtain ⟨next, behind, isValue⟩ :=
          exists_value_behind (isRead_of_prepare prepared).1.supplied split
            ⟨key, keyed, found⟩ takes
        refine ⟨next, behind, isValue, ?_⟩
        simpa [given, keyed, found, takes, behind, valueBehind, isValue] using given_entry

end Prepared

/-- An option that takes a value. -/
def siteName : OptionSpec Unit := ⟨"site-name", none, none, true, none, none⟩

/-- A shell with one command, which has the option. -/
def deploying : Registry Unit :=
  .afterCalls [{
    Command.ofName "deploy" "Deploys a site" with
    options := [siteName]
    body := some fun _ => .done () }]

/-- A key of the option behind one that stands in for it decides. -/
theorem siteName_option_entry :
    ∃ resolution invocation,
      prepare deploying ()
          ⟨[⟨0, "deploy".toList, .word⟩, ⟨7, "--siteName".toList, .key .full⟩,
            ⟨18, "--site-name".toList, .key .full⟩, ⟨30, "eu".toList, .value⟩]⟩
          "deploy --siteName --site-name eu" = .ok ⟨resolution, invocation, false⟩ ∧
        invocation.options.get? (camelCaseName siteName.name) = some (.value "eu") := by
  refine ⟨_, _, rfl, ?_⟩
  have prepared : prepare deploying ()
      ⟨[⟨0, "deploy".toList, .word⟩, ⟨7, "--siteName".toList, .key .full⟩] ++
        ⟨18, "--site-name".toList, .key .full⟩ :: [⟨30, "eu".toList, .value⟩]⟩
      "deploy --siteName --site-name eu" = .ok ⟨_, _, _⟩ := rfl
  have decided := (declared_option_entry siteName prepared).2 _ _ _ rfl
  have named := (decided ?_).2 ⟨"site-name", rfl, rfl⟩
  · obtain ⟨next, behind, -, entry⟩ := named
    cases behind
    exact entry
  · intro later member
    rw [List.mem_singleton.mp member, ← not_or, ← keptName?_eq_some_iff]
    rintro ⟨⟩

/-- A key that no option has reaches the body under the name of an option that takes a
value, and without a value. -/
theorem flag_for_siteName :
    ∃ clause ∈ (parse "deploy --siteName".toList).clauses, ∃ resolution invocation,
      prepare deploying () clause "deploy --siteName" =
          .ok ⟨resolution, invocation, false⟩ ∧
        siteName ∈ resolution.command.options ∧ siteName.takesValue = true ∧
        (∀ token ∈ clause.tokens, ¬resolution.command.Names token siteName) ∧
        invocation.options.get? (camelCaseName siteName.name) = some .flag := by
  refine ⟨⟨[⟨0, "deploy".toList, .word⟩, ⟨7, "--siteName".toList, .key .full⟩]⟩,
    by decide, _, _, rfl, List.mem_cons_self, rfl, ?_, rfl⟩
  intro token member
  rintro ⟨key, keyed, found⟩
  rcases List.mem_cons.mp member with rfl | member
  · cases keyed
  · rw [List.mem_singleton.mp member] at keyed
    cases keyed
    cases found

end OperatorShell.Command

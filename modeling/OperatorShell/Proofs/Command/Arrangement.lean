import Mathlib.Data.List.Induction
import Mathlib.Data.String.Basic
import OperatorShell.Command.Decision
import OperatorShell.Proofs.Command.Children
import OperatorShell.Proofs.Line.Tokens

/-!
# Arguments and options in any order

Behind the path of a command without subcommands, values and options may be mixed freely.
The kind of a token changes with its neighbours, and the values right behind the path are
tried as subcommands, but every arrangement is read as the same values in their order and
the same options.  A key that is nothing but dashes is the exception: it is a value, even
where an option has the empty name.
-/

namespace OperatorShell.Command

open Line Text

variable {σ : Type}

namespace OptionMap

/-- The map with the given entries; of two for one name the later counts. -/
def ofList (entries : List (String × OptionValue)) : OptionMap :=
  entries.foldl (fun map entry => map.insert entry.1 entry.2) empty

theorem insertEntry_comm_of_lt {name other : String} (before : name < other)
    (value value' : OptionValue) (entries : List (String × OptionValue)) :
    insertEntry name value (insertEntry other value' entries) =
      insertEntry other value' (insertEntry name value entries) := by
  have differs := ne_of_lt before
  have after := not_lt_of_gt before
  induction entries with
  | nil => simp [insertEntry, differs, differs.symm, before, after]
  | cons entry rest ih =>
      obtain ⟨key, old⟩ := entry
      rcases lt_trichotomy key name with below | rfl | above
      · have below' := below.trans before
        simp [insertEntry, below.ne', below'.ne', not_lt_of_gt below, not_lt_of_gt below', ih]
      · simp [insertEntry, differs.symm, after]
      · -- The smaller name goes in front of the key, wherever the larger one goes.
        rcases lt_trichotomy key other with below' | rfl | above'
        · simp [insertEntry, above, above.ne, below'.ne', not_lt_of_gt below', differs.symm, after]
        · simp [insertEntry, before, differs, differs.symm, after]
        · simp [insertEntry, above, above.ne, above', above'.ne, before, differs, differs.symm,
            after]

theorem insert_comm {name other : String} (differs : name ≠ other)
    (value value' : OptionValue) (map : OptionMap) :
    (map.insert other value').insert name value = (map.insert name value).insert other value' := by
  simp only [insert]
  congr 1
  rcases lt_or_gt_of_ne differs with before | after
  · exact insertEntry_comm_of_lt before value value' map.entries
  · exact (insertEntry_comm_of_lt after value' value map.entries).symm

variable {entries others : List (String × OptionValue)}

/-- Entries for different names make up one map in any order. -/
theorem ofList_perm (nodup : (entries.map Prod.fst).Nodup) (same : entries.Perm others) :
    ofList entries = ofList others := by
  apply same.foldl_eq'
  intro entry member other member' map
  by_cases equal : entry.1 = other.1
  · rw [List.inj_on_of_nodup_map nodup member member' equal]
  · exact insert_comm (Ne.symm equal) other.2 entry.2 map

/-- Entries for different names are all kept. -/
theorem get?_ofList (nodup : (entries.map Prod.fst).Nodup) {name : String}
    {value : OptionValue} :
    (ofList entries).get? name = some value ↔ (name, value) ∈ entries := by
  induction entries using List.reverseRecOn with
  | nil => simp [ofList]
  | append_singleton entries entry ih =>
      obtain ⟨key, last⟩ := entry
      rw [List.map_append, List.nodup_append'] at nodup
      obtain ⟨earlier, -, apart⟩ := nodup
      have step : ofList (entries ++ [(key, last)]) = (ofList entries).insert key last := by
        simp [ofList]
      rw [step, get?_insert]
      by_cases same : name = key
      · subst same
        have absent : ∀ value, (name, value) ∉ entries := by
          intro value member
          exact apart (List.mem_map_of_mem member) (by simp)
        simp [absent, eq_comm]
      · simp [same, ih earlier]

end OptionMap

/-- What may stand behind the path of a command. -/
inductive Written (σ : Type) where
  | positional (value : String)
  /-- The key of an option that takes no value. -/
  | flag (option : OptionSpec σ) (key : List Char)
  /-- The key of an option and its value. -/
  | valued (option : OptionSpec σ) (key : List Char) (value : String)

/-- The text is one key, and its name, which is not empty, is the option's. -/
structure IsKeyOf (command : Command σ) (option : OptionSpec σ) (key : List Char) : Prop where
  single : IsPiece key
  dash : key.head? = some '-'
  named : (unquote key).dropWhile (· == '-') ≠ []
  found : command.findOption? (.ofList ((unquote key).dropWhile (· == '-'))) = some option

namespace Written

/-- The texts that it is written as. -/
def texts : Written σ → List (List Char)
  | .positional value => [quote value.toList]
  | .flag _ key => [key]
  | .valued _ key value => [key, quote value.toList]

/-- The key, unless it is a positional value. -/
def key? : Written σ → Option (List Char)
  | .positional _ => none
  | .flag _ key | .valued _ key _ => some key

/-- What it is read as. -/
def item : Written σ → Item
  | .positional value => .positional value
  | .flag option _ => .option option.name .flag
  | .valued option _ value => .option option.name (.value value)

/-- The positional value. -/
def value? : Written σ → Option String
  | .positional value => some value
  | .flag .. | .valued .. => none

/-- The entry among the options. -/
def given? : Written σ → Option (String × OptionValue)
  | .positional _ => none
  | .flag option _ => some (camelCaseName option.name, .flag)
  | .valued option _ value => some (camelCaseName option.name, .value value)

/-- Keys fit the options of the command, and no value looks like a key or an operator. -/
def IsSpelt (command : Command σ) : Written σ → Prop
  | .positional value => IsOrdinary (quote value.toList)
  | .flag option key => command.IsKeyOf option key ∧ option.takesValue = false
  | .valued option key value =>
      command.IsKeyOf option key ∧ option.takesValue = true ∧ IsOrdinary (quote value.toList)

end Written

section Reading

variable {command : Command σ} {option : OptionSpec σ} {written : Written σ}
  {items : List (Written σ)} {previous : Kind} {pieces : List Piece}

theorem IsKeyOf.ofText?_eq_none {key : List Char} (isKey : command.IsKeyOf option key) :
    Connective.ofText? key = none := by
  obtain ⟨rest, rfl⟩ := List.head?_eq_some_iff.mp isKey.dash
  simp [Connective.ofText?]

/-- Whatever is written is pieces without an operator among them. -/
theorem isPiece_of_isSpelt (spelt : written.IsSpelt command) {text : List Char}
    (member : text ∈ written.texts) : IsPiece text ∧ Connective.ofText? text = none := by
  cases written with
  | positional value =>
      obtain rfl := List.mem_singleton.mp member
      exact ⟨isPiece_quote _, spelt.2⟩
  | flag option key =>
      obtain rfl := List.mem_singleton.mp member
      exact ⟨spelt.1.single, spelt.1.ofText?_eq_none⟩
  | valued option key value =>
      rcases List.mem_pair.mp member with rfl | rfl
      · exact ⟨spelt.1.single, spelt.1.ofText?_eq_none⟩
      · exact ⟨isPiece_quote _, spelt.2.2.2⟩

theorem isPiece_of_mem_texts (spelt : ∀ written ∈ items, written.IsSpelt command)
    {text : List Char} (member : text ∈ items.flatMap Written.texts) :
    IsPiece text ∧ Connective.ofText? text = none := by
  obtain ⟨written, given, here⟩ := List.mem_flatMap.mp member
  exact isPiece_of_isSpelt (spelt written given) here

/-- A key that spells an option has a name to look up. -/
theorem IsKeyOf.exists_tokenKey? {text : List Char} (isKey : command.IsKeyOf option text)
    (start : Nat) (style : KeyStyle) :
    ∃ key, tokenKey? ⟨start, text, .key style⟩ = some key ∧
      command.findOption? key = some option := by
  refine ⟨_, ?_, isKey.found⟩
  cases spelling : (unquote text).dropWhile (· == '-') with
  | nil => exact (isKey.named spelling).elim
  | cons first rest => simp [tokenKey?, Token.optionName?, Token.value, Kind.isKey, spelling]

theorem tokenValue_of_text_eq_quote {text : List Char} {value : String} (start : Nat)
    (kind : Kind) (same : text = quote value.toList) :
    tokenValue ⟨start, text, kind⟩ = value := by
  rw [tokenValue, Token.value, same, unquote_quote, String.ofList_toList]

/-- What is no key is read as a positional value. -/
theorem readItems_positional {token : Token} (noKey : token.kind.isKey = false)
    (rest : List Token) : readItems command (token :: rest) =
      (readItems command rest).map (.positional (tokenValue token) :: ·) := by
  have key : tokenKey? token = none := by simp [tokenKey?, Token.optionName?, noKey]
  rw [readItems, key]

/-- One item is read and leaves the tokens behind it, which are classified from a kind that
is no operator on. -/
theorem readItems_written (spelt : written.IsSpelt command)
    (inside : previous.isOperator = false) (rest : List Piece)
    (texts : pieces.map Piece.text = written.texts) :
    ∃ last : Kind, last.isOperator = false ∧
      readItems command (classifyAll (some previous) (pieces ++ rest)) =
        (readItems command (classifyAll (some last) rest)).map (written.item :: ·) := by
  cases written with
  | positional value =>
      obtain ⟨piece, rfl, text⟩ := List.map_eq_singleton_iff.mp texts
      have ordinary : IsOrdinary piece.text := by rwa [text]
      have kind := Kind.classify_of_isOrdinary ordinary (some previous)
      refine ⟨_, Kind.isOperator_following (some previous), ?_⟩
      rw [List.singleton_append, classifyAll, kind,
        readItems_positional (Kind.isKey_following _), tokenValue_of_text_eq_quote _ _ text]
      rfl
  | flag option key =>
      obtain ⟨piece, rfl, rfl⟩ := List.map_eq_singleton_iff.mp texts
      obtain ⟨isKey, takesNone⟩ := spelt
      obtain ⟨style, kind⟩ := Kind.exists_classify_of_dash isKey.dash inside
      obtain ⟨key, named, found⟩ := isKey.exists_tokenKey? piece.start style
      refine ⟨.key style, rfl, ?_⟩
      simp [classifyAll, kind, readItems, named, found, takesNone, Written.item]
  | valued option key value =>
      obtain ⟨piece, others, rfl, rfl, behind⟩ := List.map_eq_cons_iff.mp texts
      obtain ⟨next, rfl, text⟩ := List.map_eq_singleton_iff.mp behind
      obtain ⟨isKey, takesOne, ordinary⟩ := spelt
      rw [← text] at ordinary
      obtain ⟨style, kind⟩ := Kind.exists_classify_of_dash isKey.dash inside
      have isValue : Kind.classify next.text (some (.key style)) = .value :=
        Kind.classify_of_isOrdinary ordinary _
      obtain ⟨key, named, found⟩ := isKey.exists_tokenKey? piece.start style
      have read := tokenValue_of_text_eq_quote next.start .value text
      refine ⟨.value, rfl, ?_⟩
      simp [classifyAll, kind, isValue, readItems, named, found, takesOne, read, Written.item]

/-- Items written one behind the other are read one by one. -/
theorem readItems_flatMap_texts (spelt : ∀ written ∈ items, written.IsSpelt command)
    (inside : previous.isOperator = false)
    (texts : pieces.map Piece.text = items.flatMap Written.texts) :
    readItems command (classifyAll (some previous) pieces) = .ok (items.map Written.item) := by
  induction items generalizing previous pieces with
  | nil =>
      obtain rfl := List.map_eq_nil_iff.mp texts
      rfl
  | cons written items ih =>
      obtain ⟨here, later⟩ := List.forall_mem_cons.mp spelt
      obtain ⟨front, back, rfl, texts, behind⟩ := List.map_eq_append_iff.mp texts
      obtain ⟨last, inside, step⟩ := readItems_written here inside back texts
      rw [step, ih later inside behind]
      rfl

end Reading

/-- The options given by what is written. -/
def givenOptions (items : List (Written σ)) : List (String × OptionValue) :=
  items.filterMap Written.given?

theorem positionals_map_item (items : List (Written σ)) :
    Item.positionals (items.map Written.item) = items.filterMap Written.value? := by
  rw [Item.positionals, List.filterMap_map]
  congr 1
  funext written
  cases written <;> rfl

theorem options_map_item (items : List (Written σ)) :
    Item.options (items.map Written.item) = .ofList (givenOptions items) := by
  rw [Item.options, OptionMap.ofList, givenOptions, List.foldl_map, List.foldl_filterMap]
  congr 1
  funext map written
  cases written <;> rfl

theorem askForHelp_map_item (items : List (Written σ)) :
    Item.askForHelp (items.map Written.item) = false := by
  have noHelp : .help ∉ items.map Written.item := by
    intro member
    obtain ⟨written, -, help⟩ := List.mem_map.mp member
    cases written <;> cases help
  simpa [Item.askForHelp] using noHelp

/-- The path leads to a command without subcommands, and what is written behind it fits that
command. -/
structure IsArranged (registry : Registry σ) (store : σ) (resolution : Resolution σ)
    (path : List Char) (items : List (Written σ)) : Prop where
  words : ∀ token ∈ tokenize path, token.kind = .word
  resolved : registry.resolve store ((tokenize path).map tokenValue) = .ok resolution
  whole : resolution.depth = (tokenize path).length
  childless : resolution.command.subcommands = []
  spelt : ∀ written ∈ items, written.IsSpelt resolution.command
  /-- Neither the path nor a key leaves a quote open, unless the line ends with it. -/
  closed : ∀ text ∈ path :: items.filterMap Written.key?,
    text ∈ (path :: items.flatMap Written.texts).dropLast → IsClosed text
  distinct : ((givenOptions items).map Prod.fst).Nodup

/-- The line with a space in front of everything behind the path. -/
def arrangedLine (path : List Char) (items : List (Written σ)) : List Char :=
  spaced path (items.flatMap Written.texts)

section Arranged

variable {commands : List (Command σ)} {store : σ} {resolution : Resolution σ}
  {path : List Char} {items : List (Written σ)}

theorem tokenize_path_ne_nil
    (arranged : IsArranged (.afterCalls commands) store resolution path items) :
    tokenize path ≠ [] := by
  intro nothing
  apply Registry.ne_nil_of_resolve arranged.resolved
  rw [nothing, List.map_nil]

/-- No quote is open where the next text begins. -/
theorem isClosed_of_mem_dropLast
    (arranged : IsArranged (.afterCalls commands) store resolution path items) :
    ∀ text ∈ (path :: items.flatMap Written.texts).dropLast, IsClosed text := by
  intro text member
  rcases List.mem_cons.mp (List.dropLast_subset _ member) with rfl | behind
  · exact arranged.closed _ List.mem_cons_self member
  · obtain ⟨written, given, here⟩ := List.mem_flatMap.mp behind
    have closedKey : text ∈ written.key? → IsClosed text := by
      intro isKey
      apply arranged.closed text _ member
      exact List.mem_cons_of_mem _ (List.mem_filterMap.mpr ⟨written, given, isKey⟩)
    cases written with
    | positional value =>
        obtain rfl := List.mem_singleton.mp here
        exact isClosed_quote _
    | flag option key =>
        obtain rfl := List.mem_singleton.mp here
        exact closedKey rfl
    | valued option key value =>
        rcases List.mem_pair.mp here with rfl | rfl
        · exact closedKey rfl
        · exact isClosed_quote _

/-- Behind the words of the path come the tokens of what is written. -/
theorem exists_tokenize_arrangedLine
    (arranged : IsArranged (.afterCalls commands) store resolution path items) :
    ∃ behind, behind.map Piece.text = items.flatMap Written.texts ∧
      tokenize (arrangedLine path items) =
        tokenize path ++ classifyAll (some .word) behind := by
  have pieces : ∀ text ∈ items.flatMap Written.texts, IsPiece text :=
    fun _ member => (isPiece_of_mem_texts arranged.spelt member).1
  obtain ⟨behind, cut, same⟩ := split_spaced path _ pieces (isClosed_of_mem_dropLast arranged)
  refine ⟨behind, same, ?_⟩
  rw [arrangedLine, tokenize, cut, classifyAll_append, ← tokenize]
  have nonempty := tokenize_path_ne_nil arranged
  have word := arranged.words _ (List.getLast_mem nonempty)
  rw [List.getLast?_eq_some_getLast nonempty, Option.map_some, word, Option.some_or]

/-- The line is one clause. -/
theorem parse_arrangedLine
    (arranged : IsArranged (.afterCalls commands) store resolution path items) :
    (parse (arrangedLine path items)).nodes =
      [.clause ⟨tokenize (arrangedLine path items)⟩] := by
  obtain ⟨behind, same, tokens⟩ := exists_tokenize_arrangedLine arranged
  have noOperator : ∀ piece ∈ behind, Connective.ofText? piece.text = none := by
    intro piece given
    apply (isPiece_of_mem_texts arranged.spelt _).2
    rw [← same]
    exact List.mem_map_of_mem given
  have plain : ∀ token ∈ tokenize (arrangedLine path items), token.kind.isOperator = false := by
    intro token member
    rw [tokens] at member
    rcases List.mem_append.mp member with inPath | behindPath
    · rw [arranged.words token inPath]
      rfl
    · exact isOperator_of_mem_classifyAll noOperator behindPath
  obtain ⟨word, words, path_eq⟩ := List.exists_cons_of_ne_nil (tokenize_path_ne_nil arranged)
  rw [tokens, path_eq, List.cons_append] at plain ⊢
  rw [parse, tokens, path_eq, List.cons_append, Node.group_of_plain plain]

/-- The words that lead to the command may go on into the values behind it. -/
theorem prepare_of_isArranged
    (arranged : IsArranged (.afterCalls commands) store resolution path items) (text : String) :
    prepare (.afterCalls commands) store ⟨tokenize (arrangedLine path items)⟩ text =
      .ok ⟨resolution,
        ⟨resolution.id, items.filterMap Written.value?, .ofList (givenOptions items), text⟩,
        false⟩ := by
  obtain ⟨behind, same, tokens⟩ := exists_tokenize_arrangedLine arranged
  have positional : ∀ token ∈ tokenize path, token.isPositional = true := by
    intro token member
    rw [Token.isPositional, arranged.words token member]
    rfl
  have resolved : (Registry.afterCalls commands).resolve store
      (Clause.mk (tokenize (arrangedLine path items))).leadingWords = .ok resolution := by
    rw [Clause.leadingWords, tokens, List.takeWhile_append_of_pos positional, List.map_append]
    refine Registry.resolve_append_of_childless arranged.resolved ?_ arranged.childless _
    rw [List.length_map, arranged.whole]
  have read : readItems resolution.command
      ((tokenize (arrangedLine path items)).drop resolution.depth) =
        .ok (items.map Written.item) := by
    rw [tokens, arranged.whole, List.drop_left]
    exact readItems_flatMap_texts arranged.spelt rfl same
  rw [prepare, resolved]
  simp only [read, positionals_map_item, options_map_item, askForHelp_map_item]

/-- Lines with the same values in their order and the same options in any order mean the
same. -/
theorem prepare_eq_of_perm {path' : List Char} {items' : List (Written σ)}
    (arranged : IsArranged (.afterCalls commands) store resolution path items)
    (arranged' : IsArranged (.afterCalls commands) store resolution path' items')
    (values : items'.filterMap Written.value? = items.filterMap Written.value?)
    (options : (givenOptions items').Perm (givenOptions items)) (text : String) :
    prepare (.afterCalls commands) store ⟨tokenize (arrangedLine path' items')⟩ text =
      prepare (.afterCalls commands) store ⟨tokenize (arrangedLine path items)⟩ text := by
  rw [prepare_of_isArranged arranged, prepare_of_isArranged arranged', values,
    OptionMap.ofList_perm arranged'.distinct options]

end Arranged

/-- However values and options are mixed behind the path of a command without subcommands,
the line is one clause, and it is read as that command with the values in their order and
the options under their camel-cased names.  So the order of the options, and where they
stand among the values, does not matter. -/
theorem prepare_arrangedLine (commands : List (Command σ)) (store : σ)
    (resolution : Resolution σ) (path : List Char) (items : List (Written σ))
    (arranged : IsArranged (.afterCalls commands) store resolution path items) :
    let registry := Registry.afterCalls commands
    let options := OptionMap.ofList (givenOptions items)
    let clause := Clause.mk (tokenize (arrangedLine path items))
    (parse (arrangedLine path items)).nodes = [.clause clause] ∧
      (∀ text, prepare registry store clause text =
        .ok ⟨resolution,
          ⟨resolution.id, items.filterMap Written.value?, options, text⟩, false⟩) ∧
      (∀ name value, options.get? name = some value ↔ (name, value) ∈ givenOptions items) ∧
      ∀ path' items', IsArranged registry store resolution path' items' →
        items'.filterMap Written.value? = items.filterMap Written.value? →
        (givenOptions items').Perm (givenOptions items) →
        ∀ text, prepare registry store ⟨tokenize (arrangedLine path' items')⟩ text =
          prepare registry store clause text :=
  ⟨parse_arrangedLine arranged, prepare_of_isArranged arranged,
    fun _ _ => OptionMap.get?_ofList arranged.distinct,
    fun _ _ arranged' values options => prepare_eq_of_perm arranged arranged' values options⟩

/-- An option that takes no value. -/
def dryRunOption : OptionSpec Unit := ⟨"dry-run", none, none, false, none, none⟩

/-- An option that takes a value and has a short key. -/
def targetOption : OptionSpec Unit := ⟨"target", some 't', none, true, none, none⟩

/-- A command with both options. -/
def publishing : Command Unit :=
  { Command.ofName "publish" "Publishes a site" with
    options := [dryRunOption, targetOption] }

/-- What stands behind a key that takes none, and behind a value, is positional. -/
theorem prepare_publish :
    let publish : Resolution Unit := ⟨1, "publish", publishing⟩
    let invocation : Invocation :=
      ⟨"publish", ["a b", "c"], ⟨[("dryRun", .flag), ("target", .value "eu")]⟩, ""⟩
    prepare (.afterCalls [publishing]) ()
        ⟨tokenize "publish --dry-run \"a b\" -t eu c".toList⟩ "" =
          .ok ⟨publish, invocation, false⟩ ∧
      prepare (.afterCalls [publishing]) ()
        ⟨tokenize "publish --target eu \"a b\" c --dry-run".toList⟩ "" =
          .ok ⟨publish, invocation, false⟩ := by
  intro publish invocation
  have dry : Written.IsSpelt publishing (.flag dryRunOption "--dry-run".toList) :=
    ⟨⟨by decide, rfl, by decide, rfl⟩, rfl⟩
  have short : Written.IsSpelt publishing (.valued targetOption "-t".toList "eu") :=
    ⟨⟨by decide, rfl, by decide, rfl⟩, rfl, by decide⟩
  have long : Written.IsSpelt publishing (.valued targetOption "--target".toList "eu") :=
    ⟨⟨by decide, rfl, by decide, rfl⟩, rfl, by decide⟩
  have quoted : Written.IsSpelt publishing (.positional "a b") := ⟨by decide, by decide⟩
  have bare : Written.IsSpelt publishing (.positional "c") := ⟨by decide, by decide⟩
  have mixed : IsArranged (.afterCalls [publishing]) () publish "publish".toList
      [.flag dryRunOption "--dry-run".toList, .positional "a b",
        .valued targetOption "-t".toList "eu", .positional "c"] :=
    { words := by decide
      resolved := rfl
      whole := rfl
      childless := rfl
      spelt := by
        simp only [List.forall_mem_cons]
        exact ⟨dry, quoted, short, bare, List.forall_mem_nil _⟩
      closed := by decide
      distinct := by decide }
  have sorted : IsArranged (.afterCalls [publishing]) () publish "publish".toList
      [.valued targetOption "--target".toList "eu", .positional "a b", .positional "c",
        .flag dryRunOption "--dry-run".toList] :=
    { words := by decide
      resolved := rfl
      whole := rfl
      childless := rfl
      spelt := by
        simp only [List.forall_mem_cons]
        exact ⟨long, quoted, bare, dry, List.forall_mem_nil _⟩
      closed := by decide
      distinct := by decide }
  obtain ⟨-, read, -, same⟩ :=
    prepare_arrangedLine [publishing] () publish "publish".toList _ mixed
  have reordered := same _ _ sorted rfl (by decide) ""
  rw [read ""] at reordered
  exact ⟨read "", reordered⟩

/-- An option with the empty name. -/
def nameless : OptionSpec Unit := ⟨"", none, none, false, none, none⟩

/-- A command with that option. -/
def going : Command Unit := { Command.ofName "go" "Goes" with options := [nameless] }

/-- A key that is nothing but dashes is a value, although an option answers to the name that
it spells. -/
theorem dashes_positional :
    let path := "go".toList
    let items : List (Written Unit) := [.flag nameless "--".toList]
    let go : Resolution Unit := ⟨1, "go", going⟩
    (tokenize (arrangedLine path items)).map Token.optionName? = [none, some []] ∧
      going.findOption? (.ofList []) = some nameless ∧
      (Registry.afterCalls [going]).resolve () ["go"] = .ok go ∧
      prepare (.afterCalls [going]) () ⟨tokenize (arrangedLine path items)⟩ "go --" =
        .ok ⟨go, ⟨"go", ["--"], .empty, "go --"⟩, false⟩ ∧
      ["--"] ≠ items.filterMap Written.value? ∧
      OptionMap.empty ≠ .ofList (givenOptions items) :=
  ⟨by decide, rfl, rfl, rfl, by decide, by decide⟩

end OperatorShell.Command

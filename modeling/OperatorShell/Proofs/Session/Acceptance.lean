import OperatorShell.Proofs.Completion.Cursor
import OperatorShell.Proofs.Line.Partition
import OperatorShell.Session.CommandPrompt

/-!
# Accepting a candidate

What an accepted candidate takes the place of is the token that is being typed, so it stands
where a token was awaited, behind the tokens that completion had looked at.  Quoting keeps
its value and keeps it in one piece, but writes no quotes around a text that is spelt like a
key or an operator: such a text is read as what it is spelt like, and any other fills the
slot that was completed.
-/

namespace OperatorShell

open Line Text

namespace Edit.Buffer

section Splicing

variable {buffer : Buffer} {kept : List Char}

/-- Putting a text in the place of the end of what is before the cursor leaves alone what is after
it. -/
theorem splice_before (active : buffer.status = .active) (within : kept <+: buffer.before)
    (inserted : List Char) :
    buffer.splice kept.length buffer.before.length inserted =
      { buffer with
        text := kept ++ inserted ++ buffer.after
        cursor := (kept ++ inserted).length } := by
  have shorter := within.length_le
  have bounded : buffer.before.length ≤ buffer.text.length := by
    rw [before, List.length_take]
    exact Nat.min_le_right _ _
  have taken : buffer.text.take kept.length = kept := by
    have inText : kept <+: buffer.text := within.trans (List.take_prefix _ _)
    exact (List.prefix_iff_eq_take.mp inText).symm
  have dropped : buffer.text.drop buffer.before.length = buffer.after := by
    have divided : buffer.text = buffer.before ++ buffer.after :=
      (List.take_append_drop _ _).symm
    nth_rewrite 1 [divided]
    exact List.drop_left
  rw [splice, edit, active]
  simp only [length, Nat.min_eq_left bounded, Nat.min_eq_left shorter, taken, dropped,
    List.length_append]

theorem before_splice (active : buffer.status = .active) (within : kept <+: buffer.before)
    (inserted : List Char) :
    (buffer.splice kept.length buffer.before.length inserted).before = kept ++ inserted := by
  rw [splice_before active within, before, List.take_left]

end Splicing

end Edit.Buffer

namespace Session

open Command Edit

variable {σ : Type}

/-- What is left of a text when the token that is being typed at its end is taken away. -/
def keptText (before : List Char) : List Char :=
  match (parse before).tokens.getLast? with
  | some last =>
      if last.stop = byteLength before then takeBytes last.start before else before
  | none => before

theorem applyCandidate_eq_splice (buffer : Buffer) (before : List Char)
    (candidate : Candidate) :
    applyCandidate buffer before candidate =
      buffer.splice (keptText before).length before.length
        (quote candidate.value.toList ++ [' ']) := rfl

section Kept

variable {before front typed : List Char}

theorem keptText_of_awaitsToken (awaits : AwaitsToken before) : keptText before = before := by
  rw [keptText, tokens_parse]
  cases last : (tokenize before).getLast? with
  | none => rfl
  | some token =>
      have ended := stop_lt_of_awaitsToken awaits (List.mem_of_getLast? last)
      simp [Nat.ne_of_lt ended]

theorem keptText_append_piece (awaits : AwaitsToken front) (single : IsPiece typed) :
    keptText (front ++ typed) = front := by
  rw [keptText, tokens_parse, tokenize_append_piece awaits single]
  simp [Token.stop]

/-- What is kept is a start of the text where a token is awaited. -/
theorem awaitsToken_keptText (before : List Char) :
    AwaitsToken (keptText before) ∧ keptText before <+: before := by
  rcases awaitsToken_or_exists_piece before with awaits | ⟨front, typed, rfl, awaits, single⟩
  · rw [keptText_of_awaitsToken awaits]
    exact ⟨awaits, List.prefix_rfl⟩
  · rw [keptText_append_piece awaits single]
    exact ⟨awaits, List.prefix_append _ _⟩

theorem ofText?_eq_none_of_not_endsInOperator (awaits : AwaitsToken front)
    (single : IsPiece typed) (ended : ¬EndsInOperator (front ++ typed)) :
    Connective.ofText? typed = none := by
  by_contra isOperator
  have last : (tokenize (front ++ typed)).getLast? = some
      ⟨byteLength front, typed,
        Kind.classify typed ((tokenize front).getLast?.map Token.kind)⟩ := by
    rw [tokenize_append_piece awaits single, List.getLast?_concat]
  apply ended
  constructor
  · exact not_isFresh_append_piece awaits single
  · refine ⟨_, last, ?_⟩
    rwa [Kind.isOperator_classify, Option.isSome_iff_ne_none]

/-- The finished tokens stand in what is kept. -/
theorem committed_keptText (ended : ¬EndsInOperator before) :
    (cursor (keptText before)).committed = (cursor before).committed := by
  rcases awaitsToken_or_exists_piece before with awaits | ⟨front, typed, rfl, awaits, single⟩
  · rw [keptText_of_awaitsToken awaits]
  · rw [keptText_append_piece awaits single]
    have noOperator := ofText?_eq_none_of_not_endsInOperator awaits single ended
    rw [(cursor_append_piece awaits single noOperator).2]

end Kept

section Filling

variable {registry : Registry σ} {store : σ} {line : List Char} {previous kind : Kind}

/-- A provider is asked where a token of a command is expected behind another. -/
theorem exists_previous_of_asks {provider : Provider σ} {target stem : String}
    (asks : plan registry store line = .ask provider target stem) :
    ¬EndsInOperator line ∧
      ∃ previous, (cursor line).committed.getLast? = some previous := by
  have ended : ¬EndsInOperator line := by
    rintro ⟨-, token, last, isOperator⟩
    obtain ⟨front, tokens_eq⟩ := List.getLast?_eq_some_iff.mp last
    have lastNode : (parse line).nodes.getLast? = some (.operator token) := by
      rw [parse, tokens_eq, Node.group_append_operator isOperator]
      exact List.getLast?_concat
    simp only [plan, lastNode] at asks
    split at asks <;> cases asks
  refine ⟨ended, ?_⟩
  cases last : (cursor line).committed.getLast? with
  | some previous => exact ⟨previous, rfl⟩
  | none =>
      have nothing := List.getLast?_eq_none_iff.mp last
      rw [plan_eq_clausePlan ended, nothing, clausePlan_nil] at asks
      cases asks

/-- The kind is one of the slot for a value behind the kind before: the value of an option
behind a key, and a word or an argument elsewhere. -/
def FillsSlot (previous kind : Kind) : Prop :=
  if previous.isKey then kind = .value else kind = .word ∨ kind = .argument

/-- A text fills the slot it stands in unless it is spelt like a key or an operator. -/
theorem fillsSlot_classify_iff {text : List Char} (plain : previous.isOperator = false) :
    FillsSlot previous (Kind.classify text (some previous)) ↔ IsOrdinary text := by
  constructor
  · intro fills
    constructor
    · intro dash
      obtain ⟨style, isKey⟩ := Kind.exists_classify_of_dash dash plain
      rw [isKey, FillsSlot] at fills
      split at fills <;> simp at fills
    · cases read : Connective.ofText? text with
      | none => rfl
      | some connective =>
          rw [Connective.ofText?_eq_some_iff.mp read, Kind.classify_text, FillsSlot] at fills
          split at fills <;> simp at fills
  · intro ordinary
    rw [Kind.classify_of_isOrdinary ordinary]
    cases previous with
    | operator connective => cases plain
    | word | argument | key style | value => simp [FillsSlot, Kind.following, Kind.isKey]

/-- Behind what is kept the candidate is one token, closed off by a space. -/
theorem tokenize_applyCandidate {buffer : Buffer} (active : buffer.status = .active)
    (candidate : Candidate) :
    let kept := keptText buffer.before
    let written := quote candidate.value.toList
    let applied := (applyCandidate buffer buffer.before candidate).before
    AwaitsToken applied ∧
      tokenize applied = tokenize kept ++
        [⟨byteLength kept, written,
          Kind.classify written ((tokenize kept).getLast?.map Token.kind)⟩] := by
  intro kept written applied
  obtain ⟨awaits, within⟩ := awaitsToken_keptText buffer.before
  have applied_eq : applied = kept ++ written ++ [' '] := by
    simp only [applied, applyCandidate_eq_splice, Buffer.before_splice active within]
    simp [kept, written]
  have closed : IsClosed (kept ++ written) :=
    (isClosed_append (isClosed_of_awaitsToken awaits)).mpr (isClosed_quote _)
  rw [applied_eq]
  constructor
  · exact .inr ⟨_, closed, rfl⟩
  · rw [tokenize_concat_space closed]
    exact tokenize_append_piece awaits (isPiece_quote _)

end Filling

/-- Where a provider was asked, the candidate that is accepted becomes the last token before
the cursor, right behind the finished ones.  Its value is that of the candidate, and it fills
the slot that was completed unless it is written like a key or an operator. -/
theorem accepted_candidate_fillsSlot {registry : Registry σ} {store : σ} {buffer : Buffer}
    (active : buffer.status = .active) {provider : Provider σ} {target stem : String}
    (asks : plan registry store buffer.before = .ask provider target stem)
    (candidate : Candidate) :
    let committed := (cursor buffer.before).committed
    let written := quote candidate.value.toList
    let applied := (applyCandidate buffer buffer.before candidate).before
    ∃ previous token,
      committed.getLast? = some previous ∧
        (tokenize applied).getLast? = some token ∧
        token.value = candidate.value.toList ∧
        (FillsSlot previous.kind token.kind ↔ IsOrdinary written) ∧
        (IsOrdinary written → cursor applied = ⟨committed ++ [token], none⟩) := by
  intro committed written applied
  obtain ⟨ended, previous, last⟩ := exists_previous_of_asks asks
  obtain ⟨awaits, tokens_eq⟩ := tokenize_applyCandidate active candidate
  have finished : committed = Node.lastTokens (parse (keptText buffer.before)).nodes := by
    have awaitsKept := (awaitsToken_keptText buffer.before).1
    simp only [committed, ← committed_keptText ended, cursor_of_awaitsToken awaitsKept]
  obtain ⟨inKept, plain⟩ : (tokenize (keptText buffer.before)).getLast? = some previous ∧
      previous.kind.isOperator = false := by
    have lastKept : committed.getLast? = some previous := last
    rw [finished, parse, Node.getLast?_lastTokens, Option.filter_eq_some_iff] at lastKept
    simpa using lastKept
  rw [inKept, Option.map_some] at tokens_eq
  refine ⟨previous, _, last, by rw [tokens_eq, List.getLast?_concat], ?_, ?_, ?_⟩
  · exact unquote_quote candidate.value.toList
  · exact fillsSlot_classify_iff plain
  · intro ordinary
    have noOperator := Kind.isOperator_classify written (some previous.kind)
    rw [ordinary.2, Option.isSome_none] at noOperator
    rw [cursor_of_awaitsToken awaits, parse, tokens_eq,
      Node.lastTokens_group_concat noOperator, finished, parse]

/-- A candidate with a space is one word behind the path it was offered for, where `my` was
being typed. -/
theorem accepted_plan_fillsSlot :
    let buffer := Buffer.ofText "open my".toList
    complete (.afterCalls [opening]) "open my" () =
        (.ok [.plain "my plan", .plain "my list"], ()) ∧
      ∃ previous token,
        (cursor buffer.before).committed.getLast? = some previous ∧
          (tokenize (applyCandidate buffer buffer.before (.plain "my plan")).before).getLast? =
            some token ∧
          token.value = "my plan".toList ∧ FillsSlot previous.kind token.kind := by
  intro buffer
  constructor
  · decide +kernel
  · have asks : ∃ provider target stem,
        plan (.afterCalls [opening]) () buffer.before = .ask provider target stem :=
      ⟨_, _, _, rfl⟩
    obtain ⟨provider, target, stem, asks⟩ := asks
    obtain ⟨previous, token, last, lastApplied, value, fills, -⟩ :=
      accepted_candidate_fillsSlot rfl asks (.plain "my plan")
    exact ⟨previous, token, last, lastApplied, value, fills.mpr (by decide)⟩

/-- A command that removes a file, where the only file there is has a dash in front. -/
def removing : Command Unit :=
  { Command.ofName "remove" "Removes a file" with
    arguments := [{
      name := "file", description := none, required := true, validator := none
      provider := some (.ofList [.plain "-draft"]) }] }

/-- A name with a dash in front is offered for an argument and then read as a key. -/
theorem accepted_draft_is_key :
    let buffer := Buffer.ofText "remove ".toList
    complete (.afterCalls [removing]) "remove " () = (.ok [.plain "-draft"], ()) ∧
      (∃ provider target stem,
        plan (.afterCalls [removing]) () buffer.before = .ask provider target stem) ∧
      (tokenize (applyCandidate buffer buffer.before (.plain "-draft")).before).getLast? =
        some ⟨7, "-draft".toList, .key .short⟩ := by
  intro buffer
  refine ⟨?_, ⟨_, _, _, rfl⟩, ?_⟩
  · decide +kernel
  · decide +kernel

end Session

end OperatorShell

import OperatorShell.Proofs.Session.Acceptance

/-!
# The typed token

A token is being typed when it reaches the end of the text before the cursor.  The candidate takes
the place of that token and of nothing else: tokens in front of it stay as they are, what is behind
the cursor stays as it is, and the space behind the candidate closes its token off.
-/

namespace OperatorShell

open Line Text

namespace Line.Token

/-- The token ends where the line does. -/
def ReachesEnd (line : List Char) (token : Token) : Prop := token.stop = byteLength line

instance (line : List Char) : DecidablePred (ReachesEnd line) :=
  fun _ => inferInstanceAs (Decidable (_ = _))

end Line.Token

namespace Session

open Command Edit

section Kept

variable {before front typed : List Char}

/-- Where a token is awaited, none reaches the end. -/
theorem not_reachesEnd_of_awaitsToken (awaits : AwaitsToken front) (back : List Char) :
    ∀ token ∈ tokenize front, ¬token.ReachesEnd (front ++ back) := by
  intro token member
  have ended := stop_lt_of_awaitsToken awaits member
  rw [Token.ReachesEnd, byteLength_append]
  omega

/-- The tokens of what is kept are those that do not reach the end, and the rest of the text is
the token that does. -/
theorem keptText_partition (before : List Char) :
    tokenize (keptText before) =
        (tokenize before).filter (fun token => ¬token.ReachesEnd before) ∧
      before = keptText before ++
        ((tokenize before).filter (Token.ReachesEnd before)).flatMap Token.text := by
  rcases awaitsToken_or_exists_piece before with awaits | ⟨front, typed, rfl, awaits, single⟩
  · have finished := not_reachesEnd_of_awaitsToken awaits []
    rw [List.append_nil] at finished
    rw [keptText_of_awaitsToken awaits]
    constructor
    · apply Eq.symm
      rw [List.filter_eq_self]
      simpa using finished
    · have none_typed : (tokenize before).filter (Token.ReachesEnd before) = [] := by
        rw [List.filter_eq_nil_iff]
        simpa using finished
      rw [none_typed, List.flatMap_nil, List.append_nil]
  · have finished := not_reachesEnd_of_awaitsToken awaits typed
    have reaches (kind : Kind) :
        Token.ReachesEnd (front ++ typed) ⟨byteLength front, typed, kind⟩ :=
      (byteLength_append front typed).symm
    rw [keptText_append_piece awaits single, tokenize_append_piece awaits single]
    constructor
    · rw [List.filter_append, List.filter_eq_self.mpr (by simpa using finished)]
      simp [reaches]
    · rw [List.filter_append, List.filter_eq_nil_iff.mpr (by simpa using finished)]
      simp [reaches]

end Kept

/-- Applying a candidate replaces the token that is being typed, if there is one, and changes
nothing behind the cursor.  The other tokens before the cursor stay as they are, and behind them
stands one token with the value of the candidate and one space. -/
theorem applyCandidate_replaces_typed {buffer : Buffer} (active : buffer.status = .active)
    (candidate : Candidate) :
    let before := buffer.before
    let applied := applyCandidate buffer before candidate
    applied.after = buffer.after ∧
      applied = { buffer with
        text := applied.before ++ buffer.after, cursor := applied.before.length } ∧
      ∃ kept token,
        before = kept ++
          ((tokenize before).filter (Token.ReachesEnd before)).flatMap Token.text ∧
        applied.before = kept ++ token.text ++ [' '] ∧
        tokenize applied.before =
          (tokenize before).filter (fun token => ¬token.ReachesEnd before) ++ [token] ∧
        token.value = candidate.value.toList ∧
        token.stop + 1 = byteLength applied.before ∧
        isFresh (parse applied.before) applied.before = true := by
  intro before applied
  let kept := keptText before
  let written := quote candidate.value.toList
  let token : Token :=
    ⟨byteLength kept, written, Kind.classify written ((tokenize kept).getLast?.map Token.kind)⟩
  obtain ⟨-, within⟩ := awaitsToken_keptText before
  obtain ⟨others, divided⟩ := keptText_partition before
  obtain ⟨awaits, tokens_eq⟩ := tokenize_applyCandidate active candidate
  have applied_eq : applied = { buffer with
      text := kept ++ (written ++ [' ']) ++ buffer.after
      cursor := (kept ++ (written ++ [' '])).length } :=
    Buffer.splice_before active within _
  have before_eq : applied.before = kept ++ (written ++ [' ']) := by
    rw [applied_eq, Buffer.before, List.take_left]
  refine ⟨?_, ?_, kept, token, divided, ?_, ?_, ?_, ?_, ?_⟩
  · rw [applied_eq, Buffer.after, List.drop_left]
  · rw [before_eq]
    exact applied_eq
  · rw [before_eq, List.append_assoc]
  · rw [← others]
    exact tokens_eq
  · exact unquote_quote candidate.value.toList
  · rw [before_eq, byteLength_append, byteLength_append, ← Nat.add_assoc]
    rfl
  · exact isFresh_of_awaitsToken awaits

/-- In the middle of a line an open quote is replaced by a value with a space. -/
theorem applyCandidate_open_quote :
    let buffer : Buffer := { Buffer.ofText "öffne \"Mein P --jetzt".toList with cursor := 13 }
    let applied := applyCandidate buffer buffer.before (.plain "Mein Plan ü")
    buffer.status = .active ∧
      applied.after = " --jetzt".toList ∧
      ∃ token, tokenize applied.before = [⟨0, "öffne".toList, .word⟩, token] ∧
        token.value = "Mein Plan ü".toList := by
  intro buffer applied
  have active : buffer.status = .active := rfl
  obtain ⟨after_eq, -, -, token, -, -, tokens_eq, value_eq, -⟩ :=
    applyCandidate_replaces_typed active (.plain "Mein Plan ü")
  have others : (tokenize buffer.before).filter
      (fun token => ¬token.ReachesEnd buffer.before) = [⟨0, "öffne".toList, .word⟩] := by
    decide +kernel
  rw [others] at tokens_eq
  exact ⟨active, after_eq, token, tokens_eq, value_eq⟩

end Session

end OperatorShell

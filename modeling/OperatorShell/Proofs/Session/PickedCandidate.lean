import OperatorShell.Proofs.Picker.Deciding
import OperatorShell.Proofs.Session.PickerClosing

/-!
# The candidate that is picked

The command prompt lists what a completion has found in the order of the values, and what is found
first stays first among equal values.  While the picker is open, the prompt does what the pick does,
and it goes on with the outcome of the pick.  So the candidate that goes into the line is the one
that the keys lead to.
-/

namespace OperatorShell

open Command Session Keys

variable {σ ω α : Type}

/-- A widget goes on after a reaction. -/
def Widget.proceed (widget : Widget ω α) (reaction : Reaction ω α) (rest : List Signal) :
    Except ReadError α × ω × List Signal :=
  match reaction with
  | .wait state => converse widget state rest
  | .finish result state => (result, state, rest)

@[simp] theorem Widget.proceed_wait (widget : Widget ω α) (state : ω) (rest : List Signal) :
    widget.proceed (.wait state) rest = converse widget state rest := rfl

@[simp] theorem Widget.proceed_finish (widget : Widget ω α) (result : Except ReadError α)
    (state : ω) (rest : List Signal) :
    widget.proceed (.finish result state) rest = (result, state, rest) := rfl

theorem converse_key (widget : Widget ω α) (state : ω) (event : KeyEvent) (rest : List Signal) :
    converse widget state (.key event :: rest) =
      widget.proceed (widget.react state event) rest := by
  rw [converse]
  cases widget.react state event <;> rfl

namespace Session

section Sorting

/-- The same candidates in the order of their values.  Those with the same value are in the order
that they had. -/
structure IsStableSort (given sorted : List Candidate) : Prop where
  ordered : sorted.Pairwise fun left right => ¬right.value < left.value
  kept : ∀ value, sorted.filter (·.value = value) = given.filter (·.value = value)

/-- Nothing that is listed comes before the head of the list. -/
theorem not_lt_head_of_mem {head candidate : Candidate} {rest : List Candidate}
    (ordered : (head :: rest).Pairwise fun left right => ¬right.value < left.value)
    (member : candidate ∈ head :: rest) : ¬candidate.value < head.value := by
  obtain rfl | later := List.mem_cons.mp member
  · exact String.lt_irrefl _
  · exact (List.pairwise_cons.mp ordered).1 candidate later

theorem mem_iff_of_filter_eq {first second : List Candidate}
    (alike : ∀ value, first.filter (·.value = value) = second.filter (·.value = value))
    (candidate : Candidate) : candidate ∈ first ↔ candidate ∈ second := by
  have same := congrArg (candidate ∈ ·) (alike candidate.value)
  simpa using same

/-- There is one such order. -/
theorem IsStableSort.unique {given first second : List Candidate}
    (sorts : IsStableSort given first) (also : IsStableSort given second) : first = second := by
  have alike (value : String) :
      first.filter (·.value = value) = second.filter (·.value = value) :=
    (sorts.kept value).trans (also.kept value).symm
  obtain ⟨first_ordered, -⟩ := sorts
  obtain ⟨second_ordered, -⟩ := also
  induction first generalizing second with
  | nil =>
      apply Eq.symm
      rw [List.eq_nil_iff_forall_not_mem]
      intro candidate member
      exact List.not_mem_nil ((mem_iff_of_filter_eq alike candidate).mpr member)
  | cons head first ih =>
      cases second with
      | nil => exact absurd ((mem_iff_of_filter_eq alike head).mp (.head _)) List.not_mem_nil
      | cons other second =>
          -- Each of the heads is listed behind the other one, so they have the same value.
          have notBefore := not_lt_head_of_mem second_ordered
            ((mem_iff_of_filter_eq alike head).mp (.head _))
          have notBehind := not_lt_head_of_mem first_ordered
            ((mem_iff_of_filter_eq alike other).mpr (.head _))
          have same : other.value = head.value :=
            String.le_antisymm (String.not_lt.mp notBefore) (String.not_lt.mp notBehind)
          have heads := alike head.value
          simp only [List.filter_cons, same, decide_true, if_true, List.cons.injEq] at heads
          obtain ⟨rfl, -⟩ := heads
          congr 1
          refine ih ?_ first_ordered.of_cons second_ordered.of_cons
          intro value
          have whole := alike value
          simp only [List.filter_cons] at whole
          split at whole
          · exact (List.cons.inj whole).2
          · exact whole

@[simp] theorem length_sortByValue (candidates : List Candidate) :
    (sortByValue candidates).length = candidates.length :=
  (List.mergeSort_perm candidates _).length_eq

theorem isStableSort_sortByValue (candidates : List Candidate) :
    IsStableSort candidates (sortByValue candidates) := by
  let inOrder (left right : Candidate) : Bool := !decide (right.value < left.value)
  have inOrder_iff (left right : Candidate) :
      inOrder left right = true ↔ ¬right.value < left.value := by
    rw [Bool.not_eq_true', decide_eq_false_iff_not]
  have trans (left middle right : Candidate) (first : inOrder left middle = true)
      (second : inOrder middle right = true) : inOrder left right = true := by
    rw [inOrder_iff] at first second ⊢
    exact String.not_lt.mpr (String.le_trans (String.not_lt.mp first) (String.not_lt.mp second))
  have total (left right : Candidate) : (inOrder left right || inOrder right left) = true := by
    rw [Bool.or_eq_true, inOrder_iff, inOrder_iff, String.not_lt, String.not_lt]
    exact String.le_total _ _
  constructor
  · have sorted : (sortByValue candidates).Pairwise fun left right => inOrder left right = true :=
      List.pairwise_mergeSort trans total candidates
    exact sorted.imp fun {left right} => (inOrder_iff left right).mp
  · intro value
    let alike := candidates.filter (·.value = value)
    have alike_inOrder : alike.Pairwise fun left right => inOrder left right = true := by
      apply List.pairwise_of_forall_mem_list
      intro left left_mem right right_mem
      have left_eq : left.value = value := by simpa using List.of_mem_filter left_mem
      have right_eq : right.value = value := by simpa using List.of_mem_filter right_mem
      rw [inOrder_iff, left_eq, right_eq]
      exact String.lt_irrefl value
    -- Sorting keeps what is in order already, and there is nothing else with this value.
    have within : alike.Sublist (sortByValue candidates) :=
      List.sublist_mergeSort trans total alike_inOrder List.filter_sublist
    have among := within.filter (·.value = value)
    have same : alike.filter (·.value = value) = alike := by simp [alike]
    rw [same] at among
    exact (among.eq_of_length
      ((List.mergeSort_perm candidates _).filter (·.value = value)).length_eq.symm).symm

end Sorting

namespace PromptState

/-- Refreshing the line changes its suggestion only. -/
@[simp] theorem text_refresh (state : PromptState σ) :
    state.refresh.state.editor.buffer.text = state.editor.buffer.text := by
  change (state.editor.buffer.suggest _).text = _
  unfold Edit.Buffer.suggest Edit.Buffer.edit
  split <;> rfl

@[simp] theorem cursor_refresh (state : PromptState σ) :
    state.refresh.state.editor.buffer.cursor = state.editor.buffer.cursor := by
  change (state.editor.buffer.suggest _).cursor = _
  unfold Edit.Buffer.suggest Edit.Buffer.edit
  split <;> rfl

variable (registry : Registry σ) (settings : Settings)

/-- With a picker open, the prompt is given up by clearing the picker away. -/
theorem leave_of_opened {state : PromptState σ} {completion : OpenPicker}
    (opened : state.completion = some completion) (error : ReadError) (rest : List Signal) :
    (widget registry settings).leave state error rest =
      (.error error, state.closePicker completion (state.picking completion).clear.state,
        rest) := by
  simp only [Widget.leave, widget, abandon, opened]
  rfl

/-- With a picker open, a conversation with the prompt is one with the picker first, and the prompt
goes on with what came of it. -/
theorem converse_of_opened {state : PromptState σ} {completion : OpenPicker}
    (opened : state.completion = some completion) (signals : List Signal) :
    converse (widget registry settings) state signals =
      let ended := converse Picking.widget (state.picking completion) signals
      (widget registry settings).proceed
        ((state.closePicker completion ended.2.1).resume registry settings completion.before
          ended.1) ended.2.2 := by
  induction signals generalizing state completion with
  | nil => exact leave_of_opened registry settings opened .closed []
  | cons signal rest ih =>
      cases signal with
      | pending => exact ih opened
      | closed => exact leave_of_opened registry settings opened .closed rest
      | failed message =>
          exact leave_of_opened registry settings opened (.fault (.source message)) rest
      | key event =>
          rw [converse_key, converse_key]
          cases reacted : Picking.react (state.picking completion) event with
          | wait later =>
              let next := state.withPicking completion later
              have goesOn : (widget registry settings).react state event = .wait next := by
                simp only [widget, react, opened, reacted, next]
              have picks : Picking.widget.react (state.picking completion) event = .wait later :=
                reacted
              have still : next.completion = some _ := rfl
              rw [goesOn, picks, Widget.proceed_wait, Widget.proceed_wait, ih still]
              rfl
          | finish result last =>
              have closes : (widget registry settings).react state event =
                  (state.closePicker completion last).resume registry settings completion.before
                    result := by
                simp only [widget, react, opened, reacted]
              have picks : Picking.widget.react (state.picking completion) event =
                  .finish result last := reacted
              rw [closes, picks, Widget.proceed_finish]

section Completing

variable {state : PromptState σ} {candidates : List Candidate} {store : σ}

/-- Several candidates open a picker. -/
theorem exists_complete_eq_openPicker (several : 2 ≤ candidates.length)
    (found : Command.complete registry (String.ofList state.editor.buffer.before) state.store =
      (.ok candidates, store)) :
    ∃ screen, state.complete registry settings =
      .done (({ state.onScreen screen with store := store }).openPicker settings.pageSize
        state.editor.buffer.before candidates).state := by
  obtain ⟨screen, complete_eq⟩ := exists_complete_eq registry settings state
  rw [Command.complete, String.toList_ofList] at found
  rw [found] at complete_eq
  refine ⟨screen, complete_eq.trans ?_⟩
  match candidates with
  | [] | [_] => simp at several
  | _ :: _ :: _ => rfl

/-- What becomes of a line that has been completed with several candidates is up to the pick. -/
theorem exists_converse_complete (closed : state.completion = none) {event : KeyEvent}
    (completes : state.display.dispatch event = some .complete) (several : 2 ≤ candidates.length)
    (found : Command.complete registry (String.ofList state.editor.buffer.before) state.store =
      (.ok candidates, store)) (signals : List Signal) :
    let picker := Picker.ofCandidates (sortByValue candidates) settings.pageSize true
    ∃ (candidate : Candidate) (line : PromptState σ),
      (picker.reached signals).selected? = some candidate ∧
      line.completion = none ∧ line.editor = state.editor ∧ line.store = store ∧
      converse (widget registry settings) state (.key event :: signals) =
        (widget registry settings).proceed
          (line.resume registry settings state.editor.buffer.before
            (Signal.ending true signals candidate))
          (Signal.unread true signals) := by
  intro picker
  obtain ⟨screen, complete_eq⟩ := exists_complete_eq_openPicker registry settings several found
  let before := state.editor.buffer.before
  let waited : PromptState σ := { state.onScreen screen with store := store }
  let opened := (waited.openPicker settings.pageSize before candidates).state
  let picking := (Picking.start picker (waited.display.enter .picker).2).state
  let completion : OpenPicker :=
    ⟨picking.picker, picking.rows, (waited.display.enter .picker).1, before⟩
  have goesOn : (widget registry settings).react state event = .wait opened := by
    simp only [widget, react, closed, reactLine, completes, act, complete_eq]
    rfl
  have open_eq : opened.completion = some completion := rfl
  have nonempty : picker.candidates ≠ [] := by
    apply List.ne_nil_of_length_pos
    change 0 < (sortByValue candidates).length
    rw [length_sortByValue]
    omega
  obtain ⟨candidate, selected, converse_eq⟩ :=
    @Picking.exists_converse_eq (opened.picking completion) rfl
      (Picker.inWindow_ofCandidates ..) nonempty signals
  let last := ((opened.picking completion).heedAll (Signal.idle true signals)).clear.state
  refine ⟨candidate, opened.closePicker completion last, selected, rfl, rfl, rfl, ?_⟩
  rw [converse_key, goesOn, Widget.proceed_wait, converse_of_opened registry settings open_eq,
    converse_eq]
  rfl

end Completing

end PromptState

/-- The first signal that ends a pick decides it, for the candidate that the signals before it lead
to, and the signals behind it are left.  A picker that keeps its keys is not cancelled and lets none
escape, so a question with something to choose from does not end without an answer.  On the line
the list is in the order of the values, and the candidate that is decided on goes into the line.
Where every row has to be a word, the signals lead to the same candidate, unless there is a page
forward among them whose row is none: the way ends there. -/
theorem pick_decided_by_first {candidates : List Candidate} (nonempty : candidates ≠ []) :
    (∀ (pageSize : Nat) (escaping : Bool) (console : Console),
      let picker := Picker.ofCandidates candidates pageSize escaping
      let way := (Signal.idle escaping console.signals).filterMap Signal.action?
      let reached := picker.walk way
      (picker.InWords →
        (picker.walk? way = none ↔ picker.Overflows way) ∧
          ∀ later, picker.walk? way = some later → later = reached) ∧
      ∃ candidate display, candidates[reached.highlighted]? = some candidate ∧
        picker.pick console =
          (Signal.ending escaping console.signals candidate, reached,
            ⟨display, Signal.unread escaping console.signals⟩)) ∧
    (∀ (pageSize : Nat) (console : Console),
      let result := ((Picker.ofCandidates candidates pageSize false).pick console).1
      result ≠ .ok .cancelled ∧ ∀ event, result ≠ .ok (.escaped event)) ∧
    (∀ (header : String) (pageSize : Nat) (console : Console),
      (ChoiceList.read header candidates pageSize console).1 ≠ .ok none) ∧
    IsStableSort candidates (sortByValue candidates) ∧
    ∀ (registry : Registry σ) (settings : Settings) (state : PromptState σ) (event : KeyEvent)
        (store : σ),
      2 ≤ candidates.length → state.completion = none →
      state.display.dispatch event = some .complete →
      Command.complete registry (String.ofList state.editor.buffer.before) state.store =
        (.ok candidates, store) →
      ∀ signals,
        let picker := Picker.ofCandidates (sortByValue candidates) settings.pageSize true
        let way := (Signal.idle true signals).filterMap Signal.action?
        let reached := picker.walk way
        (picker.InWords →
          (picker.walk? way = none ↔ picker.Overflows way) ∧
            ∀ later, picker.walk? way = some later → later = reached) ∧
        ∃ candidate, (sortByValue candidates)[reached.highlighted]? = some candidate ∧
          (Signal.ending true signals candidate = .ok (.selected candidate) →
            ∃ later : PromptState σ,
              let edited :=
                applyCandidate state.editor.buffer state.editor.buffer.before candidate
              later.completion = none ∧ later.editor.buffer.text = edited.text ∧
              later.editor.buffer.cursor = edited.cursor ∧
              converse (PromptState.widget registry settings) state (.key event :: signals) =
                converse (PromptState.widget registry settings) later
                  (Signal.unread true signals)) := by
  refine ⟨?_, ?_, ?_, isStableSort_sortByValue candidates, ?_⟩
  · intro pageSize escaping console picker way reached
    have window : picker.InWindow := Picker.inWindow_ofCandidates candidates pageSize escaping
    obtain ⟨candidate, display, selected, pick_eq⟩ :=
      Picker.exists_pick_eq window nonempty console
    refine ⟨fun words => window.walk?_ends words way, candidate, display, ?_, pick_eq⟩
    rwa [Picker.selected?, Picker.reached, Picker.candidates_walk] at selected
  · intro pageSize console result
    have kept : (∃ candidate, result = .ok (.selected candidate)) ∨
        ∃ error, result = .error error :=
      Picker.pick_keeping nonempty pageSize console
    obtain ⟨candidate, selected⟩ | ⟨error, failed⟩ := kept
    · simp [selected]
    · simp [failed]
  · exact fun header => ChoiceList.read_ne_none header nonempty
  · intro registry settings state event store several closed completes found signals picker way
      reached
    have window : picker.InWindow := Picker.inWindow_ofCandidates _ settings.pageSize true
    refine ⟨fun words => window.walk?_ends words way, ?_⟩
    obtain ⟨candidate, line, selected, line_closed, same, -, converse_eq⟩ :=
      PromptState.exists_converse_complete registry settings closed completes several found signals
    rw [Picker.selected?, Picker.reached, Picker.candidates_walk] at selected
    refine ⟨candidate, selected, fun accepts => ?_⟩
    rw [accepts] at converse_eq
    let before := state.editor.buffer.before
    let accepted := line.edit (applyCandidate · before candidate)
    have accepted_eq :
        accepted.editor.buffer = applyCandidate state.editor.buffer before candidate := by
      rw [← same]
      rfl
    refine ⟨accepted.refresh.state, line_closed, ?_, ?_, converse_eq⟩
    · rw [PromptState.text_refresh, accepted_eq]
    · rw [PromptState.cursor_refresh, accepted_eq]

/-- Places to release to, as they are found. -/
def stages : List Candidate :=
  [⟨"stage", some "the new one"⟩, ⟨"live", none⟩, ⟨"stage", some "the old one"⟩]

/-- A command that is given one of the places. -/
def releasing : Registry Unit :=
  .afterCalls [{
    Command.ofName "release" "Releases a version" with
    arguments :=
      [⟨"place", none, true, some ⟨fun _ _ => 0, fun _ store => (.ok stages, store)⟩, none⟩]
    body := some fun _ => .done () }]

/-- The prompt behind the name of the command. -/
def releaseLine : PromptState Unit :=
  (Shell.prompt ⟨releasing, .default⟩ Shell.untouched).edit (·.insertText "release ".toList)

/-- Down and Return pick the second place of the list, which begins with the one that was found
second, and the key behind them is left to the line. -/
theorem stage_picked :
    stages ≠ [] ∧ 2 ≤ stages.length ∧ releaseLine.completion = none ∧
      releaseLine.display.dispatch (.plain .tab) = some .complete ∧
      Command.complete releasing (String.ofList releaseLine.editor.buffer.before)
        releaseLine.store = (.ok stages, ()) ∧
      sortByValue stages =
        [⟨"live", none⟩, ⟨"stage", some "the new one"⟩, ⟨"stage", some "the old one"⟩] ∧
      ∃ later : PromptState Unit,
        later.completion = none ∧ String.ofList later.editor.buffer.text = "release stage " ∧
        converse (PromptState.widget releasing .default) releaseLine
            [.key (.plain .tab), .key (.plain .down), .key (.plain .enter), .key (.plain .up)] =
          converse (PromptState.widget releasing .default) later [.key (.plain .up)] := by
  have nonempty : stages ≠ [] := by decide
  have several : 2 ≤ stages.length := by decide
  have completes : releaseLine.display.dispatch (.plain .tab) = some .complete := by decide
  have found : Command.complete releasing (String.ofList releaseLine.editor.buffer.before)
      releaseLine.store = (.ok stages, ()) := by decide +kernel
  have sorted_eq : sortByValue stages =
      [⟨"live", none⟩, ⟨"stage", some "the new one"⟩, ⟨"stage", some "the old one"⟩] := by
    apply (isStableSort_sortByValue stages).unique
    constructor
    · decide
    · intro value
      by_cases staged : "stage" = value
      · subst staged
        rfl
      · simp [stages, List.filter_cons, staged]
  let keys : List Signal := [.key (.plain .down), .key (.plain .enter), .key (.plain .up)]
  obtain ⟨-, candidate, selected, accepts⟩ := (pick_decided_by_first nonempty).2.2.2.2 releasing
    .default releaseLine (.plain .tab) () several rfl completes found keys
  rw [sorted_eq] at selected
  have candidate_eq : candidate = ⟨"stage", some "the new one"⟩ := (Option.some.inj selected).symm
  obtain ⟨later, closed, text_eq, -, converse_eq⟩ := accepts rfl
  refine ⟨nonempty, several, rfl, completes, found, sorted_eq, later, closed, ?_, converse_eq⟩
  rw [text_eq, candidate_eq]
  decide +kernel

end Session

end OperatorShell

import OperatorShell.Proofs.Keys.Bindings
import OperatorShell.Proofs.Picker.Window

/-!
# The key that decides a pick

A pick goes on for as long as no signal ends it: keys that are bound to a way to go are followed,
and others change nothing.  The first signal that ends it decides how, for the candidate that is
highlighted by then, and no signal behind it is read.
-/

namespace OperatorShell

open Keys

/-- How a pick ends while a candidate is highlighted. -/
abbrev Ending : Type := Candidate → Except ReadError PickerOutcome

/-- The end that a key puts to a pick.  Escape and the keys that the map of a picker does not bind
end it only if the picker lets keys escape. -/
def Keys.KeyEvent.ending? (escaping : Bool) (event : KeyEvent) : Option Ending :=
  if chord event = "return".toList then some fun candidate => .ok (.selected candidate)
  else if chord event = "ctrl+c".toList then some fun _ => .error .interrupted
  else if escaping = false then none
  else if chord event = "escape".toList then some fun _ => .ok .cancelled
  else if KeyMap.picker.lookup event = none then some fun _ => .ok (.escaped event)
  else none

namespace Signal

/-- The end that a signal puts to a pick. -/
def ending? (escaping : Bool) : Signal → Option Ending
  | .pending => none
  | .key event => event.ending? escaping
  | .failed message => some fun _ => .error (.fault (.source message))
  | .closed => some fun _ => .error .closed

/-- What a signal means to a picker that it does not end. -/
def action? : Signal → Option Action
  | .key event => KeyMap.picker.lookup event
  | _ => none

/-- The signals before the first one that ends a pick. -/
def idle (escaping : Bool) (signals : List Signal) : List Signal :=
  signals.takeWhile fun signal => (signal.ending? escaping).isNone

/-- The signals behind the first one that ends a pick. -/
def unread (escaping : Bool) (signals : List Signal) : List Signal :=
  (signals.dropWhile fun signal => (signal.ending? escaping).isNone).tail

/-- The end that signals put to a pick.  The input is closed when there are no more. -/
def ending (escaping : Bool) (signals : List Signal) : Ending :=
  (signals.findSome? (ending? escaping)).getD fun _ => .error .closed

section Sequences

variable {escaping : Bool} {signal : Signal} (rest : List Signal)

theorem idle_cons_of_none (goes : signal.ending? escaping = none) :
    idle escaping (signal :: rest) = signal :: idle escaping rest := by
  simp [idle, goes]

theorem unread_cons_of_none (goes : signal.ending? escaping = none) :
    unread escaping (signal :: rest) = unread escaping rest := by
  simp [unread, goes]

theorem ending_cons_of_none (goes : signal.ending? escaping = none) :
    ending escaping (signal :: rest) = ending escaping rest := by
  simp [ending, goes]

variable {last : Ending}

theorem idle_cons_of_some (ends : signal.ending? escaping = some last) :
    idle escaping (signal :: rest) = [] := by
  simp [idle, ends]

theorem unread_cons_of_some (ends : signal.ending? escaping = some last) :
    unread escaping (signal :: rest) = rest := by
  simp [unread, ends]

theorem ending_cons_of_some (ends : signal.ending? escaping = some last) :
    ending escaping (signal :: rest) = last := by
  simp [ending, ends]

end Sequences

end Signal

namespace Keys

/-- The action leads through the list of a picker. -/
def Action.isWayToGo : Action → Bool
  | .next | .previous | .first | .last | .pageForward | .pageBack | .jump _ => true
  | _ => false

theorem isSome_navigate? (picker : Picker) (action : Action) :
    (picker.navigate? action).isSome = action.isWayToGo := by
  cases action <;> rfl

/-- All that the map of a picker binds besides the keys that end a pick are ways to go. -/
theorem KeyMap.isWayToGo_of_lookup_picker {event : KeyEvent} {action : Action}
    (meant : picker.lookup event = some action) :
    action = .submit ∨ action = .interrupt ∨ action = .cancel ∨ action.isWayToGo = true := by
  have every : ∀ binding ∈ picker.bindings,
      binding.2 = .submit ∨ binding.2 = .interrupt ∨ binding.2 = .cancel ∨
        binding.2.isWayToGo = true := by
    decide
  exact every _ (mem_bindings_of_lookup_picker meant)

end Keys

namespace Picker

variable {picker : Picker} {signal : Signal} (rest : List Signal)

/-- The picker at the end of a pick: the signals before the one that ends it have moved it. -/
def reached (picker : Picker) (signals : List Signal) : Picker :=
  picker.walk ((Signal.idle picker.escaping signals).filterMap Signal.action?)

theorem walk_filterMap_cons (picker : Picker) (signal : Signal) :
    picker.walk ((signal :: rest).filterMap Signal.action?) =
      (picker.walk signal.action?.toList).walk (rest.filterMap Signal.action?) := by
  rw [List.filterMap_cons]
  cases signal.action? <;> rfl

theorem reached_cons_of_some {last : Ending} (ends : signal.ending? picker.escaping = some last) :
    picker.reached (signal :: rest) = picker := by
  rw [reached, Signal.idle_cons_of_some rest ends]
  rfl

theorem reached_cons_of_none (goes : signal.ending? picker.escaping = none) :
    picker.reached (signal :: rest) = (picker.walk signal.action?.toList).reached rest := by
  rw [reached, Signal.idle_cons_of_none rest goes, walk_filterMap_cons, reached, escaping_walk]

end Picker

namespace Picking

/-- A key ends the pick, or the picker goes where it leads. -/
theorem choose_eq_of_selected {picker : Picker} {candidate : Candidate}
    (selected : picker.selected? = some candidate) (event : KeyEvent) :
    choose picker event (KeyMap.picker.lookup event) =
      match event.ending? picker.escaping with
      | some last => .leave (last candidate)
      | none => .stay (picker.walk (KeyMap.picker.lookup event).toList) := by
  unfold KeyEvent.ending?
  simp only [← KeyMap.bindsOnly_return_picker.lookup_eq_iff,
    ← KeyMap.bindsOnly_controlC_picker.lookup_eq_iff,
    ← KeyMap.bindsOnly_escape_picker.lookup_eq_iff]
  cases meant : KeyMap.picker.lookup event with
  | none => cases escapes : picker.escaping <;> simp [choose, escapes, Picker.walk]
  | some action =>
      rcases KeyMap.isWayToGo_of_lookup_picker meant with rfl | rfl | rfl | leads
      · simp [choose, selected]
      · simp [choose]
      · cases escapes : picker.escaping <;> simp [choose, escapes, Picker.walk, Picker.navigate?]
      · obtain ⟨later, moves⟩ :=
          Option.isSome_iff_exists.mp ((isSome_navigate? picker action).trans leads)
        cases action <;> cases leads
        all_goals simp [choose, Picker.walk, moves]

/-- A picker on the screen after a signal that does not end the pick. -/
def heed (picking : Picking) : Signal → Picking
  | .key event =>
      (redraw
        { picking with
          picker := picking.picker.walk (KeyMap.picker.lookup event).toList }).state
  | _ => picking

/-- A picker on the screen after signals that do not end the pick. -/
def heedAll (picking : Picking) (signals : List Signal) : Picking := signals.foldl heed picking

section Conversation

variable {picking : Picking} {candidate : Candidate}

@[simp] theorem picker_heed (picking : Picking) (signal : Signal) :
    (picking.heed signal).picker = picking.picker.walk signal.action?.toList := by
  cases signal <;> rfl

@[simp] theorem keymaps_heed (picking : Picking) (signal : Signal) :
    (picking.heed signal).display.keymaps = picking.display.keymaps := by
  cases signal <;> rfl

theorem picker_heedAll (picking : Picking) (signals : List Signal) :
    (picking.heedAll signals).picker =
      picking.picker.walk (signals.filterMap Signal.action?) := by
  induction signals generalizing picking with
  | nil => rfl
  | cons signal rest ih =>
      change ((picking.heed signal).heedAll rest).picker = _
      rw [ih, picker_heed, Picker.walk_filterMap_cons]

/-- A signal ends the conversation, or the conversation goes on behind it. -/
theorem converse_cons_of_selected (top : picking.display.keymaps.frames.head? = some .picker)
    (selected : picking.picker.selected? = some candidate) (signal : Signal)
    (rest : List Signal) :
    converse widget picking (signal :: rest) =
      match signal.ending? picking.picker.escaping with
      | some last => (last candidate, picking.clear.state, rest)
      | none => converse widget (picking.heed signal) rest := by
  cases signal with
  | pending | closed | failed message => rfl
  | key event =>
      have meaning : picking.display.dispatch event = KeyMap.picker.lookup event :=
        KeyMapStack.dispatch_of_head? top event
      simp only [converse, widget, react, meaning, choose_eq_of_selected selected, Signal.ending?]
      cases event.ending? picking.picker.escaping <;> rfl

/-- The first signal that ends a pick decides it, for the candidate that the signals before it lead
to. -/
theorem exists_converse_eq (top : picking.display.keymaps.frames.head? = some .picker)
    (window : picking.picker.InWindow) (nonempty : picking.picker.candidates ≠ [])
    (signals : List Signal) :
    ∃ candidate, (picking.picker.reached signals).selected? = some candidate ∧
      converse widget picking signals =
        (Signal.ending picking.picker.escaping signals candidate,
          (picking.heedAll (Signal.idle picking.picker.escaping signals)).clear.state,
          Signal.unread picking.picker.escaping signals) := by
  induction signals generalizing picking with
  | nil => exact ⟨_, window.selected?_eq nonempty, rfl⟩
  | cons signal rest ih =>
      rw [converse_cons_of_selected top (window.selected?_eq nonempty)]
      cases ends : signal.ending? picking.picker.escaping with
      | some last =>
          rw [Picker.reached_cons_of_some rest ends, Signal.unread_cons_of_some rest ends,
            Signal.ending_cons_of_some rest ends, Signal.idle_cons_of_some rest ends]
          exact ⟨_, window.selected?_eq nonempty, rfl⟩
      | none =>
          have found := @ih (picking.heed signal) (by rwa [keymaps_heed])
            (by rw [picker_heed]; exact window.walk _)
            (by rwa [picker_heed, Picker.candidates_walk])
          rw [picker_heed, Picker.escaping_walk] at found
          rw [Picker.reached_cons_of_none rest ends, Signal.unread_cons_of_none rest ends,
            Signal.ending_cons_of_none rest ends, Signal.idle_cons_of_none rest ends]
          exact found

end Conversation

end Picking

namespace Picker

/-- With candidates to pick from, a pick is a conversation with a map of its own on top. -/
theorem pick_eq_of_nonempty {picker : Picker} (nonempty : picker.candidates ≠ [])
    (console : Console) :
    picker.pick console =
      let entered := console.display.enter .picker
      let ended := converse Picking.widget (Picking.start picker entered.2).state console.signals
      (ended.1, ended.2.1.picker, ⟨ended.2.1.display.release entered.1, ended.2.2⟩) := by
  rw [pick, if_neg (by simpa using nonempty)]
  rfl

/-- A pick is decided by the first signal that ends it. -/
theorem exists_pick_eq {picker : Picker} (window : picker.InWindow)
    (nonempty : picker.candidates ≠ []) (console : Console) :
    ∃ candidate display, (picker.reached console.signals).selected? = some candidate ∧
      picker.pick console =
        (Signal.ending picker.escaping console.signals candidate, picker.reached console.signals,
          ⟨display, Signal.unread picker.escaping console.signals⟩) := by
  let picking := (Picking.start picker (console.display.enter .picker).2).state
  let last := (picking.heedAll (Signal.idle picker.escaping console.signals)).clear.state
  obtain ⟨candidate, selected, converse_eq⟩ :=
    @Picking.exists_converse_eq picking rfl window nonempty console.signals
  refine ⟨candidate, last.display.release (console.display.enter .picker).1, selected, ?_⟩
  have last_picker : last.picker = picker.reached console.signals :=
    picking.picker_heedAll (Signal.idle picker.escaping console.signals)
  rw [pick_eq_of_nonempty nonempty, ← last_picker]
  dsimp only
  rw [converse_eq]
  rfl

end Picker

section Keeping

theorem Keys.KeyEvent.eq_of_ending?_keeping {event : KeyEvent} {last : Ending}
    (ends : event.ending? false = some last) :
    (last = fun candidate => .ok (.selected candidate)) ∨
      last = fun _ => .error .interrupted := by
  unfold ending? at ends
  split at ends
  · exact .inl (Option.some.inj ends).symm
  · split at ends
    · exact .inr (Option.some.inj ends).symm
    · cases ends

/-- A picker that keeps its keys ends with the highlighted candidate or with an error. -/
theorem Signal.ending_keeping (signals : List Signal) (candidate : Candidate) :
    Signal.ending false signals candidate = .ok (.selected candidate) ∨
      ∃ error, Signal.ending false signals candidate = .error error := by
  unfold ending
  cases found : signals.findSome? (ending? false) with
  | none => exact .inr ⟨.closed, rfl⟩
  | some last =>
      obtain ⟨signal, -, ends⟩ := List.exists_of_findSome?_eq_some found
      cases signal with
      | pending => cases ends
      | closed | failed message =>
          obtain rfl := Option.some.inj ends
          exact .inr ⟨_, rfl⟩
      | key event =>
          obtain rfl | rfl := KeyEvent.eq_of_ending?_keeping ends
          · exact .inl rfl
          · exact .inr ⟨_, rfl⟩

theorem Picker.pick_keeping {candidates : List Candidate} (nonempty : candidates ≠ [])
    (pageSize : Nat) (console : Console) :
    let result := ((ofCandidates candidates pageSize false).pick console).1
    (∃ candidate, result = .ok (.selected candidate)) ∨ ∃ error, result = .error error := by
  obtain ⟨candidate, display, -, pick_eq⟩ :=
    exists_pick_eq (inWindow_ofCandidates candidates pageSize false) nonempty console
  rw [pick_eq]
  obtain selected | failed := Signal.ending_keeping console.signals candidate
  · exact .inl ⟨candidate, selected⟩
  · exact .inr failed

/-- A question with something to choose from is answered, or there is an error. -/
theorem ChoiceList.read_ne_none (header : String) {candidates : List Candidate}
    (nonempty : candidates ≠ []) (pageSize : Nat) (console : Console) :
    (read header candidates pageSize console).1 ≠ .ok none := by
  intro unanswered
  rw [read, if_neg (by simpa using nonempty)] at unanswered
  let drawn : Console :=
    (console.enterRaw.state.draw (Edit.Editor.ofHeader header none).render).state
  change (close _ _ ((Picker.ofCandidates candidates pageSize false).pick drawn).1).1 = _
    at unanswered
  obtain ⟨candidate, selected⟩ | ⟨error, failed⟩ := Picker.pick_keeping nonempty pageSize drawn
  · rw [selected] at unanswered
    cases unanswered
  · rw [failed] at unanswered
    cases unanswered

end Keeping

end OperatorShell

import OperatorShell.Proofs.Edit.Changes
import OperatorShell.Proofs.History.Suggestion
import OperatorShell.Proofs.Session.PickedCandidate
import OperatorShell.Proofs.Session.Recording

/-!
# The suggestion on the line

The buffer keeps its suggestion through every edit, and it is for the command prompt to bring it up
to date.  It does so on every way back to the keys: when a key comes to the line, the suggestion is
what the history has to add to the text, or there is none.
-/

namespace OperatorShell

open Command Session Keys Edit

variable {σ : Type}

/-- A key that escapes from a picker is the one that was pressed. -/
theorem Picking.eq_of_escaped {picking last : Picking} {event pressed : KeyEvent}
    (reacted : react picking event = .finish (.ok (.escaped pressed)) last) : pressed = event := by
  by_cases interrupts : picking.display.dispatch event = some .interrupt
  · rw [react_of_interrupt interrupts] at reacted
    cases reacted
  · rcases react_of_ne_interrupt interrupts with ⟨later, waits⟩ | ⟨outcome, left, escapes⟩
    · rw [waits] at reacted
      cases reacted
    · rw [left] at reacted
      cases reacted
      exact escapes pressed rfl

namespace Session.PromptState

/-- The line that a key comes to: the line below a picker that the key escapes from, and the line as
it is without a picker.  Any other key on a picker does not come to the line. -/
def line? (state : PromptState σ) (event : KeyEvent) : Option (PromptState σ) :=
  match state.completion with
  | none => some state
  | some completion =>
      match Picking.react (state.picking completion) event with
      | .finish (.ok (.escaped _)) picking =>
          some (state.closePicker completion picking).refresh.state
      | _ => none

@[simp] theorem react_widget (registry : Registry σ) (settings : Settings) :
    (widget registry settings : Widget (PromptState σ) String).react = react registry settings :=
  rfl

section Lines

variable {state line : PromptState σ} {event : KeyEvent}

theorem react_of_closed (closed : state.completion = none) (registry : Registry σ)
    (settings : Settings) :
    state.react registry settings event = state.reactLine registry settings event := by
  rw [react, closed]

/-- A key comes to a line without a picker, or to the line below a picker that it has closed. -/
theorem line?_cases (comes : state.line? event = some line) :
    (state.completion = none ∧ line = state) ∨
      ∃ completion picking, state.completion = some completion ∧
        Picking.react (state.picking completion) event =
          .finish (.ok (.escaped event)) picking ∧
        line = (state.closePicker completion picking).refresh.state := by
  unfold line? at comes
  split at comes
  · rename_i closed
    exact .inl ⟨closed, (Option.some.inj comes).symm⟩
  · rename_i completion opened
    split at comes
    · rename_i pressed picking reacted
      obtain rfl := Picking.eq_of_escaped reacted
      exact .inr ⟨completion, picking, opened, reacted, (Option.some.inj comes).symm⟩
    · cases comes

theorem react_of_line? (comes : state.line? event = some line) (registry : Registry σ)
    (settings : Settings) :
    state.react registry settings event = line.reactLine registry settings event := by
  rcases line?_cases comes with ⟨closed, rfl⟩ | ⟨completion, picking, opened, reacted, rfl⟩
  · exact react_of_closed closed registry settings
  · simp only [react, opened, reacted]
    rfl

/-- A key that comes to the line finds no picker there, and the mode of the line. -/
theorem atLine_of_line? {mode : KeyMapStack × Nat} (same : state.lineMode = mode)
    (comes : state.line? event = some line) : line.AtLine mode := by
  rcases line?_cases comes with ⟨closed, rfl⟩ | ⟨completion, picking, opened, reacted, rfl⟩
  · rw [lineMode, closed] at same
    exact ⟨closed, same⟩
  · have kept := (state.picking completion).keeps_react event
    rw [reacted] at kept
    exact (atLine_closePicker opened same kept).refresh

theorem history_of_line? (comes : state.line? event = some line) :
    line.history = state.history := by
  rcases line?_cases comes with ⟨-, rfl⟩ | ⟨completion, picking, -, -, rfl⟩ <;> rfl

end Lines

/-- The line can be edited, and its suggestion belongs to its text. -/
structure UpToDate (state : PromptState σ) : Prop where
  active : state.editor.buffer.status = .active
  suggestion_eq : state.editor.buffer.suggestion =
    (suggestionFor state.history state.editor.buffer).filter Buffer.isSuggestible

section UpToDate

variable {state : PromptState σ}

/-- Bringing the line up to date looks at the text, the cursor and the history. -/
theorem upToDate_refresh (active : state.editor.buffer.status = .active) :
    state.refresh.state.UpToDate := by
  constructor
  · exact (Buffer.status_suggest ..).trans active
  · change (state.editor.buffer.suggest _).suggestion =
      (suggestionFor state.history (state.editor.buffer.suggest _)).filter _
    rw [Buffer.suggest, Buffer.edit, active]
    rfl

theorem UpToDate.refresh (upToDate : state.UpToDate) : state.refresh.state.UpToDate :=
  upToDate_refresh upToDate.active

/-- The line below a picker is up to date when the picker has closed. -/
theorem UpToDate.of_line? {line : PromptState σ} {event : KeyEvent} (upToDate : state.UpToDate)
    (comes : state.line? event = some line) : line.UpToDate := by
  rcases line?_cases comes with ⟨-, rfl⟩ | ⟨completion, picking, -, -, rfl⟩
  · exact upToDate
  · exact upToDate_refresh upToDate.active

theorem UpToDate.edit_refresh (upToDate : state.UpToDate) {change : Buffer → Buffer}
    (kept : ∀ buffer, (change buffer).status = buffer.status) :
    (state.edit change).refresh.state.UpToDate :=
  upToDate_refresh ((kept _).trans upToDate.active)

variable (registry : Registry σ) (settings : Settings)

theorem UpToDate.useCandidates (upToDate : state.UpToDate) (pageSize : Nat) (before : List Char)
    (candidates : List Candidate) :
    (state.useCandidates pageSize before candidates).state.UpToDate := by
  match candidates with
  | [] => exact upToDate.refresh
  | [candidate] => exact upToDate.edit_refresh fun _ => Buffer.status_splice ..
  | _ :: _ :: _ => exact ⟨upToDate.active, upToDate.suggestion_eq⟩

theorem UpToDate.complete (upToDate : state.UpToDate) :
    (state.complete registry settings).state.UpToDate := by
  obtain ⟨screen, complete_eq⟩ := exists_complete_eq registry settings state
  rw [complete_eq]
  change (answered _ _ _ _).UpToDate
  unfold answered useAnswer
  split
  · exact upToDate_refresh upToDate.active
  · refine UpToDate.useCandidates ?_ _ _ _
    exact ⟨upToDate.active, upToDate.suggestion_eq⟩

theorem UpToDate.showOlder_refresh (upToDate : state.UpToDate) :
    state.showOlder.refresh.state.UpToDate := by
  apply upToDate_refresh
  unfold showOlder
  dsimp only
  split
  · exact (Buffer.status_replace ..).trans upToDate.active
  · exact upToDate.active

theorem UpToDate.showNewer_refresh (upToDate : state.UpToDate) :
    state.showNewer.refresh.state.UpToDate := by
  apply upToDate_refresh
  unfold showNewer
  split
  · exact upToDate.active
  · exact (Buffer.status_replace ..).trans upToDate.active

/-- Every action leaves a line whose suggestion is up to date, or no line. -/
theorem UpToDate.act (upToDate : state.UpToDate) (action : Action) :
    (state.act registry settings action).Meets UpToDate fun _ _ => True := by
  cases action with
  | interrupt => trivial
  | submit =>
      dsimp only [PromptState.act]
      split
      · exact ⟨upToDate.active, upToDate.suggestion_eq⟩
      · trivial
  | endOfInput =>
      dsimp only [PromptState.act]
      split
      · trivial
      · have edits : Editor.editOf? .deleteRight = some Buffer.deleteRight := rfl
        exact upToDate.edit_refresh (Buffer.status_of_editOf? edits)
  | historyPrevious => exact upToDate.showOlder_refresh
  | historyNext => exact upToDate.showNewer_refresh
  | complete =>
      rw [PromptState.act, wait_complete]
      exact upToDate.complete registry settings
  | insert character =>
      have edits : Editor.editOf? (.insert character) = some (·.insert character) := rfl
      exact upToDate_refresh ((Buffer.status_of_editOf? edits _).trans upToDate.active)
  | _ => exact upToDate_refresh ((Editor.status_apply ..).trans upToDate.active)

theorem UpToDate.reactLine (upToDate : state.UpToDate) (event : KeyEvent) :
    (state.reactLine registry settings event).Meets UpToDate fun _ _ => True := by
  unfold PromptState.reactLine
  split
  · exact upToDate.act registry settings _
  · exact upToDate

theorem UpToDate.react (upToDate : state.UpToDate) (event : KeyEvent) :
    (state.react registry settings event).Meets UpToDate fun _ _ => True := by
  unfold PromptState.react
  split
  · exact upToDate.reactLine registry settings event
  · rename_i completion opened
    split
    · exact ⟨upToDate.active, upToDate.suggestion_eq⟩
    · rename_i result picking _
      have line : (state.closePicker completion picking).UpToDate :=
        ⟨upToDate.active, upToDate.suggestion_eq⟩
      unfold resume
      split
      · trivial
      · exact line.edit_refresh fun buffer => Buffer.status_splice ..
      · exact line.refresh
      · exact line.refresh.reactLine registry settings _

theorem contract_upToDate :
    (widget registry settings).Contract UpToDate fun _ _ => True where
  react _ event upToDate := upToDate.react registry settings event
  abandon _ _ _ := trivial

theorem upToDate_start (settings : Settings) (history : History) (store : σ) (display : Display) :
    (start settings history store display).state.UpToDate := ⟨rfl, rfl⟩

end UpToDate

/-- No picker is on top of the line, the line is up to date, and the history has these entries. -/
structure Ready (entries : List String) (state : PromptState σ) : Prop where
  closed : state.completion = none
  onTop : state.display.keymaps.frames.head? = some .commandPrompt
  upToDate : state.UpToDate
  entries_eq : state.history.entries = entries

section Ready

variable {state : PromptState σ} {entries : List String}

theorem Ready.dispatch_eq (ready : state.Ready entries) (event : KeyEvent) :
    state.display.dispatch event = KeyMap.commandPrompt.lookup event :=
  KeyMapStack.dispatch_of_head? ready.onTop event

/-- A key does on the line what it means there. -/
theorem Ready.react_of_meant (ready : state.Ready entries) {event : KeyEvent} {action : Action}
    (meant : KeyMap.commandPrompt.lookup event = some action) (registry : Registry σ)
    (settings : Settings) :
    state.react registry settings event = state.act registry settings action := by
  rw [react_of_closed ready.closed, reactLine, ready.dispatch_eq, meant]

/-- A key without a meaning does nothing on the line. -/
theorem Ready.react_of_unbound (ready : state.Ready entries) {event : KeyEvent}
    (unbound : KeyMap.commandPrompt.lookup event = none) (registry : Registry σ)
    (settings : Settings) : state.react registry settings event = .wait state := by
  rw [react_of_closed ready.closed, reactLine, ready.dispatch_eq, unbound]

/-- Behind the text there is what the history has to add to it, if that is one line. -/
theorem Ready.suggestion_eq (ready : state.Ready entries)
    (atEnd : state.editor.buffer.cursor = state.editor.buffer.length) {history : History}
    (same : history.entries = entries) :
    state.editor.buffer.suggestion =
      (history.suggestion state.editor.buffer.text).filter (!·.contains '\n') := by
  have suggestion_eq : history.suggestion state.editor.buffer.text =
      state.history.suggestion state.editor.buffer.text := by
    rw [History.suggestion_eq, History.suggestion_eq, same, ready.entries_eq]
  rw [ready.upToDate.suggestion_eq, suggestionFor, if_pos atEnd, ← suggestion_eq]
  cases suggested : history.suggestion state.editor.buffer.text with
  | none => rfl
  | some rest =>
      -- The buffer would drop an empty suggestion, too, but the history does not make one.
      obtain ⟨-, _, _, _, -, ⟨-, nonempty⟩, -⟩ := History.suggestion_eq_some_iff.mp suggested
      simp [Option.filter, Buffer.isSuggestible, nonempty]

theorem Ready.suggestion_eq_none (ready : state.Ready entries)
    (inside : state.editor.buffer.cursor ≠ state.editor.buffer.length) :
    state.editor.buffer.suggestion = none := by
  rw [ready.upToDate.suggestion_eq, suggestionFor, if_neg inside]
  rfl

theorem Ready.cursor_eq_length (ready : state.Ready entries) {rest : List Char}
    (suggested : state.editor.buffer.suggestion = some rest) :
    state.editor.buffer.cursor = state.editor.buffer.length := by
  by_contra inside
  rw [ready.suggestion_eq_none inside] at suggested
  cases suggested

/-- Where no picker is opened, the prompt is ready for the next key. -/
theorem Ready.of_act (ready : state.Ready entries) {registry : Registry σ} {settings : Settings}
    {action : Action} (other : action ≠ .complete) {next : PromptState σ}
    (acted : state.act registry settings action = .wait next) : next.Ready entries := by
  have below := state.sameBelow_act registry settings other
  have atLine : state.AtLine state.display.mode := ⟨ready.closed, rfl⟩
  have mode_eq := atLine.keepsMode_act registry settings action
  have upToDate := ready.upToDate.act registry settings action
  have kept := state.keeps_act registry settings action
  rw [acted] at below mode_eq upToDate kept
  have closed : next.completion = none := below.1.trans ready.closed
  change next.lineMode = _ at mode_eq
  rw [lineMode, closed] at mode_eq
  exact ⟨closed, (congrArg (·.1.frames.head?) mode_eq).trans ready.onTop, upToDate,
    (congrArg (·.entries) kept).trans ready.entries_eq⟩

/-- Going on at the end makes the suggestion part of the text. -/
theorem Ready.accepting (ready : state.Ready entries) {rest : List Char} {action : Action}
    (suggested : state.editor.buffer.suggestion = some rest) (accepts : action.GoesOnAtEnd)
    (registry : Registry σ) (settings : Settings) :
    ∃ later, state.act registry settings action = .wait later ∧ later.completion = none ∧
      later.editor.buffer.text = state.editor.buffer.text ++ rest ∧
      later.editor.buffer.cursor = (state.editor.buffer.text ++ rest).length := by
  have atEnd := ready.cursor_eq_length suggested
  obtain ⟨text_eq, cursor_eq⟩ := Buffer.acceptSuggestion_of_some suggested
  have accepted := Editor.buffer_apply_of_goesOnAtEnd ready.upToDate.active atEnd accepts
  let moved : PromptState σ := { state with editor := state.editor.apply action }
  refine ⟨moved.refresh.state, ?_, ready.closed, ?_, ?_⟩
  · rcases accepts with rfl | rfl <;> rfl
  · rw [text_refresh, ← text_eq, accepted]
  · rw [cursor_refresh, ← cursor_eq, accepted]

end Ready

end Session.PromptState

namespace Shell

/-- The command prompt after these signals, while the line is being read. -/
def promptAfter (shell : Shell σ) (session : Session σ) (taken : List Signal) :
    Option (PromptState σ) :=
  (PromptState.widget shell.registry shell.settings).after (shell.prompt session) taken

/-- The line that a key comes to behind these signals, unless the key is one for a picker. -/
def lineAt (shell : Shell σ) (session : Session σ) (taken : List Signal) (event : KeyEvent) :
    Option (PromptState σ) :=
  (shell.promptAfter session taken).bind (·.line? event)

section Lines

variable {shell : Shell σ} {session : Session σ} {taken : List Signal} {event : KeyEvent}
  {line : PromptState σ}

theorem ready_of_lineAt (comes : shell.lineAt session taken event = some line) :
    line.Ready session.history.entries := by
  obtain ⟨state, reached, line_eq⟩ := Option.bind_eq_some_iff.mp comes
  -- Pickers may have come and gone, so it takes the mode below them to know the map of the line.
  let mode := (session.console.display.enterRaw.state.enter KeyMap.commandPrompt).2.mode
  have same : state.lineMode = mode :=
    (PromptState.contract_widget shell.registry shell.settings mode).after rfl reached
  have upToDate : state.UpToDate :=
    (PromptState.contract_upToDate shell.registry shell.settings).after
      (PromptState.upToDate_start ..) reached
  have kept : state.history.resetScroll = session.history.resetScroll :=
    Widget.after_keeps (fun state : PromptState σ => state.history.resetScroll)
      (fun state event => state.keeps_react shell.registry shell.settings event) reached
  have atLine := PromptState.atLine_of_line? same line_eq
  refine ⟨atLine.closed, ?_, upToDate.of_line? line_eq, ?_⟩
  · exact congrArg (·.1.frames.head?) atLine.mode_eq
  · rw [PromptState.history_of_line? line_eq]
    exact congrArg (·.entries) kept

/-- Behind these signals the prompt goes on from the line that the key comes to. -/
theorem promptAfter_of_lineAt (comes : shell.lineAt session taken event = some line)
    (rest : List Signal) :
    shell.promptAfter session (taken ++ .key event :: rest) =
      (PromptState.widget shell.registry shell.settings).after line (.key event :: rest) := by
  obtain ⟨state, reached, line_eq⟩ := Option.bind_eq_some_iff.mp comes
  rw [promptAfter] at reached
  rw [promptAfter, Widget.after_append, reached, Option.bind_some, Widget.after, Widget.after,
    PromptState.react_widget, PromptState.react_of_line? line_eq,
    PromptState.react_of_closed (ready_of_lineAt comes).closed]

/-- When a key comes to the line, the suggestion belongs to the text: with the cursor at the end it
is what the history adds to the text, if that is one line, and elsewhere there is none.  So going
on at the end turns the text into the newest entry that goes on behind it. -/
theorem suggestion_upToDate (shell : Shell σ) (session : Session σ) {taken : List Signal}
    {event : KeyEvent} {line : PromptState σ}
    (comes : shell.lineAt session taken event = some line) :
    let buffer := line.editor.buffer
    (buffer.cursor ≠ buffer.length → buffer.suggestion = none) ∧
    (buffer.cursor = buffer.length →
      buffer.suggestion =
        (session.history.suggestion buffer.text).filter (!·.contains '\n')) ∧
    ∀ rest action, buffer.suggestion = some rest →
      KeyMap.commandPrompt.lookup event = some action → action.GoesOnAtEnd →
        ∃ newer entry older later,
          session.history.entries = newer ++ entry :: older ∧
          History.GoesOnBehind buffer.text entry ∧
          (∀ other ∈ newer, ¬History.GoesOnBehind buffer.text other) ∧
          shell.promptAfter session (taken ++ [.key event]) = some later ∧
          later.completion = none ∧
          later.editor.buffer.text = entry.toList ∧
          later.editor.buffer.cursor = later.editor.buffer.length := by
  intro buffer
  have ready := ready_of_lineAt comes
  refine ⟨ready.suggestion_eq_none, fun atEnd => ready.suggestion_eq atEnd rfl, ?_⟩
  intro rest action suggested meant accepts
  have atEnd := ready.cursor_eq_length suggested
  obtain ⟨found, -⟩ := Option.filter_eq_some_iff.mp
    ((ready.suggestion_eq atEnd rfl).symm.trans suggested)
  obtain ⟨-, newer, entry, older, entries_eq, ⟨entry_eq, nonempty⟩, notNewer⟩ :=
    History.suggestion_eq_some_iff.mp found
  obtain ⟨later, acted, closed, text_eq, cursor_eq⟩ :=
    ready.accepting suggested accepts shell.registry shell.settings
  refine ⟨newer, entry, older, later, entries_eq,
    History.goesOnBehind_iff.mpr ⟨rest, nonempty, entry_eq⟩, notNewer, ?_, closed,
    text_eq.trans entry_eq.symm, ?_⟩
  · rw [promptAfter_of_lineAt comes, Widget.after, PromptState.react_widget,
      ready.react_of_meant meant, acted]
    rfl
  · rw [Buffer.length, cursor_eq, text_eq]

end Lines

/-- A session in which three lines have been submitted. -/
def seasoned : Session Unit :=
  { untouched with
    history := ["apply all", "archive all", "ls"].foldl History.push untouched.history }

/-- Behind `a` there is what `archive all` adds to it, and the right arrow goes on into it. -/
theorem suggestion_behind_letter :
    ∃ line, planning.lineAt seasoned [.key (.plain (.char 'a'))] (.plain .right) = some line ∧
      line.editor.buffer = ⟨['a'], 1, .active, some "rchive all".toList⟩ ∧
      (seasoned.history.suggestion ['a']).filter (!·.contains '\n') =
        some "rchive all".toList ∧
      ∃ entry ∈ seasoned.history.entries, History.GoesOnBehind ['a'] entry ∧
        ∃ later, planning.promptAfter seasoned
            [.key (.plain (.char 'a')), .key (.plain .right)] = some later ∧
          later.editor.buffer.text = entry.toList := by
  have shown : (planning.lineAt seasoned [.key (.plain (.char 'a'))] (.plain .right)).map
      (·.editor.buffer) = some ⟨['a'], 1, .active, some "rchive all".toList⟩ := by
    decide +kernel
  obtain ⟨line, comes, buffer_eq⟩ := Option.map_eq_some_iff.mp shown
  obtain ⟨-, atEnd, accepts⟩ := suggestion_upToDate planning seasoned comes
  have meant : KeyMap.commandPrompt.lookup (.plain .right) = some .moveRight := by decide
  rw [buffer_eq] at atEnd accepts
  obtain ⟨newer, entry, older, later, entries_eq, behind, -, reached, -, text_eq, -⟩ :=
    accepts "rchive all".toList .moveRight rfl meant (.inl rfl)
  refine ⟨line, comes, buffer_eq, (atEnd rfl).symm, entry, ?_, behind, later, reached, text_eq⟩
  rw [entries_eq]
  exact List.mem_append_right newer (.head older)

end Shell

end OperatorShell

import Mathlib.Data.Nat.Dist
import Mathlib.Data.Nat.PSub
import OperatorShell.Proofs.Question.Choosing

/-!
# The window of a picker

Every way to go but a jump highlights a row and lets the window follow, and following is moving as
little as it takes to show the row.  A jump stays within the window.  So the window always shows
the highlighted row, and it is as full as the list allows.

Rows are machine words.  The same steps are also given with sums that have to fit into a word, and
the only one that may not is the sum of a page forward.
-/

namespace OperatorShell.Picker

open Keys

section Following

variable {size row old new : Nat}

/-- A window of this size and offset shows the row. -/
def Shows (size offset row : Nat) : Prop := offset ≤ row ∧ row < offset + size

/-- Of all the windows that show the row, the new one is the closest to the old one. -/
def IsClosest (size row old new : Nat) : Prop :=
  Shows size new row ∧
    ∀ other, Shows size other row → other ≠ new → Nat.dist old new < Nat.dist old other

theorem isClosest_follow (positive : 0 < size) (old row : Nat) :
    IsClosest size row old (follow size old row) := by
  fun_cases follow size old row
  all_goals
    constructor
    · unfold Shows
      omega
    · intro other shows_other different
      unfold Shows at shows_other
      unfold Nat.dist
      omega

end Following

/-- The picker after these actions.  What is no way to go leaves it as it is. -/
def walk (picker : Picker) (actions : List Action) : Picker :=
  actions.foldl (fun picker action => (picker.navigate? action).getD picker) picker

/-- The window shows the highlighted row and as many rows as the list has for it. -/
structure InWindow (picker : Picker) : Prop where
  positive : 0 < picker.pageSize
  listed : picker.highlighted ≤ picker.lastRow
  shown : Shows picker.pageSize picker.offset picker.highlighted
  filled : picker.offset + min picker.pageSize picker.size ≤ picker.size

section Moving

variable {picker later : Picker} {action : Action}

theorem InWindow.length_visible (window : picker.InWindow) :
    picker.visible.length = min picker.pageSize picker.size := by
  have filled := window.filled
  unfold size at filled ⊢
  rw [visible, List.length_take, List.length_drop]
  omega

/-- A row of the list is highlighted if the list has any. -/
theorem InWindow.highlighted_lt (window : picker.InWindow) (nonempty : picker.candidates ≠ []) :
    picker.highlighted < picker.candidates.length := by
  have listed := window.listed
  have positive := List.length_pos_iff.mpr nonempty
  unfold lastRow size at listed
  omega

theorem InWindow.selected?_eq (window : picker.InWindow) (nonempty : picker.candidates ≠ []) :
    picker.selected? = some (picker.candidates.get ⟨_, window.highlighted_lt nonempty⟩) :=
  List.getElem?_eq_getElem _

theorem InWindow.highlight (window : picker.InWindow) {row : Nat} (listed : row ≤ picker.lastRow) :
    (picker.highlight row).InWindow := by
  have closest := isClosest_follow window.positive picker.offset row
  refine ⟨window.positive, listed, closest.1, ?_⟩
  have shown := window.shown
  have filled := window.filled
  change follow picker.pageSize picker.offset row + min picker.pageSize picker.size ≤ picker.size
  unfold Shows at shown
  unfold lastRow at listed
  fun_cases follow picker.pageSize picker.offset row
  all_goals omega

theorem InWindow.jump (window : picker.InWindow) (row : Nat) : (picker.jump row).InWindow := by
  have filled := window.filled
  unfold Picker.jump
  split
  · rename_i onPage
    rw [window.length_visible] at onPage
    refine ⟨window.positive, ?_, ?_, filled⟩
    · change picker.offset + row ≤ picker.size - 1
      omega
    · change picker.offset ≤ picker.offset + row ∧
        picker.offset + row < picker.offset + picker.pageSize
      omega
  · exact window

/-- A way to go is a jump, or it highlights a row of the list. -/
theorem navigate?_cases (listed : picker.highlighted ≤ picker.lastRow)
    (moves : picker.navigate? action = some later) :
    (∃ row, action = .jump row ∧ later = picker.jump row) ∨
      ∃ row ≤ picker.lastRow, (∀ target, action ≠ .jump target) ∧
        later = picker.highlight row := by
  cases action with
  | jump row => exact .inl ⟨row, rfl, (Option.some.inj moves).symm⟩
  | next =>
      refine .inr ⟨_, ?_, nofun, (Option.some.inj moves).symm⟩
      unfold lastRow at listed ⊢
      split <;> omega
  | previous | pageBack =>
      exact .inr ⟨_, (Nat.sub_le _ _).trans listed, nofun, (Option.some.inj moves).symm⟩
  | first => exact .inr ⟨0, Nat.zero_le _, nofun, (Option.some.inj moves).symm⟩
  | last => exact .inr ⟨_, le_rfl, nofun, (Option.some.inj moves).symm⟩
  | pageForward =>
      exact .inr ⟨_, Nat.min_le_right _ _, nofun, (Option.some.inj moves).symm⟩
  | _ => cases moves

theorem InWindow.navigate? (window : picker.InWindow)
    (moves : picker.navigate? action = some later) : later.InWindow := by
  rcases navigate?_cases window.listed moves with ⟨row, -, rfl⟩ | ⟨row, listed, -, rfl⟩
  · exact window.jump row
  · exact window.highlight listed

@[simp] theorem offset_jump (picker : Picker) (row : Nat) :
    (picker.jump row).offset = picker.offset := by
  unfold jump
  split <;> rfl

end Moving

section Walking

variable {picker : Picker}

theorem walk_cons (picker : Picker) (action : Action) (rest : List Action) :
    picker.walk (action :: rest) = ((picker.navigate? action).getD picker).walk rest := rfl

theorem walk_append (picker : Picker) (first second : List Action) :
    picker.walk (first ++ second) = (picker.walk first).walk second :=
  List.foldl_append

theorem InWindow.walk (window : picker.InWindow) (actions : List Action) :
    (picker.walk actions).InWindow := by
  induction actions generalizing picker with
  | nil => exact window
  | cons action rest ih =>
      rw [walk_cons]
      cases moves : picker.navigate? action with
      | none => exact ih window
      | some later => exact ih (window.navigate? moves)

/-- Going through the list leaves the list and the size of a page as they are. -/
theorem walk_eq (picker : Picker) (actions : List Action) :
    picker.walk actions =
      { picker with
        highlighted := (picker.walk actions).highlighted
        offset := (picker.walk actions).offset } := by
  induction actions generalizing picker with
  | nil => rfl
  | cons action rest ih =>
      rw [walk_cons]
      cases moves : picker.navigate? action with
      | none => exact ih picker
      | some later =>
          have moved := Picking.eq_of_navigate? moves
          rw [Option.getD_some, ih later]
          rw [moved]

@[simp] theorem candidates_walk (picker : Picker) (actions : List Action) :
    (picker.walk actions).candidates = picker.candidates := by
  rw [walk_eq]

@[simp] theorem pageSize_walk (picker : Picker) (actions : List Action) :
    (picker.walk actions).pageSize = picker.pageSize := by
  rw [walk_eq]

@[simp] theorem escaping_walk (picker : Picker) (actions : List Action) :
    (picker.walk actions).escaping = picker.escaping := by
  rw [walk_eq]

theorem inWindow_ofCandidates (candidates : List Candidate) (pageSize : Nat) (escaping : Bool) :
    (ofCandidates candidates pageSize escaping).InWindow where
  positive := Nat.le_max_right _ _
  listed := Nat.zero_le _
  shown := ⟨le_rfl, by simp [ofCandidates]⟩
  filled := by
    change 0 + min _ _ ≤ _
    omega

end Walking

section Words

/-- The list and the page are no longer than a word can count. -/
structure InWords (picker : Picker) : Prop where
  size : picker.size < wordSize
  pageSize : picker.pageSize < wordSize

/-- The sum of two words, if it is a word. -/
def sum? (left right : Nat) : Option Nat :=
  if left + right < wordSize then some (left + right) else none

/-- The offset of a window that follows a row, if all that is computed for it is a word. -/
def follow? (size offset row : Nat) : Option Nat :=
  if row < offset then some row
  else (sum? offset size).bind fun stop =>
    if stop ≤ row then (sum? row 1).bind (Nat.psub' · size) else some offset

def highlight? (picker : Picker) (row : Nat) : Option Picker :=
  (follow? picker.pageSize picker.offset row).map fun offset =>
    { picker with highlighted := row, offset := offset }

/-- The candidates on the page, if there is a word for its end. -/
def visible? (picker : Picker) : Option (List Candidate) :=
  (sum? picker.offset picker.pageSize).map fun stop =>
    (picker.candidates.take stop).drop picker.offset

/-- The picker after an action, if all that is computed for it is a word. -/
def step? (picker : Picker) : Action → Option Picker
  | .next =>
      (sum? picker.highlighted 1).bind fun row =>
        picker.highlight? (if row < picker.size then row else picker.highlighted)
  | .previous => picker.highlight? (picker.highlighted - 1)
  | .first => picker.highlight? 0
  | .last => picker.highlight? picker.lastRow
  | .pageForward =>
      (sum? picker.highlighted picker.pageSize).bind fun row =>
        picker.highlight? (min row picker.lastRow)
  | .pageBack => picker.highlight? (picker.highlighted - picker.pageSize)
  | .jump row =>
      picker.visible?.bind fun page =>
        if row < page.length then
          (sum? picker.offset row).map fun target => { picker with highlighted := target }
        else some picker
  | _ => some picker

/-- The picker after these actions, if all that is computed on the way is a word. -/
def walk? (picker : Picker) (actions : List Action) : Option Picker := actions.foldlM step? picker

/-- Going a page forward, the row is not a word. -/
def PageOverflows (picker : Picker) : Prop := wordSize ≤ picker.highlighted + picker.pageSize

/-- On the way there is a page forward whose row is not a word. -/
def Overflows (picker : Picker) (actions : List Action) : Prop :=
  ∃ earlier later, actions = earlier ++ .pageForward :: later ∧
    (picker.walk earlier).PageOverflows

variable {picker : Picker} {row : Nat}

theorem sum?_eq {left right : Nat} (fits : left + right < wordSize) :
    sum? left right = some (left + right) := if_pos fits

/-- The end of a page is a word: it is the end of the first page, or in the list. -/
theorem InWindow.stop_lt (window : picker.InWindow) (words : picker.InWords) :
    picker.offset + picker.pageSize < wordSize := by
  have filled := window.filled
  obtain ⟨listWord, pageWord⟩ := words
  omega

theorem InWords.succ_lt (words : picker.InWords) (listed : row ≤ picker.lastRow) :
    row + 1 < wordSize := by
  have listWord := words.size
  have oneWord : 1 < wordSize := by decide
  unfold lastRow at listed
  omega

theorem InWindow.highlight?_eq (window : picker.InWindow) (words : picker.InWords)
    (listed : row ≤ picker.lastRow) : picker.highlight? row = some (picker.highlight row) := by
  have stopWord := window.stop_lt words
  have behindWord := words.succ_lt listed
  rw [highlight?, follow?, Picker.highlight, follow, sum?_eq stopWord, sum?_eq behindWord]
  split
  · rfl
  · rw [Option.bind_some]
    split
    · have shown : picker.pageSize ≤ row + 1 := by omega
      rw [Option.bind_some, Nat.psub'_eq_psub, Nat.psub_eq_sub shown]
      rfl
    · rfl

theorem InWindow.visible?_eq (window : picker.InWindow) (words : picker.InWords) :
    picker.visible? = some picker.visible := by
  rw [visible?, sum?_eq (window.stop_lt words), Option.map_some, List.drop_take,
    Nat.add_sub_cancel_left, visible]

/-- Of all steps only a page forward needs a sum that may not be a word. -/
theorem InWindow.step?_eq (window : picker.InWindow) (words : picker.InWords) {action : Action}
    (fits : action = .pageForward → ¬picker.PageOverflows) :
    picker.step? action = some ((picker.navigate? action).getD picker) := by
  have listed := window.listed
  have stopWord := window.stop_lt words
  have goesTo {row : Nat} := @highlight?_eq picker row window words
  cases action with
  | next =>
      rw [step?, sum?_eq (words.succ_lt listed), Option.bind_some]
      apply goesTo
      unfold lastRow at listed ⊢
      split <;> omega
  | previous | pageBack => exact goesTo ((Nat.sub_le _ _).trans listed)
  | first => exact goesTo (Nat.zero_le _)
  | last => exact goesTo le_rfl
  | pageForward =>
      have rowWord : picker.highlighted + picker.pageSize < wordSize := Nat.not_le.mp (fits rfl)
      rw [step?, sum?_eq rowWord, Option.bind_some, goesTo (Nat.min_le_right _ _),
        Picker.navigate?, pageForward, Nat.mod_eq_of_lt rowWord]
      rfl
  | jump row =>
      rw [step?, window.visible?_eq words, Option.bind_some, Picker.navigate?, Option.getD_some,
        Picker.jump]
      split
      · rename_i onPage
        rw [window.length_visible] at onPage
        rw [sum?_eq (by omega), Option.map_some]
      · rfl
  | _ => rfl

theorem InWords.walk (words : picker.InWords) (actions : List Action) :
    (picker.walk actions).InWords := by
  rw [walk_eq]
  exact ⟨words.size, words.pageSize⟩

theorem overflows_cons (picker : Picker) (action : Action) (rest : List Action) :
    picker.Overflows (action :: rest) ↔
      (action = .pageForward ∧ picker.PageOverflows) ∨
        ((picker.navigate? action).getD picker).Overflows rest := by
  constructor
  · rintro ⟨earlier, later, split, overflows⟩
    obtain ⟨rfl, same⟩ | ⟨between, rfl, rfl⟩ := List.cons_eq_append_iff.mp split
    · exact .inl ⟨(List.cons.inj same).1.symm, overflows⟩
    · exact .inr ⟨between, later, rfl, overflows⟩
  · rintro (⟨rfl, overflows⟩ | ⟨earlier, later, rfl, overflows⟩)
    · exact ⟨[], rest, rfl, overflows⟩
    · exact ⟨action :: earlier, later, rfl, overflows⟩

/-- Where every row has to be a word, a way goes where it goes otherwise, and it ends before the
first page forward whose row is none. -/
theorem InWindow.walk?_cases (window : picker.InWindow) (words : picker.InWords)
    (actions : List Action) :
    (picker.Overflows actions ∧ picker.walk? actions = none) ∨
      (¬picker.Overflows actions ∧ picker.walk? actions = some (picker.walk actions)) := by
  induction actions generalizing picker with
  | nil => exact .inr ⟨by simp [Overflows], rfl⟩
  | cons action rest ih =>
      rw [overflows_cons, walk?, List.foldlM_cons]
      by_cases overflows : action = .pageForward ∧ picker.PageOverflows
      · obtain ⟨rfl, tooFar⟩ := overflows
        refine .inl ⟨.inl ⟨rfl, tooFar⟩, ?_⟩
        rw [step?, sum?, if_neg (Nat.not_lt.mpr tooFar)]
        rfl
      · have fits : action = .pageForward → ¬picker.PageOverflows := not_and.mp overflows
        let next := (picker.navigate? action).getD picker
        have nextWindow : next.InWindow := window.walk [action]
        have found := ih nextWindow (words.walk [action])
        rw [window.step?_eq words fits]
        exact found.imp (.imp_left .inr) (.imp_left (not_or_intro overflows))

/-- Such a way ends at the first page forward whose row is no word, or it goes where it goes
otherwise. -/
theorem InWindow.walk?_ends (window : picker.InWindow) (words : picker.InWords)
    (actions : List Action) :
    (picker.walk? actions = none ↔ picker.Overflows actions) ∧
      ∀ reached, picker.walk? actions = some reached → reached = picker.walk actions := by
  obtain ⟨overflows, stops⟩ | ⟨fits, arrives⟩ := window.walk?_cases words actions
  · exact ⟨iff_of_true stops overflows, by simp [stops]⟩
  · exact ⟨iff_of_false (by simp [arrives]) fits, by simp [arrives]⟩

/-- A page forward goes on by a page or to the end of the list. -/
theorem highlighted_pageForward_of_fits (fits : ¬picker.PageOverflows) :
    picker.pageForward.highlighted = min (picker.highlighted + picker.pageSize) picker.lastRow :=
  congrArg (min · picker.lastRow) (Nat.mod_eq_of_lt (Nat.not_le.mp fits))

/-- When its row is not a word, a page forward goes back. -/
theorem InWindow.highlighted_pageForward_lt (window : picker.InWindow) (words : picker.InWords)
    (overflows : picker.PageOverflows) : picker.pageForward.highlighted < picker.highlighted := by
  have rowWord := words.succ_lt window.listed
  have pageWord := words.pageSize
  unfold PageOverflows at overflows
  have left : picker.highlighted + picker.pageSize - wordSize < picker.highlighted := by omega
  have row_eq : (picker.highlighted + picker.pageSize) % wordSize =
      picker.highlighted + picker.pageSize - wordSize := by
    rw [Nat.mod_eq_sub_mod overflows, Nat.mod_eq_of_lt (by omega)]
  calc picker.pageForward.highlighted
      = min ((picker.highlighted + picker.pageSize) % wordSize) picker.lastRow := rfl
    _ ≤ (picker.highlighted + picker.pageSize) % wordSize := Nat.min_le_left _ _
    _ = picker.highlighted + picker.pageSize - wordSize := row_eq
    _ < picker.highlighted := left

end Words

/-- Wherever the operator goes, the highlighted row is in the list and in the window, which is full
or shows the whole list; without candidates nothing moves.  A jump leaves the window where it is,
and any other way to go moves it to the closest place that shows the row.  All that is computed on
the way is a word, but for the row of a page forward: where it is none, the page forward goes back,
and where every row has to be a word, the way ends before it. -/
theorem walk_keeps_window (candidates : List Candidate) (pageSize : Nat) (escaping : Bool)
    (actions : List Action) :
    let start := ofCandidates candidates pageSize escaping
    let picker := start.walk actions
    let page := max pageSize 1
    let rows := min page candidates.length
    (candidates ≠ [] →
      picker.highlighted < candidates.length ∧
        picker.offset ≤ picker.highlighted ∧ picker.highlighted < picker.offset + rows ∧
        picker.offset ≤ candidates.length - rows ∧
        picker.visible.length = rows ∧ picker.selected?.isSome) ∧
    (candidates = [] → picker.highlighted = 0 ∧ picker.offset = 0) ∧
    (∀ action later, picker.navigate? action = some later →
      (∃ row, action = .jump row) ∧ later.offset = picker.offset ∨
        (∀ row, action ≠ .jump row) ∧
          IsClosest page later.highlighted picker.offset later.offset) ∧
    (start.InWords →
      (start.walk? actions = none ↔ start.Overflows actions) ∧
      (∀ reached, start.walk? actions = some reached → reached = picker) ∧
      picker.visible? = some picker.visible ∧
      (¬picker.PageOverflows →
        picker.pageForward.highlighted =
          min (picker.highlighted + page) (candidates.length - 1)) ∧
      (picker.PageOverflows → picker.pageForward.highlighted < picker.highlighted)) := by
  intro start picker page rows
  have startWindow : start.InWindow := inWindow_ofCandidates candidates pageSize escaping
  have window : picker.InWindow := startWindow.walk actions
  have same : picker = ⟨candidates, page, picker.highlighted, picker.offset, escaping⟩ :=
    walk_eq (ofCandidates candidates pageSize escaping) actions
  have size_eq : picker.size = candidates.length := by rw [size, same]
  have page_eq : picker.pageSize = page := by rw [same]
  have listed := window.listed
  have shown := window.shown
  have filled := window.filled
  rw [lastRow, size_eq] at listed
  rw [Shows, page_eq] at shown
  rw [page_eq, size_eq] at filled
  refine ⟨?_, ?_, ?_, ?_⟩
  · intro nonempty
    have nonempty : picker.candidates ≠ [] := by rwa [same]
    have inList : picker.highlighted < candidates.length :=
      (window.highlighted_lt nonempty).trans_eq size_eq
    refine ⟨inList, shown.1, by omega, by omega, ?_, ?_⟩
    · rw [window.length_visible, page_eq, size_eq]
    · rw [window.selected?_eq nonempty]
      rfl
  · rintro rfl
    rw [List.length_nil] at listed filled
    omega
  · intro action later moves
    rcases navigate?_cases window.listed moves with ⟨row, rfl, rfl⟩ | ⟨row, -, noJump, rfl⟩
    · exact .inl ⟨⟨row, rfl⟩, offset_jump picker row⟩
    · refine .inr ⟨noJump, ?_⟩
      have closest := isClosest_follow window.positive picker.offset row
      rw [page_eq] at closest
      change IsClosest page row picker.offset (follow picker.pageSize picker.offset row)
      rwa [page_eq]
  · intro words
    have wordsThere : picker.InWords := words.walk actions
    obtain ⟨stops, arrives⟩ := startWindow.walk?_ends words actions
    refine ⟨stops, arrives, window.visible?_eq wordsThere, ?_,
      window.highlighted_pageForward_lt wordsThere⟩
    intro fits
    rw [highlighted_pageForward_of_fits fits, page_eq, lastRow, size_eq]

/-- With a page as long as a word can count, a page forward from the second row goes back. -/
example :
    let places : List Candidate := [⟨"north", none⟩, ⟨"south", none⟩, ⟨"west", none⟩]
    let start := ofCandidates places (wordSize - 1) false
    start.walk [.next, .pageForward] = start := by
  decide

end OperatorShell.Picker

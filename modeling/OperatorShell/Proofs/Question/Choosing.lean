import OperatorShell.Proofs.Console.Mode

/-!
# What is chosen

A picker goes through its candidates and leaves them as they are, so what is selected is one of
them, and so is the answer to a question with a choice.
-/

namespace OperatorShell

open Keys

namespace Picking

section Choices

variable {picker later : Picker} {event : KeyEvent} {action : Option Action}

/-- Going through the list changes the highlighted row and the page, and nothing else. -/
theorem eq_of_navigate? {action : Action} (moves : picker.navigate? action = some later) :
    later = { picker with highlighted := later.highlighted, offset := later.offset } := by
  unfold Picker.navigate? at moves
  split at moves
  case h_7 row =>
      obtain rfl := Option.some.inj moves
      unfold Picker.jump
      split <;> rfl
  case h_8 => cases moves
  all_goals
    obtain rfl := Option.some.inj moves
    rfl

theorem eq_of_stay (stays : choose picker event action = .stay later) :
    later = { picker with highlighted := later.highlighted, offset := later.offset } := by
  unfold choose at stays
  split at stays
  · cases stays
  · split at stays <;> cases stays
  · split at stays
    · cases stays
    · split at stays
      · rename_i moves
        obtain ⟨action, -, moves⟩ := Option.bind_eq_some_iff.mp moves
        obtain rfl := Choice.stay.inj stays
        exact eq_of_navigate? moves
      · split at stays
        · cases stays
        · obtain rfl := Choice.stay.inj stays
          rfl

theorem mem_of_selected {candidate : Candidate}
    (leaves : choose picker event action = .leave (.ok (.selected candidate))) :
    candidate ∈ picker.candidates := by
  unfold choose at leaves
  split at leaves
  · cases leaves
  · split at leaves
    · rename_i highlighted
      cases leaves
      exact List.mem_of_getElem? highlighted
    · cases leaves
  · split at leaves
    · cases leaves
    · split at leaves
      · cases leaves
      · split at leaves <;> cases leaves

end Choices

/-- Opening a picker leaves it as it is. -/
@[simp] theorem picker_start {device : Device} (picker : Picker) (display : Display device) :
    (start picker display).state.picker = picker := by
  unfold start Attempt.andThen
  split <;> rfl

/-- A result that selects one of these candidates, if it selects any. -/
def SelectsFrom (candidates : List Candidate) (result : Except ReadError PickerOutcome) : Prop :=
  ∀ candidate, result = .ok (.selected candidate) → candidate ∈ candidates

theorem contract_candidates {device : Device} (candidates : List Candidate) :
    (widget : Widget (Picking device) PickerOutcome).Contract
      (·.picker.candidates = candidates)
      (fun result _ => SelectsFrom candidates result) where
  react picking event same := by
    change (react picking event).Meets _ _
    unfold react
    split
    · rename_i later stays
      have kept : later.candidates = candidates := by rw [eq_of_stay stays, ← same]
      exact Attempt.meets_react (fun _ => nofun) kept
    · rename_i result leaves
      apply Attempt.meets_react (fun _ => nofun)
      rintro candidate rfl
      exact same ▸ mem_of_selected leaves
  abandon _ _ _ _ selected := by cases selected

end Picking

section Choosing

variable {device : Device}

theorem Picker.selectsFrom_pick (picker : Picker) (console : Console device) :
    Picking.SelectsFrom picker.candidates (picker.pick console).1 := by
  unfold pick
  split
  · rintro candidate ⟨⟩
  · dsimp only [Widget.run, Attempt.into]
    split
    · rename_i opened
      have same := Picking.picker_start picker (console.display.enter .picker).2
      exact (Picking.contract_candidates picker.candidates).converse
        (congrArg Picker.candidates same) console.signals
    · exact nofun

theorem ChoiceList.mem_of_close {editor : Edit.Editor} {console : Console device}
    {result : Except ReadError PickerOutcome} {candidate : Candidate}
    (chosen : (close editor console result).1 = .ok (some candidate)) :
    result = .ok (.selected candidate) := by
  unfold close Attempt.into at chosen
  split at chosen <;> split at chosen <;> cases chosen
  rfl

theorem ChoiceList.mem_of_read {header : String} {candidates : List Candidate} {pageSize : Nat}
    {console : Console device} {candidate : Candidate}
    (chosen : (read header candidates pageSize console).1 = .ok (some candidate)) :
    candidate ∈ candidates := by
  unfold read at chosen
  split at chosen
  · cases chosen
  · simp only [Console.raw, Attempt.into] at chosen
    split at chosen
    · split at chosen
      · exact Picker.selectsFrom_pick _ _ _ (mem_of_close chosen)
      · cases chosen
    · cases chosen

end Choosing

namespace Question

/-- What can come of a question: what is chosen is one of the candidates. -/
def CanYield : (question : Question) → Except ReadError question.Answer → Prop
  | .choose _ candidates, result =>
      ∀ candidate, result = .ok (some candidate) → candidate ∈ candidates
  | _, _ => True

theorem canYield_put {device : Device} (style : AskStyle) (question : Question)
    (console : Console device) :
    question.CanYield (question.put style console).1 := by
  cases question with
  | confirm | ask | secret => trivial
  | choose header candidates =>
      intro candidate chosen
      exact ChoiceList.mem_of_read chosen

end Question

end OperatorShell

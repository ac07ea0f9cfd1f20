import Mathlib.Data.List.Induction
import Mathlib.Data.List.Infix
import OperatorShell.Keys.Stack

/-!
# What a guard gives back

A guard knows how many frames the stack had, and not which ones.  Still the stack that it was entered
on comes back when it is released, whatever others have put above it and forgotten there: as long as
no call goes below the depth at which the guard was entered, the frames up to there stay as they are.
-/

namespace OperatorShell.Keys

/-- A call on a stack of key maps that is in use. -/
inductive StackCall where
  | push (map : KeyMap)
  | pop
  | enter (map : KeyMap)
  /-- Release one of the guards that are held, by its place among them. -/
  | release (place : Nat)

/-- A stack of key maps in use, with the guards that are held, oldest first. -/
structure Holding where
  stack : KeyMapStack
  guards : List Guard

namespace KeyMapStack

/-- The stack in use, while no guard is held. -/
def unguarded (stack : KeyMapStack) : Holding := ⟨stack, []⟩

end KeyMapStack

namespace Holding

/-- The stack in use after a call. -/
def after (holding : Holding) : StackCall → Holding
  | .push map => { holding with stack := holding.stack.push map }
  | .pop => { holding with stack := holding.stack.pop.2 }
  | .enter map =>
      let (guard, stack) := holding.stack.enter map
      ⟨stack, holding.guards ++ [guard]⟩
  | .release place =>
      match holding.guards[place]? with
      | some guard => ⟨holding.stack.release guard, holding.guards.eraseIdx place⟩
      | none => holding

/-- The stack in use after calls. -/
def run (holding : Holding) (calls : List StackCall) : Holding := calls.foldl after holding

theorem run_concat (holding : Holding) (calls : List StackCall) (call : StackCall) :
    holding.run (calls ++ [call]) = (holding.run calls).after call :=
  List.foldl_concat ..

end Holding

section Standing

variable {base stack : KeyMapStack} {holding : Holding}

/-- The frames of one stack are the lowest ones of another. -/
def KeyMapStack.StandsOn (stack base : KeyMapStack) : Prop :=
  ∃ above, stack.frames = above ++ base.frames

theorem KeyMapStack.StandsOn.depth_le (stands : stack.StandsOn base) :
    base.depth ≤ stack.depth := by
  obtain ⟨above, frames_eq⟩ := stands
  rw [depth, depth, frames_eq, List.length_append]
  exact Nat.le_add_left ..

theorem KeyMapStack.StandsOn.push (stands : stack.StandsOn base) (map : KeyMap) :
    (stack.push map).StandsOn base := by
  obtain ⟨above, frames_eq⟩ := stands
  exact ⟨map :: above, congrArg (map :: ·) frames_eq⟩

/-- Taking off a frame leaves the base alone, unless it was the base's own. -/
theorem KeyMapStack.StandsOn.pop (stands : stack.StandsOn base)
    (within : base.depth ≤ stack.pop.2.depth) : stack.pop.2.StandsOn base := by
  obtain ⟨above, frames_eq⟩ := stands
  cases above with
  | cons top above => exact ⟨above, congrArg List.tail frames_eq⟩
  | nil =>
      rw [List.nil_append] at frames_eq
      rw [KeyMapStack.pop, depth, depth, frames_eq, List.length_tail] at within
      have empty : base.frames = [] := List.eq_nil_of_length_eq_zero (by omega)
      exact ⟨[], by rw [KeyMapStack.pop, frames_eq, empty]; rfl⟩

/-- Cutting the stack off above the base leaves the base alone. -/
theorem KeyMapStack.StandsOn.truncate (stands : stack.StandsOn base) {depth : Nat}
    (within : base.depth ≤ depth) : (stack.truncate depth).StandsOn base := by
  obtain ⟨above, frames_eq⟩ := stands
  have cut : stack.frames.length - depth ≤ above.length := by
    rw [KeyMapStack.depth] at within
    rw [frames_eq, List.length_append]
    omega
  refine ⟨above.drop (stack.frames.length - depth), ?_⟩
  rw [← List.drop_append_of_le_length cut, ← frames_eq]
  rfl

/-- Cutting the stack off at the depth of the base gives the base. -/
theorem KeyMapStack.StandsOn.truncate_depth (stands : stack.StandsOn base) :
    stack.truncate base.depth = base := by
  obtain ⟨above, frames_eq⟩ := stands
  rw [KeyMapStack.truncate, depth, frames_eq, List.length_append, Nat.add_sub_cancel,
    List.drop_left]

/-- The stack in use stands on a base, and so does every guard that is held. -/
structure Holding.KeepsAbove (base : KeyMapStack) (holding : Holding) : Prop where
  stands : holding.stack.StandsOn base
  guarded : ∀ guard ∈ holding.guards, base.depth < guard.depth

/-- A call that does not go below the base leaves it as it is. -/
theorem Holding.KeepsAbove.after (keeps : holding.KeepsAbove base) (call : StackCall)
    (within : base.depth ≤ (holding.after call).stack.depth) :
    (holding.after call).KeepsAbove base := by
  cases call with
  | push map => exact ⟨keeps.stands.push map, keeps.guarded⟩
  | pop => exact ⟨keeps.stands.pop within, keeps.guarded⟩
  | enter map =>
      refine ⟨keeps.stands.push map, ?_⟩
      intro guard held
      rcases List.mem_append.mp held with older | entered
      · exact keeps.guarded guard older
      · rw [List.mem_singleton.mp entered]
        exact Nat.lt_succ_of_le keeps.stands.depth_le
  | release place =>
      cases found : holding.guards[place]? with
      | none =>
          rw [Holding.after, found]
          exact keeps
      | some guard =>
          rw [Holding.after, found]
          have above := keeps.guarded guard (List.mem_of_getElem? found)
          refine ⟨keeps.stands.truncate (Nat.le_sub_one_of_lt above), ?_⟩
          intro other held
          exact keeps.guarded other (List.mem_of_mem_eraseIdx held)

/-- Calls that never go below the base leave it as it is. -/
theorem Holding.KeepsAbove.run (keeps : holding.KeepsAbove base) {calls : List StackCall}
    (within : ∀ front, front <+: calls → base.depth ≤ (holding.run front).stack.depth) :
    (holding.run calls).KeepsAbove base := by
  induction calls using List.reverseRecOn with
  | nil => exact keeps
  | append_singleton calls call ih =>
      have before := ih fun front isFront => within front (isFront.trans (List.prefix_append ..))
      have last := within (calls ++ [call]) List.prefix_rfl
      rw [run_concat] at last ⊢
      exact before.after call last

end Standing

namespace KeyMapStack

/-- Releasing a guard gives back the stack that it was entered on, whatever has been pushed, popped,
entered and released above that stack in between.  All that time only the frame on top gives a key
its meaning. -/
theorem release_gives_back (stack : KeyMapStack) (map : KeyMap) (calls : List StackCall)
    (within : ∀ front, front <+: calls →
      stack.depth ≤ ((stack.enter map).2.unguarded.run front).stack.depth) :
    ((stack.enter map).2.unguarded.run calls).stack.release (stack.enter map).1 = stack ∧
    ∀ front, front <+: calls →
      let now := ((stack.enter map).2.unguarded.run front).stack
      now.StandsOn stack ∧
        ∀ event, now.dispatch event = now.frames.head?.bind (·.lookup event) := by
  have entered : (stack.enter map).2.unguarded.KeepsAbove stack :=
    ⟨⟨[map], rfl⟩, nofun⟩
  constructor
  · exact (entered.run within).stands.truncate_depth
  · intro front isFront
    have keeps := entered.run fun earlier isEarlier => within earlier (isEarlier.trans isFront)
    refine ⟨keeps.stands, ?_⟩
    intro event
    unfold dispatch
    split
    · rename_i top below frames_eq
      rw [frames_eq]
      rfl
    · rename_i frames_eq
      rw [frames_eq]
      rfl

/-- A nested map is left on the stack, guards are released in the order in which they were entered,
and another map has taken the place of the one that the outer guard was entered for. -/
theorem release_over_leftovers :
    let stack : KeyMapStack := ⟨[.editing]⟩
    let calls : List StackCall :=
      [.enter .picker, .enter .confirmation, .release 0, .pop, .push .picker, .push .commandPrompt]
    (∀ front, front <+: calls →
      stack.depth ≤ ((stack.enter .picker).2.unguarded.run front).stack.depth) ∧
    ((stack.enter .picker).2.unguarded.run calls).stack.depth = 3 ∧
    ((stack.enter .picker).2.unguarded.run calls).stack.release (stack.enter .picker).1 = stack := by
  intro stack calls
  have within : ∀ front, front <+: calls →
      stack.depth ≤ ((stack.enter .picker).2.unguarded.run front).stack.depth := by
    have checked : ∀ front ∈ calls.inits,
        stack.depth ≤ ((stack.enter .picker).2.unguarded.run front).stack.depth := by
      decide
    exact fun front isFront => checked front ((List.mem_inits front calls).mpr isFront)
  exact ⟨within, rfl, (stack.release_gives_back .picker calls within).1⟩

end KeyMapStack

end OperatorShell.Keys

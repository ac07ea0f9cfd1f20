import OperatorShell.Keys.KeyMap

/-!
# The stack of key maps

A widget puts its own key map on the stack for as long as it reads keys, and only the
top map is asked.  Entering a map gives a guard; when the guard is released, the map
and whatever was left above it are gone, however much that is.
-/

namespace OperatorShell.Keys

/-- Key maps in use, the top one first. -/
structure KeyMapStack where
  frames : List KeyMap

/-- The right to take a map off the stack: the number of frames up to it. -/
structure Guard where
  depth : Nat
  deriving DecidableEq, Repr

namespace KeyMapStack

/-- The stack without maps. -/
def empty : KeyMapStack := ⟨[]⟩

/-- Number of maps. -/
def depth (stack : KeyMapStack) : Nat := stack.frames.length

/-- Put a map on top. -/
def push (stack : KeyMapStack) (map : KeyMap) : KeyMapStack :=
  ⟨map :: stack.frames⟩

/-- Take the top map off. -/
def pop (stack : KeyMapStack) : Option KeyMap × KeyMapStack :=
  (stack.frames.head?, ⟨stack.frames.tail⟩)

/-- The lowest frames of the stack. -/
def truncate (stack : KeyMapStack) (depth : Nat) : KeyMapStack :=
  ⟨stack.frames.drop (stack.frames.length - depth)⟩

/-- Put a map on top until its guard is released. -/
def enter (stack : KeyMapStack) (map : KeyMap) : Guard × KeyMapStack :=
  (⟨stack.depth + 1⟩, stack.push map)

/-- Take away the map of a guard and all maps above it. -/
def release (stack : KeyMapStack) (guard : Guard) : KeyMapStack :=
  stack.truncate (guard.depth - 1)

/-- The meaning of a key press, by the top map alone. -/
def dispatch (stack : KeyMapStack) (event : KeyEvent) : Option Action :=
  match stack.frames with
  | map :: _ => map.lookup event
  | [] => none

@[simp] theorem truncate_depth (stack : KeyMapStack) :
    stack.truncate stack.depth = stack := by
  simp [truncate, depth]

/-- Releasing a guard right after entering gives the stack back. -/
@[simp] theorem release_enter (stack : KeyMapStack) (map : KeyMap) :
    (stack.enter map).2.release (stack.enter map).1 = stack := by
  simp [enter, release, truncate, push, depth]

/-- The map on top gives a key its meaning. -/
theorem dispatch_of_head? {stack : KeyMapStack} {map : KeyMap}
    (top : stack.frames.head? = some map) (event : KeyEvent) :
    stack.dispatch event = map.lookup event := by
  obtain ⟨below, frames_eq⟩ := List.head?_eq_some_iff.mp top
  rw [dispatch, frames_eq]

end KeyMapStack

end OperatorShell.Keys

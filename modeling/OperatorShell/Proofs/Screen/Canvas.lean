import Mathlib.Data.Int.Order.Basic
import OperatorShell.Screen.Control

/-!
# The rows of a terminal

A drawing moves the cursor over the rows of a terminal, writes on some of them and blanks others.
Rows are counted from any one of them, and a text takes as many rows as it has lines.  Of a row it
matters only whether there may be something on it.
-/

namespace OperatorShell.Screen

/-- Number of rows that the cursor goes down. -/
def Control.descent : Control → Nat
  | .text content => content.toList.count '\n'
  | .lineBreak => 1
  | _ => 0

/-- Number of rows that the cursor goes up.  A terminal goes up at least one. -/
def Control.ascent : Control → Nat
  | .up rows => max 1 (min rows maxCoordinate)
  | _ => 0

namespace Drawing

/-- Number of rows that a drawing goes down. -/
def descent : Drawing → Nat
  | [] => 0
  | control :: rest => control.descent + descent rest

/-- Number of rows that a drawing goes up. -/
def ascent : Drawing → Nat
  | [] => 0
  | control :: rest => control.ascent + ascent rest

/-- The drawing neither hides nor shows the cursor. -/
def LeavesCursor (drawing : Drawing) : Prop := .hideCursor ∉ drawing ∧ .showCursor ∉ drawing

section Counting

variable (control : Control) (first second rest : Drawing)

@[simp] theorem descent_nil : descent [] = 0 := rfl

@[simp] theorem descent_cons :
    descent (control :: rest) = control.descent + descent rest := rfl

@[simp] theorem descent_append : descent (first ++ second) = descent first + descent second := by
  induction first with
  | nil => simp
  | cons control first ih => rw [List.cons_append, descent_cons, descent_cons, ih, Nat.add_assoc]

@[simp] theorem ascent_nil : ascent [] = 0 := rfl

@[simp] theorem ascent_cons : ascent (control :: rest) = control.ascent + ascent rest := rfl

@[simp] theorem ascent_append : ascent (first ++ second) = ascent first + ascent second := by
  induction first with
  | nil => simp
  | cons control first ih => rw [List.cons_append, ascent_cons, ascent_cons, ih, Nat.add_assoc]

theorem leavesCursor_flatten {drawings : List Drawing}
    (leave : ∀ drawing ∈ drawings, drawing.LeavesCursor) : LeavesCursor drawings.flatten := by
  constructor <;> intro member
  all_goals obtain ⟨drawing, drawn, written⟩ := List.mem_flatten.mp member
  · exact (leave drawing drawn).1 written
  · exact (leave drawing drawn).2 written

end Counting

end Drawing

/-- The rows of a terminal and its cursor. -/
structure Canvas where
  /-- The row of the cursor. -/
  row : Int
  /-- The cursor is at the start of its row. -/
  atStart : Bool
  /-- There may be something on the row. -/
  inked : Int → Bool
  cursorShown : Bool

namespace Canvas

/-- The canvas after a piece of output.  What is erased behind the start of a row leaves something
on the row. -/
def put (canvas : Canvas) (control : Control) : Canvas where
  row := canvas.row + control.descent - control.ascent
  atStart :=
    match control with
    | .text content => canvas.atStart && content.isEmpty
    | .lineBreak => true
    | .toColumn column => column == 0
    | _ => canvas.atStart
  inked row :=
    match control with
    | .text content =>
        canvas.inked row ||
          (!content.isEmpty && canvas.row ≤ row && row ≤ canvas.row + control.descent)
    | .eraseRow => canvas.inked row && !(canvas.atStart && row == canvas.row)
    | .eraseBelow =>
        canvas.inked row && !(canvas.atStart && row == canvas.row || canvas.row < row)
    | _ => canvas.inked row
  cursorShown :=
    match control with
    | .hideCursor => false
    | .showCursor => true
    | _ => canvas.cursorShown

/-- The canvas after a drawing. -/
def run (canvas : Canvas) (drawing : Drawing) : Canvas := drawing.foldl put canvas

section Running

variable (canvas : Canvas) (control : Control) (first second rest drawing : Drawing)

@[simp] theorem run_nil : canvas.run [] = canvas := rfl

@[simp] theorem run_cons : canvas.run (control :: rest) = (canvas.put control).run rest := rfl

@[simp] theorem run_append : canvas.run (first ++ second) = (canvas.run first).run second :=
  List.foldl_append

/-- The cursor is as far down as the drawing goes down more than up. -/
theorem row_run : (canvas.run drawing).row = canvas.row + drawing.descent - drawing.ascent := by
  induction drawing generalizing canvas with
  | nil => simp
  | cons control rest ih =>
      rw [run_cons, ih, Drawing.descent_cons, Drawing.ascent_cons]
      simp only [put]
      omega

variable {canvas drawing}

theorem cursorShown_run (leaves : drawing.LeavesCursor) :
    (canvas.run drawing).cursorShown = canvas.cursorShown := by
  obtain ⟨notHidden, notShown⟩ := leaves
  induction drawing generalizing canvas with
  | nil => rfl
  | cons control rest ih =>
      rw [List.mem_cons, not_or] at notHidden notShown
      rw [run_cons, ih notHidden.2 notShown.2]
      cases control with
      | hideCursor => exact absurd rfl notHidden.1
      | showCursor => exact absurd rfl notShown.1
      | _ => rfl

/-- A piece of output changes no row but those that the cursor is on, unless it erases the rows
below. -/
theorem inked_put (notBelow : control ≠ .eraseBelow) {row : Int}
    (outside : row < canvas.row ∨ canvas.row + control.descent < row) :
    (canvas.put control).inked row = canvas.inked row := by
  cases control with
  | text content =>
      simp only [put, Bool.or_eq_left_iff_imp, Bool.and_eq_true, decide_eq_true_eq]
      rintro ⟨⟨-, low⟩, high⟩
      omega
  | eraseRow =>
      have apart : row ≠ canvas.row := by
        simp only [Control.descent] at outside
        omega
      simp [put, apart]
  | eraseBelow => exact absurd rfl notBelow
  | _ => rfl

theorem inked_run (notBelow : .eraseBelow ∉ drawing) (noAscent : drawing.ascent = 0) {row : Int}
    (outside : row < canvas.row ∨ canvas.row + drawing.descent < row) :
    (canvas.run drawing).inked row = canvas.inked row := by
  induction drawing generalizing canvas with
  | nil => rfl
  | cons control rest ih =>
      rw [List.mem_cons, not_or] at notBelow
      rw [Drawing.ascent_cons] at noAscent
      rw [Drawing.descent_cons] at outside
      have lower : (canvas.put control).row = canvas.row + control.descent := by
        simp only [put]
        omega
      rw [run_cons, ih notBelow.2 (by omega) (by omega),
        inked_put control (Ne.symm notBelow.1) (by omega)]

end Running

end Canvas

/-- The cursor is on the row that it was on.  Of some rows that are covered below it the first ones
have something on them and the others are blank, and all other rows are as they were. -/
structure Canvas.ShowsBelow (before : Canvas) (shown covered : Nat) (after : Canvas) : Prop where
  row_eq : after.row = before.row
  inked_eq : ∀ row, after.inked row =
    if before.row < row ∧ row ≤ before.row + covered then decide (row ≤ before.row + shown)
    else before.inked row

/-- What covers as many rows hides what has been drawn before. -/
theorem Canvas.ShowsBelow.overdraw {before middle after : Canvas} {shown covered later more : Nat}
    (first : before.ShowsBelow shown covered middle) (second : middle.ShowsBelow later more after)
    (larger : covered ≤ more) : before.ShowsBelow later more after where
  row_eq := second.row_eq.trans first.row_eq
  inked_eq row := by
    rw [second.inked_eq, first.inked_eq, first.row_eq]
    by_cases inside : before.row < row ∧ row ≤ before.row + more
    · rw [if_pos inside, if_pos inside]
    · have outside : ¬(before.row < row ∧ row ≤ before.row + covered) := by omega
      rw [if_neg inside, if_neg inside, if_neg outside]

theorem Canvas.showsBelow_hideCursor (canvas : Canvas) :
    canvas.ShowsBelow 0 0 (canvas.put .hideCursor) where
  row_eq := by simp [put, Control.descent, Control.ascent]
  inked_eq row := by
    rw [if_neg (by omega)]
    rfl

namespace Drawing

/-- The drawing goes down some rows and changes these rows only. -/
structure GoesDown (rows : Nat) (drawing : Drawing) : Prop where
  descent_eq : drawing.descent = rows
  ascent_eq : drawing.ascent = 0
  spares : ∀ (canvas : Canvas) (row : Int), row ≤ canvas.row ∨ canvas.row + rows < row →
    (canvas.run drawing).inked row = canvas.inked row

/-- The drawing goes down one row, which has something on it or is blank then. -/
structure DrawsRow (ink : Bool) (drawing : Drawing) : Prop extends GoesDown 1 drawing where
  inked : ∀ canvas : Canvas, (canvas.run drawing).inked (canvas.row + 1) = ink

section GoingDown

variable {first second rest : Drawing} {rows more : Nat}

theorem GoesDown.row_eq (descends : GoesDown rows first) (canvas : Canvas) :
    (canvas.run first).row = canvas.row + rows := by
  rw [Canvas.row_run, descends.descent_eq, descends.ascent_eq]
  omega

theorem goesDown_nil : GoesDown 0 [] := ⟨rfl, rfl, fun _ _ _ => rfl⟩

theorem GoesDown.append (upper : GoesDown rows first) (lower : GoesDown more second) :
    GoesDown (rows + more) (first ++ second) where
  descent_eq := by rw [descent_append, upper.descent_eq, lower.descent_eq]
  ascent_eq := by rw [ascent_append, upper.ascent_eq, lower.ascent_eq]
  spares canvas row outside := by
    have row_eq := upper.row_eq canvas
    rw [Canvas.run_append, lower.spares _ row (by omega), upper.spares _ row (by omega)]

/-- A line break and what stands behind it on the row. -/
theorem goesDown_cons_lineBreak (flat : rest.descent = 0) (level : rest.ascent = 0)
    (notBelow : .eraseBelow ∉ rest) : GoesDown 1 (.lineBreak :: rest) where
  descent_eq := by rw [descent_cons, flat]; rfl
  ascent_eq := by rw [ascent_cons, level]; rfl
  spares canvas row outside := by
    have lower : (canvas.put .lineBreak).row = canvas.row + 1 := by
      simp [Canvas.put, Control.descent, Control.ascent]
    rw [Canvas.run_cons, Canvas.inked_run notBelow level (by omega)]
    rfl

variable {drawings : List Drawing} {ink : Bool}

theorem goesDown_flatten (rows : ∀ drawing ∈ drawings, drawing.DrawsRow ink) :
    GoesDown drawings.length drawings.flatten := by
  induction drawings with
  | nil => exact goesDown_nil
  | cons drawing drawings ih =>
      rw [List.forall_mem_cons] at rows
      rw [List.flatten_cons, List.length_cons, Nat.add_comm]
      exact rows.1.append (ih rows.2)

theorem inked_flatten (rows : ∀ drawing ∈ drawings, drawing.DrawsRow ink) {canvas : Canvas}
    {row : Int} (below : canvas.row < row) (near : row ≤ canvas.row + drawings.length) :
    (canvas.run drawings.flatten).inked row = ink := by
  induction drawings generalizing canvas with
  | nil =>
      rw [List.length_nil] at near
      omega
  | cons drawing drawings ih =>
      rw [List.forall_mem_cons] at rows
      rw [List.length_cons] at near
      have row_eq := rows.1.row_eq canvas
      rw [List.flatten_cons, Canvas.run_append]
      by_cases next : row = canvas.row + 1
      · rw [(goesDown_flatten rows.2).spares _ row (by omega), next, rows.1.inked]
      · exact ih rows.2 (by omega) (by omega)

end GoingDown

/-- The drawing goes down to some depth and then up as far. -/
def Returns (depth : Nat) (drawing : Drawing) : Prop :=
  ∃ down up : Drawing, drawing = down ++ up ∧
    down.descent = depth ∧ down.ascent = 0 ∧ up.descent = 0 ∧ up.ascent = depth

/-- Up again without a trace. -/
structure GoesUp (rows : Nat) (drawing : Drawing) : Prop where
  descent_eq : drawing.descent = 0
  ascent_eq : drawing.ascent = rows
  inked_eq : ∀ canvas : Canvas, (canvas.run drawing).inked = canvas.inked

/-- The drawing covers rows below the cursor, the first ones with something on them, and goes down
as many rows as it then goes up. -/
structure Repaints (shown covered : Nat) (drawing : Drawing) : Prop where
  returns : drawing.Returns covered
  showsBelow : ∀ canvas : Canvas, canvas.ShowsBelow shown covered (canvas.run drawing)

section Repainting

variable {page blank : List Drawing} {up : Drawing}

theorem showsBelow_of_rows (inks : ∀ drawing ∈ page, drawing.DrawsRow true)
    (blanks : ∀ drawing ∈ blank, drawing.DrawsRow false)
    (ascends : GoesUp (page.length + blank.length) up) (canvas : Canvas) :
    canvas.ShowsBelow page.length (page.length + blank.length)
      (canvas.run (page.flatten ++ blank.flatten ++ up)) where
  row_eq := by
    have down := (goesDown_flatten inks).append (goesDown_flatten blanks)
    rw [Canvas.run_append, Canvas.row_run, down.row_eq, ascends.descent_eq, ascends.ascent_eq]
    omega
  inked_eq row := by
    let drawn := canvas.run page.flatten
    have drawn_row : drawn.row = canvas.row + page.length := (goesDown_flatten inks).row_eq canvas
    rw [Canvas.run_append, ascends.inked_eq, Canvas.run_append]
    by_cases shown : canvas.row < row ∧ row ≤ canvas.row + page.length
    · rw [(goesDown_flatten blanks).spares drawn row (by omega), inked_flatten inks shown.1 shown.2,
        if_pos (by omega), decide_eq_true shown.2]
    by_cases stale : drawn.row < row ∧ row ≤ drawn.row + blank.length
    · rw [inked_flatten blanks stale.1 stale.2, if_pos (by omega), decide_eq_false (by omega)]
    · rw [(goesDown_flatten blanks).spares drawn row (by omega),
        (goesDown_flatten inks).spares canvas row (by omega), if_neg (by omega)]

/-- Rows of a page and blank rows below them, and back up over all of them. -/
theorem repaints_of_rows {shown covered : Nat} (inks : ∀ drawing ∈ page, drawing.DrawsRow true)
    (blanks : ∀ drawing ∈ blank, drawing.DrawsRow false) (shown_eq : page.length = shown)
    (covered_eq : shown + blank.length = covered) (ascends : GoesUp covered up) :
    Repaints shown covered (page.flatten ++ blank.flatten ++ up) := by
  subst shown_eq covered_eq
  have down := (goesDown_flatten inks).append (goesDown_flatten blanks)
  exact
    { returns :=
        ⟨_, up, rfl, down.descent_eq, down.ascent_eq, ascends.descent_eq, ascends.ascent_eq⟩
      showsBelow := showsBelow_of_rows inks blanks ascends }

end Repainting

end Drawing

end OperatorShell.Screen

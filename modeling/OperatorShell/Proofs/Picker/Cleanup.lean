import OperatorShell.Proofs.Picker.Deciding
import OperatorShell.Proofs.Screen.Canvas

/-!
# What a picker leaves on the screen

Every page is drawn on the rows below the line, and the cursor is back on the line behind it.  The
rows that have been drawn are counted from page to page, so that the rows which are cleared in the
end, whatever ends the pick, are all that any page was drawn on.
-/

namespace OperatorShell

open Keys Screen Text

/-- There is no line feed in what a picker shows of the candidate. -/
structure Candidate.IsOneLine (candidate : Candidate) : Prop where
  value : '\n' ∉ candidate.value.toList
  description : ∀ text ∈ candidate.description, '\n' ∉ text.toList

instance (candidate : Candidate) : Decidable candidate.IsOneLine :=
  decidable_of_iff
    ('\n' ∉ candidate.value.toList ∧ ∀ text ∈ candidate.description, '\n' ∉ text.toList)
    ⟨fun both => ⟨both.1, both.2⟩, fun oneLine => ⟨oneLine.value, oneLine.description⟩⟩

namespace Picker

section Rows

variable {picker : Picker}

theorem lineFeed_notMem_toDigits (number : Nat) : '\n' ∉ Nat.toDigits 10 number := by
  intro member
  have digit := Nat.isDigit_of_mem_toDigits (by decide) (by decide) member
  exact absurd digit (by decide)

theorem lineFeed_notMem_label {candidate : Candidate} (oneLine : candidate.IsOneLine)
    (column row : Nat) : '\n' ∉ (label column row candidate).toList := by
  have number := lineFeed_notMem_toDigits row
  have value := oneLine.value
  unfold label
  cases described : candidate.description with
  | none => simp [number, value]
  | some description =>
      have text := oneLine.description description described
      simp [number, value, text, padEnd]

theorem label_ne_empty (column row : Nat) (candidate : Candidate) :
    (label column row candidate).isEmpty = false := by
  unfold label
  split <;> simp

theorem drawsRow_drawRow {label : String} (oneLine : '\n' ∉ label.toList)
    (nonempty : label.isEmpty = false) (isHighlighted : Bool) :
    Drawing.DrawsRow true (drawRow label isHighlighted) where
  toGoesDown := by
    have flat : label.toList.count '\n' = 0 := List.count_eq_zero.mpr oneLine
    cases isHighlighted
    all_goals
      apply Drawing.goesDown_cons_lineBreak
      · simp [Control.descent, flat]
      · simp [Control.ascent]
      · simp
  inked canvas := by
    cases isHighlighted
    all_goals simp [drawRow, Canvas.put, Control.descent, Control.ascent, nonempty]

theorem drawsRow_blank : Drawing.DrawsRow false [.lineBreak, .eraseRow] where
  toGoesDown := Drawing.goesDown_cons_lineBreak rfl rfl (by decide)
  inked canvas := by simp [Canvas.put, Control.descent, Control.ascent]

/-- Back up over rows, with a control behind that changes no row. -/
theorem goesUp_rise {rows : Nat} (fits : rows ≤ maxCoordinate) {control : Control}
    (flat : control.descent = 0) (level : control.ascent = 0)
    (inkless : ∀ canvas : Canvas, (canvas.put control).inked = canvas.inked) :
    Drawing.GoesUp rows (rise rows ++ [control]) := by
  cases rows with
  | zero =>
      refine ⟨?_, ?_, inkless⟩
      · change control.descent + 0 = 0
        rw [flat]
      · change control.ascent + 0 = 0
        rw [level]
  | succ rows =>
      refine ⟨?_, ?_, fun canvas => inkless (canvas.put (.up (rows + 1)))⟩
      · change 0 + (control.descent + 0) = 0
        rw [flat]
      · change max 1 (min (rows + 1) maxCoordinate) + (control.ascent + 0) = rows + 1
        omega

theorem drawsRow_of_mem_replicate {rows : Nat} :
    ∀ drawing ∈ List.replicate rows [Control.lineBreak, .eraseRow],
      Drawing.DrawsRow false drawing := by
  intro drawing member
  rw [List.eq_of_mem_replicate member]
  exact drawsRow_blank

/-- A page covers the rows that have been drawn before. -/
theorem repaints_render (oneLine : ∀ candidate ∈ picker.candidates, candidate.IsOneLine)
    {drawn : Nat} (fits : picker.rowsCovered drawn ≤ maxCoordinate) :
    (picker.render drawn).Repaints picker.visible.length (picker.rowsCovered drawn) := by
  rw [render, drawRows, eraseRows, List.append_assoc, List.flatMap_def]
  apply Drawing.repaints_of_rows _ drawsRow_of_mem_replicate
  · rw [List.length_map, List.length_zipIdx]
  · rw [List.length_replicate, rowsCovered]
    omega
  · exact goesUp_rise fits rfl rfl fun _ => rfl
  · rw [List.forall_mem_map]
    rintro ⟨candidate, row⟩ numbered
    have shown : candidate ∈ picker.visible := List.fst_mem_of_mem_zipIdx numbered
    have listed := List.mem_of_mem_drop (List.mem_of_mem_take shown)
    exact drawsRow_drawRow (lineFeed_notMem_label (oneLine candidate listed) _ row)
      (label_ne_empty _ row candidate) _

/-- Clearing covers rows with blank ones. -/
theorem repaints_clear {rows : Nat} (fits : rows ≤ maxCoordinate) :
    (clear rows).Repaints 0 rows := by
  rw [clear, eraseRows, List.append_assoc]
  apply @Drawing.repaints_of_rows [] _ _ _ _ (by simp) drawsRow_of_mem_replicate
  · rfl
  · rw [List.length_replicate, Nat.zero_add]
  · exact goesUp_rise fits rfl rfl fun _ => rfl

theorem cursorShown_clear (canvas : Canvas) (rows : Nat) :
    (canvas.run (clear rows)).cursorShown = true := by
  rw [clear, Canvas.run_append]
  rfl

theorem hideCursor_notMem_clear (rows : Nat) : .hideCursor ∉ clear rows := by
  simp [clear, eraseRows, rise]

theorem leavesCursor_drawRow (label : String) (isHighlighted : Bool) :
    Drawing.LeavesCursor (drawRow label isHighlighted) := by
  cases isHighlighted <;> simp [Drawing.LeavesCursor, drawRow]

theorem leavesCursor_render (drawn : Nat) : (picker.render drawn).LeavesCursor := by
  have rows := leavesCursor_drawRow
  simp only [Drawing.LeavesCursor] at rows ⊢
  simp [render, drawRows, eraseRows, rise, rows]

end Rows

section Pages

/-- The pickers that are drawn after these signals, one for each key. -/
def pages (picker : Picker) : List Signal → List Picker
  | [] => []
  | .key event :: rest =>
      let later := picker.walk (KeyMap.picker.lookup event).toList
      later :: later.pages rest
  | _ :: rest => picker.pages rest

/-- The drawings of pages, each over the rows that are there already. -/
def draws : Nat → List Picker → List Drawing
  | _, [] => []
  | drawn, page :: rest => page.render drawn :: draws (page.rowsCovered drawn) rest

/-- Number of rows that pages cover, when some rows are there already. -/
def rowsAfter (drawn : Nat) (pages : List Picker) : Nat :=
  pages.foldl (fun drawn page => page.rowsCovered drawn) drawn

variable {picker : Picker}

/-- Each page is one that the operator can go to. -/
theorem exists_walk_of_mem_pages {signals : List Signal} {page : Picker}
    (drawn : page ∈ picker.pages signals) : ∃ actions, page = picker.walk actions := by
  induction signals generalizing picker with
  | nil => cases drawn
  | cons signal rest ih =>
      cases signal with
      | key event =>
          obtain rfl | later := List.mem_cons.mp drawn
          · exact ⟨_, rfl⟩
          · obtain ⟨actions, rfl⟩ := ih later
            exact ⟨_, (picker.walk_append _ actions).symm⟩
      | pending | closed | failed message => exact ih drawn

theorem le_rowsAfter (drawn : Nat) (pages : List Picker) : drawn ≤ rowsAfter drawn pages := by
  induction pages generalizing drawn with
  | nil => exact le_rfl
  | cons page rest ih => exact (Nat.le_max_right _ _).trans (ih _)

theorem rowsAfter_mono {first second : List Picker} (early : first <+: second)
    (drawn : Nat) : rowsAfter drawn first ≤ rowsAfter drawn second := by
  obtain ⟨later, rfl⟩ := early
  rw [rowsAfter, rowsAfter, List.foldl_append]
  exact le_rowsAfter _ later

theorem rowsAfter_le {pages : List Picker} {drawn limit : Nat} (few : drawn ≤ limit)
    (short : ∀ page ∈ pages, page.visible.length ≤ limit) : rowsAfter drawn pages ≤ limit := by
  induction pages generalizing drawn with
  | nil => exact few
  | cons page rest ih =>
      rw [List.forall_mem_cons] at short
      exact ih (max_le short.1 few) short.2

/-- No more rows are drawn than a page of the list has. -/
theorem rowsAfter_pages_le (window : picker.InWindow) (signals : List Signal) :
    rowsAfter 0 (picker :: picker.pages signals) ≤ min picker.pageSize picker.size := by
  have short (actions : List Action) :
      (picker.walk actions).visible.length = min picker.pageSize picker.size := by
    rw [(window.walk actions).length_visible, pageSize_walk, size, candidates_walk]
    rfl
  apply rowsAfter_le (Nat.zero_le _)
  rw [List.forall_mem_cons]
  refine ⟨(short []).le, ?_⟩
  intro page drawn
  obtain ⟨actions, rfl⟩ := exists_walk_of_mem_pages drawn
  exact (short actions).le

theorem candidates_of_mem_pages {signals : List Signal} {page : Picker}
    (drawn : page ∈ picker :: picker.pages signals) : page.candidates = picker.candidates := by
  obtain rfl | later := List.mem_cons.mp drawn
  · rfl
  · obtain ⟨actions, rfl⟩ := exists_walk_of_mem_pages later
    exact candidates_walk picker actions

/-- Each page is drawn on rows that are counted in the end. -/
theorem returns_draws {pages : List Picker} {drawn : Nat}
    (oneLine : ∀ page ∈ pages, ∀ candidate ∈ page.candidates, candidate.IsOneLine)
    (fits : rowsAfter drawn pages ≤ maxCoordinate) :
    ∀ drawing ∈ draws drawn pages, ∃ depth ≤ rowsAfter drawn pages, drawing.Returns depth := by
  induction pages generalizing drawn with
  | nil => nofun
  | cons page rest ih =>
      rw [List.forall_mem_cons] at oneLine
      have counted := le_rowsAfter (page.rowsCovered drawn) rest
      rw [draws, List.forall_mem_cons]
      have repaints := repaints_render oneLine.1 (counted.trans fits)
      exact ⟨⟨_, counted, repaints.returns⟩, ih oneLine.2 fits⟩

/-- Of all the rows that pages have been drawn on, only those of the last page are not blank. -/
theorem showsBelow_draws {front : List Picker} {page : Picker} {drawn : Nat}
    (oneLine : ∀ drawn ∈ front ++ [page], ∀ candidate ∈ drawn.candidates, candidate.IsOneLine)
    (fits : rowsAfter drawn (front ++ [page]) ≤ maxCoordinate) (canvas : Canvas) :
    canvas.ShowsBelow page.visible.length (rowsAfter drawn (front ++ [page]))
      (canvas.run (draws drawn (front ++ [page])).flatten) := by
  induction front generalizing drawn canvas with
  | nil =>
      rw [List.nil_append, List.forall_mem_singleton] at oneLine
      rw [List.nil_append, draws, draws, List.flatten_singleton]
      exact (repaints_render oneLine fits).showsBelow canvas
  | cons first front ih =>
      rw [List.cons_append, List.forall_mem_cons] at oneLine
      have counted := le_rowsAfter (first.rowsCovered drawn) (front ++ [page])
      have upper := (repaints_render oneLine.1 (counted.trans fits)).showsBelow canvas
      rw [List.cons_append, draws, List.flatten_cons, Canvas.run_append]
      exact upper.overdraw (ih oneLine.2 fits _) counted

theorem leavesCursor_draws (drawn : Nat) (pages : List Picker) :
    ∀ drawing ∈ draws drawn pages, drawing.LeavesCursor := by
  induction pages generalizing drawn with
  | nil => nofun
  | cons page rest ih =>
      rw [draws, List.forall_mem_cons]
      exact ⟨leavesCursor_render drawn, ih _⟩

end Pages

end Picker

namespace Picking

theorem rows_heedAll (picking : Picking) (signals : List Signal) :
    (picking.heedAll signals).rows =
      Picker.rowsAfter picking.rows (picking.picker.pages signals) := by
  induction signals generalizing picking with
  | nil => rfl
  | cons signal rest ih =>
      cases signal with
      | key event => exact ih (picking.heed (.key event))
      | pending | closed | failed message => exact ih picking

theorem screen_heedAll (picking : Picking) (signals : List Signal) :
    (picking.heedAll signals).display.screen =
      picking.display.screen ++
        (Picker.draws picking.rows (picking.picker.pages signals)).flatten := by
  induction signals generalizing picking with
  | nil => exact (List.append_nil _).symm
  | cons signal rest ih =>
      cases signal with
      | key event => exact (ih (picking.heed (.key event))).trans (List.append_assoc ..)
      | pending | closed | failed message => exact ih picking

end Picking

namespace Picker

/-- What a pick writes: the cursor is hidden, the pages are drawn, and then their rows are cleared
and the cursor is shown again. -/
theorem screen_pick {picker : Picker} (window : picker.InWindow)
    (nonempty : picker.candidates ≠ []) (console : Console) :
    let pages := picker :: picker.pages (Signal.idle picker.escaping console.signals)
    (picker.pick console).2.2.display.screen =
      console.display.screen ++
        ([.hideCursor] ++ (draws 0 pages).flatten ++ clear (rowsAfter 0 pages)) := by
  let picking := (Picking.start picker (console.display.enter .picker).2).state
  let idle := Signal.idle picker.escaping console.signals
  obtain ⟨candidate, -, converse_eq⟩ :=
    @Picking.exists_converse_eq picking rfl window nonempty console.signals
  rw [pick_eq_of_nonempty nonempty]
  dsimp only
  rw [converse_eq]
  have started : picking.display.screen =
      console.display.screen ++ [.hideCursor] ++ picker.render 0 := rfl
  change (picking.heedAll idle).display.screen ++ clear (picking.heedAll idle).rows = _
  rw [Picking.screen_heedAll, Picking.rows_heedAll, started, draws, List.flatten_cons]
  simp only [List.append_assoc]
  rfl

/-- Whatever ends it, a pick cleans up the screen.  It draws pages and clears their rows in the end,
and each time the cursor goes down as far as it goes up again.  Until then it is hidden, and of the
rows that have been drawn on only those of the last page have something on them. -/
theorem pick_cleans_up {candidates : List Candidate} (nonempty : candidates ≠ [])
    (oneLine : ∀ candidate ∈ candidates, candidate.IsOneLine) {pageSize : Nat}
    (fits : min (max pageSize 1) candidates.length ≤ maxCoordinate) (escaping : Bool)
    (console : Console) :
    let picker := ofCandidates candidates pageSize escaping
    let pages := picker :: picker.pages (Signal.idle escaping console.signals)
    let drawings := draws 0 pages
    let rows := rowsAfter 0 pages
    let written := [.hideCursor] ++ drawings.flatten ++ clear rows
    (picker.pick console).2.2.display.screen = console.display.screen ++ written ∧
    (∀ drawing ∈ drawings ++ [clear rows], ∃ depth ≤ rows, drawing.Returns depth) ∧
    .hideCursor ∉ drawings.flatten ++ clear rows ∧ .showCursor ∉ drawings.flatten ∧
    ∀ canvas : Canvas,
      (∀ front page, front ++ [page] <+: pages →
        let covered := rowsAfter 0 (front ++ [page])
        let during := canvas.run ([.hideCursor] ++ (draws 0 (front ++ [page])).flatten)
        covered ≤ rows ∧ canvas.ShowsBelow page.visible.length covered during ∧
          during.cursorShown = false) ∧
      let last := canvas.run written
      canvas.ShowsBelow 0 rows last ∧ last.cursorShown = true := by
  intro picker pages drawings rows written
  have window : picker.InWindow := inWindow_ofCandidates candidates pageSize escaping
  have fewRows : rows ≤ maxCoordinate := (rowsAfter_pages_le window _).trans fits
  have listed : ∀ page ∈ pages, ∀ candidate ∈ page.candidates, candidate.IsOneLine := by
    intro page drawn
    rw [candidates_of_mem_pages drawn]
    exact oneLine
  have leave (pages : List Picker) := Drawing.leavesCursor_flatten (leavesCursor_draws 0 pages)
  have clearing := repaints_clear fewRows
  refine ⟨screen_pick window nonempty console, ?_, ?_, (leave pages).2, ?_⟩
  · rw [List.forall_mem_append, List.forall_mem_singleton]
    exact ⟨returns_draws listed fewRows, rows, le_rfl, clearing.returns⟩
  · rw [List.mem_append, not_or]
    exact ⟨(leave pages).1, hideCursor_notMem_clear rows⟩
  intro canvas
  have shows (front page) (early : front ++ [page] <+: pages) :
      canvas.ShowsBelow page.visible.length (rowsAfter 0 (front ++ [page]))
        (canvas.run ([.hideCursor] ++ (draws 0 (front ++ [page])).flatten)) := by
    have counted := rowsAfter_mono early 0
    have drawn := showsBelow_draws (fun drawn member => listed drawn (early.subset member))
      (counted.trans fewRows) (canvas.put .hideCursor)
    exact (Canvas.showsBelow_hideCursor canvas).overdraw drawn (Nat.zero_le _)
  constructor
  · intro front page early
    exact ⟨rowsAfter_mono early 0, shows front page early, Canvas.cursorShown_run (leave _)⟩
  · intro last
    obtain ⟨front, page, pages_eq⟩ : ∃ front page, pages = front ++ [page] :=
      ⟨_, _, (List.dropLast_concat_getLast (List.cons_ne_nil _ _)).symm⟩
    have last_eq : last = (canvas.run ([.hideCursor] ++ drawings.flatten)).run (clear rows) :=
      canvas.run_append ..
    have shown : canvas.ShowsBelow page.visible.length rows
        (canvas.run ([.hideCursor] ++ drawings.flatten)) := by
      simpa only [← pages_eq] using shows front page (pages_eq ▸ List.prefix_rfl)
    rw [last_eq]
    exact ⟨shown.overdraw (clearing.showsBelow _) le_rfl, cursorShown_clear _ rows⟩

/-- Sites that do not fit on a page of two rows. -/
def sites : List Candidate :=
  [⟨"north", some "behind the hill"⟩, ⟨"south", none⟩, ⟨"west", none⟩]

/-- A terminal with a line that is being edited, and something on two of the rows below it. -/
def occupied : Canvas where
  row := 0
  atStart := false
  inked row := row == 0 || row == 1 || row == 3
  cursorShown := true

/-- A page has two rows, which have something on them while it is shown.  When Escape has closed the
picker on its last page, they are blank and the row below them is as it was. -/
theorem escape_clears_sites :
    sites ≠ [] ∧ (∀ candidate ∈ sites, candidate.IsOneLine) ∧
      min (max 2 1) sites.length ≤ maxCoordinate ∧
      let picker := ofCandidates sites 2 true
      let picked :=
        picker.pick (.ofKeys [.plain .pageDown, .plain .endKey, .plain .escape] : Console)
      picked.1 = .ok .cancelled ∧ picked.2.1.offset = 1 ∧
        let first := occupied.run ([.hideCursor] ++ picker.render 0)
        let last := occupied.run picked.2.2.display.screen
        first.row = 0 ∧ first.cursorShown = false ∧
          [0, 1, 2, 3].map first.inked = [true, true, true, true] ∧
          last.row = 0 ∧ last.cursorShown = true ∧
          [0, 1, 2, 3].map last.inked = [true, false, false, true] := by
  have nonempty : sites ≠ [] := by decide
  have oneLine : ∀ candidate ∈ sites, candidate.IsOneLine := by decide
  have fits : min (max 2 1) sites.length ≤ maxCoordinate := by decide
  refine ⟨nonempty, oneLine, fits, ?_⟩
  intro picker picked
  obtain ⟨screen_eq, -, -, -, cleans⟩ := pick_cleans_up nonempty oneLine fits true
    (.ofKeys [.plain .pageDown, .plain .endKey, .plain .escape])
  obtain ⟨during, cleared, cursorShown⟩ := cleans occupied
  obtain ⟨-, shows, cursorHidden⟩ := during [] picker (List.prefix_append [picker] _)
  refine ⟨rfl, rfl, ?_⟩
  intro first last
  have first_eq : first = occupied.run ([.hideCursor] ++ (draws 0 [picker]).flatten) := by
    rw [draws, draws, List.flatten_singleton]
  have last_eq : last = occupied.run _ := congrArg occupied.run screen_eq
  rw [first_eq, last_eq]
  refine ⟨shows.row_eq, cursorHidden, ?_, cleared.row_eq, cursorShown, ?_⟩
  · exact (List.map_congr_left fun row _ => shows.inked_eq row).trans rfl
  · exact (List.map_congr_left fun row _ => cleared.inked_eq row).trans rfl

end Picker

end OperatorShell

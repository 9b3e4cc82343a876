import Hypeterm.Term.Flattening
import Hypeterm.Term.Pairs
import Hypeterm.Term.Trace
import Hypeterm.Library.Runs

/-! Wide characters stay paired when the terminal is resized at places that cut none of them,
and in every run that cuts none. -/
namespace Hypeterm.Term
open Library Checked List

/-- Some wide character of the row would be cut: where the row ends in its logical line, which
it continues from `base` on, or at a margin of the new width. -/
def Line.isCut (width base used : Nat) (line : Line) : Bool :=
  line.continuesAt used ||
    (range (min used line.size)).any fun column =>
      (base + column) % width == 0 && line.continuesAt column

def rewrapsWhole (width : Nat) : Nat → List (Line × Nat) → Bool
  | _, [] => true
  | base, (line, used) :: rest =>
      !line.isCut width base used && rewrapsWhole width (line.nextBase used base) rest

variable {width : Nat} {flattening : Flattening} {source : LogicalLine}

theorem rewrapsWhole_append {base : Nat} {rows later : List (Line × Nat)}
    (all : rewrapsWhole width base (rows ++ later) = true) : rewrapsWhole width base rows = true := by
  induction rows generalizing base with
  | nil => rfl
  | cons row rest ih =>
    obtain ⟨hrow, hrest⟩ := (Bool.and_eq_true _ _).mp all
    exact (Bool.and_eq_true _ _).mpr ⟨hrow, ih hrest⟩

/-- No wide character of the logical line is cut at a margin. -/
structure LogicalLine.Clean (width : Nat) (source : LogicalLine) : Prop where
  whole : Tiled shapeTiles (source.cells.map Cell.shape)
  margins : ∀ index, index % width = 0 → (source.cells.map Cell.shape)[index]? ≠ some .tail

def Flattening.Clean (width : Nat) (flattening : Flattening) : Prop :=
  ∀ source ∈ flattening.logical, source.Clean width

theorem LogicalLine.clean_empty (width : Nat) : LogicalLine.Clean width {} :=
  ⟨.nil, fun index _ => by simp⟩

theorem Flattening.Clean.target
    (clean : flattening.Clean width) : flattening.target.Clean width := by
  unfold Flattening.target
  split
  · have hlast : flattening.logical.getLastD {} ∈ {} :: flattening.logical := getLastD_mem_cons
    rcases mem_cons.mp hlast with hempty | hmem
    · rw [hempty]
      exact LogicalLine.clean_empty width
    · exact clean _ hmem
  · exact LogicalLine.clean_empty width

theorem Flattening.Clean.appendLine
    (clean : flattening.Clean width) {line : Line} (whole : line.Whole) {used : Nat}
    (uncut : line.isCut width flattening.base used = false) :
    (flattening.appendLine line used).Clean width := by
  have htarget := clean.target
  rw [Line.isCut, Bool.or_eq_false_iff, any_eq_false] at uncut
  obtain ⟨hend, hmargins⟩ := uncut
  intro source hsource
  rw [flattening.logical_appendLine] at hsource
  rcases mem_append.mp hsource with hbefore | hnew
  · exact clean source (flattening.mem_before hbefore)
  · rw [mem_singleton.mp hnew]
    have htaken : (flattening.target.cells ++ line.cells.take used).map Cell.shape =
        flattening.target.cells.map Cell.shape ++ line.shapes.take used := by
      rw [map_append, map_take]
      rfl
    refine ⟨?_, fun index hindex => ?_⟩
    · rw [htaken]
      exact htarget.whole.append (whole.cut (Line.shape_of_not_continuesAt hend)).1
    · intro htail
      rw [htaken, getElem?_append, length_map, flattening.length_target] at htail
      split at htail
      · exact htarget.margins index hindex htail
      · rename_i hafter
        rw [getElem?_take] at htail
        split at htail
        · rename_i hused
          have hinside := (List.getElem?_eq_some_iff.mp htail).1
          rw [Line.length_shapes] at hinside
          refine hmargins (index - flattening.base) (mem_range.mpr (by omega)) ?_
          rw [Bool.and_eq_true, beq_iff_eq, Nat.add_sub_of_le (by omega)]
          exact ⟨hindex, Line.continuesAt_of_tail htail⟩
        · cases htail

theorem Flattening.clean_foldl {rows : List (Line × Nat)}
    (clean : flattening.Clean width) (whole : ∀ row ∈ rows, row.1.Whole)
    (uncut : rewrapsWhole width flattening.base rows = true) :
    (rows.foldl (fun flattening row => flattening.appendLine row.1 row.2) flattening).Clean width := by
  induction rows generalizing flattening with
  | nil => exact clean
  | cons row rest ih =>
    obtain ⟨hrow, hrest⟩ := (Bool.and_eq_true _ _).mp uncut
    refine ih (clean.appendLine (whole row mem_cons_self) ?_) ?_ ?_
    · rwa [Bool.not_eq_true'] at hrow
    · exact fun other hother => whole other (mem_cons_of_mem _ hother)
    · rwa [Flattening.base_appendLine]

theorem Line.shapes_addMarks (marks : List Nat) (line : Line) (column : Nat) :
    (marks.foldl (fun (line : Line) mark => line.addMark column mark) line).shapes =
      line.shapes := by
  induction marks generalizing line with
  | nil => rfl
  | cons mark rest ih => rw [foldl_cons, ih, shapes_addMark]

theorem LogicalLine.shapes_chunk (source : LogicalLine) (width position : Nat) :
    (source.chunk width position).shapes =
      ((source.cells.map Cell.shape).drop position).take (min width (source.cells.length - position)) ++
        List.replicate (width - min width (source.cells.length - position)) .narrow := by
  have hmarked (marks : Marks) (line : Line) : (marks.foldl (fun (line : Line) entry =>
      if position ≤ entry.1 ∧ entry.1 < position + min width (source.cells.length - position) then
        entry.2.foldl (fun (line : Line) mark => line.addMark (entry.1 - position) mark) line
      else line) line).shapes = line.shapes := by
    induction marks generalizing line with
    | nil => rfl
    | cons entry rest ih =>
      rw [foldl_cons, ih]
      split
      · exact Line.shapes_addMarks _ _ _
      · rfl
  unfold chunk
  refine (hmarked _ _).trans ?_
  rw [Line.shapes, map_append, map_take, map_drop, map_replicate]
  rfl

theorem LogicalLine.Clean.cut (clean : source.Clean width)
    {index : Nat} (margin : index % width = 0) :
    Tiled shapeTiles ((source.cells.map Cell.shape).take index) ∧
      Tiled shapeTiles ((source.cells.map Cell.shape).drop index) := by
  refine Tiled.cut clean.whole ?_
  rintro shape hshape rfl
  exact clean.margins index margin hshape

theorem LogicalLine.Clean.chunk (clean : source.Clean width)
    {position : Nat} (margin : position % width = 0) : (source.chunk width position).Whole := by
  unfold Line.Whole
  rw [source.shapes_chunk]
  refine Tiled.append ?_ (Line.tiled_narrow _)
  rcases Nat.le_total width (source.cells.length - position) with hfull | hlast
  · rw [Nat.min_eq_left hfull]
    refine (Tiled.cut (clean.cut margin).2 ?_).1
    rintro shape hshape rfl
    rw [getElem?_drop] at hshape
    exact clean.margins (position + width) (by rw [Nat.add_mod_right, margin]) hshape
  · rw [Nat.min_eq_right hlast, take_of_length_le]
    · exact (clean.cut margin).2
    · rw [length_drop, length_map]

theorem Rewrapping.lines_place (rewrapping : Rewrapping) (cursor : Option Nat)
    (width position : Nat) (more : Bool) :
    (rewrapping.place cursor width position more).value.lines = rewrapping.lines := by
  cases cursor with
  | none => rfl
  | some offset =>
    unfold place
    rw [value_ite]
    split <;> rfl

theorem LogicalLine.Clean.rewrap (clean : source.Clean width)
    (bound : Nat) (cursor : Option Nat) (rounds : Nat) {position : Nat}
    (margin : position % width = 0) (produced : Nat) {rewrapping : Rewrapping}
    (whole : Screen.AllWhole rewrapping.lines) : Screen.AllWhole
      (source.rewrap width bound cursor rounds position produced rewrapping).value.lines := by
  induction rounds generalizing position produced rewrapping with
  | zero => exact whole
  | succ rounds ih =>
    have hnext : Screen.AllWhole ((rewrapping.place cursor width position
        (source.chunk width position).wrapped).value.lines ++ [source.chunk width position]) := by
      rw [Rewrapping.lines_place]
      intro line hline
      rcases mem_append.mp hline with hold | hnew
      · exact whole line hold
      · rw [mem_singleton.mp hnew]
        exact clean.chunk margin
    unfold LogicalLine.rewrap
    rw [value_bind, value_ite, value_ite]
    split
    · exact hnext
    split
    · rename_i hmore
      rw [source.wrapped_chunk, decide_eq_true_iff] at hmore
      refine ih ?_ _ hnext
      rw [Nat.min_eq_left (by omega), Nat.add_mod_right, margin]
    · exact hnext

theorem whole_rewrapAll (bound cursorLogical cursorOffset : Nat)
    {logical : List LogicalLine} (clean : ∀ source ∈ logical, source.Clean width) (index : Nat)
    {rewrapping : Rewrapping} (whole : Screen.AllWhole rewrapping.lines) : Screen.AllWhole
      (rewrapAll width bound cursorLogical cursorOffset logical index rewrapping).value.lines := by
  induction logical generalizing index rewrapping with
  | nil => exact whole
  | cons source rest ih =>
    refine ih (fun other hother => clean other (mem_cons_of_mem _ hother)) _ ?_
    exact (clean source mem_cons_self).rewrap bound _ _ (Nat.zero_mod _) _ whole

namespace Screen

variable {screen : Screen}

theorem AllWhole.append {first second : List Line} (left : AllWhole first)
    (right : AllWhole second) : AllWhole (first ++ second) := fun line hline =>
  (mem_append.mp hline).elim (left line) (right line)

theorem AllWhole.fresh (count width : Nat) {blank : Cell} (narrow : blank.shape = .narrow) :
    AllWhole (List.replicate count (Line.new width blank)) := by
  intro line hline
  rw [eq_of_mem_replicate hline]
  exact Line.whole_new width narrow

theorem AllWhole.resize {lines : List Line} (whole : AllWhole lines) (width : Nat) {blank : Cell}
    (narrow : blank.shape = .narrow) : AllWhole (lines.map fun line => line.resize width blank) := by
  intro line hline
  obtain ⟨old, hold, rfl⟩ := mem_map.mp hline
  exact (whole old hold).resize width narrow

theorem Pairs.dropTop (count : Nat) {screen : Screen} (pairs : screen.Pairs) :
    (screen.dropTop count).value.Pairs := by
  induction count generalizing screen with
  | zero => exact pairs
  | succ count ih =>
    have hpushed := pairs.pushLine (pairs.line 0)
    have hrest : AllWhole (screen.lines.drop 1) := fun line hline =>
      pairs.lines line (mem_of_mem_drop hline)
    unfold Screen.dropTop
    rw [value_bind, value_bind]
    refine ih ?_
    split
    · exact ⟨hrest, hpushed.sink⟩
    · exact ⟨hrest, hpushed.sink⟩

section

variable (pairs : screen.Pairs)
include pairs

theorem Pairs.shrinkRows (rows : Int) : (screen.shrinkRows rows).value.Pairs :=
  Pairs.dropTop _ ⟨fun line hline => pairs.lines line (mem_of_mem_take hline), pairs.sink⟩

theorem Pairs.growRows (rows : Int) : (screen.growRows rows).value.Pairs :=
  ⟨pairs.lines.append (.fresh _ _ rfl), pairs.sink⟩

theorem Pairs.setGeometry (columns rows : Int) :
    (screen.setGeometry columns rows).value.Pairs := ⟨pairs.lines, pairs.sink⟩

theorem Pairs.resize (columns rows : Int) : (screen.resize columns rows).value.Pairs := by
  unfold Screen.resize
  generalize (if columns < 1 then 1 else columns) = columns
  generalize (if rows < 1 then 1 else rows) = rows
  rw [value_ite]
  split
  · exact pairs
  rw [value_bind]
  have hresized : Screen.Pairs (if columns ≠ screen.columns then
      { screen with
        lines := screen.lines.map fun line => line.resize (size columns).value (blankCell {})
        columns }
      else screen) := by
    split
    · exact ⟨pairs.lines.resize _ rfl, pairs.sink⟩
    · exact pairs
  generalize (if columns ≠ screen.columns then _ else screen) = resized at *
  have hrows : (if rows < resized.rows then resized.shrinkRows rows
      else if resized.rows < rows then resized.growRows rows else pure resized).value.Pairs := by
    rw [value_ite, value_ite]
    split
    · exact hresized.shrinkRows rows
    split
    · exact hresized.growRows rows
    · exact hresized
  exact ⟨hrows.lines, hrows.sink⟩

theorem Pairs.replaceLines {lines : List Line} (whole : AllWhole lines)
    (cursorRow cursorColumn : Int) :
    (screen.replaceLines lines cursorRow cursorColumn).value.Pairs := by
  have hlines : AllWhole
      (if lines.length < 1 then [Line.new screen.columns.toNat (blankCell {})] else lines) := by
    split
    · exact AllWhole.fresh 1 _ rfl
    · exact whole
  exact ⟨hlines, pairs.sink⟩

theorem Pairs.restoreRows {sink : Scrollback} (whole : AllWhole sink.lines)
    (columns rows : Int) : (screen.restoreRows sink columns rows).value.Pairs := by
  unfold Screen.restoreRows
  rw [value_bind, value_bind]
  generalize (size (int (rows - screen.rows)).value).value = count
  have hrest : Pairs { screen with sink := some (sink.takeNewest count).2 } := by
    refine ⟨pairs.lines, ?_⟩
    rintro _ ⟨⟩
    exact fun line hline => whole line (mem_of_mem_take hline)
  have hrestored : AllWhole (sink.takeNewest count).1 := fun line hline =>
    whole line (mem_of_mem_drop hline)
  generalize sink.takeNewest count = taken at *
  obtain ⟨restored, rest⟩ := taken
  dsimp only at *
  rw [value_ite]
  split
  · exact hrest.resize columns rows
  · rw [value_bind, value_bind, value_bind, value_bind]
    refine Pairs.replaceLines (Pairs.setGeometry hrest _ _) ?_ _ _
    exact ((hrestored.resize _ rfl).append pairs.lines).append (.fresh _ _ rfl)

end

/-- The rows that rewrapping to a width starts from. -/
def reflowsWhole (screen : Screen) (columns : Int) : Bool :=
  match screen.sink with
  | none => true
  | some sink =>
      columns == screen.columns ||
        rewrapsWhole columns.toNat 0 (screen.rowsDownTo sink.lines screen.lines.length)

theorem rowsDownTo_split {scrollback : List Line} {count : Nat}
    (inside : count ≤ screen.lines.length) : screen.rowsDownTo scrollback screen.lines.length =
      screen.rowsDownTo scrollback count ++ (screen.usedRows.take screen.lines.length).drop count := by
  rw [rowsDownTo, rowsDownTo, append_assoc, ← Nat.min_eq_left inside, ← take_take,
    Nat.min_eq_left inside, take_append_drop]

theorem Pairs.whole_rowsDownTo (pairs : screen.Pairs) {sink : Scrollback} (whole : AllWhole sink.lines)
    (count : Nat) : ∀ row ∈ screen.rowsDownTo sink.lines count, row.1.Whole := by
  intro row hrow
  rcases mem_append.mp hrow with hsaved | hshown
  · obtain ⟨line, hline, rfl⟩ := mem_map.mp hsaved
    exact whole line hline
  · obtain ⟨index, hindex, rfl⟩ := mem_mapIdx.mp (mem_of_mem_take hshown)
    exact pairs.lines _ (getElem_mem hindex)

theorem Pairs.rewrapRows {oldColumns oldRows : Int} (fits : screen.Fits oldColumns oldRows)
    (pairs : screen.Pairs) {sink : Scrollback} (whole : AllWhole sink.lines) {columns : Int}
    (uncut : rewrapsWhole columns.toNat 0 (screen.rowsDownTo sink.lines screen.lines.length) = true)
    (rows : Int) : (screen.rewrapRows sink columns rows).value.Pairs := by
  obtain ⟨count, hmeaningful, hfollows⟩ := flatten_follows fits sink.lines
  rw [rowsDownTo_split hmeaningful.inside] at uncut
  have hjoined : (Flattening.join (screen.rowsDownTo sink.lines count)).Clean columns.toNat :=
    Flattening.clean_foldl (fun source hsource => absurd hsource not_mem_nil)
      (pairs.whole_rowsDownTo whole count) (rewrapsWhole_append uncut)
  have hclean : ∀ source ∈ (flatten sink.lines screen).value.logical,
      source.Clean columns.toNat := by
    rw [hfollows.logical]
    exact hjoined
  have hwrapped : AllWhole (screen.rewrapped sink columns).lines :=
    whole_rewrapAll _ _ _ hclean 0 fun _ hline => absurd hline not_mem_nil
  rw [screen.value_rewrapRows]
  have hresized : (screen.resized sink columns rows).Pairs := by
    refine ⟨pairs.lines, fun other hother => ?_⟩
    obtain rfl := Option.some.inj hother
    exact whole_trim fun line hline => hwrapped line (mem_of_mem_take hline)
  refine hresized.replaceLines (AllWhole.append (fun line hline => ?_) (.fresh _ _ rfl)) _ _
  exact hwrapped line (mem_of_mem_drop hline)

theorem Pairs.reflowResize {oldColumns oldRows : Int} (fits : screen.Fits oldColumns oldRows)
    (pairs : screen.Pairs) {columns : Int} (keeps : screen.reflowsWhole columns = true)
    (rows : Int) : (screen.reflowResize columns rows).value.Pairs := by
  unfold reflowsWhole at keeps
  unfold Screen.reflowResize
  cases hsink : screen.sink with
  | none => exact pairs.resize columns rows
  | some sink =>
    have hwhole := pairs.sink sink hsink
    rw [hsink] at keeps
    rw [value_ite, value_ite]
    rw [Bool.or_eq_true, beq_iff_eq] at keeps
    split
    · split
      · exact pairs.restoreRows hwhole columns rows
      · exact pairs.resize columns rows
    · rename_i hcolumns
      exact pairs.rewrapRows fits hwhole (keeps.resolve_left hcolumns) rows

end Screen

namespace Emulator

variable {emulator : Emulator}

structure Pairs (emulator : Emulator) : Prop where
  primary : emulator.primary.Pairs
  alt : emulator.alt.Pairs

/-- Whether an action cuts no wide character in two. -/
def keepsPairs (emulator : Emulator) : Action → Bool
  | .screen operation => operation.keepsPairs emulator.active
  | _ => true

theorem Pairs.active (pairs : emulator.Pairs) : emulator.active.Pairs := by
  unfold Emulator.active
  split
  · exact pairs.alt
  · exact pairs.primary

theorem Pairs.enterAltScreen (pairs : emulator.Pairs) (saveCursor clear : Bool) :
    (emulator.enterAltScreen saveCursor clear).value.Pairs := by
  unfold Emulator.enterAltScreen
  rw [value_ite]
  split
  · exact pairs
  have hprimary : Screen.Pairs
      (if saveCursor then emulator.primary.saveCursor else emulator.primary) := by
    split
    · exact ⟨pairs.primary.lines, pairs.primary.sink⟩
    · exact pairs.primary
  have halt (pen : Pen) : Screen.Pairs { emulator.alt with pen } := ⟨pairs.alt.lines, pairs.alt.sink⟩
  refine ⟨hprimary, Screen.Pairs.setScrollRegion ?_ _ _⟩
  rw [value_ite]
  split
  · exact (halt _).clearAll
  · exact halt _

theorem Pairs.leaveAltScreen (pairs : emulator.Pairs) (restoreCursor clear : Bool) :
    (emulator.leaveAltScreen restoreCursor clear).value.Pairs := by
  unfold Emulator.leaveAltScreen
  rw [value_ite]
  split
  · have halt : (if clear then emulator.alt.clearAll else pure emulator.alt).value.Pairs := by
      split
      · exact pairs.alt.clearAll
      · exact pairs.alt
    have hprimary : (if restoreCursor then emulator.primary.restoreCursor
        else pure emulator.primary).value.Pairs := by
      split
      · exact pairs.primary.restoreCursor
      · exact pairs.primary
    exact ⟨hprimary, halt⟩
  · exact pairs

theorem Pairs.reset (pairs : emulator.Pairs) : emulator.reset.value.Pairs :=
  ⟨Screen.Pairs.reset pairs.primary.clearScrollback, Screen.Pairs.reset pairs.alt⟩

variable {columns rows : Int}

theorem Pairs.perform (size : GridSize columns rows)
    (fits : emulator.Fits columns rows) (pairs : emulator.Pairs) {action : Action}
    (bounded : action.Bounded) (keeps : emulator.keepsPairs action = true) :
    (emulator.perform action).value.Pairs := by
  cases action with
  | screen operation =>
    have hperformed := Operation.perform_pairs size fits.active bounded pairs.active keeps
    unfold Emulator.active at hperformed
    unfold Emulator.perform Emulator.onActive
    rw [value_ite]
    split
    · rename_i hshown
      rw [if_pos hshown] at hperformed
      exact ⟨pairs.primary, hperformed⟩
    · rename_i hshown
      rw [if_neg hshown] at hperformed
      exact ⟨hperformed, pairs.alt⟩
  | change change => exact ⟨pairs.primary, pairs.alt⟩
  | enterAltScreen saveCursor clear => exact pairs.enterAltScreen saveCursor clear
  | leaveAltScreen restoreCursor clear => exact pairs.leaveAltScreen restoreCursor clear
  | savePrimaryCursor => exact ⟨⟨pairs.primary.lines, pairs.primary.sink⟩, pairs.alt⟩
  | restorePrimaryCursor =>
    have hprimary : Screen.Pairs { emulator.primary with saved := emulator.altSavedCursor } :=
      ⟨pairs.primary.lines, pairs.primary.sink⟩
    exact ⟨hprimary.restoreCursor, pairs.alt⟩
  | respond text => exact ⟨pairs.primary, pairs.alt⟩
  | reset => exact pairs.reset

/-- Whether no step of the trace cuts a wide character in two. -/
def Trace.keepsPairs (trace : Trace) : Bool := trace.all fun step => step.1.keepsPairs step.2

theorem Performs.pairs (size : GridSize columns rows) {final : Emulator}
    {steps : Trace} (performs : Performs columns rows emulator steps final)
    (keeps : steps.keepsPairs = true) (pairs : emulator.Pairs) : final.Pairs := by
  induction performs with
  | done _ => exact pairs
  | parse parser _ ih => exact ih keeps ⟨pairs.primary, pairs.alt⟩
  | step fits bounded _ ih =>
    obtain ⟨hfirst, hrest⟩ := (Bool.and_eq_true _ _).mp keeps
    exact ih hrest (pairs.perform size fits bounded hfirst)

theorem Pairs.feed (size : GridSize columns rows)
    (fits : emulator.Fits columns rows) (pairs : emulator.Pairs) {bytes : Bytes}
    (keeps : (emulator.trace bytes).keepsPairs = true) : (feed bytes emulator).value.Pairs :=
  (performs_trace size bytes fits).pairs size keeps pairs

theorem Pairs.resize (fits : emulator.Fits columns rows)
    (pairs : emulator.Pairs) {newColumns newRows : Int} (size : GridSize newColumns newRows)
    (keeps : emulator.primary.reflowsWhole newColumns = true) :
    (emulator.resize newColumns newRows).value.Pairs := by
  have hwide := size.wide
  have htall := size.tall
  unfold Emulator.resize
  rw [if_neg (by omega : ¬newColumns < 1), if_neg (by omega : ¬newRows < 1), value_ite]
  split
  · exact pairs
  · exact ⟨pairs.primary.reflowResize fits.primary keeps newRows, pairs.alt.resize _ _⟩

/-- Whether an input cuts no wide character in two. -/
def inputKeepsPairs (emulator : Emulator) : Input → Bool
  | .feed bytes => (emulator.trace bytes).keepsPairs
  | .resize columns _ => emulator.primary.reflowsWhole columns
  | .reset => true

/-- Whether no input of a run does, each judged in the state it is accepted in. -/
def runKeepsPairs : List Input → Emulator → Bool
  | [], _ => true
  | input :: rest, emulator =>
      emulator.inputKeepsPairs input && runKeepsPairs rest (emulator.accept input).value

theorem Pairs.acceptAll {inputs : List Input} (sized : ∀ input ∈ inputs, input.Sized)
    (size : GridSize columns rows) {emulator : Emulator}
    (fits : emulator.Fits columns rows) (keeps : runKeepsPairs inputs emulator = true)
    (pairs : emulator.Pairs) : (acceptAll inputs emulator).value.Pairs := by
  induction inputs generalizing columns rows emulator with
  | nil => exact pairs
  | cons input rest ih =>
    have hrest : ∀ other ∈ rest, other.Sized := fun other hother =>
      sized other (mem_cons_of_mem _ hother)
    have hinput := sized input mem_cons_self
    obtain ⟨hfirst, hothers⟩ := (Bool.and_eq_true _ _).mp keeps
    cases input with
    | feed bytes =>
      exact ih hrest size (fits.feed size bytes).2 hothers (pairs.feed size fits hfirst)
    | resize newColumns newRows =>
      exact ih hrest hinput (fits.resize size hinput).2 hothers (pairs.resize fits hinput hfirst)
    | reset => exact ih hrest size (fits.reset size).2 hothers pairs.reset

/-- Every row that the terminal keeps has its wide characters whole. -/
def Paired (emulator : Emulator) : Prop :=
  (∀ line ∈ emulator.primary.lines, line.Paired) ∧ (∀ line ∈ emulator.alt.lines, line.Paired) ∧
    ∀ line ∈ emulator.scrollback, line.Paired

theorem Pairs.paired (pairs : emulator.Pairs) : emulator.Paired := by
  refine ⟨fun line hline => (pairs.primary.lines line hline).paired,
    fun line hline => (pairs.alt.lines line hline).paired, fun line hline => ?_⟩
  unfold scrollback at hline
  cases hsink : emulator.primary.sink with
  | none =>
    rw [hsink] at hline
    exact absurd hline not_mem_nil
  | some sink =>
    rw [hsink] at hline
    exact (pairs.primary.sink sink hsink line hline).paired

theorem pairs_new (config : EmulatorConfig) : (Emulator.new config).value.Pairs := by
  refine ⟨⟨.fresh _ _ rfl, ?_⟩, ⟨.fresh _ _ rfl, ?_⟩⟩
  · intro sink hsink
    obtain rfl := Option.some.inj hsink
    exact fun _ hline => absurd hline not_mem_nil
  · intro sink hsink
    cases hsink

end Emulator

/-- In every run that cuts no wide character, wide characters stay paired. -/
theorem wide_paired (config : EmulatorConfig) (size : GridSize config.columns config.rows)
    (limits : config.scrollback.Sound) (inputs : List Input)
    (sized : ∀ input ∈ inputs, input.Sized)
    (keeps : Emulator.runKeepsPairs inputs (Emulator.new config).value = true) :
    (do
      let emulator ← Emulator.new config
      Emulator.acceptAll inputs emulator).value.Paired := by
  have hfits := (Emulator.holds_new size limits).2
  exact ((Emulator.pairs_new config).acceptAll sized size hfits keeps).paired

/-- A narrow and a wide character, and a new width that just holds both. -/
theorem wide_paired_in_sampleInputs :
    (do
      let emulator ← Emulator.new { columns := 6, rows := 2, scrollback := sampleLimits }
      Emulator.acceptAll sampleInputs emulator).value.Paired := by
  refine wide_paired _ ⟨by decide, by decide⟩ sound_sampleLimits sampleInputs ?_ (by decide +kernel)
  simp only [sampleInputs, mem_cons, not_mem_nil, or_false, forall_eq_or_imp, forall_eq,
    Input.Sized, true_and, and_true]
  exact ⟨by decide, by decide⟩

/-- `ESC [ K` on the second half of a wide character leaves the first half alone. -/
theorem eraseInLine_unpaired :
    let emulator := sampleEmulator
      [0xE4, 0xB8, 0x80, 0x1B, 0x5B, 0x32, 0x47, 0x1B, 0x5B, 0x4B]
    emulator.Reachable ∧ ¬emulator.Paired := by
  refine ⟨reachable_sampleEmulator _, fun hpaired => ?_⟩
  have hfacts : ∃ line ∈ (sampleEmulator
      [0xE4, 0xB8, 0x80, 0x1B, 0x5B, 0x32, 0x47, 0x1B, 0x5B, 0x4B]).primary.lines,
      line.cells[0]?.map Cell.width = some 2 ∧ line.cells[1]?.map Cell.code = some space := by
    decide +kernel
  obtain ⟨line, hline, hlead, hnext⟩ := hfacts
  obtain ⟨lead, hcell, hwide⟩ := Option.map_eq_some_iff.mp hlead
  obtain ⟨next, hcell', hcode, -⟩ := ((hpaired.1 line hline).wide 0 lead hcell).mp hwide
  rw [hcell', Option.map_some, hcode] at hnext
  exact absurd hnext (by decide)

end Hypeterm.Term

import Hypeterm.Term.Grid

/-! The states that inputs lead to, and the actions that bytes lead to, each with the state it
is performed in. -/
namespace Hypeterm.Term
open Library Checked List

namespace Emulator

def Reachable (emulator : Emulator) : Prop :=
  ∃ (config : EmulatorConfig) (inputs : List Input), GridSize config.columns config.rows ∧
    config.scrollback.Sound ∧ (∀ input ∈ inputs, input.Sized) ∧
      (do
        let emulator ← Emulator.new config
        acceptAll inputs emulator).value = emulator

variable {emulator : Emulator}

theorem Reachable.fitsGrid (reachable : emulator.Reachable) : emulator.FitsGrid := by
  obtain ⟨config, inputs, hsize, hlimits, hsized, rfl⟩ := reachable
  exact ((holds_new hsize hlimits).bind fun _ hfits => hfits.acceptAll hsized hsize).2

abbrev Trace := List (Emulator × Action)

def traceActions : List Action → Emulator → Trace
  | [], _ => []
  | action :: rest, emulator =>
      (emulator, action) :: traceActions rest (emulator.perform action).value

def traceEvents : List Event → Emulator → Trace
  | [], _ => []
  | event :: rest, emulator =>
      traceActions (emulator.actions event).value emulator ++
        traceEvents rest (emulator.handle event).value

def trace : Bytes → Emulator → Trace
  | [], _ => []
  | byte :: rest, emulator =>
      let (parser, events) := (emulator.parser.feedByte byte).value
      traceEvents events { emulator with parser } ++ trace rest (emulator.feedByte byte).value

/-- The steps of a trace lead from one state to another; between two of them the parser goes
on. -/
inductive Performs (columns rows : Int) : Emulator → Trace → Emulator → Prop
  | done (emulator : Emulator) : Performs columns rows emulator [] emulator
  | parse {emulator final : Emulator} {steps : Trace} (parser : Parser)
      (rest : Performs columns rows { emulator with parser } steps final) :
      Performs columns rows emulator steps final
  | step {emulator final : Emulator} {action : Action} {steps : Trace}
      (fits : emulator.Fits columns rows) (bounded : action.Bounded)
      (rest : Performs columns rows (emulator.perform action).value steps final) :
      Performs columns rows emulator ((emulator, action) :: steps) final

variable {columns rows : Int}

theorem Performs.append {first middle last : Emulator} {earlier later : Trace}
    (before : Performs columns rows first earlier middle)
    (after : Performs columns rows middle later last) :
    Performs columns rows first (earlier ++ later) last := by
  induction before with
  | done _ => exact after
  | parse parser _ ih => exact .parse parser (ih after)
  | step fits bounded _ ih => exact .step fits bounded (ih after)

variable (size : GridSize columns rows)
include size

theorem performs_traceActions {actions : List Action} (requests : Requests actions)
    (fits : emulator.Fits columns rows) :
    Performs columns rows emulator (traceActions actions emulator)
      (performAll actions emulator).value := by
  induction actions generalizing emulator with
  | nil => exact .done emulator
  | cons action rest ih =>
    have hbounded := requests action mem_cons_self
    refine .step fits hbounded (ih ?_ (fits.perform size hbounded).2)
    exact fun other hother => requests other (mem_cons_of_mem _ hother)

theorem performs_traceEvents {events : List Event} (bounded : ∀ event ∈ events, event.Bounded)
    (fits : emulator.Fits columns rows) :
    Performs columns rows emulator (traceEvents events emulator)
      (handleAll events emulator).value := by
  induction events generalizing emulator with
  | nil => exact .done emulator
  | cons event rest ih =>
    have hrequests := (holds_actions size fits (bounded event mem_cons_self)).2
    refine (performs_traceActions size hrequests fits).append (ih ?_ ?_)
    · exact fun other hother => bounded other (mem_cons_of_mem _ hother)
    · exact (fits.performAll size hrequests).2

theorem performs_trace (bytes : Bytes) (fits : emulator.Fits columns rows) :
    Performs columns rows emulator (emulator.trace bytes) (feed bytes emulator).value := by
  induction bytes generalizing emulator with
  | nil => exact .done emulator
  | cons byte rest ih =>
    have hfed := (fits.parser.feedByte byte).2
    have hfits : Fits columns rows
        { emulator with parser := (emulator.parser.feedByte byte).value.1 } :=
      { fits with parser := hfed.1 }
    refine Performs.append (.parse _ (performs_traceEvents size hfed.2 hfits)) (ih ?_)
    exact (hfits.handleAll size hfed.2).2

end Emulator

/-- A terminal of six columns and two rows that received some bytes. -/
def sampleEmulator (bytes : Bytes) : Emulator :=
  (do
    let emulator ← Emulator.new { columns := 6, rows := 2, scrollback := sampleLimits }
    Emulator.acceptAll [.feed bytes] emulator).value

theorem reachable_sampleEmulator (bytes : Bytes) : (sampleEmulator bytes).Reachable := by
  refine ⟨{ columns := 6, rows := 2, scrollback := sampleLimits }, [.feed bytes],
    ⟨by decide, by decide⟩, sound_sampleLimits, ?_, rfl⟩
  intro input hinput
  rw [mem_singleton.mp hinput]
  exact trivial

end Hypeterm.Term

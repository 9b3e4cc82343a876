import Hypeterm.Term.Fits
import Hypeterm.Term.Parser

/-! The tables and buffers of the parser stay within their bounds. -/
namespace Hypeterm.Term
open Library Checked List
open Hypeterm.Android (ParserState)

structure Params.Bounded (params : Params) : Prop where
  values : params.values.length = 32
  slots : ∀ row ∈ params.values, row.length = 8 ∧ ∀ value ∈ row, Parameter value
  subCounts : params.subCounts.length = 32
  subCount : ∀ count ∈ params.subCounts, count ≤ 8
  count : 0 ≤ params.count ∧ params.count ≤ 32
  currentSub : 0 ≤ params.currentSub ∧ params.currentSub < 8
  intermediates : params.intermediates.length ≤ 4

def Event.Bounded : Event → Prop
  | .csi params _ => params.Bounded
  | _ => True

def Utf8Decoder.Bounded (decoder : Utf8Decoder) : Prop :=
  0 ≤ decoder.remaining ∧ decoder.remaining ≤ 3

structure Parser.Bounded (parser : Parser) : Prop where
  params : parser.params.Bounded
  intermediates : parser.intermediates.length ≤ 4
  escape : parser.state = .escape → parser.intermediates = []
  stringBuffer : parser.stringBuffer.length ≤ parser.maxStringBytes
  decoder : parser.decoder.Bounded

theorem mem_getD {α : Type} [Inhabited α] {elements : List α} {index : Int}
    (inside : 0 ≤ index ∧ index < elements.length) :
    elements.getD index.toNat default ∈ elements := by
  rw [getD_eq_getElem _ _ (by omega)]
  exact getElem_mem _

namespace Params

theorem bounded_clear : clear.Bounded where
  values := rfl
  slots := by
    intro row hrow
    rw [eq_of_mem_replicate hrow]
    refine ⟨rfl, fun value hvalue => ?_⟩
    rw [eq_of_mem_replicate hvalue]
    simp [Parameter, missing]
  subCounts := rfl
  subCount := by
    intro count hcount
    rw [eq_of_mem_replicate hcount]
    omega
  count := by decide
  currentSub := by decide
  intermediates := by decide

variable {params : Params}

section

variable (bounded : params.Bounded)
include bounded

theorem Bounded.started : params.started.Bounded ∧ 1 ≤ params.started.count := by
  have hcount := bounded.count
  unfold Params.started
  split
  · exact ⟨{ bounded with count := by dsimp only; omega }, Int.le_refl _⟩
  · exact ⟨bounded, by omega⟩

theorem Bounded.withSubCount {index : Int} {count : Nat} (small : count ≤ 8) :
    Params.Bounded { params with subCounts := params.subCounts.set index.toNat count } where
  values := bounded.values
  slots := bounded.slots
  subCounts := by simpa using bounded.subCounts
  subCount := by
    intro other hother
    rcases mem_or_eq_of_mem_set hother with hold | rfl
    · exact bounded.subCount other hold
    · exact small
  count := bounded.count
  currentSub := bounded.currentSub
  intermediates := bounded.intermediates

theorem Bounded.nextParam : Holds Params.Bounded params.nextParam := by
  obtain ⟨hstarted, hone⟩ := bounded.started
  have hlength := hstarted.subCounts
  unfold Params.nextParam
  refine .ite (fun hroom => ?_) fun _ => .pure { hstarted with }
  have hroom : params.started.count < 32 := hroom
  refine .int (by omega) (by omega) ?_
  refine .int (by omega) (by omega) ?_
  refine (holds_put (by omega)).bind ?_
  rintro _ rfl
  exact .pure { hstarted.withSubCount (Nat.zero_le 8) with
    count := by dsimp only; omega
    currentSub := by dsimp only; omega }

theorem Bounded.countSub {index : Int} (inside : 0 ≤ index ∧ index < 32) :
    Holds (fun next => next.Bounded ∧ next.count = params.count) (params.countSub index) := by
  have hlength := bounded.subCounts
  have hsub := bounded.currentSub
  refine (holds_get (by omega)).bind ?_
  rintro _ rfl
  refine .ite (fun _ => ?_) fun _ => .pure ⟨bounded, rfl⟩
  refine .int (by omega) (by omega) ?_
  refine (holds_put (by omega)).bind ?_
  rintro _ rfl
  exact .pure ⟨bounded.withSubCount (by omega), rfl⟩

theorem Bounded.nextSubParam : Holds Params.Bounded params.nextSubParam := by
  obtain ⟨hstarted, hone⟩ := bounded.started
  have hcount := hstarted.count
  have hsub := hstarted.currentSub
  refine .int (by omega) (by omega) ?_
  refine .int (by omega) (by omega) ?_
  refine .ite (fun hroom => ?_) fun _ => .pure { hstarted with }
  have hroom : params.started.currentSub + 1 < 8 := hroom
  have hnext : Params.Bounded
      { params.started with currentSub := params.started.currentSub + 1 } :=
    { hstarted with currentSub := by dsimp only; omega }
  exact (hnext.countSub (by omega)).mono fun next hnext => hnext.1

theorem Bounded.pushDigit {digit : UInt8} (decimal : digit.toNat ≤ 9) :
    Holds Params.Bounded (params.pushDigit digit) := by
  have hlength := bounded.subCounts
  refine .bind (.ite (fun hnone => ?_) fun hsome => .pure (And.intro bounded ?_))
    fun (params : Params) (bounded : params.Bounded ∧ 1 ≤ params.count) => ?_
  · refine (holds_put (by omega)).bind ?_
    rintro _ rfl
    refine .pure (And.intro ?_ ?_)
    · exact { bounded.withSubCount (by decide : 1 ≤ 8) with
        count := by dsimp only; omega
        currentSub := by dsimp only; omega }
    · exact Int.le_refl 1
  · have hcount := bounded.count
    omega
  obtain ⟨bounded, hone⟩ := bounded
  have hcount := bounded.count
  refine .int (by omega) (by omega) ?_
  refine .ite (fun _ => .pure { bounded with }) fun _ => ?_
  refine (bounded.countSub (by omega)).bind fun params ⟨bounded, hcount⟩ => ?_
  have hvalues := bounded.values
  have hsub := bounded.currentSub
  refine (holds_get (by omega)).bind fun row hrow => ?_
  have hmem : row ∈ params.values := hrow ▸ mem_getD (by omega)
  obtain ⟨hwidth, hslots⟩ := bounded.slots row hmem
  refine (holds_get (by omega)).bind fun slot hslot => ?_
  have hslot : Parameter slot := hslots slot (hslot ▸ mem_getD (by omega))
  have hstart : Parameter (if slot = missing then 0 else slot) := by
    split
    · simp [Parameter]
    · exact hslot
  refine .bind (.ite (fun hsmall => ?_) fun _ => .pure hstart)
    fun (slot : Int) (hslot : Parameter slot) => ?_
  · unfold Parameter missing at *
    have hsmall : (if slot = -1 then 0 else slot) ≤ 65535 := hsmall
    refine .int (by omega) (by omega) ?_
    refine .int (by omega) (by omega) ?_
    refine .pure ?_
    unfold maxValue
    split <;> omega
  refine (holds_put (by omega)).bind ?_
  rintro _ rfl
  refine (holds_put (by omega)).bind ?_
  rintro _ rfl
  refine .pure { bounded with values := by simpa using hvalues, slots := ?_ }
  intro other hother
  rcases mem_or_eq_of_mem_set hother with hold | rfl
  · exact bounded.slots other hold
  · refine ⟨by simpa using hwidth, fun value hvalue => ?_⟩
    rcases mem_or_eq_of_mem_set hvalue with hold | rfl
    · exact hslots value hold
    · exact hslot

theorem Bounded.get (index fallback : Int) :
    Holds (fun value => value = fallback ∨ 0 ≤ value ∧ value ≤ 65535)
      (params.get index fallback) := by
  have hcount := bounded.count
  have hvalues := bounded.values
  unfold Params.get
  refine .ite (fun _ => .pure (Or.inl rfl)) fun hinside => ?_
  refine (holds_get (by omega)).bind fun row hrow => ?_
  have hmem : row ∈ params.values := hrow ▸ mem_getD (by omega)
  obtain ⟨hwidth, hslots⟩ := bounded.slots row hmem
  refine (holds_get (by omega)).bind fun value hvalue => .pure ?_
  have hslot := hslots value (hvalue ▸ mem_getD (by omega))
  unfold Parameter missing at *
  split <;> omega

theorem Bounded.holds_subCount (index : Int) : Holds (fun _ => True) (params.subCount index) := by
  have hcount := bounded.count
  have hlength := bounded.subCounts
  unfold Params.subCount
  refine .ite (fun _ => .pure trivial) fun hinside => ?_
  exact (holds_get (by omega)).bind fun count _ => .pure trivial

theorem Bounded.getSub (index sub fallback : Int) :
    Holds (fun _ => True) (params.getSub index sub fallback) := by
  have hcount := bounded.count
  have hlength := bounded.subCounts
  have hvalues := bounded.values
  unfold Params.getSub
  refine .ite (fun _ => .pure trivial) fun hinside => ?_
  refine (holds_get (by omega)).bind fun count hcount => ?_
  have hsmall : count ≤ 8 := bounded.subCount count (hcount ▸ mem_getD (by omega))
  refine .ite (fun _ => .pure trivial) fun hsub => ?_
  refine (holds_get (by omega)).bind fun row hrow => ?_
  have hmem : row ∈ params.values := hrow ▸ mem_getD (by omega)
  have hwidth := (bounded.slots row hmem).1
  exact (holds_get (by omega)).bind fun value _ => .pure trivial

theorem Bounded.pushIntermediate (byte : UInt8) : (params.pushIntermediate byte).Bounded := by
  unfold Params.pushIntermediate
  split
  · refine { bounded with intermediates := ?_ }
    simp only [length_append, length_singleton]
    omega
  · exact { bounded with }

end

end Params

theorem Utf8Decoder.Bounded.feed {decoder : Utf8Decoder} (bounded : decoder.Bounded) (byte : UInt8) :
    Holds (fun fed => fed.1.Bounded) (decoder.feed byte) := by
  unfold Utf8Decoder.Bounded at *
  unfold Utf8Decoder.feed
  refine .ite (fun hnone => .pure ?_) fun hsome => ?_
  · unfold Utf8Decoder.start
    repeat' split
    all_goals dsimp only
    all_goals omega
  refine .ite (fun _ => .pure (by decide)) fun _ => ?_
  refine .int (by omega) (by omega) ?_
  refine .ite (fun _ => .pure ⟨Int.le_refl _, Int.natCast_nonneg 3⟩) fun hmore =>
    .pure ?_
  dsimp only
  omega

theorem Utf8Decoder.Bounded.flush {decoder : Utf8Decoder} (bounded : decoder.Bounded) :
    decoder.flush.1.Bounded := by
  unfold Utf8Decoder.flush
  split
  · exact bounded
  · exact ⟨Int.le_refl _, by decide⟩

/-- A parser within its bounds and events with parameters within theirs. -/
def Fed (fed : Parser × List Event) : Prop := fed.1.Bounded ∧ ∀ event ∈ fed.2, event.Bounded

namespace Parser

variable {parser : Parser}

theorem bounded_new (maxStringBytes : Nat) : Bounded { maxStringBytes } where
  params := Params.bounded_clear
  intermediates := Nat.zero_le _
  escape := fun _ => rfl
  stringBuffer := Nat.zero_le _
  decoder := ⟨Int.le_refl _, Int.natCast_nonneg 3⟩

theorem Bounded.reset (_ : parser.Bounded) : parser.reset.Bounded := bounded_new _

section

variable (bounded : parser.Bounded)
include bounded

theorem Bounded.enterState (state : ParserState) : (parser.enterState state).Bounded := by
  cases state
  case escape | csiEntry | dcsEntry =>
    exact { bounded with
      params := Params.bounded_clear
      intermediates := Nat.zero_le _
      escape := fun _ => rfl }
  case oscString | sosPmApcString | dcsPassthrough =>
    exact { bounded with
      escape := by simp [Parser.enterState]
      stringBuffer := Nat.zero_le _ }
  all_goals exact { bounded with escape := by simp [Parser.enterState] }

theorem Bounded.flushUtf8 : Fed parser.flushUtf8 := by
  refine ⟨{ bounded with decoder := bounded.decoder.flush }, ?_⟩
  intro event hevent
  obtain ⟨codePoint, -, rfl⟩ := mem_map.mp hevent
  trivial

theorem Bounded.dispatchOsc : Fed parser.dispatchOsc :=
  ⟨{ bounded with stringBuffer := Nat.zero_le _ }, by simp [Parser.dispatchOsc, Event.Bounded]⟩

theorem Bounded.dispatchDcs : Fed parser.dispatchDcs :=
  ⟨{ bounded with stringBuffer := Nat.zero_le _ }, by simp [Parser.dispatchDcs, Event.Bounded]⟩

theorem Bounded.abandon (state : ParserState) : Fed (parser.abandon state) := by
  obtain ⟨hflushed, hprinted⟩ := bounded.flushUtf8
  unfold Parser.abandon
  dsimp only
  split
  · obtain ⟨hdispatched, hevents⟩ := hflushed.dispatchDcs
    refine ⟨hdispatched.enterState state, fun event hevent => ?_⟩
    exact (mem_append.mp hevent).elim (hprinted event) (hevents event)
  · refine ⟨hflushed.enterState state, fun event hevent => ?_⟩
    rw [append_nil] at hevent
    exact hprinted event hevent

end

theorem Bounded.groundLook (bounded : parser.Bounded) (ground : parser.state = .ground)
    (looks : Nat) (byte : UInt8) : Holds Fed (groundLook looks parser byte) := by
  induction looks generalizing parser with
  | zero => exact .pure ⟨bounded, by simp⟩
  | succ looks ih =>
    obtain ⟨hflushed, hprinted⟩ := bounded.flushUtf8
    unfold Parser.groundLook
    refine .ite (fun _ => .pure ⟨hflushed.enterState .escape, hprinted⟩) fun _ => ?_
    refine .ite (fun _ => .pure ⟨hflushed, ?_⟩) fun _ => ?_
    · intro event hevent
      rcases mem_append.mp hevent with hold | hnew
      · exact hprinted event hold
      · rw [mem_singleton.mp hnew]
        trivial
    refine .ite (fun _ => .pure ⟨bounded, by simp⟩) fun _ => ?_
    refine (bounded.decoder.feed byte).bind fun fed hfed => ?_
    have hnext : Parser.Bounded { parser with decoder := fed.1 } := { bounded with decoder := hfed }
    dsimp only
    split
    · exact .pure ⟨hnext, by simp⟩
    · exact .pure ⟨hnext, by simp [Event.Bounded]⟩
    · refine (ih hnext ground).bind fun fed hfed => .pure ⟨hfed.1, ?_⟩
      intro event hevent
      rcases mem_cons.mp hevent with rfl | hrest
      · trivial
      · exact hfed.2 event hrest

section

variable (bounded : parser.Bounded)
include bounded

variable (byte : UInt8)

theorem Bounded.collect : (parser.collect byte).Bounded := by
  unfold Parser.collect
  split
  · refine { bounded with stringBuffer := ?_ }
    simp only [length_append, length_singleton]
    omega
  · exact { bounded with }

theorem Bounded.completeEscape : Fed (parser.completeEscape byte) :=
  ⟨bounded.enterState .ground, by simp [Parser.completeEscape, Event.Bounded]⟩

theorem Bounded.completeCsi : Fed (parser.completeCsi byte) := by
  refine ⟨bounded.enterState .ground, fun event hevent => ?_⟩
  rw [mem_singleton.mp hevent]
  exact bounded.params

theorem Bounded.completeDcs : Fed (parser.completeDcs byte) := by
  have hfinal : Parser.Bounded { parser with dcsFinal := byte } := { bounded with }
  exact ⟨hfinal.enterState .dcsPassthrough, by simp [Parser.completeDcs]⟩

theorem Bounded.withIntermediates {intermediates : Bytes}
    (short : intermediates.length ≤ 4) {state : ParserState} (other : state ≠ .escape) :
    Parser.Bounded { parser with intermediates, state } :=
  { bounded with intermediates := short, escape := fun h => absurd h other }

theorem Bounded.withState {state : ParserState}
    (other : state ≠ .escape) : Parser.Bounded { parser with state } :=
  { bounded with escape := fun h => absurd h other }

theorem Bounded.withParams {params : Params}
    (within : params.Bounded) {state : ParserState} (other : state ≠ .escape) :
    Parser.Bounded { parser with params, state } :=
  { bounded with params := within, escape := fun h => absurd h other }

theorem Bounded.quiet : Fed (parser, []) := ⟨bounded, by simp⟩

theorem Bounded.execute : Fed (parser, [.execute byte]) :=
  ⟨bounded, by simp [Event.Bounded]⟩

theorem Bounded.feedEscape (state : parser.state = .escape)
    (byte : UInt8) : Fed (parser.feedEscape byte) := by
  have hnone := bounded.escape state
  unfold Parser.feedEscape
  split
  · exact bounded.execute byte
  split
  · rw [hnone]
    rw [if_neg (by simp)]
    exact (bounded.withIntermediates (by simp) (by decide)).quiet
  split
  · exact (bounded.enterState _).quiet
  split
  · exact (bounded.enterState _).quiet
  split
  · exact (bounded.enterState _).quiet
  split
  · exact (bounded.enterState _).quiet
  split
  · exact bounded.completeEscape byte
  · exact bounded.quiet

theorem Bounded.feedEscapeIntermediate (state : parser.state = .escapeIntermediate) (byte : UInt8) :
    Fed (parser.feedEscapeIntermediate byte) := by
  unfold Parser.feedEscapeIntermediate
  split
  · exact bounded.execute byte
  split
  · split
    · refine Bounded.quiet { bounded with intermediates := ?_, escape := ?_ }
      · simp only [length_append, length_singleton]
        omega
      · simp [state]
    · exact bounded.quiet
  split
  · exact bounded.completeEscape byte
  · exact bounded.quiet

end

theorem toNat_digit {byte : UInt8} (digit : Android.Parser.isDigit byte = true) :
    (byte - 0x30).toNat ≤ 9 := by
  simp only [Android.Parser.isDigit, Bool.and_eq_true, decide_eq_true_eq] at digit
  have hlow : (0x30 : UInt8).toNat ≤ byte.toNat := digit.1
  have hhigh : byte.toNat ≤ (0x39 : UInt8).toNat := digit.2
  rw [UInt8.toNat_sub_of_le _ _ digit.1]
  have h30 : (0x30 : UInt8).toNat = 48 := rfl
  have h39 : (0x39 : UInt8).toNat = 57 := rfl
  omega

section

variable (bounded : parser.Bounded)
include bounded

theorem Bounded.feedParam (entry : ParserState)
    {param intermediate ignore : ParserState} (byte : UInt8) {complete : Parser × List Event}
    (others : param ≠ .escape ∧ intermediate ≠ .escape ∧ ignore ≠ .escape)
    (completed : Fed complete) :
    Holds Fed (parser.feedParam entry param intermediate ignore byte complete) := by
  unfold Parser.feedParam
  refine .ite (fun hdigit => ?_) fun _ => ?_
  · refine (bounded.params.pushDigit (toNat_digit hdigit)).bind fun params hparams => ?_
    exact .pure (bounded.withParams hparams others.1).quiet
  refine .ite (fun _ => ?_) fun _ => ?_
  · refine bounded.params.nextParam.bind fun params hparams => ?_
    exact .pure (bounded.withParams hparams others.1).quiet
  refine .ite (fun _ => ?_) fun _ => ?_
  · refine bounded.params.nextSubParam.bind fun params hparams => ?_
    exact .pure (bounded.withParams hparams others.1).quiet
  refine .ite (fun _ => .ite (fun _ => ?_) fun _ => ?_) fun _ => ?_
  · have hmarked : Params.Bounded { parser.params with marker := byte } := { bounded.params with }
    exact .pure (bounded.withParams hmarked others.1).quiet
  · exact .pure (bounded.withState others.2.2).quiet
  refine .ite (fun _ => ?_) fun _ => .ite (fun _ => .pure completed) fun _ =>
    .pure (bounded.withState others.2.2).quiet
  exact .pure (bounded.withParams (bounded.params.pushIntermediate byte) others.2.1).quiet

variable (byte : UInt8)

theorem Bounded.feedCsiIntermediate : Fed (parser.feedCsiIntermediate byte) := by
  unfold Parser.feedCsiIntermediate
  split
  · exact bounded.execute byte
  split
  · exact Bounded.quiet { bounded with params := bounded.params.pushIntermediate byte }
  split
  · exact bounded.completeCsi byte
  · exact (bounded.withState (by decide)).quiet

theorem Bounded.feedCsiIgnore : Fed (parser.feedCsiIgnore byte) := by
  unfold Parser.feedCsiIgnore
  split
  · exact bounded.execute byte
  split
  · exact (bounded.enterState _).quiet
  · exact bounded.quiet

theorem Bounded.feedDcsIntermediate : Fed (parser.feedDcsIntermediate byte) := by
  unfold Parser.feedDcsIntermediate
  split
  · exact Bounded.quiet { bounded with params := bounded.params.pushIntermediate byte }
  split
  · exact bounded.completeDcs byte
  split
  · exact (bounded.withState (by decide)).quiet
  · exact bounded.quiet

theorem Bounded.feedOscString : Fed (parser.feedOscString byte) := by
  obtain ⟨hdispatched, hevents⟩ := bounded.dispatchOsc
  unfold Parser.feedOscString
  split
  · exact ⟨hdispatched.enterState .ground, hevents⟩
  split
  · exact ⟨hdispatched.enterState .escape, hevents⟩
  split
  · exact (bounded.enterState _).quiet
  split
  · exact bounded.quiet
  · exact (bounded.collect byte).quiet

theorem Bounded.feedDcsPassthrough : Fed (parser.feedDcsPassthrough byte) := by
  obtain ⟨hdispatched, hevents⟩ := bounded.dispatchDcs
  unfold Parser.feedDcsPassthrough
  split
  · exact ⟨hdispatched.enterState .escape, hevents⟩
  split
  · exact ⟨hdispatched.enterState .ground, hevents⟩
  · exact (bounded.collect byte).quiet

theorem Bounded.feedDiscarded (belEnds : Bool) (byte : UInt8) :
    Fed (parser.feedDiscarded belEnds byte) := by
  unfold Parser.feedDiscarded
  split
  · exact (bounded.enterState _).quiet
  split
  · exact (bounded.enterState _).quiet
  split
  · exact (bounded.enterState _).quiet
  · exact bounded.quiet

theorem Bounded.handleControl {byte : UInt8}
    {handled : Parser × List Event} (handles : parser.handleControl byte = some handled) :
    Fed handled := by
  unfold Parser.handleControl at handles
  split at handles
  · cases handles
    exact bounded.abandon _
  split at handles
  · cases handles
    exact bounded.abandon _
  · cases handles

theorem Bounded.feedByte : Holds Fed (parser.feedByte byte) := by
  unfold Parser.feedByte
  split
  case h_1 hstate => exact bounded.groundLook hstate 2 byte
  case h_2 => exact .pure (bounded.feedOscString byte)
  case h_3 => exact .pure (bounded.feedDiscarded true byte)
  case h_4 => exact .pure (bounded.feedDcsPassthrough byte)
  case h_5 => exact .pure (bounded.feedDiscarded false byte)
  split
  case h_1 handled hhandled => exact .pure (bounded.handleControl hhandled)
  split
  case h_1 hstate _ => exact .pure (bounded.feedEscape (by assumption) byte)
  case h_2 => exact .pure (bounded.feedEscapeIntermediate (by assumption) byte)
  case h_3 => exact .pure (bounded.feedCsiIntermediate byte)
  case h_4 => exact .pure (bounded.feedCsiIgnore byte)
  case h_5 => exact .pure (bounded.feedDcsIntermediate byte)
  case h_6 | h_7 =>
    refine .ite (fun _ => .pure bounded.quiet) fun _ => ?_
    exact bounded.feedParam _ byte (by decide) (bounded.completeDcs byte)
  case h_8 =>
    refine .ite (fun _ => .pure (bounded.execute byte)) fun _ => ?_
    exact bounded.feedParam _ byte (by decide) (bounded.completeCsi byte)

end

end Parser

end Hypeterm.Term

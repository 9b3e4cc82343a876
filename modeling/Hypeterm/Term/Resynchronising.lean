import Hypeterm.Term.Parser

/-! An ESC begins anew: what the parser was reading before has no influence on what it reports
afterwards. -/
namespace Hypeterm.Term
open Library Checked
open Hypeterm.Android (ParserState)

namespace Parser

/-- One byte after another, with everything that they bring about. -/
def feed : Bytes → Parser → Checked (Parser × List Event)
  | [], parser => pure (parser, [])
  | byte :: rest, parser => do
      let (parser, events) ← parser.feedByte byte
      let (parser, later) ← feed rest parser
      pure (parser, events ++ later)

def setLimits (parser : Parser) (maxStringBytes : Nat) : Parser := { parser with maxStringBytes }

/-- The states of a parser that was made, limited, fed and reset. -/
inductive Reachable : Parser → Prop
  | new : Reachable {}
  | setLimits {parser : Parser} (reachable : Reachable parser) (maxStringBytes : Nat) :
      Reachable (parser.setLimits maxStringBytes)
  | feed {parser : Parser} (reachable : Reachable parser) (bytes : Bytes) :
      Reachable (feed bytes parser).value.1
  | reset {parser : Parser} (reachable : Reachable parser) : Reachable parser.reset

variable {parser : Parser}

/-- Without a sequence in progress the decoder is as new, and outside the ground state there
is none. -/
structure Settled (parser : Parser) : Prop where
  whole : parser.decoder.remaining = 0 → parser.decoder = {}
  ground : parser.state ≠ .ground → parser.decoder = {}

theorem Settled.of_empty (empty : parser.decoder = {}) : parser.Settled where
  whole _ := empty
  ground _ := empty

theorem Settled.of_ground (ground : parser.state = .ground)
    (whole : parser.decoder.remaining = 0 → parser.decoder = {}) : parser.Settled where
  whole := whole
  ground other := absurd ground other

theorem whole_feed {decoder : Utf8Decoder} (whole : decoder.remaining = 0 → decoder = {})
    (byte : UInt8) : (decoder.feed byte).value.1.remaining = 0 →
      (decoder.feed byte).value.1 = {} := by
  unfold Utf8Decoder.feed
  by_cases hnone : decoder.remaining = 0
  · rw [if_pos hnone, whole hnone]
    unfold Utf8Decoder.start
    simp only [value_pure]
    repeat' split
    all_goals simp
  · rw [if_neg hnone, value_ite]
    split
    · exact fun _ => rfl
    rw [value_bind, value_int, value_ite]
    split
    · exact fun _ => rfl
    · rename_i hmore
      exact fun hzero => absurd hzero hmore

theorem decoder_flush {decoder : Utf8Decoder} (whole : decoder.remaining = 0 → decoder = {}) :
    decoder.flush.1 = {} := by
  unfold Utf8Decoder.flush
  split
  · exact whole ‹_›
  · rfl

theorem Settled.groundLook (settled : parser.Settled) (ground : parser.state = .ground)
    (looks : Nat) (byte : UInt8) : (groundLook looks parser byte).value.1.Settled := by
  induction looks generalizing parser with
  | zero => exact settled
  | succ looks ih =>
    have hflushed : parser.flushUtf8.1.decoder = {} := decoder_flush settled.whole
    unfold Parser.groundLook
    split
    · apply Settled.of_empty
      exact hflushed
    split
    · apply Settled.of_empty
      exact hflushed
    split
    · exact settled
    have hfed : Settled { parser with decoder := (parser.decoder.feed byte).value.1 } :=
      .of_ground ground (whole_feed settled.whole byte)
    simp only [value_bind]
    split
    · exact hfed
    · exact hfed
    · exact ih hfed ground

theorem decoder_enterState (parser : Parser) (state : ParserState) :
    (parser.enterState state).decoder = parser.decoder := by
  cases state <;> rfl

theorem decoder_abandon (empty : parser.decoder = {}) (state : ParserState) :
    (parser.abandon state).1.decoder = {} := by
  have hflushed : parser.flushUtf8.1.decoder = {} := decoder_flush fun _ => empty
  unfold abandon
  rw [decoder_enterState]
  split
  · exact hflushed
  · exact hflushed

section

variable (parser)
include parser

variable (byte : UInt8)

theorem decoder_feedEscape : (parser.feedEscape byte).1.decoder = parser.decoder := by
  unfold feedEscape completeEscape
  dsimp only
  repeat' split
  all_goals simp only [decoder_enterState]

theorem decoder_feedEscapeIntermediate :
    (parser.feedEscapeIntermediate byte).1.decoder = parser.decoder := by
  unfold feedEscapeIntermediate completeEscape
  repeat' split
  all_goals simp only [decoder_enterState]

theorem decoder_feedParam (entry param intermediate ignore : ParserState)
    (byte : UInt8) {complete : Parser × List Event}
    (completed : complete.1.decoder = parser.decoder) :
    (parser.feedParam entry param intermediate ignore byte complete).value.1.decoder =
      parser.decoder := by
  unfold feedParam
  simp only [value_ite, value_bind, value_pure]
  repeat' split
  all_goals first | rfl | exact completed

theorem decoder_feedCsiIntermediate :
    (parser.feedCsiIntermediate byte).1.decoder = parser.decoder := by
  unfold feedCsiIntermediate completeCsi
  repeat' split
  all_goals simp only [decoder_enterState]

theorem decoder_feedCsiIgnore : (parser.feedCsiIgnore byte).1.decoder = parser.decoder := by
  unfold feedCsiIgnore
  repeat' split
  all_goals simp only [decoder_enterState]

theorem decoder_feedDcsIntermediate :
    (parser.feedDcsIntermediate byte).1.decoder = parser.decoder := by
  unfold feedDcsIntermediate completeDcs
  repeat' split
  all_goals simp only [decoder_enterState]

theorem decoder_collect : (parser.collect byte).decoder = parser.decoder := by
  unfold collect
  split <;> rfl

theorem decoder_feedOscString : (parser.feedOscString byte).1.decoder = parser.decoder := by
  unfold feedOscString dispatchOsc
  dsimp only
  repeat' split
  all_goals simp only [decoder_enterState, decoder_collect]

theorem decoder_feedDcsPassthrough :
    (parser.feedDcsPassthrough byte).1.decoder = parser.decoder := by
  unfold feedDcsPassthrough dispatchDcs
  dsimp only
  repeat' split
  all_goals simp only [decoder_enterState, decoder_collect]

theorem decoder_feedDiscarded (belEnds : Bool) (byte : UInt8) :
    (parser.feedDiscarded belEnds byte).1.decoder = parser.decoder := by
  unfold feedDiscarded
  repeat' split
  all_goals simp only [decoder_enterState]

end

theorem decoder_handleControl (empty : parser.decoder = {}) {byte : UInt8}
    {handled : Parser × List Event} (handles : parser.handleControl byte = some handled) :
    handled.1.decoder = {} := by
  unfold handleControl at handles
  split at handles
  · cases handles
    exact decoder_abandon empty _
  split at handles
  · cases handles
    exact decoder_abandon empty _
  · cases handles

theorem decoder_feedByte (outside : parser.state ≠ .ground) (empty : parser.decoder = {})
    (byte : UInt8) : (parser.feedByte byte).value.1.decoder = {} := by
  rw [← empty]
  unfold feedByte
  split
  case h_1 hground => exact absurd hground outside
  case h_2 => exact decoder_feedOscString parser byte
  case h_3 => exact decoder_feedDiscarded parser true byte
  case h_4 => exact decoder_feedDcsPassthrough parser byte
  case h_5 => exact decoder_feedDiscarded parser false byte
  split
  case h_1 handled hhandled => exact (decoder_handleControl empty hhandled).trans empty.symm
  split
  case h_1 => exact decoder_feedEscape parser byte
  case h_2 => exact decoder_feedEscapeIntermediate parser byte
  case h_3 => exact decoder_feedCsiIntermediate parser byte
  case h_4 => exact decoder_feedCsiIgnore parser byte
  case h_5 => exact decoder_feedDcsIntermediate parser byte
  case h_6 | h_7 =>
    rw [value_ite]
    split
    · rfl
    · exact decoder_feedParam parser _ _ _ _ byte rfl
  case h_8 =>
    rw [value_ite]
    split
    · rfl
    · exact decoder_feedParam parser _ _ _ _ byte rfl

theorem Settled.feedByte (settled : parser.Settled) (byte : UInt8) :
    (parser.feedByte byte).value.1.Settled := by
  by_cases hground : parser.state = .ground
  · have hfed : parser.feedByte byte = parser.ground byte := by
      unfold Parser.feedByte
      rw [hground]
    rw [hfed]
    exact settled.groundLook hground 2 byte
  · apply Settled.of_empty
    exact decoder_feedByte hground (settled.ground hground) byte

theorem Settled.feed (settled : parser.Settled) (bytes : Bytes) :
    (feed bytes parser).value.1.Settled := by
  induction bytes generalizing parser with
  | nil => exact settled
  | cons byte rest ih => exact ih (settled.feedByte byte)

theorem Reachable.settled (reachable : parser.Reachable) : parser.Settled := by
  induction reachable with
  | new => exact .of_empty rfl
  | setLimits _ _ ih => exact ⟨ih.whole, ih.ground⟩
  | feed _ bytes ih => exact ih.feed bytes
  | reset _ _ => exact .of_empty rfl

/-- The string that is being collected, and the byte that began it. -/
def withString (parser : Parser) (stringBuffer : Bytes) (stringTruncated : Bool)
    (dcsFinal : UInt8) : Parser :=
  { parser with stringBuffer, stringTruncated, dcsFinal }

/-- The parser without what its state no longer reads. -/
def current (parser : Parser) : Parser :=
  match parser.state with
  | .oscString => parser.withString parser.stringBuffer parser.stringTruncated 0
  | .dcsPassthrough => parser
  | _ => parser.withString [] false 0

/-- Nothing that is still to come tells the two apart, and the same was reported. -/
structure Alike (one other : Parser × List Event) : Prop where
  parser : one.1.current = other.1.current
  events : one.2 = other.2

theorem Alike.refl (fed : Parser × List Event) : Alike fed fed := ⟨rfl, rfl⟩

def Silent (state : ParserState) : Prop := state ≠ .oscString ∧ state ≠ .dcsPassthrough

instance (state : ParserState) : Decidable (Silent state) :=
  inferInstanceAs (Decidable (_ ∧ _))

variable (stringBuffer : Bytes) (stringTruncated : Bool) (dcsFinal : UInt8)

theorem current_withString (silent : Silent parser.state) :
    (parser.withString stringBuffer stringTruncated dcsFinal).current = parser.current := by
  obtain ⟨_, state, _, _, _, _, _, _⟩ := parser
  cases state with
  | oscString => exact absurd rfl silent.1
  | dcsPassthrough => exact absurd rfl silent.2
  | _ => rfl

theorem Alike.keep (silent : Silent parser.state) (events : List Event) :
    Alike (parser.withString stringBuffer stringTruncated dcsFinal, events) (parser, events) :=
  ⟨current_withString _ _ _ silent, rfl⟩

theorem Alike.enter (parser : Parser) {state : ParserState} (dcs : state ≠ .dcsPassthrough)
    (events : List Event) :
    Alike ((parser.withString stringBuffer stringTruncated dcsFinal).enterState state, events)
      (parser.enterState state, events) := by
  refine ⟨?_, rfl⟩
  cases state with
  | dcsPassthrough => exact absurd rfl dcs
  | _ => rfl

theorem groundLook_withString (looks : Nat) (parser : Parser) (byte : UInt8) :
    (groundLook looks (parser.withString stringBuffer stringTruncated dcsFinal) byte).value =
      ((groundLook looks parser byte).value.1.withString stringBuffer stringTruncated dcsFinal,
        (groundLook looks parser byte).value.2) := by
  induction looks generalizing parser with
  | zero => rfl
  | succ looks ih =>
    unfold groundLook
    split
    · rfl
    split
    · rfl
    split
    · rfl
    · have hlook := ih { parser with decoder := (parser.decoder.feed byte).value.1 }
      simp only [value_bind]
      have hdecoder : (parser.withString stringBuffer stringTruncated dcsFinal).decoder =
          parser.decoder := rfl
      rw [hdecoder]
      split
      · rfl
      · rfl
      · simp only [value_bind, value_pure]
        exact congrArg (fun fed : Parser × List Event => (fed.1, Event.print _ :: fed.2)) hlook

theorem silent_groundLook (ground : parser.state = .ground) (looks : Nat) (byte : UInt8) :
    Silent (groundLook looks parser byte).value.1.state := by
  induction looks generalizing parser with
  | zero => exact ground ▸ ⟨by decide, by decide⟩
  | succ looks ih =>
    have hsilent : Silent parser.state := ground ▸ ⟨by decide, by decide⟩
    have hescape : Silent .escape := by decide
    unfold groundLook
    split
    · exact hescape
    split
    · exact hsilent
    split
    · exact hsilent
    · simp only [value_bind]
      split
      · exact hsilent
      · exact hsilent
      · exact @ih { parser with decoder := _ } ground

theorem Alike.groundLook (ground : parser.state = .ground) (looks : Nat) (byte : UInt8) :
    Alike (groundLook looks (parser.withString stringBuffer stringTruncated dcsFinal) byte).value
      (groundLook looks parser byte).value := by
  rw [groundLook_withString]
  exact Alike.keep _ _ _ (silent_groundLook ground looks byte) _

theorem Alike.abandon (dcs : parser.state ≠ .dcsPassthrough) {state : ParserState}
    (target : state ≠ .dcsPassthrough) :
    Alike ((parser.withString stringBuffer stringTruncated dcsFinal).abandon state)
      (parser.abandon state) := by
  unfold Parser.abandon
  have hflushed : (parser.withString stringBuffer stringTruncated dcsFinal).flushUtf8 =
      (parser.flushUtf8.1.withString stringBuffer stringTruncated dcsFinal,
        parser.flushUtf8.2) := rfl
  have hstate : parser.flushUtf8.1.state ≠ .dcsPassthrough := dcs
  rw [hflushed]
  dsimp only
  rw [if_neg hstate, if_neg]
  · exact Alike.enter _ _ _ parser.flushUtf8.1 target _
  · exact hstate

theorem Alike.feedEscape (silent : Silent parser.state) (byte : UInt8) :
    Alike ((parser.withString stringBuffer stringTruncated dcsFinal).feedEscape byte)
      (parser.feedEscape byte) := by
  unfold Parser.feedEscape
  split
  · exact Alike.keep _ _ _ silent _
  split
  · dsimp only
    have hintermediates :
        (parser.withString stringBuffer stringTruncated dcsFinal).intermediates =
          parser.intermediates := rfl
    rw [hintermediates]
    split
    · exact Alike.enter _ _ _ { parser with intermediates := _ } (by decide) _
    · exact ⟨rfl, rfl⟩
  repeat' split
  all_goals first | exact Alike.enter _ _ _ parser (by decide) _ | exact Alike.keep _ _ _ silent _

theorem Alike.feedEscapeIntermediate (silent : Silent parser.state) (byte : UInt8) :
    Alike ((parser.withString stringBuffer stringTruncated dcsFinal).feedEscapeIntermediate byte)
      (parser.feedEscapeIntermediate byte) := by
  unfold Parser.feedEscapeIntermediate
  have hintermediates :
      (parser.withString stringBuffer stringTruncated dcsFinal).intermediates =
        parser.intermediates := rfl
  rw [hintermediates]
  split
  · exact Alike.keep _ _ _ silent _
  split
  · split
    · exact @Alike.keep { parser with intermediates := parser.intermediates ++ [byte] } _ _ _
        silent _
    · exact Alike.keep _ _ _ silent _
  split
  · exact Alike.enter _ _ _ parser (by decide) _
  · exact Alike.keep _ _ _ silent _

theorem Alike.feedParam {entry param intermediate ignore : ParserState} (byte : UInt8)
    {one other : Parser × List Event} (completed : Alike one other)
    (params : Silent param) (intermediates : Silent intermediate) (ignored : Silent ignore) :
    Alike ((parser.withString stringBuffer stringTruncated dcsFinal).feedParam entry param
        intermediate ignore byte one).value
      (parser.feedParam entry param intermediate ignore byte other).value := by
  unfold Parser.feedParam
  have hparams : (parser.withString stringBuffer stringTruncated dcsFinal).params =
      parser.params := rfl
  have hstate : (parser.withString stringBuffer stringTruncated dcsFinal).state =
      parser.state := rfl
  rw [hparams, hstate]
  simp only [value_ite, value_bind, value_pure]
  split
  · exact @Alike.keep { parser with params := _, state := param } _ _ _ params _
  split
  · exact @Alike.keep { parser with params := _, state := param } _ _ _ params _
  split
  · exact @Alike.keep { parser with params := _, state := param } _ _ _ params _
  split
  · split
    · exact @Alike.keep { parser with params := _, state := param } _ _ _ params _
    · exact @Alike.keep { parser with state := ignore } _ _ _ ignored _
  split
  · exact @Alike.keep { parser with params := _, state := intermediate } _ _ _ intermediates _
  split
  · exact completed
  · exact @Alike.keep { parser with state := ignore } _ _ _ ignored _

theorem Alike.completeCsi (parser : Parser) (byte : UInt8) :
    Alike ((parser.withString stringBuffer stringTruncated dcsFinal).completeCsi byte)
      (parser.completeCsi byte) :=
  Alike.enter _ _ _ parser (by decide) _

theorem Alike.completeDcs (parser : Parser) (byte : UInt8) :
    Alike ((parser.withString stringBuffer stringTruncated dcsFinal).completeDcs byte)
      (parser.completeDcs byte) := ⟨rfl, rfl⟩

section

variable (silent : Silent parser.state)
include silent

theorem Alike.feedCsiIntermediate (byte : UInt8) :
    Alike ((parser.withString stringBuffer stringTruncated dcsFinal).feedCsiIntermediate byte)
      (parser.feedCsiIntermediate byte) := by
  unfold Parser.feedCsiIntermediate
  split
  · exact Alike.keep _ _ _ silent _
  split
  · exact @Alike.keep { parser with params := parser.params.pushIntermediate byte } _ _ _ silent _
  split
  · exact Alike.completeCsi _ _ _ parser byte
  · have hignore : Silent .csiIgnore := by decide
    exact @Alike.keep { parser with state := .csiIgnore } _ _ _ hignore _

theorem Alike.feedCsiIgnore (byte : UInt8) :
    Alike ((parser.withString stringBuffer stringTruncated dcsFinal).feedCsiIgnore byte)
      (parser.feedCsiIgnore byte) := by
  unfold Parser.feedCsiIgnore
  split
  · exact Alike.keep _ _ _ silent _
  split
  · exact Alike.enter _ _ _ parser (by decide) _
  · exact Alike.keep _ _ _ silent _

theorem Alike.feedDcsIntermediate (byte : UInt8) :
    Alike ((parser.withString stringBuffer stringTruncated dcsFinal).feedDcsIntermediate byte)
      (parser.feedDcsIntermediate byte) := by
  unfold Parser.feedDcsIntermediate
  split
  · exact @Alike.keep { parser with params := parser.params.pushIntermediate byte } _ _ _ silent _
  split
  · exact Alike.completeDcs _ _ _ parser byte
  split
  · have hignore : Silent .dcsIgnore := by decide
    exact @Alike.keep { parser with state := .dcsIgnore } _ _ _ hignore _
  · exact Alike.keep _ _ _ silent _

theorem Alike.feedDiscarded (belEnds : Bool) (byte : UInt8) :
    Alike ((parser.withString stringBuffer stringTruncated dcsFinal).feedDiscarded belEnds byte)
      (parser.feedDiscarded belEnds byte) := by
  unfold Parser.feedDiscarded
  repeat' split
  all_goals first | exact Alike.enter _ _ _ parser (by decide) _ | exact Alike.keep _ _ _ silent _

end

theorem Alike.handleControl (dcs : parser.state ≠ .dcsPassthrough) (byte : UInt8) :
    ((parser.withString stringBuffer stringTruncated dcsFinal).handleControl byte = none ∧
      parser.handleControl byte = none) ∨
    ∃ one other, (parser.withString stringBuffer stringTruncated dcsFinal).handleControl byte =
      some one ∧ parser.handleControl byte = some other ∧ Alike one other := by
  unfold Parser.handleControl
  split
  · exact .inr ⟨_, _, rfl, rfl, Alike.abandon _ _ _ dcs (by decide)⟩
  split
  · exact .inr ⟨_, _, rfl, rfl, Alike.abandon _ _ _ dcs (by decide)⟩
  · exact .inl ⟨rfl, rfl⟩

theorem Alike.feedByte (silent : Silent parser.state) (byte : UInt8) :
    Alike ((parser.withString stringBuffer stringTruncated dcsFinal).feedByte byte).value
      (parser.feedByte byte).value := by
  have hstate : (parser.withString stringBuffer stringTruncated dcsFinal).state =
      parser.state := rfl
  unfold Parser.feedByte
  rw [hstate]
  split
  case h_1 hground => exact Alike.groundLook _ _ _ hground 2 byte
  case h_2 hosc => exact absurd hosc silent.1
  case h_3 => exact Alike.feedDiscarded _ _ _ silent true byte
  case h_4 hdcs => exact absurd hdcs silent.2
  case h_5 => exact Alike.feedDiscarded _ _ _ silent false byte
  rcases Alike.handleControl stringBuffer stringTruncated dcsFinal silent.2 byte with
    ⟨hone, hother⟩ | ⟨one, other, hone, hother, halike⟩
  · rw [hone, hother]
    dsimp only
    split
    case h_1 => exact Alike.feedEscape _ _ _ silent byte
    case h_2 => exact Alike.feedEscapeIntermediate _ _ _ silent byte
    case h_3 => exact Alike.feedCsiIntermediate _ _ _ silent byte
    case h_4 => exact Alike.feedCsiIgnore _ _ _ silent byte
    case h_5 => exact Alike.feedDcsIntermediate _ _ _ silent byte
    case h_6 | h_7 =>
      rw [value_ite, value_ite]
      split
      · exact Alike.keep _ _ _ silent _
      · exact Alike.feedParam _ _ _ byte (Alike.completeDcs _ _ _ parser byte)
          (by decide) (by decide) (by decide)
    case h_8 =>
      rw [value_ite, value_ite]
      split
      · exact Alike.keep _ _ _ silent _
      · exact Alike.feedParam _ _ _ byte (Alike.completeCsi _ _ _ parser byte)
          (by decide) (by decide) (by decide)
  · rw [hone, hother]
    exact halike

theorem Alike.feedOscString (osc : parser.state = .oscString) (byte : UInt8) :
    Alike ((parser.withString parser.stringBuffer parser.stringTruncated dcsFinal).feedOscString byte)
      (parser.feedOscString byte) := by
  obtain ⟨_, _, _, _, _, _, _, _⟩ := parser
  cases osc
  unfold Parser.feedOscString
  split
  · exact ⟨rfl, rfl⟩
  split
  · exact ⟨rfl, rfl⟩
  split
  · exact ⟨rfl, rfl⟩
  split
  · exact ⟨rfl, rfl⟩
  · refine ⟨?_, rfl⟩
    unfold Parser.collect Parser.withString
    split
    · rfl
    · rfl

theorem alike_current (parser : Parser) (byte : UInt8) :
    Alike (parser.current.feedByte byte).value (parser.feedByte byte).value := by
  by_cases hosc : parser.state = .oscString
  · have hcurrent : parser.current =
        parser.withString parser.stringBuffer parser.stringTruncated 0 := by
      unfold current
      rw [hosc]
    have hfed (other : Parser) (osc : other.state = .oscString) :
        other.feedByte byte = pure (other.feedOscString byte) := by
      unfold Parser.feedByte
      rw [osc]
    rw [hcurrent, hfed (parser.withString _ _ 0) hosc, hfed parser hosc]
    exact Alike.feedOscString 0 hosc byte
  by_cases hdcs : parser.state = .dcsPassthrough
  · have hcurrent : parser.current = parser := by
      unfold current
      rw [hdcs]
    rw [hcurrent]
    exact .refl _
  · have hcurrent : parser.current = parser.withString [] false 0 := by
      obtain ⟨_, state, _, _, _, _, _, _⟩ := parser
      cases state with
      | oscString => exact absurd rfl hosc
      | dcsPassthrough => exact absurd rfl hdcs
      | _ => rfl
    rw [hcurrent]
    exact Alike.feedByte _ _ _ ⟨hosc, hdcs⟩ byte

theorem alike_feedByte {one other : Parser} (alike : one.current = other.current) (byte : UInt8) :
    Alike (one.feedByte byte).value (other.feedByte byte).value := by
  have hone := alike_current one byte
  have hother := alike_current other byte
  rw [alike] at hone
  exact ⟨hone.parser.symm.trans hother.parser, hone.events.symm.trans hother.events⟩

theorem alike_feed {one other : Parser} (alike : one.current = other.current) (bytes : Bytes) :
    Alike (feed bytes one).value (feed bytes other).value := by
  induction bytes generalizing one other with
  | nil => exact ⟨alike, rfl⟩
  | cons byte rest ih =>
    have hbyte := alike_feedByte alike byte
    have hrest := ih hbyte.parser
    exact ⟨hrest.parser, congrArg₂ (· ++ ·) hbyte.events hrest.events⟩

theorem current_escape (settled : parser.Settled) : (parser.feedByte 0x1B).value.1.current =
      { maxStringBytes := parser.maxStringBytes, state := .escape } := by
  by_cases hground : parser.state = .ground
  · have hempty := decoder_flush settled.whole
    have hfed : (parser.feedByte 0x1B).value.1 = parser.flushUtf8.1.enterState .escape := by
      unfold Parser.feedByte
      rw [hground]
      rfl
    have hflushed : parser.flushUtf8.1 = { parser with decoder := {} } :=
      congrArg (fun decoder => ({ parser with decoder } : Parser)) hempty
    rw [hfed, hflushed]
    rfl
  · have hempty := settled.ground hground
    obtain ⟨_, state, _, _, _, _, _, decoder⟩ := parser
    cases hempty
    cases state with
    | ground => exact absurd rfl hground
    | _ => rfl

end Parser

/-- After an ESC, what is reported depends only on the limit and on the bytes that follow; and
outside the ground state no text is in progress. -/
theorem resynchronised {one other : Parser} (first : one.Reachable) (second : other.Reachable)
    (limits : one.maxStringBytes = other.maxStringBytes) (bytes : Bytes) :
    (Parser.feed bytes (one.feedByte 0x1B).value.1).value.2 =
        (Parser.feed bytes (other.feedByte 0x1B).value.1).value.2 ∧
      (one.state ≠ .ground → one.decoder = {}) := by
  refine ⟨?_, first.settled.ground⟩
  have hescaped : (one.feedByte 0x1B).value.1.current = (other.feedByte 0x1B).value.1.current := by
    rw [Parser.current_escape first.settled, Parser.current_escape second.settled, limits]
  exact (Parser.alike_feed hescaped bytes).events

/-- An unfinished OSC and an unfinished character, then the same device control string. -/
theorem resynchronised_string : (Parser.feed [0x50, 0x31, 0x71, 0x41, 0x07]
        ((Parser.feed [0x1B, 0x5D, 0x42, 0x43] {}).value.1.feedByte 0x1B).value.1).value.2 =
      (Parser.feed [0x50, 0x31, 0x71, 0x41, 0x07]
        ((Parser.feed [0x41, 0xE2, 0x82] {}).value.1.feedByte 0x1B).value.1).value.2 ∧
      ((Parser.feed [0x1B, 0x5D, 0x42, 0x43] {}).value.1.state ≠ .ground →
        (Parser.feed [0x1B, 0x5D, 0x42, 0x43] {}).value.1.decoder = {}) :=
  resynchronised (.feed .new [0x1B, 0x5D, 0x42, 0x43]) (.feed .new [0x41, 0xE2, 0x82]) rfl
    [0x50, 0x31, 0x71, 0x41, 0x07]

end Hypeterm.Term

import Hypeterm.Library.Runs
import Hypeterm.Android.WebSocket

/-! Resuming a read.  `ReadMessage` keeps the fragments it has and the header it has
consumed in local variables, so a timeout loses nothing only where it holds neither: before
the first two bytes of a frame, with no message begun. -/
namespace Hypeterm.Android

open Library List Reader

theorem headerByte_flags (fin : Bool) (opcode : Opcode) :
    headerByte fin opcode &&& 0x70 = 0 ∧ headerByte fin opcode &&& 0x0F = opcode.code ∧
      (headerByte fin opcode &&& 0x80 ≠ 0 ↔ fin = true) := by
  cases fin <;> cases opcode <;> decide

theorem shortLength_flags {length : Nat} (short : length < 126) :
    UInt8.ofNat length &&& 0x80 = 0 ∧ (UInt8.ofNat length &&& 0x7F).toNat = length := by
  revert length
  decide

theorem Opcode.code_inj {first second : Opcode} : first.code = second.code ↔ first = second := by
  cases first <;> cases second <;> decide

namespace ServerFrame

theorem extendedLength_eq (frame : ServerFrame) (extended : frame.form ≠ .short) :
    fromBeBytes frame.extendedLength = frame.payload.length := by
  have hfits := frame.fits
  unfold extendedLength
  cases hform : frame.form with
  | short => exact absurd hform extended
  | medium =>
    rw [hform] at hfits
    exact fromBeBytes_toBeBytes (Nat.lt_of_lt_of_eq hfits (by decide))
  | long =>
    rw [hform] at hfits
    exact fromBeBytes_toBeBytes (Nat.lt_of_lt_of_eq hfits (by decide))

theorem two_le_length_encode (frame : ServerFrame) : 2 ≤ frame.encode.length := by
  simp [encode]

end ServerFrame

theorem encodeFrames_cons (frame : ServerFrame) (rest : List ServerFrame) :
    encodeFrames (frame :: rest) = frame.encode ++ encodeFrames rest :=
  flatMap_cons

/-- The local variables hold the fragments of the message that has begun, if one has. -/
def Locals.Hold (locals : Locals) : Option Fragments → Prop
  | none => locals.inMessage = false
  | some fragments => locals = ⟨fragments.payload, fragments.opcode.code, true⟩ ∧
      (fragments.opcode = .text ∨ fragments.opcode = .binary)

/-- The messages still owed are those of the frames that have not been consumed. -/
structure Owing (options : WebSocketOptions) (messages returned : List WebSocketMessage)
    (begun : Option Fragments) (frames : List ServerFrame) : Prop where
  wellFormed : WellFormed options begun frames
  messages_eq : messages = returned ++ assemble begun frames

def Owes (options : WebSocketOptions) (messages returned : List WebSocketMessage) (left : Bytes) :
    ReadPhase → Prop
  | .idle => ∃ rest, Owing options messages returned none rest ∧ left = encodeFrames rest
  | .header locals | .ponging locals _ => ∃ begun rest, locals.Hold begun ∧
      Owing options messages returned begun rest ∧ left = encodeFrames rest
  | .extended locals fin opcode width => ∃ begun frame rest, locals.Hold begun ∧
      Owing options messages returned begun (frame :: rest) ∧ fin = frame.fin ∧
      opcode = frame.opcode.code ∧ frame.form ≠ .short ∧ width = frame.extendedLength.length ∧
      left = frame.extendedLength ++ (frame.payload ++ encodeFrames rest)
  | .body locals fin opcode length => ∃ begun frame rest, locals.Hold begun ∧
      Owing options messages returned begun (frame :: rest) ∧ fin = frame.fin ∧
      opcode = frame.opcode.code ∧ length = frame.payload.length ∧
      left = frame.payload ++ encodeFrames rest
  | .closed => messages = returned
  | .failed _ => False

/-- The bytes that are buffered and those on the way are one. -/
def Resumable (options : WebSocketOptions) (messages : List WebSocketMessage) (reader : Reader) : Prop :=
  Owes options messages reader.returned (reader.buffer ++ reader.stream) reader.phase

variable {options : WebSocketOptions} {messages : List WebSocketMessage} {reader next : Reader}
  {begun : Option Fragments} {frame : ServerFrame} {rest : List ServerFrame} {locals : Locals}

theorem endFrame_resumable (fragments : Fragments)
    (data_eq : fragments.opcode = .text ∨ fragments.opcode = .binary) (fin : Bool)
    (left : reader.buffer ++ reader.stream = encodeFrames rest)
    (wellFormed : if fin then WellFormed options none rest
      else fragments.payload.length ≤ options.maxMessageBytes ∧
        WellFormed options (some fragments) rest)
    (messages_eq : messages = reader.returned ++
      if fin then fragments.message :: assemble none rest else assemble (some fragments) rest) :
    Resumable options messages
      (reader.endFrame options ⟨fragments.payload, fragments.opcode.code, true⟩ fin) := by
  unfold endFrame
  cases fin with
  | true =>
    simp only [if_true] at wellFormed messages_eq ⊢
    refine ⟨rest, ⟨wellFormed, ?_⟩, left⟩
    rw [messages_eq, returnMessage, append_assoc]
    rcases data_eq with htext | hbinary
    · simp [Fragments.message, htext]
    · simp [Fragments.message, hbinary, Opcode.code]
  | false =>
    simp only [Bool.false_eq_true, if_false] at wellFormed messages_eq ⊢
    rw [if_neg (Nat.not_lt.mpr wellFormed.1)]
    exact ⟨some fragments, rest, ⟨rfl, data_eq⟩, ⟨wellFormed.2, messages_eq⟩, left⟩

section

variable (hold : locals.Hold begun)
  (owing : Owing options messages reader.returned begun (frame :: rest))
include hold owing

theorem takeFrame_resumable (left : reader.buffer ++ reader.stream = encodeFrames rest) :
    Resumable options messages
      (reader.takeFrame options locals frame.fin frame.opcode.code frame.payload) := by
  obtain ⟨hformed, hmessages⟩ := owing
  unfold WellFormed at hformed
  unfold assemble at hmessages
  unfold takeFrame
  simp only [Opcode.code_inj]
  cases hopcode : frame.opcode with
  | ping =>
    simp only [hopcode] at hformed hmessages
    exact ⟨begun, rest, hold, ⟨hformed.2.2.2, hmessages⟩, left⟩
  | pong =>
    simp only [hopcode] at hformed hmessages
    exact ⟨begun, rest, hold, ⟨hformed.2.2.2, hmessages⟩, left⟩
  | close =>
    simp only [hopcode] at hmessages
    exact hmessages
  | text =>
    simp only [hopcode] at hformed hmessages
    obtain ⟨-, rfl, hformed⟩ := hformed
    simp only [show locals.inMessage = false from hold]
    exact endFrame_resumable ⟨.text, frame.payload⟩ (.inl rfl) frame.fin left hformed hmessages
  | binary =>
    simp only [hopcode] at hformed hmessages
    obtain ⟨-, rfl, hformed⟩ := hformed
    simp only [show locals.inMessage = false from hold]
    exact endFrame_resumable ⟨.binary, frame.payload⟩ (.inr rfl) frame.fin left hformed hmessages
  | continuation =>
    simp only [hopcode] at hformed hmessages
    cases hbegun : begun with
    | none =>
      rw [hbegun] at hformed
      exact hformed.2.elim
    | some earlier =>
      rw [hbegun] at hformed hmessages hold
      obtain ⟨rfl, hdata⟩ := hold
      obtain ⟨-, hlimit, hformed⟩ := hformed
      rw [length_append] at hlimit
      simp only [Bool.not_true, Bool.false_eq_true, if_false, if_neg (Nat.not_lt.mpr hlimit)]
      refine endFrame_resumable ⟨earlier.opcode, earlier.payload ++ frame.payload⟩ hdata frame.fin left
        ?_ hmessages
      split
      · rename_i hfin
        rwa [if_pos hfin] at hformed
      · rename_i hfin
        rw [if_neg hfin] at hformed
        exact ⟨by rwa [length_append], hformed⟩

/-- `ReadFrame` finds nothing wrong with the length of a well-formed frame. -/
theorem takeLength_resumable
    (left : reader.buffer ++ reader.stream = frame.payload ++ encodeFrames rest) :
    Resumable options messages
      (reader.takeLength options locals frame.fin frame.opcode.code frame.payload.length) := by
  have hformed := owing.wellFormed
  unfold WellFormed at hformed
  have hcontrol : frame.opcode.code &&& 0x08 ≠ 0 → frame.payload.length ≤ 125 ∧ frame.fin = true := by
    cases hopcode : frame.opcode with
    | ping | pong =>
      simp only [hopcode] at hformed
      exact fun _ => ⟨hformed.2.1, hformed.2.2.1⟩
    | close =>
      simp only [hopcode] at hformed
      exact fun _ => hformed.2
    | text | binary | continuation => exact fun h => absurd rfl h
  unfold takeLength
  rw [if_neg (Nat.not_lt.mpr hformed.1), if_neg, if_neg]
  · split
    · exact ⟨begun, frame, rest, hold, owing, rfl, rfl, rfl, left⟩
    · rename_i hempty
      have hpayload : frame.payload = [] := length_eq_zero_iff.mp (Nat.eq_zero_of_not_pos hempty)
      rw [hpayload, nil_append] at left
      have htaken := takeFrame_resumable hold owing left
      rwa [hpayload] at htaken
  · rintro ⟨hbit, hfin⟩
    rw [(hcontrol hbit).2] at hfin
    cases hfin
  · rintro ⟨hbit, hlong⟩
    exact absurd hlong (Nat.not_lt.mpr (hcontrol hbit).1)

theorem takeHeader_resumable (left : reader.buffer ++ reader.stream =
      frame.extendedLength ++ (frame.payload ++ encodeFrames rest)) :
    Resumable options messages
      (reader.takeHeader options locals (headerByte frame.fin frame.opcode) frame.lengthByte) := by
  obtain ⟨hreserved, hopcode, hfin⟩ := headerByte_flags frame.fin frame.opcode
  unfold takeHeader
  simp only [hreserved, hopcode, hfin, ne_eq, not_true, if_false, Bool.decide_eq_true]
  have hfits := frame.fits
  cases hform : frame.form with
  | short =>
    rw [hform] at hfits
    have hbyte : frame.lengthByte = UInt8.ofNat frame.payload.length := by
      rw [ServerFrame.lengthByte, hform]
    have hextended : frame.extendedLength = [] := by rw [ServerFrame.extendedLength, hform]
    obtain ⟨hmask, hlength⟩ := shortLength_flags hfits
    have hneither : ∀ marker : UInt8, 126 ≤ marker.toNat →
        ¬ frame.lengthByte &&& 0x7F = marker := by
      intro marker hmarker heq
      rw [hbyte] at heq
      have : frame.payload.length < 126 := hfits
      rw [heq] at hlength
      omega
    rw [hextended, nil_append] at left
    rw [if_neg (hneither 126 (by decide)), if_neg (hneither 127 (by decide)), hbyte, hlength,
      if_neg (by rw [hmask]; exact not_not.mpr rfl)]
    exact takeLength_resumable hold owing left
  | medium =>
    have hbyte : frame.lengthByte = 126 := by rw [ServerFrame.lengthByte, hform]
    have hwidth : frame.extendedLength.length = 2 := by
      rw [ServerFrame.extendedLength, hform]
      exact length_toBeBytes 2 _
    rw [hbyte, if_neg (by decide), if_pos (by decide)]
    exact ⟨begun, frame, rest, hold, owing, rfl, rfl, by rw [hform]; decide, hwidth.symm, left⟩
  | long =>
    have hbyte : frame.lengthByte = 127 := by rw [ServerFrame.lengthByte, hform]
    have hwidth : frame.extendedLength.length = 8 := by
      rw [ServerFrame.extendedLength, hform]
      exact length_toBeBytes 8 _
    rw [hbyte, if_neg (by decide), if_neg (by decide), if_pos (by decide)]
    exact ⟨begun, frame, rest, hold, owing, rfl, rfl, by rw [hform]; decide, hwidth.symm, left⟩

end

theorem split_left {buffer stream first others : Bytes} {count : Nat}
    (left : buffer ++ stream = first ++ others) (length_eq : count = first.length)
    (room : count ≤ buffer.length) :
    buffer.take count = first ∧ buffer.drop count ++ stream = others := by
  subst length_eq
  have htake := congrArg (List.take first.length) left
  have hdrop := congrArg (List.drop first.length) left
  rw [take_append_of_le_length room, take_left] at htake
  rw [drop_append_of_le_length room, drop_left] at hdrop
  exact ⟨htake, hdrop⟩

theorem proceed_resumable (resumable : Resumable options messages reader)
    (taken : reader.proceed options = some next) : Resumable options messages next := by
  unfold Resumable at resumable
  unfold Reader.proceed at taken
  split at taken
  · rename_i locals hphase
    rw [hphase] at resumable
    obtain ⟨begun, frames, hold, howing, hleft⟩ := resumable
    split at taken
    · rename_i byte0 byte1 buffer hbuffer
      cases taken
      cases frames with
      | nil =>
        rw [hbuffer] at hleft
        simp [encodeFrames] at hleft
      | cons frame rest =>
        rw [hbuffer, encodeFrames_cons, ServerFrame.encode] at hleft
        simp only [cons_append, List.cons.injEq, append_assoc] at hleft
        obtain ⟨rfl, rfl, hleft⟩ := hleft
        exact takeHeader_resumable hold howing hleft
    · cases taken
  · rename_i locals fin opcode width hphase
    rw [hphase] at resumable
    obtain ⟨begun, frame, rest, hold, howing, rfl, rfl, hform, hwidth, hleft⟩ := resumable
    split at taken
    · rename_i hroom
      cases taken
      obtain ⟨htake, hdrop⟩ := split_left hleft hwidth hroom
      rw [htake, frame.extendedLength_eq hform]
      exact takeLength_resumable hold howing hdrop
    · cases taken
  · rename_i locals fin opcode length hphase
    rw [hphase] at resumable
    obtain ⟨begun, frame, rest, hold, howing, rfl, rfl, hlength, hleft⟩ := resumable
    split at taken
    · rename_i hroom
      cases taken
      obtain ⟨htake, hdrop⟩ := split_left hleft hlength hroom
      rw [htake]
      exact takeFrame_resumable hold howing hdrop
    · cases taken
  · cases taken
  · cases taken
  · cases taken
  · cases taken

theorem read_resumable (resumable : Resumable options messages reader) (count : Nat) :
    Resumable options messages
      { reader with
        stream := reader.stream.drop count
        buffer := reader.buffer ++ reader.stream.take count } := by
  unfold Resumable at resumable ⊢
  simp only [append_assoc, take_append_drop]
  exact resumable

/-- `ReadMessage` is left only before the first two bytes of a frame and with no message
begun. -/
def leavesBetween (reader : Reader) : ReadAction → Bool
  | .timeout =>
      match reader.phase with
      | .header locals => !locals.inMessage
      | _ => false
  | .pongSent false =>
      match reader.phase with
      | .ponging locals _ => !locals.inMessage
      | _ => true
  | _ => true

theorem Locals.Hold.none_of_between (hold : locals.Hold begun)
    (between : (!locals.inMessage) = true) : begun = none := by
  cases begun with
  | none => rfl
  | some fragments =>
    rw [hold.1] at between
    cases between

theorem step_resumable {action : ReadAction} (resumable : Resumable options messages reader)
    (allowed : leavesBetween reader action = true) (taken : reader.step options action = some next) :
    Resumable options messages next := by
  cases action with
  | call =>
    simp only [step] at taken
    split at taken
    · rename_i hphase
      cases taken
      unfold Resumable at resumable
      rw [hphase] at resumable
      obtain ⟨rest, howing, hleft⟩ := resumable
      exact ⟨none, rest, rfl, howing, hleft⟩
    · cases taken
  | read count =>
    simp only [step] at taken
    split at taken
    · cases taken
      exact read_resumable resumable count
    · cases taken
  | timeout =>
    simp only [step] at taken
    split at taken
    · cases taken
      simp only [leavesBetween] at allowed
      split at allowed
      · rename_i locals hphase
        unfold Resumable at resumable
        rw [hphase] at resumable
        obtain ⟨begun, rest, hold, howing, hleft⟩ := resumable
        obtain rfl := hold.none_of_between allowed
        exact ⟨rest, howing, hleft⟩
      · cases allowed
    · cases taken
  | proceed => exact proceed_resumable resumable taken
  | pongSent sent =>
    simp only [step] at taken
    split at taken
    · rename_i locals payload hphase
      cases taken
      unfold Resumable at resumable
      rw [hphase] at resumable
      obtain ⟨begun, rest, hold, howing, hleft⟩ := resumable
      cases sent with
      | true => exact ⟨begun, rest, hold, howing, hleft⟩
      | false =>
        simp only [leavesBetween, hphase] at allowed
        obtain rfl := hold.none_of_between allowed
        exact ⟨rest, howing, hleft⟩
    · cases taken

/-- The messages returned are those of the stream, in order: never another one, and all of
them once a read finds nothing more to come. -/
structure Resumed (frames : List ServerFrame) (reader : Reader) : Prop where
  sound : ∀ error, reader.phase ≠ .failed error
  returned : reader.returned <+: messagesOf frames
  complete : reader.waiting = true ∧ reader.stream = [] ∨ reader.phase = .closed →
    reader.returned = messagesOf frames

theorem Owing.returned_prefix {returned : List WebSocketMessage} {frames : List ServerFrame}
    (owing : Owing options messages returned begun frames) : returned <+: messages :=
  ⟨_, owing.messages_eq.symm⟩

theorem Resumable.returned_prefix (resumable : Resumable options messages reader) :
    reader.returned <+: messages := by
  unfold Resumable at resumable
  cases hphase : reader.phase with
  | idle =>
    rw [hphase] at resumable
    obtain ⟨rest, howing, -⟩ := resumable
    exact howing.returned_prefix
  | header locals | ponging locals payload =>
    rw [hphase] at resumable
    obtain ⟨begun, rest, -, howing, -⟩ := resumable
    exact howing.returned_prefix
  | extended locals fin opcode width | body locals fin opcode length =>
    rw [hphase] at resumable
    obtain ⟨begun, frame, rest, -, howing, -⟩ := resumable
    exact howing.returned_prefix
  | closed =>
    rw [hphase] at resumable
    have hsame : messages = reader.returned := resumable
    exact ⟨[], by rw [append_nil, hsame]⟩
  | failed error =>
    rw [hphase] at resumable
    exact resumable.elim

theorem Resumable.complete (resumable : Resumable options messages reader)
    (waiting : reader.waiting = true) (drained : reader.stream = []) : reader.returned = messages := by
  unfold Resumable at resumable
  unfold Reader.waiting wanted at waiting
  rw [drained, append_nil] at resumable
  cases hphase : reader.phase with
  | header locals =>
    simp only [hphase, decide_eq_true_eq] at waiting
    rw [hphase] at resumable
    obtain ⟨begun, frames, -, howing, hleft⟩ := resumable
    cases frames with
    | nil => simp [howing.messages_eq, assemble]
    | cons frame rest =>
      rw [hleft, encodeFrames_cons, length_append] at waiting
      have := frame.two_le_length_encode
      omega
  | extended locals fin opcode width =>
    simp only [hphase, decide_eq_true_eq] at waiting
    rw [hphase] at resumable
    obtain ⟨begun, frame, rest, -, -, -, -, -, hwidth, hleft⟩ := resumable
    rw [hleft, length_append, hwidth] at waiting
    omega
  | body locals fin opcode length =>
    simp only [hphase, decide_eq_true_eq] at waiting
    rw [hphase] at resumable
    obtain ⟨begun, frame, rest, -, -, -, -, hlength, hleft⟩ := resumable
    rw [hleft, length_append, hlength] at waiting
    omega
  | idle | ponging locals payload | closed | failed error =>
    simp [hphase] at waiting

/-- In every run that leaves `ReadMessage` only between messages and frames, what it
returns is what the server's frames carry, however the stream is cut into reads. -/
theorem messages_resumed {frames : List ServerFrame} {actions : List ReadAction}
    (formed : WellFormed options none frames)
    (taken : run (restrict (step options) fun reader action =>
      leavesBetween reader action = true) (initial (encodeFrames frames)) actions =
        some reader) : Resumed frames reader := by
  have hkept : ∀ state action after, Resumable options (messagesOf frames) state →
      leavesBetween state action = true → step options state action = some after →
        Resumable options (messagesOf frames) after :=
    fun _ _ _ resumable allowed hstep => step_resumable resumable allowed hstep
  have hstart : Resumable options (messagesOf frames) (initial (encodeFrames frames)) :=
    ⟨frames, ⟨formed, rfl⟩, rfl⟩
  have hend := restrict_invariant hkept hstart taken
  refine ⟨?_, hend.returned_prefix, ?_⟩
  · intro error hphase
    unfold Resumable at hend
    rw [hphase] at hend
    exact hend
  · rintro (⟨hwaiting, hdrained⟩ | hclosed)
    · exact hend.complete hwaiting hdrained
    · unfold Resumable at hend
      rw [hclosed] at hend
      exact hend.symm

/-- A text in two fragments with a ping between them, and a binary message. -/
def sampleFrames : List ServerFrame :=
  [⟨false, .text, [0x68], .short, by decide⟩, ⟨true, .ping, [], .short, by decide⟩,
    ⟨true, .continuation, [0x69], .short, by decide⟩, ⟨true, .binary, [0x01], .medium, by decide⟩]

/-- The stream in reads of three bytes and more; the read times out with one byte of the
binary message's header buffered, and is resumed. -/
def resumedActions : List ReadAction :=
  [.call, .read 3, .proceed, .proceed, .read 3, .proceed, .pongSent true, .read 3, .proceed,
    .proceed, .call, .timeout, .call, .read 4, .proceed, .proceed, .proceed, .call]

theorem messages_resumed_in_sampleFrames :
    ∃ reader, run (restrict (step ⟨16, 16⟩) fun reader action =>
        leavesBetween reader action = true) (initial (encodeFrames sampleFrames))
          resumedActions = some reader ∧
      reader.returned = [.text [0x68, 0x69], .binary [0x01]] ∧ Resumed sampleFrames reader := by
  obtain ⟨reader, hrun, hreturned⟩ : ∃ reader,
      run (restrict (step ⟨16, 16⟩) fun reader action =>
        leavesBetween reader action = true) (initial (encodeFrames sampleFrames))
          resumedActions = some reader ∧
      reader.returned = [.text [0x68, 0x69], .binary [0x01]] := ⟨_, rfl, by decide⟩
  have hformed : WellFormed ⟨16, 16⟩ none sampleFrames := by
    simp [sampleFrames, WellFormed]
  exact ⟨reader, hrun, hreturned, messages_resumed hformed hrun⟩

/-- One text message whose header is read before the timeout and whose payload after it. -/
def cutFrame : List ServerFrame := [⟨true, .text, [0x68, 0x69], .short, by decide⟩]

def cutActions : List ReadAction :=
  [.call, .read 2, .proceed, .timeout, .call, .read 2, .proceed]

/-- The payload is taken for a header. -/
theorem timeout_loses_the_header :
    ¬ ∀ (options : WebSocketOptions) (frames : List ServerFrame) (actions : List ReadAction)
      (reader : Reader), WellFormed options none frames →
        run (step options) (initial (encodeFrames frames)) actions = some reader →
          Resumed frames reader := by
  intro claim
  have hformed : WellFormed ⟨16, 16⟩ none cutFrame := by
    simp [cutFrame, WellFormed]
  have hrun : run (step ⟨16, 16⟩) (initial (encodeFrames cutFrame)) cutActions =
      some ⟨[], [], .failed .reservedBits, []⟩ := by decide
  exact (claim _ _ _ _ hformed hrun).sound .reservedBits rfl

end Hypeterm.Android

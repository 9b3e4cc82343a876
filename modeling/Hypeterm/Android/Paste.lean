import Hypeterm.Library.Utf8Text
import Hypeterm.Types
import Mathlib.Data.List.Infix

/-! Pasted text.  `Normalize` turns line endings into what Enter sends and, outside brackets,
drops control characters; `Prepare` cuts the result into chunks at character boundaries and
puts the bracket markers around them as chunks of their own. -/
namespace Hypeterm.Android

open Library List

namespace Paste

structure Options where
  chunkBytes : Nat
  maxBytes : Nat
  bracketed : Bool
  stripControlsWhenUnbracketed : Bool

def bracketStart : Bytes := [0x1B, 0x5B, 0x32, 0x30, 0x30, 0x7E]

def bracketEnd : Bytes := [0x1B, 0x5B, 0x32, 0x30, 0x31, 0x7E]

def carriageReturn : UInt8 := 0x0D
def lineFeed : UInt8 := 0x0A
def tab : UInt8 := 0x09

def isControl (byte : UInt8) : Bool := byte < 0x20 || byte == 0x7F

def normalizeByte (options : Options) (byte : UInt8) : Bytes :=
  if byte = carriageReturn then [carriageReturn]
  else if byte = lineFeed then [carriageReturn]
  else if byte = tab then [tab]
  else if isControl byte then
    if options.bracketed || !options.stripControlsWhenUnbracketed then [byte] else []
  else [byte]

def normalize (options : Options) : Bytes → Bytes
  | [] => []
  | [byte] => normalizeByte options byte
  | byte :: next :: rest =>
      if byte = carriageReturn ∧ next = lineFeed then
        carriageReturn :: normalize options rest
      else normalizeByte options byte ++ normalize options (next :: rest)

/-- The length of a chunk, backed up to where no character is cut.  `bytes` stands for the
text from `position` on; past its end the string has a NUL. -/
def backUp (bytes : Bytes) : Nat → Nat
  | 0 => 0
  | 1 => 1
  | length + 2 =>
      if isContinuation (bytes.getD (length + 2) 0) then backUp bytes (length + 1)
      else length + 2

def chunkLength (chunkBytes : Nat) (bytes : Bytes) : Nat :=
  if bytes.length < chunkBytes then bytes.length else backUp bytes chunkBytes

/-- The loop over the normalised text.  Each turn takes at least a byte, so the length of the
text is fuel enough. -/
def split (chunkBytes : Nat) : Nat → Bytes → List Bytes
  | 0, _ => []
  | fuel + 1, bytes =>
      if bytes.isEmpty then []
      else
        bytes.take (chunkLength chunkBytes bytes) ::
          split chunkBytes fuel (bytes.drop (chunkLength chunkBytes bytes))

def Options.chunkSize (options : Options) : Nat :=
  if options.chunkBytes = 0 then 4096 else options.chunkBytes

/-- The chunks, and whether the text was too large. -/
def prepare (options : Options) (text : Bytes) : List Bytes × Bool :=
  if text.isEmpty then ([], false)
  else if options.maxBytes < text.length then ([], true)
  else
    let normalized := normalize options text
    if normalized.isEmpty then ([], false)
    else
      let pieces := split options.chunkSize normalized.length normalized
      if options.bracketed then (bracketStart :: (pieces ++ [bracketEnd]), false)
      else (pieces, false)

variable {options : Options} {text : Bytes} {byte : UInt8} {chunkBytes : Nat}

theorem normalize_cons (options : Options) (byte : UInt8) (rest : Bytes)
    (single : ¬ (byte = carriageReturn ∧ rest.head? = some lineFeed)) :
    normalize options (byte :: rest) = normalizeByte options byte ++ normalize options rest := by
  cases rest with
  | nil => simp only [normalize, append_nil]
  | cons next rest =>
    rw [normalize, if_neg]
    rintro ⟨rfl, rfl⟩
    exact single ⟨rfl, rfl⟩

theorem normalize_crlf (options : Options) (rest : Bytes) :
    normalize options (carriageReturn :: lineFeed :: rest) =
      carriageReturn :: normalize options rest := by
  rw [normalize, if_pos ⟨rfl, rfl⟩]

theorem normalize_induction {motive : Bytes → Prop} (nil : motive [])
    (crlf : ∀ rest, motive rest → motive (carriageReturn :: lineFeed :: rest))
    (single : ∀ byte rest, ¬ (byte = carriageReturn ∧ rest.head? = some lineFeed) →
      motive rest → motive (byte :: rest)) (text : Bytes) : motive text := by
  induction text using normalize.induct with
  | case1 => exact nil
  | case2 byte => exact single byte [] (by simp) nil
  | case3 byte next rest hcrlf ih =>
    obtain ⟨rfl, rfl⟩ := hcrlf
    exact crlf rest ih
  | case4 byte next rest hsingle ih =>
    apply single byte (next :: rest) _ ih
    simpa using hsingle

/-- A byte that stays as it is when the text is bracketed. -/
def keeps (byte : UInt8) : Prop := byte ≠ carriageReturn ∧ byte ≠ lineFeed

theorem normalizeByte_keeps (bracketed : options.bracketed = true)
    (kept : keeps byte) : normalizeByte options byte = [byte] := by
  unfold normalizeByte
  rw [if_neg kept.1, if_neg kept.2]
  simp only [bracketed, Bool.true_or, if_true, ite_self]
  split
  · rename_i htab
    rw [htab]
  · rfl

theorem normalizeByte_breaks (options : Options) (breaks : ¬ keeps byte) :
    normalizeByte options byte = [carriageReturn] := by
  unfold normalizeByte
  unfold keeps at breaks
  by_cases hreturn : byte = carriageReturn
  · rw [if_pos hreturn]
  · by_cases hfeed : byte = lineFeed
    · rw [if_neg hreturn, if_pos hfeed]
    · exact absurd ⟨hreturn, hfeed⟩ breaks

theorem prefix_normalize_iff (bracketed : options.bracketed = true)
    {pattern : Bytes} (plain : ∀ byte ∈ pattern, keeps byte) (text : Bytes) :
    pattern <+: normalize options text ↔ pattern <+: text := by
  induction text using normalize_induction generalizing pattern with
  | nil => rfl
  | crlf rest _ =>
    rw [normalize_crlf]
    cases pattern with
    | nil => simp only [ nil_prefix]
    | cons first pattern =>
      have hfirst := (plain first mem_cons_self).1
      simp only [cons_prefix_cons, hfirst, false_and]
  | single byte rest hsingle ih =>
    rw [normalize_cons _ _ _ hsingle]
    cases pattern with
    | nil => simp only [ nil_prefix]
    | cons first pattern =>
      have hfirst := plain first mem_cons_self
      by_cases hkeeps : keeps byte
      · rw [normalizeByte_keeps bracketed hkeeps, singleton_append]
        rw [cons_prefix_cons, cons_prefix_cons]
        rw [ih fun other member => plain other (mem_cons_of_mem _ member)]
      · rw [normalizeByte_breaks _ hkeeps, singleton_append]
        rw [cons_prefix_cons, cons_prefix_cons]
        have hbyte : first ≠ byte := fun same => hkeeps (same ▸ hfirst)
        simp only [hfirst.1, hbyte, false_and]

theorem infix_normalize_iff (bracketed : options.bracketed = true)
    {first : UInt8} {pattern : Bytes} (plain : ∀ byte ∈ first :: pattern, keeps byte)
    (text : Bytes) : first :: pattern <:+: normalize options text ↔ first :: pattern <:+: text := by
  induction text using normalize_induction with
  | nil => rfl
  | crlf rest ih =>
    have hfirst := plain first mem_cons_self
    rw [normalize_crlf]
    simp only [infix_cons_iff, cons_prefix_cons, hfirst.1, hfirst.2, false_and, false_or]
    exact ih
  | single byte rest hsingle ih =>
    have hprefix := prefix_normalize_iff bracketed plain (byte :: rest)
    rw [normalize_cons _ _ _ hsingle] at hprefix ⊢
    obtain ⟨other, hother⟩ : ∃ other, normalizeByte options byte = [other] := by
      by_cases hkeeps : keeps byte
      · exact ⟨byte, normalizeByte_keeps bracketed hkeeps⟩
      · exact ⟨carriageReturn, normalizeByte_breaks _ hkeeps⟩
    rw [hother, singleton_append] at hprefix ⊢
    rw [infix_cons_iff, infix_cons_iff, hprefix, ih]

theorem normalize_stripped (unbracketed : options.bracketed = false)
    (stripping : options.stripControlsWhenUnbracketed = true) (text : Bytes) :
    ∀ byte ∈ normalize options text,
      byte = carriageReturn ∨ byte = tab ∨ isControl byte = false := by
  have hbyte : ∀ byte, ∀ other ∈ normalizeByte options byte,
      other = carriageReturn ∨ other = tab ∨ isControl other = false := by
    intro byte other member
    unfold normalizeByte at member
    simp only [unbracketed, stripping, Bool.not_true, Bool.or_self, Bool.false_eq_true,
      if_false] at member
    split at member
    · exact .inl (mem_singleton.mp member)
    · split at member
      · exact .inl (mem_singleton.mp member)
      · split at member
        · exact .inr (Or.inl (mem_singleton.mp member))
        · split at member
          · cases member
          · rename_i hcontrol
            cases mem_singleton.mp member
            exact .inr (Or.inr (Bool.not_eq_true _ ▸ hcontrol))
  induction text using normalize_induction with
  | nil =>
    intro byte member
    cases member
  | crlf rest ih =>
    rw [normalize_crlf]
    intro byte member
    rcases mem_cons.mp member with rfl | hrest
    · exact .inl rfl
    · exact ih byte hrest
  | single byte rest hsingle ih =>
    rw [normalize_cons _ _ _ hsingle]
    intro other member
    rcases mem_append.mp member with hhead | hrest
    · exact hbyte byte other hhead
    · exact ih other hrest

theorem normalizeByte_high (options : Options) (high : 0x80 ≤ byte) :
    normalizeByte options byte = [byte] ∧ byte ≠ carriageReturn := by
  have hcontrol : byte ≠ carriageReturn ∧ byte ≠ lineFeed ∧ byte ≠ tab ∧
      isControl byte = false := by
    revert byte
    apply forall_uint8
    decide +kernel
  obtain ⟨hreturn, hfeed, htab, hcontrol⟩ := hcontrol
  unfold normalizeByte
  rw [if_neg hreturn, if_neg hfeed, if_neg htab, hcontrol]
  exact ⟨rfl, hreturn⟩

theorem normalize_high (options : Options) (high rest : Bytes) (each : ∀ byte ∈ high, 0x80 ≤ byte) :
    normalize options (high ++ rest) = high ++ normalize options rest := by
  induction high with
  | nil => rfl
  | cons byte high ih =>
    obtain ⟨hbyte, hreturn⟩ := normalizeByte_high options (each byte mem_cons_self)
    rw [cons_append, normalize_cons _ _ _ (fun crlf => hreturn crlf.1), hbyte]
    rw [ih fun other member => each other (mem_cons_of_mem _ member)]
    rfl

theorem normalizeByte_text (options : Options) {c : Char}
    (encoded : String.utf8EncodeChar c = [byte]) :
    ∃ text, normalizeByte options byte = encodeText text := by
  have hreturn : [carriageReturn] = encodeText ['\r'] := by decide
  have htab : [tab] = encodeText ['\t'] := by decide
  have hsame : [byte] = encodeText [c] := by
    rw [encodeText_cons, encoded]
    rfl
  unfold normalizeByte
  split
  · exact ⟨_, hreturn⟩
  · split
    · exact ⟨_, hreturn⟩
    · split
      · exact ⟨_, htab⟩
      · split
        · split
          · exact ⟨_, hsame⟩
          · exact ⟨[], rfl⟩
        · exact ⟨_, hsame⟩

theorem normalize_text (options : Options) (text : List Char) :
    ∃ normal, normalize options (encodeText text) = encodeText normal := by
  induction hlength : text.length using Nat.strong_induction_on generalizing text with
  | _ length ih =>
    subst hlength
    cases text with
    | nil => exact ⟨[], rfl⟩
    | cons c rest =>
      obtain ⟨normal, hnormal⟩ := ih rest.length (Nat.lt_succ_self _) rest rfl
      obtain ⟨lead, tail, hbytes, hlead, htail, hshort⟩ := utf8EncodeChar_shape c
      by_cases hlow : lead < 0x80
      · rw [hshort hlow] at hbytes
        obtain ⟨front, hfront⟩ := normalizeByte_text options hbytes
        rw [encodeText_cons, hbytes, singleton_append]
        by_cases hcrlf : lead = carriageReturn ∧ (encodeText rest).head? = some lineFeed
        · -- the next character is the line feed, and the loop takes both
          obtain ⟨rfl, hfeed⟩ := hcrlf
          cases rest with
          | nil => cases hfeed
          | cons d rest =>
            obtain ⟨next, more, hnext, -, -, hsingle⟩ := utf8EncodeChar_shape d
            rw [encodeText_cons, hnext, cons_append, head?_cons] at hfeed
            cases hfeed
            rw [hsingle (by decide)] at hnext
            obtain ⟨normal, hnormal⟩ :=
              ih rest.length (by simp only [length_cons]; omega) rest rfl
            rw [encodeText_cons, hnext, singleton_append, normalize_crlf, hnormal]
            exact ⟨'\r' :: normal, rfl⟩
        · rw [normalize_cons _ _ _ hcrlf, hfront, hnormal, ← encodeText_append]
          exact ⟨_, rfl⟩
      · have hhigh : ∀ byte ∈ String.utf8EncodeChar c, 0x80 ≤ byte := by
          intro byte member
          rw [hbytes] at member
          rcases mem_cons.mp member with rfl | htl
          · exact UInt8.not_lt.mp hlow
          · exact high_of_isContinuation (all_eq_true.mp htail byte htl)
        rw [encodeText_cons, normalize_high _ _ _ hhigh, hnormal, ← encodeText_cons]
        exact ⟨_, rfl⟩

theorem backUp_spec (bytes : Bytes) {length : Nat} (positive : 0 < length) :
    0 < backUp bytes length ∧ backUp bytes length ≤ length ∧
      (isContinuation (bytes.getD (backUp bytes length) 0) = true →
        ∀ place, 0 < place → place ≤ length → isContinuation (bytes.getD place 0) = true) := by
  induction length with
  | zero => cases positive
  | succ length ih =>
    cases length with
    | zero =>
      refine ⟨Nat.one_pos, Nat.le_refl 1, ?_⟩
      intro hinside place hpositive hplace
      cases Nat.le_antisymm hplace hpositive
      exact hinside
    | succ length =>
      obtain ⟨hpositive, hle, hall⟩ := ih (Nat.succ_pos length)
      rw [backUp]
      split
      · rename_i hinside
        refine ⟨hpositive, by omega, ?_⟩
        intro hcontinues place hplace hbound
        rcases Nat.lt_or_eq_of_le hbound with hlt | rfl
        · exact hall hcontinues place hplace (Nat.le_of_lt_succ hlt)
        · exact hinside
      · rename_i hstart
        refine ⟨Nat.succ_pos _, Nat.le_refl _, ?_⟩
        exact fun hcontinues => absurd hcontinues hstart

theorem chunkLength_bounds (positive : 0 < chunkBytes) {bytes : Bytes} (nonempty : bytes ≠ []) :
    0 < chunkLength chunkBytes bytes ∧ chunkLength chunkBytes bytes ≤ chunkBytes ∧
      chunkLength chunkBytes bytes ≤ bytes.length := by
  have hlength := length_pos_iff.mpr nonempty
  obtain ⟨hpositive, hle, -⟩ := backUp_spec bytes positive
  unfold chunkLength
  split
  · omega
  · omega

theorem chunkLength_boundary (four : 4 ≤ chunkBytes) (text : List Char) :
    IsCharBoundary text (chunkLength chunkBytes (encodeText text)) := by
  unfold chunkLength
  split
  · rw [length_encodeText]
    exact isCharBoundary_byteLength text
  · rename_i hlong
    rw [length_encodeText, Nat.not_lt] at hlong
    obtain ⟨hpositive, hle, hall⟩ := backUp_spec (encodeText text) (Nat.zero_lt_of_lt four)
    rw [isCharBoundary_iff (Nat.le_trans hle hlong), ← Bool.not_eq_true]
    intro hinside
    obtain ⟨near, hnear, hfar, hboundary⟩ := exists_boundary_near hlong
    rw [isCharBoundary_iff (Nat.le_trans hnear hlong)] at hboundary
    rw [hall hinside near (by omega) hnear] at hboundary
    cases hboundary

theorem split_spec {fuel : Nat} (positive : 0 < chunkBytes) {bytes : Bytes}
    (enough : bytes.length ≤ fuel) :
    (split chunkBytes fuel bytes).flatten = bytes ∧
      ∀ chunk ∈ split chunkBytes fuel bytes, chunk.length ≤ chunkBytes := by
  induction fuel generalizing bytes with
  | zero =>
    cases length_eq_zero_iff.mp (Nat.le_zero.mp enough)
    exact ⟨rfl, fun chunk member => by cases member⟩
  | succ fuel ih =>
    unfold split
    split
    · rename_i hempty
      cases List.isEmpty_iff.mp hempty
      exact ⟨rfl, fun chunk member => by cases member⟩
    · rename_i hbytes
      have hnonempty : bytes ≠ [] := fun hnil => hbytes (hnil ▸ rfl)
      obtain ⟨hpos, hle, hwithin⟩ := chunkLength_bounds positive hnonempty
      obtain ⟨hflat, hshort⟩ :=
        @ih (bytes.drop (chunkLength chunkBytes bytes)) (by rw [length_drop]; omega)
      constructor
      · rw [flatten_cons, hflat, take_append_drop]
      · intro chunk member
        rcases mem_cons.mp member with rfl | hrest
        · rw [length_take]
          omega
        · exact hshort chunk hrest

theorem split_text (four : 4 ≤ chunkBytes) (fuel : Nat) (text : List Char) :
    ∀ chunk ∈ split chunkBytes fuel (encodeText text), ∃ piece, chunk = encodeText piece := by
  induction fuel generalizing text with
  | zero =>
    intro chunk member
    cases member
  | succ fuel ih =>
    unfold split
    split
    · intro chunk member
      cases member
    · obtain ⟨front, back, -, htake, hdrop⟩ := (chunkLength_boundary four text).split
      rw [htake, hdrop]
      intro chunk member
      rcases mem_cons.mp member with rfl | hrest
      · exact ⟨front, rfl⟩
      · exact ih back chunk hrest

/-- What a paste puts on the wire, and that nothing in it leaves the brackets or passes for a
key. -/
structure Contained (options : Options) (text : Bytes) : Prop where
  whole : (prepare options text).1.flatten =
    if options.bracketed then bracketStart ++ normalize options text ++ bracketEnd
    else normalize options text
  closed : options.bracketed = true → ¬ bracketEnd <:+: normalize options text
  stripped : options.bracketed = false → options.stripControlsWhenUnbracketed = true →
    ∀ byte ∈ (prepare options text).1.flatten,
      byte = carriageReturn ∨ byte = tab ∨ isControl byte = false
  short : ∀ chunk ∈ (prepare options text).1, chunk.length ≤ max options.chunkSize bracketEnd.length
  aligned : 4 ≤ options.chunkSize → (∃ chars, text = encodeText chars) →
    ∀ chunk ∈ (prepare options text).1, ∃ piece, chunk = encodeText piece

theorem chunkSize_pos (options : Options) : 0 < options.chunkSize := by
  unfold Options.chunkSize
  split
  · exact Nat.succ_pos _
  · rename_i hchunk
    exact Nat.pos_of_ne_zero hchunk

theorem prepare_fits (fits : text.length ≤ options.maxBytes) : (prepare options text).1 =
      let pieces := split options.chunkSize (normalize options text).length (normalize options text)
      if normalize options text = [] then []
      else if options.bracketed then bracketStart :: (pieces ++ [bracketEnd]) else pieces := by
  unfold prepare
  cases text with
  | nil => rfl
  | cons byte rest =>
    rw [isEmpty_cons, if_neg Bool.false_ne_true, if_neg (Nat.not_lt.mpr fits)]
    by_cases hempty : normalize options (byte :: rest) = []
    · simp only [hempty, isEmpty_nil, if_true]
    · rw [if_neg hempty, if_neg (by simpa using hempty)]
      cases options.bracketed with
      | true => rfl
      | false => rfl

theorem normalize_ne_nil (bracketed : options.bracketed = true)
    (nonempty : text ≠ []) : normalize options text ≠ [] := by
  induction text using normalize_induction with
  | nil => exact absurd rfl nonempty
  | crlf rest _ =>
    rw [normalize_crlf]
    exact cons_ne_nil _ _
  | single byte rest hsingle _ =>
    rw [normalize_cons _ _ _ hsingle]
    apply append_ne_nil_of_left_ne_nil
    by_cases hkeeps : keeps byte
    · rw [normalizeByte_keeps bracketed hkeeps]
      exact cons_ne_nil _ _
    · rw [normalizeByte_breaks _ hkeeps]
      exact cons_ne_nil _ _

theorem bracketEnd_infix_iff (bracketed : options.bracketed = true)
    (text : Bytes) : bracketEnd <:+: normalize options text ↔ bracketEnd <:+: text := by
  apply infix_normalize_iff bracketed
  simp [keeps, carriageReturn, lineFeed]

theorem markers_text : bracketStart = encodeText ['\x1b', '[', '2', '0', '0', '~'] ∧
      bracketEnd = encodeText ['\x1b', '[', '2', '0', '1', '~'] := by
  decide

theorem prepare_chunks (fits : text.length ≤ options.maxBytes)
    {chunk : Bytes} (member : chunk ∈ (prepare options text).1) :
    chunk.length ≤ max options.chunkSize bracketEnd.length ∧
      (4 ≤ options.chunkSize → (∃ chars, text = encodeText chars) →
        ∃ piece, chunk = encodeText piece) := by
  obtain ⟨-, hshort⟩ :=
    split_spec (chunkSize_pos options) (Nat.le_refl (normalize options text).length)
  have hpiece : chunk ∈ split options.chunkSize (normalize options text).length
        (normalize options text) →
      chunk.length ≤ max options.chunkSize bracketEnd.length ∧
        (4 ≤ options.chunkSize → (∃ chars, text = encodeText chars) →
          ∃ piece, chunk = encodeText piece) := by
    intro hmember
    refine ⟨Nat.le_trans (hshort chunk hmember) (Nat.le_max_left _ _), ?_⟩
    rintro hfour ⟨chars, rfl⟩
    obtain ⟨normal, hnormal⟩ := normalize_text options chars
    rw [hnormal] at hmember
    exact split_text hfour _ normal chunk hmember
  rw [prepare_fits fits] at member
  split at member
  · cases member
  · split at member
    · rcases mem_cons.mp member with rfl | hrest
      · exact ⟨Nat.le_max_right _ _, fun _ _ => ⟨_, markers_text.1⟩⟩
      · rcases mem_append.mp hrest with hpieces | hlast
        · exact hpiece hpieces
        · cases mem_singleton.mp hlast
          exact ⟨Nat.le_max_right _ _, fun _ _ => ⟨_, markers_text.2⟩⟩
    · exact hpiece member

/-- A paste within the limit is contained exactly when, in brackets, there is a text and the
text has no end marker of its own. -/
theorem contained_iff (options : Options) (text : Bytes) (fits : text.length ≤ options.maxBytes) :
    Contained options text ↔
      (options.bracketed = true → text ≠ [] ∧ ¬ bracketEnd <:+: text) := by
  obtain ⟨hflat, -⟩ :=
    split_spec (chunkSize_pos options) (Nat.le_refl (normalize options text).length)
  constructor
  · intro contained hbracketed
    constructor
    · rintro rfl
      have hwhole := contained.whole
      rw [hbracketed] at hwhole
      cases hwhole
    · rw [← bracketEnd_infix_iff hbracketed]
      exact contained.closed hbracketed
  · intro condition
    have hwhole : (prepare options text).1.flatten =
        if options.bracketed then bracketStart ++ normalize options text ++ bracketEnd
        else normalize options text := by
      rw [prepare_fits fits]
      cases hbracketed : options.bracketed with
      | true =>
        rw [if_neg (normalize_ne_nil hbracketed (condition hbracketed).1)]
        rw [if_pos rfl, if_pos rfl, flatten_cons, flatten_append, hflat]
        rw [flatten_singleton, append_assoc]
      | false =>
        simp only [Bool.false_eq_true, if_false]
        split
        · rename_i hempty
          rw [hempty]
          rfl
        · exact hflat
    refine ⟨hwhole, ?_, ?_, ?_, ?_⟩
    · intro hbracketed
      rw [bracketEnd_infix_iff hbracketed]
      exact (condition hbracketed).2
    · intro hunbracketed hstripping
      rw [hwhole, hunbracketed]
      exact normalize_stripped hunbracketed hstripping text
    · exact fun chunk member => (prepare_chunks fits member).1
    · exact fun hfour htext chunk member => (prepare_chunks fits member).2 hfour htext

def bracketing : Options := ⟨4096, 1048576, true, true⟩

theorem hello_contained : [104, 105, 13, 10, 27].length ≤ bracketing.maxBytes ∧
      Contained bracketing [104, 105, 13, 10, 27] := by
  have hfits : [104, 105, 13, 10, 27].length ≤ bracketing.maxBytes := by decide
  exact ⟨hfits, (contained_iff bracketing _ hfits).mpr (by decide)⟩

/-- A text with an end marker of its own: what stands behind it is typed. -/
theorem marker_escapes :
    ([27, 91, 50, 48, 49, 126, 108, 115, 13] : Bytes).length ≤ bracketing.maxBytes ∧
      (prepare bracketing [27, 91, 50, 48, 49, 126, 108, 115, 13]).1.flatten =
        bracketStart ++ (bracketEnd ++ [108, 115, 13]) ++ bracketEnd ∧
      ¬ Contained bracketing [27, 91, 50, 48, 49, 126, 108, 115, 13] := by
  refine ⟨by decide, by decide, fun contained => ?_⟩
  exact contained.closed rfl ⟨[], [108, 115, 13], by decide⟩

end Paste

end Hypeterm.Android

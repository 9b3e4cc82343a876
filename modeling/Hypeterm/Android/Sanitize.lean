import Hypeterm.Android.WebSocket
import Hypeterm.Library.Utf8Text

/-! Text from outside in messages: control bytes are replaced, and what is too long is cut in
bytes, so that half a character that the cut leaves at the end is dropped as well. -/
namespace Hypeterm.Android

open Library List

def replaceControl (byte : UInt8) : UInt8 := if byte < 0x20 ∨ byte = 0x7F then 0x2E else byte

theorem sanitize_eq (s : Bytes) (maxLength : Nat) : sanitizeForMessage s maxLength =
      if maxLength < s.length then
        dropCutCharacter ((s.map replaceControl).take maxLength) ++ [0x2E, 0x2E, 0x2E]
      else s.map replaceControl := by
  unfold sanitizeForMessage
  rw [map_take]
  split
  · rfl
  · rename_i hshort
    rw [take_of_length_le]
    · rfl
    · rw [length_map]
      exact Nat.not_lt.mp hshort

theorem dropCutCharacter_prefix (out : Bytes) : dropCutCharacter out <+: out := by
  unfold dropCutCharacter
  dsimp only
  split
  · exact prefix_refl _
  · rename_i lead before hlead
    split
    · refine ⟨(out.reverse.takeWhile isContinuationByte ++ [lead]).reverse, ?_⟩
      rw [← reverse_append, append_assoc, singleton_append, ← hlead,
        takeWhile_append_dropWhile, reverse_reverse]
    · exact prefix_refl _

theorem replaceControl_printable (byte : UInt8) :
    0x20 ≤ replaceControl byte ∧ replaceControl byte ≠ 0x7F := by
  unfold replaceControl
  split
  · decide
  · rename_i hprintable
    exact (not_or.mp hprintable).imp_left UInt8.not_lt.mp

def replaceControlChar (c : Char) : Char := if c.val < 0x20 ∨ c.val = 0x7F then '.' else c

theorem map_replaceControl_encodeChar (c : Char) :
    (String.utf8EncodeChar c).map replaceControl = String.utf8EncodeChar (replaceControlChar c) := by
  have hhigh : ∀ byte : UInt8, 0x80 ≤ byte → replaceControl byte = byte := by
    intro byte hbyte
    have hbyte := UInt8.le_iff_toNat_le.mp hbyte
    refine if_neg ?_
    rw [UInt8.lt_iff_toNat_lt, ← UInt8.toNat_inj]
    simp at hbyte ⊢
    omega
  obtain ⟨lead, tail, hbytes, -, htail, hshort⟩ := utf8EncodeChar_shape c
  by_cases hsize : c.utf8Size = 1
  · have hsmall : c.val ≤ 0x7F := Char.utf8Size_eq_one_iff.mp hsize
    have hbyte : ∀ code : Fin 128, (replaceControl (UInt8.ofNat code) =
        if code.val < 0x20 ∨ code.val = 0x7F then 0x2E else UInt8.ofNat code) := by
      intro code
      have hcode : (UInt8.ofNat code).toNat = code := Nat.mod_eq_of_lt (by omega)
      have hcontrol : (UInt8.ofNat code < 0x20 ∨ UInt8.ofNat code = 0x7F) ↔
          (code.val < 0x20 ∨ code.val = 0x7F) := by
        rw [UInt8.lt_iff_toNat_lt, ← UInt8.toNat_inj, hcode]
        rfl
      simp only [replaceControl, hcontrol]
    have hval : c.val.toNat < 128 := Nat.lt_succ_of_le (UInt32.le_iff_toNat_le.mp hsmall)
    have hreplaced := hbyte ⟨c.val.toNat, hval⟩
    have hcontrol : (c.val < 0x20 ∨ c.val = 0x7F) ↔ (c.val.toNat < 0x20 ∨ c.val.toNat = 0x7F) := by
      rw [UInt32.lt_iff_toNat_lt, ← UInt32.toNat_inj]
      rfl
    rw [String.utf8EncodeChar_eq_singleton hsize, map_singleton]
    unfold replaceControlChar
    simp only [hcontrol]
    split
    · rename_i hsmall
      rw [if_pos hsmall] at hreplaced
      exact congrArg (fun byte => [byte]) hreplaced
    · rename_i hprintable
      rw [if_neg hprintable] at hreplaced
      rw [String.utf8EncodeChar_eq_singleton hsize]
      exact congrArg (fun byte => [byte]) hreplaced
  · have hsame : replaceControlChar c = c := by
      refine if_neg fun hcontrol => hsize (Char.utf8Size_eq_one_iff.mpr ?_)
      rw [UInt32.lt_iff_toNat_lt, ← UInt32.toNat_inj] at hcontrol
      change c.val.toNat < 32 ∨ c.val.toNat = 127 at hcontrol
      apply UInt32.le_iff_toNat_le.mpr
      change c.val.toNat ≤ 127
      omega
    have hlead : ¬lead < 0x80 := by
      intro hlow
      rw [hshort hlow] at hbytes
      have hlength := congrArg List.length hbytes
      rw [String.length_utf8EncodeChar] at hlength
      exact hsize hlength
    rw [hsame, hbytes, map_cons, hhigh lead (UInt8.not_lt.mp hlead)]
    congr 1
    refine (map_congr_left fun byte member => hhigh byte ?_).trans (map_id' _)
    exact high_of_isContinuation (all_eq_true.mp htail byte member)

theorem map_replaceControl_encodeText (text : List Char) :
    (encodeText text).map replaceControl = encodeText (text.map replaceControlChar) := by
  induction text with
  | nil => rfl
  | cons c rest ih =>
    rw [encodeText_cons, map_append, map_replaceControl_encodeChar, ih, map_cons, encodeText_cons]

theorem expectedLength_lead {c : Char} {lead : UInt8} {tail : Bytes}
    (bytes : String.utf8EncodeChar c = lead :: tail) : expectedLength lead = tail.length + 1 := by
  have hone : ∀ byte : UInt8, byte ≤ 0x7F → expectedLength byte = 1 := by
    apply forall_uint8
    decide +kernel
  have htwo : ∀ byte : UInt8, expectedLength (byte &&& 0x1f ||| 0xc0) = 2 := by
    apply forall_uint8
    decide +kernel
  have hthree : ∀ byte : UInt8, expectedLength (byte &&& 0x0f ||| 0xe0) = 3 := by
    apply forall_uint8
    decide +kernel
  have hfour : ∀ byte : UInt8, expectedLength (byte &&& 0x07 ||| 0xf0) = 4 := by
    apply forall_uint8
    decide +kernel
  match hsize : c.utf8Size, c.utf8Size_pos, c.utf8Size_le_four with
  | 1, _, _ =>
    rw [String.utf8EncodeChar_eq_singleton hsize] at bytes
    cases bytes
    apply hone
    have hsmall := UInt32.le_iff_toNat_le.mp (Char.utf8Size_eq_one_iff.mp hsize)
    rw [UInt8.le_iff_toNat_le, UInt32.toNat_toUInt8]
    exact Nat.le_trans (Nat.mod_le _ _) hsmall
  | 2, _, _ =>
    rw [String.utf8EncodeChar_eq_cons_cons hsize] at bytes
    cases bytes
    exact htwo _
  | 3, _, _ =>
    rw [String.utf8EncodeChar_eq_cons_cons_cons hsize] at bytes
    cases bytes
    exact hthree _
  | 4, _, _ =>
    rw [String.utf8EncodeChar_eq_cons_cons_cons_cons hsize] at bytes
    cases bytes
    exact hfour _

/-- A part of a character at the end is dropped unless it is all of it. -/
theorem dropCutCharacter_append {c : Char} {lead : UInt8} {tail : Bytes} (before : Bytes)
    (bytes : String.utf8EncodeChar c = lead :: tail) (count : Nat) (within : count ≤ tail.length) :
    dropCutCharacter (before ++ lead :: tail.take count) =
      if count = tail.length then before ++ lead :: tail else before := by
  obtain ⟨first, rest, hshape, hlead, htail, -⟩ := utf8EncodeChar_shape c
  obtain ⟨rfl, rfl⟩ := List.cons.inj (hshape.symm.trans bytes)
  have hbyte : ∀ byte, isContinuationByte byte = isContinuation byte := by
    apply forall_uint8
    decide +kernel
  have hcontinues : ∀ byte ∈ (rest.take count).reverse, isContinuationByte byte = true := by
    intro byte member
    rw [hbyte]
    exact all_eq_true.mp htail byte (mem_of_mem_take (mem_reverse.mp member))
  have hstops : ¬isContinuationByte first = true := by
    rw [hbyte, hlead]
    exact Bool.false_ne_true
  unfold dropCutCharacter
  rw [reverse_append, reverse_cons, append_assoc, singleton_append,
    takeWhile_append_of_pos hcontinues, dropWhile_append_of_pos hcontinues,
    takeWhile_cons_of_neg hstops, dropWhile_cons_of_neg hstops]
  simp only [expectedLength_lead bytes, append_nil, length_reverse, length_take, reverse_reverse,
    Nat.min_eq_left within]
  split
  · rw [if_neg (by omega)]
  · have hall : count = rest.length := by omega
    rw [if_pos hall, hall, take_length]

theorem longest_prefix (text : List Char) (limit : Nat) :
    ∃ front back, text = front ++ back ∧ byteLength front ≤ limit ∧
      ∀ c rest, back = c :: rest → limit < byteLength front + c.utf8Size := by
  induction text generalizing limit with
  | nil => exact ⟨[], [], rfl, Nat.zero_le _, fun _ _ heq => nomatch heq⟩
  | cons c rest ih =>
    by_cases hfits : c.utf8Size ≤ limit
    · obtain ⟨front, back, rfl, hle, hmax⟩ := ih (limit - c.utf8Size)
      refine ⟨c :: front, back, rfl, ?_, ?_⟩
      · rw [byteLength_cons]
        omega
      · intro d later heq
        have hlonger := hmax d later heq
        rw [byteLength_cons]
        omega
    · refine ⟨[], c :: rest, rfl, Nat.zero_le _, ?_⟩
      rintro d later heq
      obtain ⟨rfl, rfl⟩ := List.cons.inj heq
      change limit < 0 + c.utf8Size
      omega

theorem byteLength_append (front back : List Char) :
    byteLength (front ++ back) = byteLength front + byteLength back := by
  simp [byteLength]

theorem dropCutCharacter_take {front rest : List Char} {c : Char} {limit : Nat}
    (fits : byteLength front ≤ limit) (cut : limit < byteLength front + c.utf8Size) :
    dropCutCharacter ((encodeText (front ++ c :: rest)).take limit) = encodeText front := by
  obtain ⟨lead, tail, hbytes, -⟩ := utf8EncodeChar_shape c
  have hsize : c.utf8Size = tail.length + 1 := by
    rw [← String.length_utf8EncodeChar, hbytes, length_cons]
  obtain ⟨count, rfl⟩ := Nat.exists_eq_add_of_le fits
  have htaken : (encodeText (front ++ c :: rest)).take (byteLength front + count) =
      encodeText front ++ (lead :: tail).take count := by
    rw [encodeText_append, encodeText_cons, hbytes, ← length_encodeText,
      take_length_add_append, take_append_of_le_length (by simp; omega)]
  rw [htaken]
  cases count with
  | zero =>
    rw [take_zero, append_nil]
    -- Nothing of the next character is there, and the last one is whole.
    induction front using reverseRecOn with
    | nil => rfl
    | append_singleton earlier last =>
      obtain ⟨first, others, hlast, -⟩ := utf8EncodeChar_shape last
      have hwhole := dropCutCharacter_append (encodeText earlier) hlast others.length (Nat.le_refl _)
      rw [take_length, if_pos rfl] at hwhole
      rw [encodeText_append, encodeText_cons, encodeText_nil, append_nil, hlast]
      exact hwhole
  | succ count =>
    rw [take_succ_cons, dropCutCharacter_append _ hbytes count (by omega), if_neg (by omega)]

/-- Every result is printable and bounded.  Of a text it is a text: all of the replaced text when
that fits, and otherwise its longest part from the start that fits, before three dots. -/
theorem sanitize_spec (s : Bytes) (maxLength : Nat) :
    (∀ byte ∈ sanitizeForMessage s maxLength, 0x20 ≤ byte ∧ byte ≠ 0x7F) ∧
      (sanitizeForMessage s maxLength).length ≤ maxLength + 3 ∧
      ∀ text, s = encodeText text →
        (∃ result, sanitizeForMessage s maxLength = encodeText result) ∧
        (s.length ≤ maxLength →
          sanitizeForMessage s maxLength = encodeText (text.map replaceControlChar)) ∧
        (maxLength < s.length → ∃ front, front <+: text.map replaceControlChar ∧
          byteLength front ≤ maxLength ∧
          (∀ other, other <+: text.map replaceControlChar → byteLength other ≤ maxLength →
            other <+: front) ∧
          sanitizeForMessage s maxLength = encodeText front ++ encodeText ['.', '.', '.']) := by
  have hprintable : ∀ byte ∈ s.map replaceControl, 0x20 ≤ byte ∧ byte ≠ 0x7F := by
    intro byte member
    obtain ⟨original, -, rfl⟩ := mem_map.mp member
    exact replaceControl_printable original
  have hdots : ∀ byte ∈ ([0x2E, 0x2E, 0x2E] : Bytes), 0x20 ≤ byte ∧ byte ≠ 0x7F := by
    simp
  refine ⟨?_, ?_, ?_⟩
  · rw [sanitize_eq]
    split
    · intro byte member
      rcases mem_append.mp member with hkept | hdot
      · exact hprintable byte (mem_of_mem_take (( dropCutCharacter_prefix _).subset hkept))
      · exact hdots byte hdot
    · exact hprintable
  · rw [sanitize_eq]
    split
    · have hkept := ( dropCutCharacter_prefix ((s.map replaceControl).take maxLength)).length_le
      rw [length_take] at hkept
      simp only [length_append, length_cons, length_nil]
      omega
    · rw [length_map]
      omega
  · rintro text rfl
    have hcut : maxLength < (encodeText text).length → ∃ front, front <+: text.map replaceControlChar ∧
        byteLength front ≤ maxLength ∧
        (∀ other, other <+: text.map replaceControlChar → byteLength other ≤ maxLength →
          other <+: front) ∧
        sanitizeForMessage (encodeText text) maxLength =
          encodeText front ++ encodeText ['.', '.', '.'] := by
      intro long
      obtain ⟨front, back, hsplit, hfits, hmax⟩ :=
        longest_prefix (text.map replaceControlChar) maxLength
      have hlength : (encodeText text).length = byteLength (text.map replaceControlChar) := by
        rw [← length_encodeText, ← map_replaceControl_encodeText, length_map]
      cases back with
      | nil =>
        rw [append_nil] at hsplit
        rw [hsplit] at hlength
        omega
      | cons c rest =>
        refine ⟨front, ⟨c :: rest, hsplit.symm⟩, hfits, ?_, ?_⟩
        · intro other hother hshort
          rw [hsplit] at hother
          rcases prefix_or_prefix_of_prefix hother (prefix_append front (c :: rest)) with
            hbefore | ⟨more, rfl⟩
          · exact hbefore
          · have hmore := (prefix_append_right_inj front).mp hother
            cases more with
            | nil => simp
            | cons d later =>
              obtain ⟨rfl, -⟩ := cons_prefix_cons.mp hmore
              have hlonger := hmax d rest rfl
              rw [byteLength_append, byteLength_cons] at hshort
              omega
        · rw [sanitize_eq, if_pos long, map_replaceControl_encodeText, hsplit,
            dropCutCharacter_take hfits (hmax c rest rfl)]
          rfl
    have hwhole : (encodeText text).length ≤ maxLength →
        sanitizeForMessage (encodeText text) maxLength =
          encodeText (text.map replaceControlChar) := by
      intro short
      rw [sanitize_eq, if_neg (Nat.not_lt.mpr short), map_replaceControl_encodeText]
    refine ⟨?_, hwhole, hcut⟩
    rcases Nat.lt_or_ge maxLength (encodeText text).length with hlong | hshort
    · obtain ⟨front, -, -, -, heq⟩ := hcut hlong
      exact ⟨front ++ ['.', '.', '.'], by rw [heq, encodeText_append]⟩
    · exact ⟨_, hwhole hshort⟩

/-- Two characters of two bytes, cut in the second. -/
theorem sanitize_spec_cut :
    ∃ front, front <+: ['\u00e9', '\u00e9'].map replaceControlChar ∧ byteLength front ≤ 3 ∧
      sanitizeForMessage (encodeText ['\u00e9', '\u00e9']) 3 =
        encodeText front ++ encodeText ['.', '.', '.'] := by
  obtain ⟨front, hprefix, hfits, -, heq⟩ :=
    ((sanitize_spec (encodeText ['\u00e9', '\u00e9']) 3).2.2 _ rfl).2.2 (by decide)
  exact ⟨front, hprefix, hfits, heq⟩

end Hypeterm.Android

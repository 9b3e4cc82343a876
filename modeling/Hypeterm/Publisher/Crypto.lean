import Hypeterm.Util
import Hypeterm.Library.Checked

/-! The length-prefixed encoding as the publisher reads it back: the fields of what the
relay asks it to sign.  The cursor is a `usize`, and a slice outside the input would
panic, so both are checked. -/
namespace Hypeterm.Publisher.Crypto

open Library Checked List
open Util (LengthPrefixed)

/-- No slice is longer than `isize::MAX` bytes. -/
structure Slice where
  bytes : Bytes
  fits : bytes.length < 2 ^ 63

def usize (number : Nat) : Checked Nat := ⟨number, decide (number < 2 ^ 64)⟩

def readRange (bytes : Bytes) (first last : Nat) : Checked Bytes :=
  ⟨(bytes.take last).drop first, decide (first ≤ last ∧ last ≤ bytes.length)⟩

def maxFields : Nat := 64

/-- The loop from a cursor on.  A loop that needs more rounds than it has is not safe. -/
def parseFrom (bytes : Bytes) : Nat → Nat → List Bytes → Checked (Option (List Bytes))
  | 0, _, _ => ⟨none, false⟩
  | rounds + 1, cursor, fields =>
      if cursor < bytes.length then do
        let head ← usize (cursor + 4)
        if bytes.length < head then pure none
        else do
          let digits ← readRange bytes cursor head
          let tail ← usize (head + fromBeBytes digits)
          if bytes.length < tail then pure none
          else do
            let field ← readRange bytes head tail
            let fields := fields ++ [field]
            if maxFields < fields.length then pure none
            else parseFrom bytes rounds tail fields
      else pure (some fields)

def parseLengthPrefixed (input : Slice) : Checked (Option (List Bytes)) :=
  parseFrom input.bytes (input.bytes.length + 1) 0 []

def encode (fields : List Bytes) : Bytes := (fields.foldl LengthPrefixed.field .new).finish

theorem holds_usize {number : Nat} (small : number < 2 ^ 64) :
    Holds (fun value => value = number) (usize number) :=
  ⟨decide_eq_true small, rfl⟩

theorem holds_readRange {bytes : Bytes} {first last : Nat} (ordered : first ≤ last)
    (inside : last ≤ bytes.length) :
    Holds (fun range => range = (bytes.take last).drop first) (readRange bytes first last) :=
  ⟨decide_eq_true ⟨ordered, inside⟩, rfl⟩

def Bounded (fields : List Bytes) : Prop :=
  fields.length ≤ maxFields ∧ ∀ field ∈ fields, field.length < 2 ^ 32

theorem encode_eq (fields : List Bytes) : encode fields = lengthPrefixed 4 fields :=
  LengthPrefixed.finish_foldl .new fields

/-- What is left of the input from the cursor on is the encoding of what is still to come. -/
structure Remaining (bytes : Bytes) (cursor : Nat) (fields all : List Bytes) : Prop where
  split : ∃ rest, all = fields ++ rest ∧ lengthPrefixed 4 rest = bytes.drop cursor ∧
    ∀ field ∈ rest, field.length < 2 ^ 32
  few : all.length ≤ maxFields

variable {bytes : Bytes} {cursor : Nat} {fields all : List Bytes}

theorem remaining_end (past : bytes.length ≤ cursor) (few : fields.length ≤ maxFields) :
    Remaining bytes cursor fields all ↔ fields = all := by
  have hdrop : bytes.drop cursor = [] := drop_eq_nil_of_le past
  constructor
  · rintro ⟨⟨rest, rfl, hrest, -⟩, -⟩
    cases rest with
    | nil => exact (append_nil _).symm
    | cons field rest =>
      have hlength := congrArg List.length hrest
      rw [lengthPrefixed_cons, length_append, length_toBeBytes, hdrop, length_nil]
        at hlength
      omega
  · rintro rfl
    refine ⟨⟨[], (append_nil _).symm, hdrop.symm, ?_⟩, few⟩
    intro field member
    cases member

theorem Remaining.head (remaining : Remaining bytes cursor fields all)
    (before : cursor < bytes.length) :
    ∃ field rest, all = fields ++ field :: rest ∧ field.length < 2 ^ 32 ∧
      bytes.drop cursor = toBeBytes 4 field.length ++ (field ++ lengthPrefixed 4 rest) ∧
      ∀ other ∈ rest, other.length < 2 ^ 32 := by
  obtain ⟨⟨rest, rfl, hrest, hshort⟩, -⟩ := remaining
  cases rest with
  | nil =>
    have hlength := congrArg List.length hrest
    rw [length_drop] at hlength
    change 0 = _ at hlength
    omega
  | cons field rest =>
    refine ⟨field, rest, rfl, hshort field mem_cons_self, ?_, ?_⟩
    · rw [← hrest, lengthPrefixed_cons]
    · exact fun other member => hshort other (mem_cons_of_mem _ member)

theorem Remaining.tail_le {head tail : Nat} {digits : Bytes}
    (remaining : Remaining bytes cursor fields all) (before : cursor < bytes.length)
    (head_eq : head = cursor + 4) (digits_eq : digits = (bytes.take head).drop cursor)
    (tail_eq : tail = head + fromBeBytes digits) : tail ≤ bytes.length := by
  obtain ⟨field, rest, -, hshort, hdrop, -⟩ := remaining.head before
  have hdigits : digits = toBeBytes 4 field.length := by
    rw [digits_eq, head_eq, drop_take, Nat.add_sub_cancel_left, hdrop]
    exact take_left' (length_toBeBytes 4 _)
  have hlength := congrArg List.length hdrop
  rw [hdigits, fromBeBytes_toBeBytes hshort] at tail_eq
  rw [length_drop, length_append, length_toBeBytes, length_append] at hlength
  omega

theorem drop_cursor {head tail : Nat} (head_eq : head = cursor + 4) (after : head ≤ tail) :
    bytes.drop cursor = (bytes.take head).drop cursor ++
      ((bytes.take tail).drop head ++ bytes.drop tail) := by
  subst head_eq
  have hfirst : bytes.drop cursor = (bytes.drop cursor).take 4 ++ (bytes.drop cursor).drop 4 :=
    (take_append_drop _ _).symm
  have hsecond : bytes.drop (cursor + 4) = (bytes.drop (cursor + 4)).take (tail - (cursor + 4)) ++
      (bytes.drop (cursor + 4)).drop (tail - (cursor + 4)) := (take_append_drop _ _).symm
  rw [drop_drop, Nat.add_sub_cancel' after] at hsecond
  rw [drop_drop, hsecond] at hfirst
  rw [drop_take, drop_take, Nat.add_sub_cancel_left]
  exact hfirst

theorem remaining_next {head tail : Nat} {digits field : Bytes} (head_eq : head = cursor + 4)
    (digits_eq : digits = (bytes.take head).drop cursor)
    (tail_eq : tail = head + fromBeBytes digits) (inside : tail ≤ bytes.length)
    (field_eq : field = (bytes.take tail).drop head) :
    Remaining bytes cursor fields all ↔ Remaining bytes tail (fields ++ [field]) all := by
  have hdigits : digits.length = 4 := by
    rw [digits_eq, length_drop, length_take]
    omega
  have hfield : field.length = fromBeBytes digits := by
    rw [field_eq, length_drop, length_take]
    omega
  have hlength : toBeBytes 4 field.length = digits := by
    rw [hfield, ← hdigits]
    exact toBeBytes_fromBeBytes digits
  have hshort : field.length < 2 ^ 32 := by
    have hlt := fromBeBytes_lt digits
    rw [hdigits] at hlt
    rw [hfield]
    exact hlt
  have hcut : bytes.drop cursor = toBeBytes 4 field.length ++ (field ++ bytes.drop tail) := by
    rw [hlength, digits_eq, field_eq]
    exact drop_cursor head_eq (by omega)
  constructor
  · intro remaining
    obtain ⟨other, rest, rfl, hother, hdrop, hrest⟩ := remaining.head (by omega)
    obtain ⟨rfl, htail⟩ := field_append_inj hother hshort (hdrop.symm.trans hcut)
    exact ⟨⟨rest, append_cons _ _ _, htail, hrest⟩, remaining.few⟩
  · rintro ⟨⟨rest, rfl, hdrop, hrest⟩, few⟩
    refine ⟨⟨field :: rest, (append_cons _ _ _).symm, ?_, ?_⟩, few⟩
    · rw [lengthPrefixed_cons, hdrop, hcut]
    · exact forall_mem_cons.mpr ⟨hshort, hrest⟩

theorem remaining_start (bytes : Bytes) (fields : List Bytes) :
    Remaining bytes 0 [] fields ↔ encode fields = bytes ∧ Bounded fields := by
  rw [encode_eq]
  constructor
  · rintro ⟨⟨rest, rfl, hrest, hshort⟩, hfew⟩
    exact ⟨hrest, hfew, hshort⟩
  · rintro ⟨hencoded, hfew, hshort⟩
    exact ⟨⟨fields, rfl, hencoded, hshort⟩, hfew⟩

theorem holds_parseFrom (fits : bytes.length < 2 ^ 63) {rounds : Nat}
    (enough : bytes.length < cursor + rounds) (inside : cursor ≤ bytes.length)
    (few : fields.length ≤ maxFields) :
    Holds (fun parsed => ∀ all, parsed = some all ↔ Remaining bytes cursor fields all)
      (parseFrom bytes rounds cursor fields) := by
  induction rounds generalizing cursor fields with
  | zero => omega
  | succ rounds ih =>
    unfold parseFrom
    refine .ite (fun hbefore => ?_) (fun hpast => ?_)
    · refine (holds_usize (by omega : cursor + 4 < 2 ^ 64)).bind fun head head_eq => ?_
      refine .ite (fun hcut => .pure fun all => ?_) (fun hhead => ?_)
      · refine iff_of_false (by simp) fun remaining => ?_
        obtain ⟨field, rest, -, -, hdrop, -⟩ := remaining.head hbefore
        have hlength := congrArg List.length hdrop
        rw [length_drop, length_append, length_toBeBytes] at hlength
        omega
      · refine (holds_readRange (by omega) (by omega)).bind fun digits digits_eq => ?_
        have hdigits := fromBeBytes_lt digits
        rw [digits_eq, length_drop, length_take, ← digits_eq] at hdigits
        have hsize : fromBeBytes digits < 2 ^ 32 := by
          have hfour : min head bytes.length - cursor = 4 := by omega
          rw [hfour] at hdigits
          exact hdigits
        refine (holds_usize (by omega)).bind fun tail tail_eq => ?_
        refine .ite (fun hcut => .pure fun all => ?_) (fun htail => ?_)
        · refine iff_of_false (by simp) fun remaining => ?_
          exact absurd (remaining.tail_le hbefore head_eq digits_eq tail_eq) (by omega)
        · refine (holds_readRange (by omega) (by omega)).bind fun field field_eq => ?_
          have hnext := fun all => @remaining_next bytes cursor fields all head tail digits field
            head_eq digits_eq tail_eq (by omega) field_eq
          refine .ite (fun hmany => .pure fun all => ?_) (fun hfew => ?_)
          · refine iff_of_false (by simp) fun remaining => ?_
            obtain ⟨⟨rest, rfl, -, -⟩, hall⟩ := (hnext all).mp remaining
            rw [length_append] at hall
            omega
          · refine (ih (by omega) (by omega) (by omega)).mono fun parsed hparsed all => ?_
            exact (hparsed all).trans (hnext all).symm
    · refine .pure fun all => ?_
      rw [Option.some.injEq]
      exact (remaining_end (by omega) few).symm

theorem length_lengthPrefixed_le {fields : List Bytes}
    (short : ∀ field ∈ fields, field.length < 2 ^ 32) :
    (lengthPrefixed 4 fields).length ≤ fields.length * (2 ^ 32 + 4) := by
  induction fields with
  | nil => exact Nat.zero_le _
  | cons field fields ih =>
    have hfield := short field mem_cons_self
    have hrest := ih fun other member => short other (mem_cons_of_mem _ member)
    rw [lengthPrefixed_cons, length_append, length_append, length_toBeBytes,
      length_cons, Nat.succ_mul]
    omega

theorem Bounded.fits {fields : List Bytes} (bounded : Bounded fields) :
    (encode fields).length < 2 ^ 63 := by
  have hlength := length_lengthPrefixed_le bounded.2
  have hfew : fields.length ≤ 64 := bounded.1
  rw [encode_eq]
  omega

/-- Parsing is safe, and returns exactly the fields, no more than 64 and none of 2 ^ 32
bytes or more, whose encoding is the input. -/
theorem parse_inverts_encode (input : Slice) (fields : List Bytes) :
    (parseLengthPrefixed input).safe = true ∧
      ((parseLengthPrefixed input).value = some fields ↔
        encode fields = input.bytes ∧ Bounded fields) ∧
      (Bounded fields → ∃ encoded : Slice, encoded.bytes = encode fields ∧
        (parseLengthPrefixed encoded).value = some fields) := by
  have hexact : ∀ input : Slice, (parseLengthPrefixed input).safe = true ∧
      ((parseLengthPrefixed input).value = some fields ↔
        encode fields = input.bytes ∧ Bounded fields) := by
    intro input
    obtain ⟨hsafe, hparsed⟩ := @holds_parseFrom input.bytes 0 [] input.fits
      (input.bytes.length + 1) (by omega) (Nat.zero_le _) (Nat.zero_le _)
    exact ⟨hsafe, (hparsed fields).trans (remaining_start input.bytes fields)⟩
  refine ⟨(hexact input).1, (hexact input).2, fun bounded => ?_⟩
  exact ⟨⟨encode fields, bounded.fits⟩, rfl, (hexact _).2.mpr ⟨rfl, bounded⟩⟩

/-- Three bytes of a length are no field. -/
example : (parseLengthPrefixed ⟨[0, 0, 0, 1, 0x61, 0, 0, 0, 0], by decide⟩).value =
    some [[0x61], []] ∧ (parseLengthPrefixed ⟨[0, 0, 0], by decide⟩).value = none := by
  decide

end Hypeterm.Publisher.Crypto

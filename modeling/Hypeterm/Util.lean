import Hypeterm.Types
import Hypeterm.Library.Base64
import Hypeterm.Library.BigEndian
import Hypeterm.Library.Calendar
import Mathlib.Data.String.Basic

/-! Base64 texts, length-prefixed fields and instants.  An instant is written with six
digits of a second, so that the text order is the order of instants as far as
microseconds tell them apart. -/
namespace Hypeterm.Util

open Library List

def utf8Bytes (text : String) : Bytes := text.toUTF8.data.toList

def fromUtf8 (bytes : Bytes) : Option String := String.fromUTF8? ⟨bytes.toArray⟩

theorem fromUtf8_utf8Bytes (text : String) : fromUtf8 (utf8Bytes text) = some text := by
  unfold fromUtf8 utf8Bytes String.fromUTF8?
  simp only [Array.toArray_toList]
  exact dif_pos text.isValidUTF8

def b64Encode (bytes : Bytes) : String := String.ofList (Base64.encode bytes)

def b64Decode (text : String) : Option Bytes :=
  (Base64.decode text.toList).or (Base64.decodePadded text.toList)

theorem b64Decode_b64Encode (bytes : Bytes) : b64Decode (b64Encode bytes) = some bytes := by
  unfold b64Decode b64Encode
  rw [String.toList_ofList, Base64.decode_encode]
  rfl

structure LengthPrefixed where
  buf : Bytes

namespace LengthPrefixed

def new : LengthPrefixed := ⟨[]⟩

def field (out : LengthPrefixed) (bytes : Bytes) : LengthPrefixed :=
  ⟨out.buf ++ toBeBytes 4 bytes.length ++ bytes⟩

def fieldStr (out : LengthPrefixed) (text : String) : LengthPrefixed := out.field (utf8Bytes text)

def fieldU64 (out : LengthPrefixed) (value : UInt64) : LengthPrefixed :=
  out.field (toBeBytes 8 value.toNat)

def finish (out : LengthPrefixed) : Bytes := out.buf

theorem finish_foldl (out : LengthPrefixed) (fields : List Bytes) :
    (fields.foldl field out).finish = out.buf ++ lengthPrefixed 4 fields := by
  induction fields generalizing out with
  | nil => exact (append_nil _).symm
  | cons first fields ih =>
    rw [foldl_cons, ih, lengthPrefixed_cons]
    simp [field]

end LengthPrefixed

theorem utf8Bytes_injective : Function.Injective utf8Bytes := by
  intro first second heq
  have hread := fromUtf8_utf8Bytes first
  rw [heq, fromUtf8_utf8Bytes] at hread
  exact (Option.some.inj hread).symm

def secondNanos : Nat := 1000000000

def dayNanos : Nat := 86400 * secondNanos

/-- A time of the years 0 to 9999, in nanoseconds from their beginning. -/
structure Instant where
  nanos : Nat
  inCalendar : nanos < calendarDays * dayNanos

namespace Instant

def micros (instant : Instant) : Nat := instant.nanos / 1000

def truncated (instant : Instant) : Instant :=
  ⟨instant.micros * 1000, Nat.lt_of_le_of_lt (Nat.div_mul_le_self _ _) instant.inCalendar⟩

def day (instant : Instant) : Nat := instant.micros / 86400000000

def clock (instant : Instant) : List Nat :=
  [instant.micros / 3600000000 % 24, instant.micros / 60000000 % 60, instant.micros / 1000000 % 60,
    instant.micros % 1000000]

def fields (instant : Instant) : List Nat :=
  [(civil instant.day).1, (civil instant.day).2.1, (civil instant.day).2.2] ++ instant.clock

end Instant

def rfc3339 : List (Nat × Char) :=
  [(4, '-'), (2, '-'), (2, 'T'), (2, ':'), (2, ':'), (2, '.'), (6, 'Z')]

def toRfc3339 (instant : Instant) : String := String.ofList (fieldsText rfc3339 instant.fields)

def readRfc3339 (text : String) : Option Instant := do
  match ← readFields rfc3339 text.toList with
  | [year, month, day, hour, minute, second, micro] =>
      let day ← dayNumber year month day
      let nanos := ((((day * 24 + hour) * 60 + minute) * 60 + second) * 1000000 + micro) * 1000
      if h : hour < 24 ∧ minute < 60 ∧ second < 60 ∧ nanos < calendarDays * dayNanos then
        some ⟨nanos, h.2.2.2⟩
      else none
  | _ => none

variable {instant other : Instant}

theorem day_lt (instant : Instant) : instant.day < calendarDays := by
  have hrange := instant.inCalendar
  unfold Instant.day Instant.micros
  unfold dayNanos secondNanos at hrange
  omega

theorem fit_fields (instant : Instant) : Fit rfc3339 instant.fields := by
  obtain ⟨hyear, -, hmonth, -, hday⟩ := civil_bounds (day_lt instant)
  have hdays : monthDays (leapYear (civil instant.day).1) (civil instant.day).2.1 ≤ 31 := by
    unfold monthDays
    split
    · split <;> decide
    · split <;> decide
  unfold Fit rfc3339 Instant.fields Instant.clock
  refine .cons ?_ (.cons ?_ (.cons ?_ (.cons ?_ (.cons ?_ (.cons ?_ (.cons ?_ .nil))))))
  · exact hyear
  · exact Nat.lt_of_le_of_lt hmonth (by decide)
  · exact Nat.lt_of_le_of_lt (hday.trans hdays) (by decide)
  · exact Nat.lt_of_lt_of_le (Nat.mod_lt _ (by decide)) (by decide)
  · exact Nat.lt_of_lt_of_le (Nat.mod_lt _ (by decide)) (by decide)
  · exact Nat.lt_of_lt_of_le (Nat.mod_lt _ (by decide)) (by decide)
  · exact Nat.mod_lt _ (by decide)

theorem readRfc3339_toRfc3339 (instant : Instant) :
    readRfc3339 (toRfc3339 instant) = some instant.truncated := by
  have hfields := readFields_fieldsText (fit_fields instant)
  have hnanos : ((((instant.day * 24 + instant.micros / 3600000000 % 24) * 60 +
      instant.micros / 60000000 % 60) * 60 + instant.micros / 1000000 % 60) * 1000000 +
        instant.micros % 1000000) * 1000 = instant.truncated.nanos := by
    simp only [Instant.day, Instant.truncated]
    omega
  have hclock : instant.micros / 3600000000 % 24 < 24 ∧ instant.micros / 60000000 % 60 < 60 ∧
      instant.micros / 1000000 % 60 < 60 ∧ instant.truncated.nanos < calendarDays * dayNanos :=
    ⟨Nat.mod_lt _ (by decide), Nat.mod_lt _ (by decide), Nat.mod_lt _ (by decide),
      instant.truncated.inCalendar⟩
  unfold readRfc3339 toRfc3339
  rw [String.toList_ofList, hfields]
  simp only [Option.bind_eq_bind, Option.bind_some, Instant.fields, Instant.clock, cons_append,
    nil_append, dayNumber_civil (day_lt instant), hnanos]
  exact dif_pos hclock

theorem clock_lt (same : instant.day = other.day) (lt : instant.micros < other.micros) :
    instant.clock < other.clock := by
  unfold Instant.day at same
  unfold Instant.clock
  generalize instant.micros = first at same lt ⊢
  generalize other.micros = second at same lt ⊢
  by_cases hhour : first / 3600000000 % 24 < second / 3600000000 % 24
  · exact cons_lt_cons_iff.mpr (.inl hhour)
  have hhours : first / 3600000000 = second / 3600000000 := by omega
  refine cons_lt_cons_iff.mpr (.inr ⟨by rw [hhours], ?_⟩)
  by_cases hminute : first / 60000000 % 60 < second / 60000000 % 60
  · exact cons_lt_cons_iff.mpr (.inl hminute)
  have hminutes : first / 60000000 = second / 60000000 := by omega
  refine cons_lt_cons_iff.mpr (.inr ⟨by rw [hminutes], ?_⟩)
  by_cases hsecond : first / 1000000 % 60 < second / 1000000 % 60
  · exact cons_lt_cons_iff.mpr (.inl hsecond)
  have hseconds : first / 1000000 = second / 1000000 := by omega
  refine cons_lt_cons_iff.mpr (.inr ⟨by rw [hseconds], ?_⟩)
  exact cons_lt_cons_iff.mpr (.inl (by omega))

theorem fields_lt (lt : instant.micros < other.micros) : instant.fields < other.fields := by
  unfold Instant.fields
  rcases Nat.lt_or_ge instant.day other.day with hday | hday
  · exact append_lt_append_of_lt (by simp) (civil_lt hday) _ _
  · have hsame : instant.day = other.day := by
      unfold Instant.day at hday ⊢
      omega
    rw [hsame]
    exact append_lt_append_left _ (clock_lt hsame lt)

@[simp] theorem length_fields (instant : Instant) : instant.fields.length = 7 := by
  simp [Instant.fields, Instant.clock]

theorem toRfc3339_lt (lt : instant.micros < other.micros) : toRfc3339 instant < toRfc3339 other := by
  rw [String.lt_iff_toList_lt, toRfc3339, toRfc3339, String.toList_ofList, String.toList_ofList]
  exact fieldsText_lt_fieldsText (fit_fields other) (by simp) (fields_lt lt)

theorem toRfc3339_congr (eq : instant.micros = other.micros) :
    toRfc3339 instant = toRfc3339 other := by
  simp only [toRfc3339, Instant.fields, Instant.clock, Instant.day, eq]

theorem toRfc3339_lt_iff : toRfc3339 instant < toRfc3339 other ↔ instant.micros < other.micros := by
  constructor
  · intro lt
    rcases Nat.lt_trichotomy instant.micros other.micros with hlt | heq | hgt
    · exact hlt
    · rw [toRfc3339_congr heq] at lt
      exact absurd lt (lt_irrefl _)
    · exact absurd (lt.trans (toRfc3339_lt hgt)) (lt_irrefl _)
  · exact toRfc3339_lt

theorem toRfc3339_inj : toRfc3339 instant = toRfc3339 other ↔ instant.micros = other.micros := by
  constructor
  · intro eq
    rcases Nat.lt_trichotomy instant.micros other.micros with hlt | heq | hgt
    · exact absurd eq (toRfc3339_lt hlt).ne
    · exact heq
    · exact absurd eq (toRfc3339_lt hgt).ne'
  · exact toRfc3339_congr

theorem mem_toRfc3339 {c : Char} (mem : c ∈ (toRfc3339 instant).toList) :
    c.isDigit = true ∨ c ∈ "-T:.Z".toList := by
  rw [toRfc3339, String.toList_ofList] at mem
  refine (mem_fieldsText mem).imp_right fun hmem => ?_
  simp only [rfc3339, map_cons, map_nil] at hmem
  simpa using hmem

@[simp] theorem micros_truncated : instant.truncated.micros = instant.micros := by
  simp [Instant.truncated, Instant.micros]

def sampleInstant : Instant := ⟨63950000000123456000, by decide⟩

end Hypeterm.Util

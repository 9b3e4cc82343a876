import Hypeterm.Term.Isolation
import Hypeterm.Term.ParamText

/-! Control sequences as they are written: numbers joined by colons and semicolons, and what
the parser and the emulator make of them. -/
namespace Hypeterm.Term
open Library Checked List
open Hypeterm.Android.Parser (isDigit isFinal)

def asciiBytes (text : List Char) : Bytes := text.map fun c => UInt8.ofNat c.toNat

/-- A number as it is written, or nothing for one that is left out. -/
def numberText : Option Nat → Bytes
  | none => []
  | some number => asciiBytes (Nat.toDigits 10 number)

def subText (subs : List (Option Nat)) : Bytes := [0x3A].intercalate (subs.map numberText)

def paramText (params : List (List (Option Nat))) : Bytes := [0x3B].intercalate (params.map subText)

def kept : Option Nat → Int
  | none => missing
  | some number => (min 65535 number : Nat)

theorem digit_toDigits {number : Nat} {byte : UInt8}
    (digit : byte ∈ asciiBytes (Nat.toDigits 10 number)) : isDigit byte = true := by
  obtain ⟨c, hc, rfl⟩ := mem_map.mp digit
  have hdigit := Nat.isDigit_of_mem_toDigits (by decide) (by decide) hc
  rw [Char.isDigit, Bool.and_eq_true, decide_eq_true_eq, decide_eq_true_eq] at hdigit
  obtain ⟨hlow, hhigh⟩ := hdigit
  have hlow : 48 ≤ c.toNat := hlow
  have hhigh : c.toNat ≤ 57 := hhigh
  simp only [isDigit, Bool.and_eq_true, decide_eq_true_eq, UInt8.le_iff_toNat_le, UInt8.toNat_ofNat']
  have h48 : (0x30 : UInt8).toNat = 48 := rfl
  have h57 : (0x39 : UInt8).toNat = 57 := rfl
  omega

theorem digit_numberText {number : Option Nat} {byte : UInt8} (inside : byte ∈ numberText number) :
    isDigit byte = true := by
  cases number with
  | none => cases inside
  | some number => exact digit_toDigits inside

theorem digitValue_ascii {c : Char} (digit : c.isDigit = true) :
    digitValue (UInt8.ofNat c.toNat) = c.toNat - '0'.toNat := by
  rw [Char.isDigit, Bool.and_eq_true, decide_eq_true_eq, decide_eq_true_eq] at digit
  obtain ⟨hlow, hhigh⟩ := digit
  have hlow : 48 ≤ c.toNat := hlow
  have hhigh : c.toNat ≤ 57 := hhigh
  have h48 : (0x30 : UInt8).toNat = 48 := rfl
  unfold digitValue
  rw [UInt8.toNat_sub_of_le]
  · rw [h48, UInt8.toNat_ofNat', Nat.mod_eq_of_lt (by omega)]
    rfl
  · rw [UInt8.le_iff_toNat_le, h48, UInt8.toNat_ofNat']
    omega

theorem valueOf_numberText (number : Option Nat) :
    valueOf ((numberText number).map digitValue) = kept number := by
  cases number with
  | none => rfl
  | some number =>
    have hsome : (numberText (some number)).map digitValue ≠ [] := by
      rw [Ne, map_eq_nil_iff, numberText, asciiBytes, map_eq_nil_iff]
      exact Nat.toDigits_ne_nil
    have hvalue : decimalOf ((numberText (some number)).map digitValue) = number := by
      have hdigits := @Nat.ofDigitChars_ten_toDigits number
      rw [Nat.ofDigitChars_eq_foldl] at hdigits
      rw [decimalOf, numberText, asciiBytes, map_map, foldl_map]
      refine Eq.trans ?_ hdigits
      apply foldl_ext
      intro value c hc
      have hdigit := Nat.isDigit_of_mem_toDigits (by decide) (by decide) hc
      rw [Function.comp_apply, digitValue_ascii hdigit, Nat.mul_comm]
    rw [valueOf, if_neg hsome, hvalue]
    rfl

/-- Every parameter has at least its own number, and there are parameters. -/
structure Written (params : List (List (Option Nat))) : Prop where
  some : params ≠ []
  each : ∀ subs ∈ params, subs ≠ []

theorem mem_intercalate {byte separator : UInt8} {pieces : List Bytes}
    (inside : byte ∈ [separator].intercalate pieces) :
    byte = separator ∨ ∃ piece ∈ pieces, byte ∈ piece := by
  induction pieces with
  | nil => cases inside
  | cons first rest ih =>
    cases rest with
    | nil =>
      rw [intercalate_singleton] at inside
      exact .inr ⟨first, mem_cons_self, inside⟩
    | cons second rest =>
      rw [intercalate_cons_cons] at inside
      rcases mem_append.mp inside with hhead | hrest
      · rcases mem_append.mp hhead with hfirst | hseparator
        · exact .inr ⟨first, mem_cons_self, hfirst⟩
        · exact .inl (mem_singleton.mp hseparator)
      · rcases ih hrest with hseparator | ⟨piece, hpiece, hbyte⟩
        · exact .inl hseparator
        · exact .inr ⟨piece, mem_cons_of_mem _ hpiece, hbyte⟩

theorem mem_subText {subs : List (Option Nat)} {byte : UInt8} (inside : byte ∈ subText subs) :
    byte = 0x3A ∨ isDigit byte = true := by
  rcases mem_intercalate inside with hcolon | ⟨piece, hpiece, hbyte⟩
  · exact .inl hcolon
  · obtain ⟨number, -, rfl⟩ := mem_map.mp hpiece
    exact .inr (digit_numberText hbyte)

theorem isParamByte_paramText {params : List (List (Option Nat))} :
    ∀ byte ∈ paramText params, isParamByte byte = true := by
  intro byte inside
  unfold isParamByte
  rcases mem_intercalate inside with rfl | ⟨piece, hpiece, hbyte⟩
  · rfl
  · obtain ⟨subs, -, rfl⟩ := mem_map.mp hpiece
    rcases mem_subText hbyte with rfl | hdigit
    · rfl
    · rw [hdigit]
      rfl

variable {params : List (List (Option Nat))}

theorem splitOn_paramText (written : Written params) :
    (paramText params).splitOn 0x3B = params.map subText := by
  apply splitOn_intercalate
  · intro piece hpiece inside
    obtain ⟨subs, -, rfl⟩ := mem_map.mp hpiece
    rcases mem_subText inside with hcolon | hdigit
    · cases hcolon
    · cases hdigit
  · rw [Ne, map_eq_nil_iff]
    exact written.some

theorem splitOn_subText {subs : List (Option Nat)} (some : subs ≠ []) :
    (subText subs).splitOn 0x3A = subs.map numberText := by
  apply splitOn_intercalate
  · intro piece hpiece inside
    obtain ⟨number, -, rfl⟩ := mem_map.mp hpiece
    cases digit_numberText inside
  · rw [Ne, map_eq_nil_iff]
    exact some

theorem piece_paramText (written : Written params) (i : Nat) :
    piece 0x3B (paramText params) i = subText (params.getD i []) := by
  have hnone : ([] : Bytes) = subText [] := rfl
  rw [piece, splitOn_paramText written, hnone]
  exact getD_map ..

theorem field_paramText (written : Written params) (i j : Nat) :
    field 0x3B 0x3A (paramText params) i j = numberText ((params.getD i []).getD j none) := by
  rw [field, piece_paramText written]
  by_cases hinside : i < params.length
  · have hsubs := written.each _ (getElem_mem hinside)
    have hnone : ([] : Bytes) = numberText none := rfl
    rw [getD_eq_getElem _ _ hinside, piece, splitOn_subText hsubs, hnone]
    exact getD_map ..
  · rw [getD_eq_default _ _ (Nat.le_of_not_lt hinside)]
    exact piece_nil _ _

structure Roomy (params : List (List (Option Nat))) : Prop extends Written params where
  count : params.length ≤ 32
  subs : ∀ subs ∈ params, subs.length ≤ 8

theorem subParam_paramText (written : Written params) (i j : Nat) :
    valueOf (subParam (paramText params) i j) = kept ((params.getD i []).getD j none) := by
  rw [subParam, field_paramText written, valueOf_numberText]

theorem digitsAt_eq_nil {wanted : Place → Bool} {text : Bytes} {place : Place}
    (none : ∀ other, wanted other = true →
      digitsAt (Place.isOwn other.param other.sub) place text = []) :
    digitsAt wanted place text = [] := by
  induction text generalizing place with
  | nil => rfl
  | cons byte rest ih =>
    have hrest : digitsAt wanted (place.next byte) rest = [] := by
      refine ih fun other hwanted => ?_
      have hother := none other hwanted
      rw [digitsAt] at hother
      split at hother
      · cases hother
      · exact hother
    rw [digitsAt, hrest]
    split
    · rename_i hhere
      obtain ⟨hdigit, hwanted⟩ := Bool.and_eq_true_iff.mp hhere
      have hown : place.isOwn place.param place.sub = true := by simp [Place.isOwn]
      have hplace := none place hwanted
      rw [digitsAt, hdigit, hown, Bool.true_and, if_pos rfl] at hplace
      cases hplace
    · rfl

theorem intruding_paramText (roomy : Roomy params) (i j : Nat) :
    intruding (paramText params) i j = [] := by
  apply digitsAt_eq_nil
  intro other hwanted
  obtain ⟨hbeyond, -⟩ := Bool.and_eq_true_iff.mp hwanted
  have hown := digitsAt_own (@isParamByte_paramText params) {} other.param other.sub
  rw [Nat.zero_add, Nat.zero_add, ite_self] at hown
  rw [hown, subParam, field_paramText roomy.toWritten]
  have hnone : (params.getD other.param []).getD other.sub none = none := by
    simp only [Place.beyond, Bool.or_eq_true, decide_eq_true_eq] at hbeyond
    unfold maxParams maxSubParams at hbeyond
    have hcount := roomy.count
    by_cases hinside : other.param < params.length
    · have hsubs := roomy.subs _ (getElem_mem hinside)
      rw [getD_eq_getElem _ _ hinside, getD_eq_default _ _ (by omega)]
    · rw [getD_eq_default _ _ (Nat.le_of_not_lt hinside)]
      rfl
  rw [hnone]
  rfl

/-- How many sub-parameters are counted when the first of these is the one after `before`
others: no more for one that is left out. -/
def countFrom (before : Nat) (subs : List (Option Nat)) : Nat :=
  if subs = [none] then 0 else before + subs.length

namespace Params

variable {tables : Params} {place : Place}

/-- Nothing is counted for parameters still to come. -/
def Unused (tables : Params) : Prop :=
  ∀ i : Nat, i < 32 → tables.count ≤ i → tables.subCounts.getD i 0 = 0

theorem unused_clear : clear.Unused := by
  intro i hi _
  have hzero : clear.subCounts.getD i 0 = 0 := by
    unfold clear maxParams
    rw [getD_replicate _ hi]
  exact hzero

theorem counts_countSub (tables : Params) {index : Nat} (inside : index < tables.subCounts.length)
    (small : 0 ≤ tables.currentSub ∧ tables.currentSub < 8) (i : Nat) :
    (tables.countSub index).value.subCounts.getD i 0 =
      if index = i then max (tables.subCounts.getD i 0) (tables.currentSub.toNat + 1)
      else tables.subCounts.getD i 0 := by
  rw [value_countSub, Int.toNat_natCast]
  dsimp only
  by_cases hsame : index = i
  · cases hsame
    rw [if_pos rfl]
    split
    · rw [getD_set _ _ _ _ _ inside, if_pos rfl]
      omega
    · omega
  · rw [if_neg hsame]
    split
    · rw [getD_set _ _ _ _ _ inside, if_neg hsame]
    · rfl

section

variable (at_ : tables.At place) (unused : tables.Unused)
include at_ unused

theorem At.counts_digit {byte : UInt8}
    (digit : isDigit byte = true) : (tables.take byte).Unused ∧ ∀ i,
      (tables.take byte).subCounts.getD i 0 =
        if place.slot.1 = i then max (tables.subCounts.getD i 0) (place.slot.2 + 1)
        else tables.subCounts.getD i 0 := by
  obtain ⟨hindex, hsub, hroom⟩ := at_.begun
  have hlength := at_.bounded.subCounts
  have hfst := slot_fst_lt place
  have hsnd := slot_snd_lt place
  have hbegun : tables.begun.subCounts.length = 32 := by
    unfold Params.begun
    split
    · exact (length_set ..).trans hlength
    · exact hlength
  have hcounts : ∀ i, (tables.take byte).subCounts.getD i 0 =
      if place.slot.1 = i then max (tables.subCounts.getD i 0) (place.slot.2 + 1)
      else tables.subCounts.getD i 0 := by
    intro i
    rw [Params.take, if_pos digit, at_.pushDigit]
    refine (counts_countSub tables.begun (by omega) (by omega) i).trans ?_
    rw [hsub, Int.toNat_natCast]
    by_cases hnone : tables.count = 0
    · -- the first digit of all
      have hplace : place.slot = (0, 0) := by
        rcases at_.count with hsome | ⟨-, rfl⟩
        · omega
        · rfl
      have hzero := unused 0 (by decide) (by omega)
      rw [Params.begun, if_pos hnone, hplace]
      rw [getD_set _ _ _ _ _ (by omega)]
      by_cases hsame : 0 = i
      · cases hsame
        rw [if_pos rfl, if_pos rfl, if_pos rfl, hzero]
        rfl
      · rw [if_neg hsame, if_neg hsame, if_neg hsame]
    · rw [Params.begun, if_neg hnone]
  refine ⟨?_, hcounts⟩
  intro i hi hbeyond
  have hcount : (tables.take byte).count = tables.begun.count := by
    rw [Params.take, if_pos digit, at_.pushDigit, value_countSub]
  rw [hcount] at hbeyond
  have hless : tables.count ≤ tables.begun.count := by
    unfold Params.begun
    split
    · rename_i hnone
      rw [hnone]
      exact (by decide : (0 : Int) ≤ 1)
    · exact Int.le_refl _
  rw [hcounts, if_neg (by omega)]
  exact unused i hi (by omega)

theorem At.counts_semicolon (room : place.param + 1 < 32) : (tables.take 0x3B).Unused ∧
      ∀ i < 32, (tables.take 0x3B).subCounts.getD i 0 = tables.subCounts.getD i 0 := by
  obtain ⟨hstarted, hsame⟩ := at_.started
  have hlength := at_.bounded.subCounts
  have hless : tables.count ≤ tables.started.count := by
    rcases at_.count with hsome | ⟨hnone, -⟩
    · omega
    · omega
  have htaken : tables.take 0x3B = { tables with
      count := tables.started.count + 1
      subCounts := tables.subCounts.set tables.started.count.toNat 0
      currentSub := 0 } := by
    have hvalue := value_nextParam tables
    rw [if_pos (by omega)] at hvalue
    refine hvalue.trans ?_
    rw [hsame]
  have hcounts : ∀ i < 32,
      (tables.take 0x3B).subCounts.getD i 0 = tables.subCounts.getD i 0 := by
    intro i hi
    rw [htaken, getD_set _ _ _ _ _ (by omega)]
    split
    · rename_i hhere
      exact (unused i hi (by omega)).symm
    · rfl
  refine ⟨?_, hcounts⟩
  intro i hi hbeyond
  rw [htaken] at hbeyond
  dsimp only at hbeyond
  rw [hcounts i hi]
  exact unused i hi (by omega)

theorem At.counts_colon (room : place.colons + 1 < 8) : (tables.take 0x3A).Unused ∧ ∀ i,
      (tables.take 0x3A).subCounts.getD i 0 =
        if place.slot.1 = i then max (tables.subCounts.getD i 0) (place.colons + 2)
        else tables.subCounts.getD i 0 := by
  obtain ⟨hstarted, hsame⟩ := at_.started
  have hlength := at_.bounded.subCounts
  have hsub := at_.currentSub
  have hfst := slot_fst_lt place
  have hindex : tables.started.count - 1 = place.slot.1 := by
    unfold Place.slot
    omega
  have htaken : tables.take 0x3A =
      (countSub { tables.started with currentSub := tables.currentSub + 1 } place.slot.1).value := by
    have hcurrent : tables.started.currentSub = tables.currentSub := by rw [hsame]
    have hvalue := value_nextSubParam tables
    rw [hcurrent, if_pos (by omega), hindex] at hvalue
    exact hvalue
  have hcounts : ∀ i, (tables.take 0x3A).subCounts.getD i 0 =
      if place.slot.1 = i then max (tables.subCounts.getD i 0) (place.colons + 2)
      else tables.subCounts.getD i 0 := by
    intro i
    rw [htaken]
    refine (counts_countSub _ ?_ ?_ i).trans ?_
    · rw [hsame]
      dsimp only
      omega
    · dsimp only
      omega
    · rw [hsame]
      have hnext : (tables.currentSub + 1).toNat + 1 = place.colons + 2 := by omega
      rw [hnext]
  refine ⟨?_, hcounts⟩
  intro i hi hbeyond
  have hcount : (tables.take 0x3A).count = tables.started.count := by
    rw [htaken, value_countSub]
  rw [hcount] at hbeyond
  rw [hcounts, if_neg (by omega)]
  apply unused i hi
  rcases at_.count with hsome | ⟨hnone, -⟩
  · omega
  · omega

end

theorem read_append (tables : Params) (front back : Bytes) :
    tables.read (front ++ back) = (tables.read front).read back := foldl_append

theorem read_cons (tables : Params) (byte : UInt8) (rest : Bytes) :
    tables.read (byte :: rest) = (tables.take byte).read rest := rfl

theorem At.counts_digits (at_ : tables.At place) (unused : tables.Unused) {text : Bytes}
    (digits : ∀ byte ∈ text, isDigit byte = true) :
    (tables.read text).At place ∧ (tables.read text).Unused ∧ ∀ i,
      (tables.read text).subCounts.getD i 0 =
        if place.slot.1 = i ∧ text ≠ [] then max (tables.subCounts.getD i 0) (place.slot.2 + 1)
        else tables.subCounts.getD i 0 := by
  induction text generalizing tables with
  | nil => exact ⟨at_, unused, fun i => (if_neg fun some => some.2 rfl).symm⟩
  | cons byte rest ih =>
    obtain ⟨hdigit, hrest⟩ := forall_mem_cons.mp digits
    have hparam : isParamByte byte = true := by
      unfold isParamByte
      rw [hdigit]
      rfl
    have hat := (at_.take hparam).1
    rw [place.next_digit hdigit] at hat
    obtain ⟨hunused, hcounts⟩ := at_.counts_digit unused hdigit
    obtain ⟨hfinal, hstill, hread⟩ := ih hat hunused hrest
    refine ⟨hfinal, hstill, fun i => ?_⟩
    rw [read_cons, hread, hcounts]
    by_cases hhere : place.slot.1 = i
    · rw [if_pos hhere, @if_pos (_ ∧ byte :: rest ≠ []) _ ⟨hhere, cons_ne_nil byte rest⟩]
      split
      · omega
      · rfl
    · rw [if_neg hhere, if_neg fun some => hhere some.1, if_neg fun some => hhere some.1]

theorem subText_cons (number second : Option Nat) (rest : List (Option Nat)) :
    subText (number :: second :: rest) = numberText number ++ 0x3A :: subText (second :: rest) := by
  unfold subText
  rw [map_cons, map_cons, intercalate_cons_cons, append_assoc]
  rfl

theorem At.counts_subText {param before : Nat} {subs : List (Option Nat)} (some : subs ≠ [])
    (at_ : tables.At ⟨param, before, before⟩) (unused : tables.Unused) (room : param < 32)
    (few : before + subs.length ≤ 8) :
    (∃ last, (tables.read (subText subs)).At ⟨param, last, last⟩) ∧
      (tables.read (subText subs)).Unused ∧ ∀ i, (tables.read (subText subs)).subCounts.getD i 0 =
          if param = i then max (tables.subCounts.getD i 0) (countFrom before subs)
          else tables.subCounts.getD i 0 := by
  have hslot : Place.slot ⟨param, before, before⟩ = (param, before) := by
    unfold Place.slot
    dsimp only
    rw [Nat.min_eq_left (by omega), Nat.min_eq_left]
    have := length_pos_iff.mpr some
    omega
  induction subs generalizing tables before with
  | nil => exact absurd rfl some
  | cons number rest ih =>
    obtain ⟨hat, hunused, hcounts⟩ :=
      at_.counts_digits unused (fun byte hbyte => @digit_numberText number byte hbyte)
    rw [hslot] at hcounts
    have hnumber : numberText number ≠ [] ↔ number ≠ none := by
      cases number with
      | none => exact iff_of_false (fun hne => hne rfl) fun hne => hne rfl
      | some number =>
        refine iff_of_true ?_ (Option.some_ne_none number)
        rw [numberText, asciiBytes, Ne, map_eq_nil_iff]
        exact Nat.toDigits_ne_nil
    cases rest with
    | nil =>
      have htext : subText [number] = numberText number := intercalate_singleton
      rw [htext]
      refine ⟨⟨before, hat⟩, hunused, fun i => ?_⟩
      rw [hcounts]
      by_cases hhere : param = i
      · rw [if_pos hhere]
        by_cases hnone : number = none
        · rw [if_neg fun both => (hnumber.mp both.2) hnone, countFrom, if_pos (by rw [hnone])]
          exact (Nat.max_eq_left (Nat.zero_le _)).symm
        · rw [if_pos ⟨hhere, hnumber.mpr hnone⟩, countFrom, if_neg fun same =>
            hnone (head_eq_of_cons_eq same)]
          rfl
      · rw [if_neg hhere, if_neg fun both => hhere both.1]
    | cons second rest =>
      rw [length_cons, length_cons] at few
      have hroom : before + 1 < 8 := by omega
      obtain ⟨hunused, hcolon⟩ := hat.counts_colon hunused hroom
      rw [hslot] at hcolon
      have hnext : ((tables.read (numberText number)).take 0x3A).At
          ⟨param, before + 1, before + 1⟩ := (@At.take _ 0x3A _ hat rfl).1
      have hsecond : Place.slot ⟨param, before + 1, before + 1⟩ = (param, before + 1) := by
        unfold Place.slot
        dsimp only
        rw [Nat.min_eq_left (by omega), Nat.min_eq_left (by omega)]
      have hfew : before + 1 + (second :: rest).length ≤ 8 := by
        rw [length_cons]
        omega
      obtain ⟨hlast, hunused, hrest⟩ :=
        ih (cons_ne_nil second rest) hnext hunused hfew hsecond
      rw [subText_cons, read_append, read_cons]
      refine ⟨hlast, hunused, fun i => ?_⟩
      rw [hrest, hcolon]
      dsimp only
      by_cases hhere : param = i
      · rw [if_pos hhere, if_pos hhere, if_pos hhere]
        have hfirst : tables.subCounts.getD i 0 ≤
              (tables.read (numberText number)).subCounts.getD i 0 ∧
            (tables.read (numberText number)).subCounts.getD i 0 ≤
              max (tables.subCounts.getD i 0) (before + 1) := by
          rw [hcounts]
          split
          · omega
          · omega
        have hsubs : countFrom before (number :: second :: rest) = before + (rest.length + 2) := by
          rw [countFrom, if_neg (by simp), length_cons, length_cons]
        have hlater : countFrom (before + 1) (second :: rest) = before + (rest.length + 2) ∨
            countFrom (before + 1) (second :: rest) = 0 ∧ rest = [] := by
          unfold countFrom
          split
          · rename_i hnone
            exact .inr ⟨rfl, (List.cons.inj hnone).2⟩
          · left
            rw [length_cons]
            omega
        rcases hlater with hsome | ⟨hnone, hnil⟩
        · rw [hsubs, hsome]
          omega
        · rw [hsubs, hnone, hnil, length_nil]
          omega
      · rw [if_neg hhere, if_neg hhere, if_neg hhere, hcounts, if_neg fun both => hhere both.1]

theorem paramText_cons (subs second : List (Option Nat)) (rest : List (List (Option Nat))) :
    paramText (subs :: second :: rest) = subText subs ++ 0x3B :: paramText (second :: rest) := by
  unfold paramText
  rw [map_cons, map_cons, intercalate_cons_cons, append_assoc]
  rfl

theorem At.counts_paramText {first : Nat} {params : List (List (Option Nat))}
    (written : Written params) (subs : ∀ subs ∈ params, subs.length ≤ 8)
    (at_ : tables.At ⟨first, 0, 0⟩) (unused : tables.Unused) (room : first + params.length ≤ 32)
    {i : Nat} (inside : i < 32) :
    (tables.read (paramText params)).subCounts.getD i 0 =
      if first ≤ i ∧ i < first + params.length then
        max (tables.subCounts.getD i 0) (countFrom 0 (params.getD (i - first) []))
      else tables.subCounts.getD i 0 := by
  induction params generalizing tables first with
  | nil => exact absurd rfl written.some
  | cons front rest ih =>
    have hfront := written.each front mem_cons_self
    have hfew := subs front mem_cons_self
    rw [length_cons] at room
    obtain ⟨⟨last, hat⟩, hunused, hcounts⟩ :=
      at_.counts_subText hfront unused (by omega) (by omega)
    cases rest with
    | nil =>
      have htext : paramText [front] = subText front := intercalate_singleton
      rw [htext, hcounts]
      by_cases hhere : first = i
      · cases hhere
        rw [if_pos rfl, if_pos (by simp), Nat.sub_self]
        rfl
      · rw [if_neg hhere, if_neg]
        rw [length_singleton]
        omega
    | cons second rest =>
      rw [length_cons] at room
      obtain ⟨hunused, hsemicolon⟩ := hat.counts_semicolon hunused (by dsimp only; omega)
      have hnext := (@At.take _ 0x3B _ hat rfl).1
      have hplace : Place.next ⟨first, last, last⟩ 0x3B = ⟨first + 1, 0, 0⟩ := by
        have hroom : first + 1 < maxParams := by
          unfold maxParams
          omega
        rw [Place.next, if_pos rfl]
        rw [if_pos hroom]
      rw [hplace] at hnext
      have hwritten : Written (second :: rest) :=
        ⟨cons_ne_nil second rest, fun other hother =>
          written.each other (mem_cons_of_mem _ hother)⟩
      have hrest := ih hwritten (fun other hother => subs other (mem_cons_of_mem _ hother))
        hnext hunused (by rw [length_cons]; omega)
      rw [paramText_cons, read_append, read_cons, hrest, hsemicolon i inside, hcounts]
      simp only [length_cons]
      by_cases hhere : first = i
      · cases hhere
        rw [if_neg (by omega), if_pos rfl, if_pos (by omega), Nat.sub_self]
        rfl
      · rw [if_neg hhere]
        by_cases hlater : first + 1 ≤ i ∧ i < first + 1 + (rest.length + 1)
        · have hindex : i - first = (i - (first + 1)) + 1 := by omega
          rw [if_pos hlater, if_pos (by omega), hindex, getD_cons_succ]
        · rw [if_neg hlater, if_neg (by omega)]

structure Carries (tables : Params) (params : List (List (Option Nat))) : Prop where
  marker : tables.marker = 0
  count : tables.count = if params = [[none]] then 0 else (params.length : Int)
  get : ∀ (i : Nat) (fallback : Int), i < params.length →
    (tables.get i fallback).value =
      (((params.getD i []).getD 0 none).map fun number => kept (some number)).getD fallback
  getSub : ∀ (i j : Nat) (fallback : Int), i < params.length →
    (tables.getSub i j fallback).value =
      (((params.getD i []).getD j none).map fun number => kept (some number)).getD fallback
  subCount : ∀ i : Nat, i < params.length →
    (tables.subCount i).value = countFrom 0 (params.getD i [])

theorem At.marker_take (at_ : tables.At place) {byte : UInt8} (param : isParamByte byte = true) :
    (tables.take byte).marker = tables.marker := by
  obtain ⟨-, hsame⟩ := at_.started
  rcases param_cases param with hdigit | rfl | rfl
  · rw [Params.take, if_pos hdigit, at_.pushDigit, value_countSub]
    unfold Params.begun
    split
    · rfl
    · rfl
  · refine (congrArg marker (value_nextParam tables)).trans ?_
    rw [hsame]
    split
    · rfl
    · rfl
  · refine (congrArg marker (value_nextSubParam tables)).trans ?_
    rw [value_countSub, hsame]
    split
    · rfl
    · rfl

theorem At.marker_read (at_ : tables.At place) {text : Bytes}
    (bytes : ∀ byte ∈ text, isParamByte byte = true) :
    (tables.read text).marker = tables.marker := by
  induction text generalizing tables place with
  | nil => rfl
  | cons byte rest ih =>
    obtain ⟨hbyte, hrest⟩ := forall_mem_cons.mp bytes
    exact (ih (at_.take hbyte).1 hrest).trans (at_.marker_take hbyte)

theorem kept_some (number : Nat) : kept (some number) ≠ missing := by
  have hkept : kept (some number) = (min 65535 number : Nat) := rfl
  rw [hkept, missing]
  omega

theorem getD_kept (number : Option Nat) (fallback : Int) :
    (if kept number = missing then fallback else kept number) =
      (number.map fun number => kept (some number)).getD fallback := by
  cases number with
  | none => rfl
  | some number => exact if_neg (kept_some number)

theorem slot_paramText {params : List (List (Option Nat))} (roomy : Roomy params) {i j : Nat}
    (param : i < 32) (sub : j < 8) :
    (clear.read (paramText params)).slot i j = kept ((params.getD i []).getD j none) := by
  have hfields := digitsAt_own (@isParamByte_paramText params) {} i j
  rw [Nat.zero_add, Nat.zero_add, ite_self] at hfields
  have hintruding := intruding_paramText roomy i j
  unfold intruding at hintruding
  rw [at_clear.slot_read isParamByte_paramText, slot_clear param sub, foldl_extend_missing,
    digitsAt_arrives param sub (fun _ => rfl), hfields, hintruding, append_nil,
    subParam_paramText roomy.toWritten]

theorem paramText_eq_nil {params : List (List (Option Nat))} (written : Written params) :
    paramText params = [] ↔ params = [[none]] := by
  constructor
  · intro hnil
    have hsplit := splitOn_paramText written
    rw [hnil] at hsplit
    have hsingle : params.map subText = [[]] := hsplit.symm
    obtain ⟨subs, rfl, hsubs⟩ := map_eq_singleton_iff.mp hsingle
    have hnumbers := splitOn_subText (written.each subs (mem_singleton.mpr rfl))
    rw [hsubs] at hnumbers
    have hsingle : subs.map numberText = [[]] := hnumbers.symm
    obtain ⟨number, rfl, hnumber⟩ := map_eq_singleton_iff.mp hsingle
    cases number with
    | none => rfl
    | some number =>
      rw [numberText, asciiBytes, map_eq_nil_iff] at hnumber
      exact absurd hnumber Nat.toDigits_ne_nil
  · rintro rfl
    rfl

theorem carries_read {params : List (List (Option Nat))} (roomy : Roomy params) :
    (clear.read (paramText params)).Carries params := by
  have hat := at_clear.read (@isParamByte_paramText params)
  have hmarker := at_clear.marker_read (@isParamByte_paramText params)
  have hcount : (clear.read (paramText params)).count =
      if params = [[none]] then 0 else (params.length : Int) := by
    have hlength : ((paramText params).splitOn 0x3B).length = params.length := by
      rw [splitOn_paramText roomy.toWritten, length_map]
    rw [length_splitOn] at hlength
    have hroom := roomy.count
    rw [at_clear.count_read isParamByte_paramText]
    dsimp only
    by_cases hnil : params = [[none]]
    · rw [if_pos hnil, if_pos ((paramText_eq_nil roomy.toWritten).mpr hnil)]
      rfl
    · rw [if_neg hnil, if_neg fun htext => hnil ((paramText_eq_nil roomy.toWritten).mp htext)]
      omega
  have hslot (i j : Nat) (hi : i < params.length) (hj : j < 8) :=
    @slot_paramText params roomy i j (Nat.lt_of_lt_of_le hi roomy.count) hj
  generalize htables : clear.read (paramText params) = tables at *
  -- with one parameter that is left out, nothing is counted
  have hsingle (i : Nat) (inside : i < params.length) (hnil : params = [[none]]) (j : Nat) :
      (params.getD i []).getD j none = none := by
    cases hnil
    cases Nat.lt_one_iff.mp inside
    cases j with
    | zero => rfl
    | succ j => rfl
  refine ⟨hmarker, hcount, fun i fallback inside => ?_, fun i j fallback inside => ?_, fun i inside => ?_⟩
  · unfold Params.get
    rw [value_ite]
    by_cases hnil : params = [[none]]
    · rw [if_pos hnil] at hcount
      rw [if_pos (by omega), hsingle i inside hnil]
      rfl
    · rw [if_neg hnil] at hcount
      have hvalue : (if tables.slot i 0 = missing then fallback else tables.slot i 0) =
          (((params.getD i []).getD 0 none).map fun number => kept (some number)).getD fallback := by
        rw [hslot i 0 inside (by decide), getD_kept]
      rw [if_neg (by omega)]
      exact hvalue
  · unfold getSub
    rw [value_ite]
    by_cases hnil : params = [[none]]
    · rw [if_pos hnil] at hcount
      rw [if_pos (by omega), hsingle i inside hnil]
      rfl
    · rw [if_neg hnil] at hcount
      rw [if_neg (by omega), value_bind, value_ite]
      have hinside := Nat.lt_of_lt_of_le inside roomy.count
      by_cases hfew : (j : Int) < 0 ∨ (tables.subCounts.getD i 0 : Int) ≤ j
      · refine (if_pos hfew).trans ?_
        have hnone : (params.getD i []).getD j none = none := by
          by_cases hsub : j < 8
          · have hgiven := hat.counted i hinside j hsub
            rw [hslot i j inside hsub] at hgiven
            cases hnumber : (params.getD i []).getD j none with
            | none => rfl
            | some number =>
              rw [hnumber] at hgiven
              have := hgiven (kept_some number)
              omega
          · have hsubs := roomy.subs _ (getElem_mem inside)
            rw [getD_eq_getElem _ _ inside, getD_eq_default _ _ (by omega)]
        rw [hnone]
        rfl
      · refine (if_neg hfew).trans ?_
        have hcounts : tables.subCounts.getD i 0 ≤ 8 := by
          apply hat.bounded.subCount
          have hlength := hat.bounded.subCounts
          rw [getD_eq_getElem _ _ (by omega)]
          exact getElem_mem _
        have hvalue : (if tables.slot i j = missing then fallback else tables.slot i j) =
            (((params.getD i []).getD j none).map fun number => kept (some number)).getD
              fallback := by
          rw [hslot i j inside (by omega), getD_kept]
        exact hvalue
  · unfold subCount
    rw [value_ite]
    by_cases hnil : params = [[none]]
    · rw [if_pos hnil] at hcount
      rw [if_pos (by omega)]
      cases hnil
      cases Nat.lt_one_iff.mp inside
      rfl
    · rw [if_neg hnil] at hcount
      rw [if_neg (by omega)]
      have hcounts := at_clear.counts_paramText roomy.toWritten roomy.subs unused_clear
        (by have := roomy.count; omega) (Nat.lt_of_lt_of_le inside roomy.count)
      rw [if_pos (by omega), htables, unused_clear i (Nat.lt_of_lt_of_le inside roomy.count)
        (Int.natCast_nonneg i), Nat.max_eq_right (Nat.zero_le _), Nat.sub_zero] at hcounts
      exact congrArg (fun count : Nat => (count : Int)) hcounts

end Params

namespace Emulator

variable {emulator : Emulator} {text : Bytes}

theorem feed_quiet (quiet : (Parser.feed text emulator.parser).value.2 = []) :
    (feed text emulator).value =
      { emulator with parser := (Parser.feed text emulator.parser).value.1 } := by
  induction text generalizing emulator with
  | nil => rfl
  | cons byte rest ih =>
    rw [Parser.feed_cons] at quiet
    obtain ⟨hbyte, hrest⟩ := append_eq_nil_iff.mp quiet
    have hfed : (emulator.feedByte byte).value =
        { emulator with parser := (emulator.parser.feedByte byte).value.1 } := by
      simp only [feedByte, value_bind, hbyte, handleAll, value_pure]
    rw [feed_cons, hfed]
    exact @ih { emulator with parser := (emulator.parser.feedByte byte).value.1 } hrest

theorem feed_csi (escape : emulator.parser.state = .escape)
    (bytes : ∀ byte ∈ text, isParamByte byte = true) {final : UInt8} (ends : isFinal final = true) :
    ∃ parser : Parser, (parser.state = .ground ∧ parser.decoder = emulator.parser.decoder) ∧
      (feed (0x5B :: (text ++ [final])) emulator).value =
        (handle { emulator with parser } (.csi (Params.clear.read text) final)).value := by
  have hentry : (emulator.parser.feedByte 0x5B).value =
      ({ emulator.parser with state := .csiEntry, params := .clear, intermediates := [] }, []) := by
    unfold Parser.feedByte
    rw [escape]
    rfl
  obtain ⟨state, hstate, hread⟩ := @Parser.feed_csiText
    { emulator.parser with state := .csiEntry, params := .clear, intermediates := [] } text rfl bytes
  obtain ⟨hprintable, hordinary, -⟩ := Parser.final_cases ends
  have hprefix : (Parser.feed (0x5B :: text) emulator.parser).value =
      ({ emulator.parser with
        state := state, params := Params.clear.read text, intermediates := [] }, []) := by
    rw [Parser.feed_cons, hentry, hread]
    rfl
  have hquiet := @feed_quiet emulator (0x5B :: text) (congrArg Prod.snd hprefix)
  rw [ hprefix] at hquiet
  refine ⟨{ emulator.parser with
    state := .ground, params := Params.clear.read text, intermediates := [] }, ⟨rfl, rfl⟩, ?_⟩
  rw [← cons_append, feed_append, hquiet, feed_cons]
  have hfinal : (Parser.feedByte { emulator.parser with
      state := state, params := Params.clear.read text, intermediates := [] } final).value =
      ({ emulator.parser with
        state := .ground, params := Params.clear.read text, intermediates := [] },
        [.csi (Params.clear.read text) final]) := by
    rw [Parser.feedByte_csi hstate hordinary hprintable, Parser.feedParam_final ends]
    rfl
  simp only [feedByte, value_bind, hfinal, handleAll, value_pure, feed]

theorem parser_perform (emulator : Emulator) (action : Action) :
    (emulator.perform action).value.parser = emulator.parser ∨
      (emulator.perform action).value.parser = emulator.parser.reset := by
  cases action with
  | screen operation =>
    left
    simp only [perform, onActive, value_ite, value_bind, value_pure]
    split
    · rfl
    · rfl
  | change | savePrimaryCursor | respond => exact .inl rfl
  | restorePrimaryCursor => exact .inl rfl
  | enterAltScreen saveCursor clear =>
    left
    simp only [perform, enterAltScreen, value_ite, value_bind, value_pure]
    split
    · rfl
    · rfl
  | leaveAltScreen restoreCursor clear =>
    left
    simp only [perform, leaveAltScreen, value_ite, value_bind, value_pure]
    split
    · rfl
    · rfl
  | reset => exact .inr rfl

theorem settled_perform (settled : emulator.parser.Settled) (action : Action) :
    (emulator.perform action).value.parser.Settled := by
  rcases parser_perform emulator action with hsame | hreset
  · rw [hsame]
    exact settled
  · rw [hreset]
    exact .of_empty rfl

theorem settled_performAll (settled : emulator.parser.Settled) (actions : List Action) :
    (performAll actions emulator).value.parser.Settled := by
  induction actions generalizing emulator with
  | nil => exact settled
  | cons action rest ih => exact ih (settled_perform settled action)

theorem settled_handleAll (settled : emulator.parser.Settled) (events : List Event) :
    (handleAll events emulator).value.parser.Settled := by
  induction events generalizing emulator with
  | nil => exact settled
  | cons event rest ih => exact ih (settled_performAll settled _)

theorem settled_feed (settled : emulator.parser.Settled) (bytes : Bytes) :
    (feed bytes emulator).value.parser.Settled := by
  induction bytes generalizing emulator with
  | nil => exact settled
  | cons byte rest ih =>
    apply ih
    exact @settled_handleAll { emulator with parser := _ } (settled.feedByte byte) _

theorem settled_acceptAll (settled : emulator.parser.Settled) (inputs : List Input) :
    (acceptAll inputs emulator).value.parser.Settled := by
  induction inputs generalizing emulator with
  | nil => exact settled
  | cons input rest ih =>
    apply ih
    cases input with
    | feed bytes => exact settled_feed settled bytes
    | resize columns rows =>
      simp only [accept, resize, value_ite, value_bind, value_pure]
      repeat' split
      all_goals exact settled
    | reset => exact .of_empty rfl

theorem Reachable.settled (reachable : emulator.Reachable) : emulator.parser.Settled := by
  obtain ⟨config, inputs, -, -, -, rfl⟩ := reachable
  exact settled_acceptAll (.of_empty rfl) inputs

theorem feedByte_escape_idle (ground : emulator.parser.state = .ground)
    (idle : emulator.parser.decoder = {}) : ∃ parser,
      (emulator.feedByte 0x1B).value = { emulator with parser } := by
  have hfed : (emulator.parser.feedByte 0x1B).value.2 = [] := by
    unfold Parser.feedByte
    rw [ground]
    have hflush : emulator.parser.flushUtf8.2 = [] := by
      rw [events_flushUtf8, idle]
      rfl
    exact hflush
  refine ⟨(emulator.parser.feedByte 0x1B).value.1, ?_⟩
  simp only [feedByte, value_bind, hfed, handleAll, value_pure]

end Emulator

end Hypeterm.Term

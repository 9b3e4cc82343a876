import Hypeterm.Library.DecimalFields
import Hypeterm.Library.Utf8Text
import Hypeterm.Term.Resynchronising
import Hypeterm.Term.Tables

/-! The text between the introducer of a control sequence and its final byte, and what the fixed
tables keep of it. -/
namespace Hypeterm.Term
open Library Checked List
open Hypeterm.Android.Parser (isDigit isFinal)

def isParamByte (byte : UInt8) : Bool := isDigit byte || byte == 0x3B || byte == 0x3A

def digitValue (byte : UInt8) : Nat := (byte - 0x30).toNat

def valueOf (digits : List Nat) : Int :=
  if digits = [] then missing else (min 65535 (decimalOf digits) : Nat)

def subParam (text : Bytes) (i j : Nat) : List Nat := (field 0x3B 0x3A text i j).map digitValue

def paramCount (text : Bytes) : Nat := if text = [] then 0 else text.count 0x3B + 1

/-- The number that a byte of the text belongs to.  `colons` are those since its parameter
began, or since the last one did for which there is room. -/
structure Place where
  param : Nat := 0
  sub : Nat := 0
  colons : Nat := 0

namespace Place

def next (place : Place) (byte : UInt8) : Place :=
  if byte = 0x3B then
    ⟨place.param + 1, 0, if place.param + 1 < maxParams then 0 else place.colons⟩
  else if byte = 0x3A then ⟨place.param, place.sub + 1, place.colons + 1⟩
  else place

def beyond (place : Place) : Bool := maxParams ≤ place.param || maxSubParams ≤ place.sub

def slot (place : Place) : Nat × Nat := (min place.param 31, min place.colons 7)

/-- Up to the capacity every number has its own place. -/
def Sound (place : Place) : Prop := place.param < maxParams → place.colons = place.sub

theorem Sound.next {place : Place} (sound : place.Sound) (byte : UInt8) : (place.next byte).Sound := by
  unfold Sound Place.next at *
  split
  · intro hroom
    exact if_pos hroom
  split
  · intro hroom
    exact congrArg (· + 1) (sound hroom)
  · exact sound

theorem Sound.slot_eq {place : Place} (sound : place.Sound) (room : place.beyond = false) :
    place.slot = (place.param, place.sub) := by
  simp only [beyond, Bool.or_eq_false_iff, decide_eq_false_iff_not] at room
  unfold maxParams maxSubParams at room
  have hcolons : place.colons = place.sub := sound (Nat.lt_of_not_le room.1)
  unfold slot
  rw [hcolons]
  ext
  · dsimp only
    omega
  · dsimp only
    omega

theorem Sound.past {place : Place} (sound : place.Sound) (beyond : place.beyond = true) :
    place.slot.1 < place.param ∨ place.slot.1 = place.param ∧ place.slot.2 < place.sub := by
  simp only [Place.beyond, Bool.or_eq_true, decide_eq_true_eq] at beyond
  have hcolons : place.param < 32 → place.colons = place.sub := sound
  unfold maxParams maxSubParams at beyond
  unfold slot
  omega

theorem next_digit (place : Place) {byte : UInt8} (digit : isDigit byte = true) :
    place.next byte = place := by
  have hsemicolon : byte ≠ 0x3B := by
    rintro rfl
    cases digit
  have hcolon : byte ≠ 0x3A := by
    rintro rfl
    cases digit
  rw [next, if_neg hsemicolon, if_neg hcolon]

end Place

def digitsAt (wanted : Place → Bool) : Place → Bytes → List Nat
  | _, [] => []
  | place, byte :: rest =>
      if isDigit byte && wanted place then
        digitValue byte :: digitsAt wanted (place.next byte) rest
      else digitsAt wanted (place.next byte) rest

def Place.isOwn (i j : Nat) (place : Place) : Bool := place.param == i && place.sub == j

def Place.arrives (i j : Nat) (place : Place) : Bool := place.slot == (i, j)

def Place.intrudes (i j : Nat) (place : Place) : Bool := place.beyond && place.slot == (i, j)

/-- The digits of numbers that there is no room for, which arrive at the place of another. -/
def intruding (text : Bytes) (i j : Nat) : List Nat := digitsAt (Place.intrudes i j) {} text

/-- The text without the digits that there is no room for. -/
def fitting : Place → Bytes → Bytes
  | _, [] => []
  | place, byte :: rest =>
      if isDigit byte && place.beyond then fitting (place.next byte) rest
      else byte :: fitting (place.next byte) rest

theorem ne_of_digit {byte : UInt8} (digit : isDigit byte = true) : byte ≠ 0x3B ∧ byte ≠ 0x3A := by
  constructor
  · rintro rfl
    cases digit
  · rintro rfl
    cases digit

theorem param_cases {byte : UInt8} (param : isParamByte byte = true) :
    isDigit byte = true ∨ byte = 0x3B ∨ byte = 0x3A := by
  simpa only [isParamByte, Bool.or_eq_true, beq_iff_eq, or_assoc] using param

theorem digitsAt_past {i j : Nat} {place : Place}
    (past : i < place.param ∨ i = place.param ∧ j < place.sub) (text : Bytes) :
    digitsAt (Place.isOwn i j) place text = [] := by
  induction text generalizing place with
  | nil => rfl
  | cons byte rest ih =>
    have hother : place.isOwn i j = false := by
      simp only [Place.isOwn, Bool.and_eq_false_iff, beq_eq_false_iff_ne]
      omega
    rw [digitsAt, hother, Bool.and_false, if_neg Bool.false_ne_true]
    apply ih
    unfold Place.next
    split
    · dsimp only
      omega
    split
    · dsimp only
      omega
    · exact past

theorem digitsAt_own {text : Bytes} (params : ∀ byte ∈ text, isParamByte byte = true)
    (place : Place) (i j : Nat) :
    digitsAt (Place.isOwn (place.param + i) (if i = 0 then place.sub + j else j)) place text =
      subParam text i j := by
  induction text generalizing place i j with
  | nil =>
    rw [subParam, field_nil]
    rfl
  | cons byte rest ih =>
    obtain ⟨hbyte, hrest⟩ := forall_mem_cons.mp params
    rcases param_cases hbyte with hdigit | rfl | rfl
    · have hne := ne_of_digit hdigit
      have hkept := ih hrest place i j
      rw [digitsAt, place.next_digit hdigit, hdigit, Bool.true_and, hkept]
      cases i with
      | zero =>
        rw [if_pos rfl]
        cases j with
        | zero =>
          have hown : place.isOwn (place.param + 0) (place.sub + 0) = true := by simp [Place.isOwn]
          rw [hown, if_pos rfl, subParam, subParam, field_cons_zero hne.1 hne.2, map_cons]
        | succ j =>
          have hother : place.isOwn (place.param + 0) (place.sub + (j + 1)) = false := by
            simp [Place.isOwn]
          rw [hother, if_neg Bool.false_ne_true, subParam, subParam, field_cons_succ hne.1 hne.2]
      | succ i =>
        rw [if_neg (Nat.succ_ne_zero i)]
        have hother : place.isOwn (place.param + (i + 1)) j = false := by simp [Place.isOwn]
        rw [hother, if_neg Bool.false_ne_true, subParam, subParam, field_cons_group hne.1]
    · have hsemicolon : isDigit 0x3B = false := rfl
      rw [digitsAt, hsemicolon, Bool.false_and, if_neg Bool.false_ne_true]
      cases i with
      | zero =>
        rw [digitsAt_past, subParam, field_outer_zero]
        · rfl
        · exact .inl (Nat.lt_succ_self place.param)
      | succ i =>
        rw [if_neg (Nat.succ_ne_zero i), subParam, field_outer_succ]
        have hrest := ih hrest (place.next 0x3B) i j
        have hparam : (place.next 0x3B).param + i = place.param + (i + 1) := by
          rw [Place.next, if_pos rfl]
          dsimp only
          omega
        have hsub : (if i = 0 then (place.next 0x3B).sub + j else j) = j := by
          rw [Place.next, if_pos rfl]
          dsimp only
          split
          · omega
          · rfl
        rw [hparam, hsub] at hrest
        exact hrest
    · have hcolon : isDigit 0x3A = false := rfl
      have hnext : place.next 0x3A = ⟨place.param, place.sub + 1, place.colons + 1⟩ := rfl
      rw [digitsAt, hcolon, Bool.false_and, if_neg Bool.false_ne_true, hnext]
      cases i with
      | zero =>
        rw [if_pos rfl]
        cases j with
        | zero =>
          rw [digitsAt_past, subParam, field_inner_zero (by decide)]
          · rfl
          · exact .inr ⟨rfl, Nat.lt_succ_self place.sub⟩
        | succ j =>
          rw [subParam, field_inner_succ (by decide)]
          have hrest := ih hrest ⟨place.param, place.sub + 1, place.colons + 1⟩ 0 j
          rw [if_pos rfl, Nat.add_assoc, Nat.add_comm 1 j] at hrest
          exact hrest
      | succ i =>
        rw [if_neg (Nat.succ_ne_zero i), subParam, field_cons_group (by decide)]
        have hrest := ih hrest ⟨place.param, place.sub + 1, place.colons + 1⟩ (i + 1) j
        rw [if_neg (Nat.succ_ne_zero i)] at hrest
        exact hrest

theorem digitsAt_arrives {i j : Nat} (param : i < 32) (sub : j < 8) {place : Place}
    (sound : place.Sound) (text : Bytes) :
    digitsAt (Place.arrives i j) place text =
      digitsAt (Place.isOwn i j) place text ++ digitsAt (Place.intrudes i j) place text := by
  induction text generalizing place with
  | nil => rfl
  | cons byte rest ih =>
    have hrest := ih (sound.next byte)
    rw [digitsAt, digitsAt, digitsAt, hrest]
    cases hdigit : isDigit byte with
    | false => rfl
    | true =>
      rw [Bool.true_and, Bool.true_and, Bool.true_and]
      cases hbeyond : place.beyond with
      | false =>
        have hintrudes : place.intrudes i j = false := by rw [Place.intrudes, hbeyond]; rfl
        have harrives : place.arrives i j = place.isOwn i j := by
          rw [Place.arrives, sound.slot_eq hbeyond, Place.isOwn]
          rfl
        rw [hintrudes, harrives]
        split
        · rfl
        · rfl
      | true =>
        have hroom : maxParams ≤ place.param ∨ maxSubParams ≤ place.sub := by
          simpa only [Place.beyond, Bool.or_eq_true, decide_eq_true_eq] using hbeyond
        unfold maxParams maxSubParams at hroom
        have hown : place.isOwn i j = false := by
          simp only [Place.isOwn, Bool.and_eq_false_iff, beq_eq_false_iff_ne]
          omega
        have harrives : place.arrives i j = place.intrudes i j := by
          rw [Place.intrudes, hbeyond]
          rfl
        rw [hown, harrives]
        cases hintrudes : place.intrudes i j with
        | false => rfl
        | true =>
          -- the digits that belong there are over
          have hslot : place.slot = (i, j) := by
            simpa only [Place.intrudes, hbeyond, Bool.true_and, beq_iff_eq] using hintrudes
          have hpast := sound.past hbeyond
          rw [hslot] at hpast
          rw [place.next_digit hdigit, digitsAt_past hpast]
          rfl

namespace Params

def slot (params : Params) (i j : Nat) : Int := (params.values.getD i []).getD j 0

def extend (slot : Int) (digit : Nat) : Int :=
  min maxValue ((if slot = missing then 0 else slot) * 10 + digit)

theorem foldl_extend (value : Nat) (digits : List Nat) :
    digits.foldl extend (value : Int) = (digits.foldl (saturate 65535) value : Nat) := by
  induction digits generalizing value with
  | nil => rfl
  | cons digit rest ih =>
    have hextend : extend value digit = (saturate 65535 value digit : Nat) := by
      unfold extend saturate maxValue missing
      rw [if_neg (by omega)]
      omega
    rw [foldl_cons, hextend, ih, foldl_cons]

theorem foldl_extend_missing (digits : List Nat) : digits.foldl extend missing = valueOf digits := by
  unfold valueOf
  cases digits with
  | nil => rfl
  | cons digit rest =>
    rw [if_neg (cons_ne_nil digit rest), ← foldl_saturate_zero, ← foldl_extend]
    rfl

theorem le_extend {slot : Int} (bounded : Parameter slot) (digit : Nat) :
    slot ≤ extend slot digit ∧ 0 ≤ extend slot digit ∧ Parameter (extend slot digit) := by
  unfold Parameter extend maxValue missing at *
  split
  · omega
  · omega

theorem le_foldl_extend {slot : Int} (bounded : Parameter slot) (digits : List Nat) :
    slot ≤ digits.foldl extend slot := by
  induction digits generalizing slot with
  | nil => exact Int.le_refl slot
  | cons digit rest ih =>
    obtain ⟨hle, -, hbounded⟩ := le_extend bounded digit
    exact Int.le_trans hle (ih hbounded)

variable {params : Params}

theorem value_countSub (params : Params) (index : Int) : (params.countSub index).value =
      { params with
        subCounts :=
          if (params.subCounts.getD index.toNat 0 : Int) ≤ params.currentSub then
            params.subCounts.set index.toNat ((params.currentSub + 1).toNat % 256)
          else params.subCounts } := by
  rw [countSub, value_bind]
  split
  · rename_i hfew
    have hfew : (params.subCounts.getD index.toNat 0 : Int) ≤ params.currentSub := hfew
    rw [if_pos hfew]
    rfl
  · rename_i hmany
    have hmany : ¬(params.subCounts.getD index.toNat 0 : Int) ≤ params.currentSub := hmany
    rw [if_neg hmany]
    rfl

/-- The first digit of all begins the first parameter. -/
def begun (params : Params) : Params :=
  if params.count = 0 then
    { params with count := 1, currentSub := 0, subCounts := params.subCounts.set 0 1 }
  else params

theorem values_begun (params : Params) : params.begun.values = params.values := by
  unfold begun
  split
  · rfl
  · rfl

theorem value_extend {slot : Int} (bounded : slot ≤ maxValue) (digit : UInt8) :
    (if (if slot = missing then 0 else slot) ≤ maxValue then do
        let tens ← int ((if slot = missing then 0 else slot) * 10)
        let slot ← int (tens + digit.toNat)
        pure (if maxValue < slot then maxValue else slot)
      else pure (if slot = missing then 0 else slot) : Checked Int).value =
      extend slot digit.toNat := by
  have hsmall : (if slot = missing then 0 else slot) ≤ maxValue := by
    split
    · decide
    · exact bounded
  rw [if_pos hsmall]
  simp only [value_bind, value_int, value_pure]
  unfold extend
  omega

theorem value_pushDigit (digit : UInt8) (room : params.begun.count ≤ 32)
    (bounded : params.slot (params.begun.count - 1).toNat params.begun.currentSub.toNat ≤ maxValue) :
    (params.pushDigit digit).value =
      { (params.begun.countSub (params.begun.count - 1)).value with
        values := params.values.set (params.begun.count - 1).toNat
          ((params.values.getD (params.begun.count - 1).toNat []).set params.begun.currentSub.toNat
            (extend (params.slot (params.begun.count - 1).toNat params.begun.currentSub.toNat)
              digit.toNat)) } := by
  have hbegun : (if params.count = 0 then do
        let subCounts ← put params.subCounts 0 1
        pure { params with count := 1, currentSub := 0, subCounts }
      else pure params : Checked Params).value = params.begun := by
    unfold begun
    rw [value_ite]
    rfl
  have hvalues := values_begun params
  unfold pushDigit
  rw [value_bind, hbegun]
  rw [value_bind, value_int, if_neg (by unfold maxParams; omega)]
  have hcounted := value_countSub params.begun (params.begun.count - 1)
  rw [value_bind]
  rw [hcounted]
  simp only [value_bind, value_get, value_put, value_pure, hvalues]
  rw [← value_extend bounded]
  rfl

def take (params : Params) (byte : UInt8) : Params :=
  if isDigit byte then (params.pushDigit (byte - 0x30)).value
  else if byte = 0x3B then params.nextParam.value
  else params.nextSubParam.value

def read (params : Params) (text : Bytes) : Params := text.foldl take params

/-- The tables after some text, when the next byte belongs to a place.  A number that was
given is counted, and parameters still to come are empty. -/
structure At (params : Params) (place : Place) : Prop where
  bounded : params.Bounded
  count : params.count = (min (place.param + 1) 32 : Nat) ∨ params.count = 0 ∧ place = {}
  currentSub : params.currentSub = (min place.colons 7 : Nat)
  counted : ∀ i < 32, ∀ j < 8, params.slot i j ≠ missing → j < params.subCounts.getD i 0
  fresh : ∀ i : Nat, i < 32 → params.count ≤ i → ∀ j < 8, params.slot i j = missing

variable {i j : Nat} {byte : UInt8}

theorem slot_clear (param : i < 32) (sub : j < 8) : clear.slot i j = missing := by
  unfold slot clear maxParams maxSubParams
  rw [getD_replicate _ param, getD_replicate _ sub]

theorem at_clear : clear.At {} where
  bounded := bounded_clear
  count := .inr ⟨rfl, rfl⟩
  currentSub := rfl
  counted _ param _ sub given := absurd (slot_clear param sub) given
  fresh _ param _ _ sub := slot_clear param sub

variable {place : Place}

theorem slot_fst_lt (place : Place) : place.slot.1 < 32 := by
  unfold Place.slot
  omega

theorem slot_snd_lt (place : Place) : place.slot.2 < 8 := by
  unfold Place.slot
  omega

theorem At.parameter (at_ : params.At place) (param : i < 32) (sub : j < 8) :
    Parameter (params.slot i j) := by
  have hrows := at_.bounded.values
  have hrow : params.values.getD i [] ∈ params.values := by
    rw [getD_eq_getElem _ _ (by omega)]
    exact getElem_mem _
  obtain ⟨hwidth, hslots⟩ := at_.bounded.slots _ hrow
  apply hslots
  unfold slot
  generalize params.values.getD i [] = row at hwidth
  rw [getD_eq_getElem _ _ (by omega)]
  exact getElem_mem _

theorem At.begun (at_ : params.At place) : params.begun.count - 1 = place.slot.1 ∧
    params.begun.currentSub = place.slot.2 ∧ params.begun.count ≤ 32 := by
  have hcount := at_.count
  have hsub := at_.currentSub
  unfold Params.begun Place.slot
  split
  · rename_i hnone
    rcases hcount with hsome | ⟨-, rfl⟩
    · omega
    · exact ⟨rfl, rfl, (by decide : (1 : Int) ≤ 32)⟩
  · rename_i hnone
    rcases hcount with hsome | ⟨hnone', -⟩
    · dsimp only
      omega
    · exact absurd hnone' hnone

theorem getD_set {α : Type} (elements : List α) (i j : Nat) (element fallback : α)
    (inside : i < elements.length) :
    (elements.set i element).getD j fallback = if i = j then element else elements.getD j fallback := by
  rw [getD_eq_getElem?_getD, getElem?_set, getD_eq_getElem?_getD, if_pos inside]
  split
  · rfl
  · rfl

theorem slot_set (params : Params) (value : Int) (param : i < params.values.length)
    (sub : j < (params.values.getD i []).length) (i' j' : Nat) :
    slot { params with
        values := params.values.set i ((params.values.getD i []).set j value) } i' j' =
      if (i, j) = (i', j') then value else params.slot i' j' := by
  unfold slot
  rw [getD_set _ _ _ _ _ param]
  by_cases hparam : i = i'
  · cases hparam
    rw [if_pos rfl, getD_set _ _ _ _ _ sub]
    by_cases hsub : j = j'
    · rw [if_pos hsub, if_pos (by rw [hsub])]
    · rw [if_neg hsub, if_neg fun same => hsub (Prod.ext_iff.mp same).2]
  · rw [if_neg hparam, if_neg fun same => hparam (Prod.ext_iff.mp same).1]

theorem At.pushDigit (at_ : params.At place) (digit : UInt8) : (params.pushDigit digit).value =
      { (params.begun.countSub place.slot.1).value with
        values := params.values.set place.slot.1
          ((params.values.getD place.slot.1 []).set place.slot.2
            (extend (params.slot place.slot.1 place.slot.2) digit.toNat)) } := by
  obtain ⟨hindex, hsub, hroom⟩ := at_.begun
  have hbounded := at_.parameter (slot_fst_lt place) (slot_snd_lt place)
  have hpushed := @value_pushDigit params digit hroom
  rw [hindex, hsub, Int.toNat_natCast, Int.toNat_natCast] at hpushed
  exact hpushed hbounded.2

theorem value_nextParam (params : Params) : params.nextParam.value =
      if params.started.count < 32 then
        { params.started with
          count := params.started.count + 1
          subCounts := params.started.subCounts.set params.started.count.toNat 0
          currentSub := 0 }
      else { params.started with overflowed := true } := by
  unfold nextParam
  rw [value_ite]
  have hindex : params.started.count + 1 - 1 = params.started.count := by omega
  simp only [value_bind, value_int, value_put, value_pure, hindex]
  rfl

theorem value_nextSubParam (params : Params) : params.nextSubParam.value =
      if params.started.currentSub + 1 < 8 then
        (countSub { params.started with currentSub := params.started.currentSub + 1 }
          (params.started.count - 1)).value
      else { params.started with overflowed := true } := by
  unfold nextSubParam
  rw [value_bind, value_bind, value_ite]
  rfl

theorem At.started (at_ : params.At place) :
    params.started.count = (min (place.param + 1) 32 : Nat) ∧
      params.started = { params with count := params.started.count } := by
  have hcount := at_.count
  unfold Params.started
  split
  · rename_i hnone
    rcases hcount with hsome | ⟨-, rfl⟩
    · omega
    · exact ⟨rfl, rfl⟩
  · rename_i hnone
    rcases hcount with hsome | ⟨hnone', -⟩
    · exact ⟨hsome, rfl⟩
    · exact absurd hnone' hnone

theorem le_countSub (params : Params) (index i : Nat) (inside : index < params.subCounts.length)
    (small : 0 ≤ params.currentSub ∧ params.currentSub < 8) :
    params.subCounts.getD i 0 ≤ (params.countSub index).value.subCounts.getD i 0 ∧
      params.currentSub < (params.countSub index).value.subCounts.getD index 0 := by
  rw [value_countSub, Int.toNat_natCast]
  dsimp only
  split
  · rename_i hfew
    rw [getD_set _ _ _ _ _ inside, getD_set _ _ _ _ _ inside, if_pos rfl]
    constructor
    · split
      · rename_i hsame
        cases hsame
        omega
      · exact Nat.le_refl _
    · omega
  · exact ⟨Nat.le_refl _, by omega⟩

theorem At.take_digit (at_ : params.At place) {digit : UInt8} (decimal : digit.toNat ≤ 9) :
    (params.pushDigit digit).value.At place ∧ ∀ i j, (params.pushDigit digit).value.slot i j =
        if place.slot = (i, j) then extend (params.slot i j) digit.toNat else params.slot i j := by
  obtain ⟨hindex, hsub, -⟩ := at_.begun
  have hpushed := at_.pushDigit digit
  have hcounts : params.begun.subCounts.length = 32 := by
    unfold Params.begun
    split
    · exact (length_set ..).trans at_.bounded.subCounts
    · exact at_.bounded.subCounts
  have hfst := slot_fst_lt place
  have hsnd := slot_snd_lt place
  have hle := fun i => le_countSub params.begun place.slot.1 i (by omega) (by omega)
  have hrows := at_.bounded.values
  have hwidth : (params.values.getD place.slot.1 []).length = 8 := by
    apply (at_.bounded.slots _ _).1
    rw [getD_eq_getElem _ _ (by omega)]
    exact getElem_mem _
  have hslots : ∀ i j, (params.pushDigit digit).value.slot i j =
      if place.slot = (i, j) then extend (params.slot i j) digit.toNat else params.slot i j := by
    intro i j
    have hset := slot_set params (extend (params.slot place.slot.1 place.slot.2) digit.toNat)
      (by omega : place.slot.1 < params.values.length) (by omega : place.slot.2 < _) i j
    rw [hpushed]
    refine hset.trans ?_
    by_cases hsame : place.slot = (i, j)
    · rw [if_pos hsame, if_pos hsame, hsame]
    · rw [if_neg hsame, if_neg hsame]
  refine ⟨⟨(at_.bounded.pushDigit decimal).2, ?_, ?_, ?_, ?_⟩, hslots⟩
  · left
    rw [hpushed, value_countSub]
    dsimp only
    unfold Place.slot at hindex
    omega
  · rw [hpushed, value_countSub]
    exact hsub
  · intro i hi j hj hgiven
    have hcounted : (params.pushDigit digit).value.subCounts =
        (params.begun.countSub place.slot.1).value.subCounts := by
      rw [hpushed]
    rw [hcounted]
    by_cases hsame : place.slot = (i, j)
    · obtain ⟨rfl, rfl⟩ := Prod.ext_iff.mp hsame
      have hnew := (hle 0).2
      omega
    · rw [hslots, if_neg hsame] at hgiven
      have hold := at_.counted i hi j hj hgiven
      have hmore := (hle i).1
      have hsome : params.count ≠ 0 := fun hnone =>
        hgiven (at_.fresh _ hi (by omega) j hj)
      rw [Params.begun, if_neg hsome] at hmore
      rw [Params.begun, if_neg hsome]
      omega
  · intro i hi hcount j hj
    have hcount : (params.begun.count : Int) ≤ i := by
      rw [hpushed, value_countSub] at hcount
      exact hcount
    have hother : place.slot ≠ (i, j) := by
      intro same
      have hfirst := (Prod.ext_iff.mp same).1
      omega
    rw [hslots, if_neg hother]
    apply at_.fresh i hi _ j hj
    refine Int.le_trans ?_ hcount
    unfold Params.begun
    split
    · rename_i hnone
      rw [hnone]
      exact (by decide : (0 : Int) ≤ 1)
    · exact Int.le_refl _

theorem At.nextParam (at_ : params.At place) : params.nextParam.value.At (place.next 0x3B) ∧
    ∀ i j, params.nextParam.value.slot i j = params.slot i j := by
  obtain ⟨hstarted, hsame⟩ := at_.started
  have hcount := at_.count
  have hnext : place.next 0x3B =
      ⟨place.param + 1, 0, if place.param + 1 < 32 then 0 else place.colons⟩ := rfl
  have hbounded := at_.bounded.nextParam.2
  have hslots : ∀ i j, params.nextParam.value.slot i j = params.slot i j := by
    rw [value_nextParam, hsame]
    intro i j
    split
    · rfl
    · rfl
  refine ⟨?_, hslots⟩
  rw [hnext]
  by_cases hroom : place.param + 1 < 32
  · have hvalue : params.nextParam.value = { params with
        count := params.started.count + 1
        subCounts := params.subCounts.set params.started.count.toNat 0
        currentSub := 0 } := by
      rw [value_nextParam, if_pos (by omega), hsame]
    refine ⟨hbounded, ?_, ?_, ?_, ?_⟩
    · left
      rw [hvalue]
      dsimp only
      omega
    · rw [hvalue, if_pos hroom]
      rfl
    · intro i hi j hj hgiven
      rw [hslots] at hgiven
      rw [hvalue, getD_set _ _ _ _ _ (by have := at_.bounded.subCounts; omega)]
      split
      · rename_i hsame
        refine absurd (at_.fresh i hi ?_ j hj) hgiven
        rcases hcount with hsome | ⟨hnone, -⟩
        · omega
        · omega
      · exact at_.counted i hi j hj hgiven
    · intro i hi hbeyond j hj
      rw [hslots]
      apply at_.fresh i hi _ j hj
      rw [hvalue] at hbeyond
      dsimp only at hbeyond
      rcases hcount with hsome | ⟨hnone, -⟩
      · omega
      · omega
  · have hvalue : params.nextParam.value = { params with overflowed := true } := by
      rw [value_nextParam, if_neg (by omega), hsame]
      rcases hcount with hsome | ⟨-, rfl⟩
      · rw [hstarted, ← hsome]
      · exact absurd (by decide) hroom
    rw [if_neg hroom]
    refine ⟨hbounded, ?_, ?_, ?_, ?_⟩
    · left
      rw [hvalue]
      dsimp only
      rcases hcount with hsome | ⟨-, rfl⟩
      · omega
      · exact absurd (by decide) hroom
    · rw [hvalue]
      exact at_.currentSub
    · intro i hi j hj hgiven
      rw [hslots] at hgiven
      rw [hvalue]
      exact at_.counted i hi j hj hgiven
    · intro i hi hbeyond j hj
      rw [hslots]
      rw [hvalue] at hbeyond
      exact at_.fresh i hi hbeyond j hj

theorem At.nextSubParam (at_ : params.At place) : params.nextSubParam.value.At (place.next 0x3A) ∧
    ∀ i j, params.nextSubParam.value.slot i j = params.slot i j := by
  obtain ⟨hstarted, hsame⟩ := at_.started
  have hsub := at_.currentSub
  have hnext : place.next 0x3A = ⟨place.param, place.sub + 1, place.colons + 1⟩ := rfl
  have hbounded := at_.bounded.nextSubParam.2
  have hcounts := at_.bounded.subCounts
  have hslots : ∀ i j, params.nextSubParam.value.slot i j = params.slot i j := by
    rw [value_nextSubParam, value_countSub, hsame]
    intro i j
    split
    · rfl
    · rfl
  have hcount : params.nextSubParam.value.count = params.started.count := by
    rw [value_nextSubParam, value_countSub]
    split
    · rfl
    · rfl
  have hindex : params.started.count - 1 = place.slot.1 := by
    unfold Place.slot
    omega
  have hcurrent : params.started.currentSub = params.currentSub := by rw [hsame]
  have hle (i : Nat) : params.subCounts.getD i 0 ≤
      params.nextSubParam.value.subCounts.getD i 0 := by
    rw [value_nextSubParam, hindex, hcurrent]
    split
    · rename_i hroom
      have hcounted := le_countSub
        { params.started with currentSub := params.currentSub + 1 } place.slot.1 i
      rw [hsame] at hcounted ⊢
      refine (hcounted ?_ ?_).1
      · have := slot_fst_lt place
        dsimp only
        omega
      · dsimp only
        omega
    · rw [hsame]
  refine ⟨⟨hbounded, ?_, ?_, ?_, ?_⟩, hslots⟩
  · left
    rw [hcount, hstarted, hnext]
  · rw [value_nextSubParam, value_countSub, hcurrent, hnext]
    dsimp only
    split
    · dsimp only
      omega
    · rw [hcurrent]
      omega
  · intro i hi j hj hgiven
    rw [hslots] at hgiven
    have hold := at_.counted i hi j hj hgiven
    exact Nat.lt_of_lt_of_le hold (hle i)
  · intro i hi hbeyond j hj
    rw [hslots]
    apply at_.fresh i hi _ j hj
    rw [hcount, hstarted] at hbeyond
    rcases at_.count with hsome | ⟨hnone, -⟩
    · omega
    · omega

theorem At.take (at_ : params.At place) (param : isParamByte byte = true) :
    (params.take byte).At (place.next byte) ∧ ∀ i j, (params.take byte).slot i j =
        if isDigit byte && place.arrives i j then extend (params.slot i j) (digitValue byte)
        else params.slot i j := by
  rcases param_cases param with hdigit | rfl | rfl
  · rw [Params.take, if_pos hdigit, place.next_digit hdigit]
    obtain ⟨hat, hslots⟩ := at_.take_digit (Parser.toNat_digit hdigit)
    refine ⟨hat, fun i j => (hslots i j).trans ?_⟩
    simp only [hdigit, Bool.true_and, Place.arrives, beq_iff_eq]
    rfl
  · exact at_.nextParam
  · exact at_.nextSubParam

variable {text : Bytes}

theorem At.slot_read (at_ : params.At place) (bytes : ∀ byte ∈ text, isParamByte byte = true)
    (i j : Nat) : (params.read text).slot i j =
      (digitsAt (Place.arrives i j) place text).foldl extend (params.slot i j) := by
  induction text generalizing params place with
  | nil => rfl
  | cons byte rest ih =>
    obtain ⟨hbyte, hrest⟩ := forall_mem_cons.mp bytes
    obtain ⟨hat, hslots⟩ := at_.take hbyte
    have hread := ih hat hrest
    rw [hslots] at hread
    rw [digitsAt]
    refine hread.trans ?_
    split
    · rfl
    · rfl

theorem At.count_read (at_ : params.At place) (bytes : ∀ byte ∈ text, isParamByte byte = true) :
    (params.read text).count =
      if text = [] then params.count else (min (place.param + text.count 0x3B + 1) 32 : Nat) := by
  induction text generalizing params place with
  | nil => rfl
  | cons byte rest ih =>
    obtain ⟨hbyte, hrest⟩ := forall_mem_cons.mp bytes
    obtain ⟨hat, -⟩ := at_.take hbyte
    rw [if_neg (cons_ne_nil byte rest), count_cons]
    refine (ih hat hrest).trans ?_
    have hparam : (place.next byte).param = place.param + if byte == 0x3B then 1 else 0 := by
      unfold Place.next
      by_cases hsemicolon : byte = 0x3B
      · rw [if_pos hsemicolon, if_pos (beq_iff_eq.mpr hsemicolon)]
      · rw [if_neg hsemicolon, if_neg fun same => hsemicolon (beq_iff_eq.mp same)]
        split
        · rfl
        · rfl
    split
    · rename_i hnil
      cases hnil
      rw [count_nil]
      rcases hat.count with hsome | ⟨hnone, hplace⟩
      · rw [hsome, hparam]
        congr 1
        omega
      · -- no parameter has begun only before the first byte
        exfalso
        rcases param_cases hbyte with hdigit | rfl | rfl
        · have hstart := at_.begun
          rw [Params.take, if_pos hdigit, at_.pushDigit, value_countSub] at hnone
          dsimp only at hnone
          omega
        · exact Nat.succ_ne_zero _ (congrArg Place.param hplace)
        · exact Nat.succ_ne_zero _ (congrArg Place.sub hplace)
    · rw [hparam]
      congr 1
      omega

theorem isOwn_false_of_beyond (beyond : place.beyond = true) (param : i < 32)
    (sub : j < 8) : place.isOwn i j = false := by
  simp only [Place.beyond, Bool.or_eq_true, decide_eq_true_eq] at beyond
  unfold maxParams maxSubParams at beyond
  simp only [Place.isOwn, Bool.and_eq_false_iff, beq_eq_false_iff_ne]
  omega

theorem At.read (at_ : params.At place) (bytes : ∀ byte ∈ text, isParamByte byte = true) :
    (params.read text).At (text.foldl Place.next place) := by
  induction text generalizing params place with
  | nil => exact at_
  | cons byte rest ih =>
    obtain ⟨hbyte, hrest⟩ := forall_mem_cons.mp bytes
    exact ih (at_.take hbyte).1 hrest

theorem At.value_getSub (at_ : params.At place) (param : i < 32) (sub : j < 8) :
    (params.getSub i j missing).value = params.slot i j := by
  unfold getSub
  rw [value_ite]
  split
  · rename_i hbeyond
    exact (at_.fresh i param (by omega) j sub).symm
  rw [value_bind, value_ite]
  split
  · rename_i hfew
    by_cases hgiven : params.slot i j = missing
    · exact hgiven.symm
    · have hcounted := at_.counted i param j sub hgiven
      have hfew : (j : Int) < 0 ∨ (params.subCounts.getD i 0 : Int) ≤ j := hfew
      omega
  · have hvalue : (if params.slot i j = missing then missing else params.slot i j) =
        params.slot i j := ite_eq_right_iff.mpr fun hmissing => hmissing.symm
    exact hvalue

theorem At.value_get (at_ : params.At place) (param : i < 32) :
    (params.get i missing).value = params.slot i 0 := by
  unfold Params.get
  rw [value_ite]
  split
  · rename_i hbeyond
    exact (at_.fresh i param (by omega) 0 (by decide)).symm
  · have hvalue : (if params.slot i 0 = missing then missing else params.slot i 0) =
        params.slot i 0 := ite_eq_right_iff.mpr fun hmissing => hmissing.symm
    exact hvalue

theorem At.extend_steady (at_ : params.At place) (sound : place.Sound)
    (beyond : place.beyond = true) {rest : Bytes} (digit : isDigit byte = true)
    (steady : (digitsAt (Place.arrives place.slot.1 place.slot.2) place (byte :: rest)).foldl extend
        (params.slot place.slot.1 place.slot.2) =
      (digitsAt (Place.isOwn place.slot.1 place.slot.2) place (byte :: rest)).foldl extend
        (params.slot place.slot.1 place.slot.2)) :
    extend (params.slot place.slot.1 place.slot.2) (digitValue byte) =
        params.slot place.slot.1 place.slot.2 ∧
      0 ≤ params.slot place.slot.1 place.slot.2 := by
  have hbounded := at_.parameter (slot_fst_lt place) (slot_snd_lt place)
  have harrives : place.arrives place.slot.1 place.slot.2 = true := beq_self_eq_true _
  rw [digitsAt_past (sound.past beyond), digitsAt, digit, harrives, Bool.true_and, if_pos rfl,
    foldl_cons, foldl_nil] at steady
  obtain ⟨hle, hnatural, hextended⟩ := le_extend hbounded (digitValue byte)
  have hfold := le_foldl_extend hextended
    (digitsAt (Place.arrives place.slot.1 place.slot.2) (place.next byte) rest)
  rw [steady] at hfold
  exact ⟨Int.le_antisymm hfold hle, Int.le_trans hnatural hfold⟩

theorem set_getD {α : Type} (elements : List α) (i : Nat) (fallback : α) :
    elements.set i (elements.getD i fallback) = elements := by
  apply ext_getElem
  · exact length_set ..
  · intro j hj _
    rw [getElem_set]
    split
    · rename_i hsame
      cases hsame
      rw [getD_eq_getElem]
    · rfl

theorem At.take_steady (at_ : params.At place) (beyond : place.beyond = true)
    (digit : isDigit byte = true)
    (steady : extend (params.slot place.slot.1 place.slot.2) (digitValue byte) =
        params.slot place.slot.1 place.slot.2 ∧
      0 ≤ params.slot place.slot.1 place.slot.2) : params.take byte = params := by
  have hsome : params.count ≠ 0 := by
    intro hnone
    rcases at_.count with hcount | ⟨-, rfl⟩
    · omega
    · cases beyond
  have hcounted := at_.counted _ (slot_fst_lt place) _ (slot_snd_lt place)
    (by unfold missing; omega)
  obtain ⟨-, hsub, -⟩ := at_.begun
  rw [Params.begun, if_neg hsome] at hsub
  have hvalue : (params.countSub place.slot.1).value = params := by
    rw [value_countSub, Int.toNat_natCast, if_neg (by omega)]
  have hset : (params.values.getD place.slot.1 []).set place.slot.2
      (params.slot place.slot.1 place.slot.2) = params.values.getD place.slot.1 [] :=
    set_getD _ _ 0
  have hdigit : (byte - 0x30).toNat = digitValue byte := rfl
  rw [Params.take, if_pos digit, at_.pushDigit, Params.begun, if_neg hsome, hvalue, hdigit,
    steady.1, hset, set_getD]

theorem At.read_fitting (at_ : params.At place) (sound : place.Sound)
    (bytes : ∀ byte ∈ text, isParamByte byte = true)
    (steady : ∀ i < 32, ∀ j < 8,
      (digitsAt (Place.arrives i j) place text).foldl extend (params.slot i j) =
        (digitsAt (Place.isOwn i j) place text).foldl extend (params.slot i j)) :
    params.read text = params.read (fitting place text) := by
  induction text generalizing params place with
  | nil => rfl
  | cons byte rest ih =>
    obtain ⟨hbyte, hrest⟩ := forall_mem_cons.mp bytes
    obtain ⟨hat, hslots⟩ := at_.take hbyte
    rw [fitting]
    cases hdigit : isDigit byte && place.beyond with
    | false =>
      rw [if_neg Bool.false_ne_true]
      refine ih hat (sound.next byte) hrest fun i hi j hj => ?_
      have hbefore := steady i hi j hj
      rw [hslots]
      rw [digitsAt, digitsAt] at hbefore
      cases hnumber : isDigit byte with
      | false =>
        rw [hnumber] at hbefore
        exact hbefore
      | true =>
        rw [hnumber, Bool.true_and] at hdigit
        have harrives : place.arrives i j = place.isOwn i j := by
          rw [Place.arrives, sound.slot_eq hdigit, Place.isOwn]
          rfl
        rw [hnumber, harrives, Bool.true_and] at hbefore
        rw [harrives, Bool.true_and]
        split
        · rename_i hown
          rw [if_pos hown, if_pos hown] at hbefore
          exact hbefore
        · rename_i hother
          rw [if_neg hother, if_neg hother] at hbefore
          exact hbefore
    | true =>
      rw [if_pos rfl]
      obtain ⟨hnumber, hbeyond⟩ := Bool.and_eq_true_iff.mp hdigit
      have hplace : place.next byte = place := place.next_digit hnumber
      have hstay := at_.extend_steady sound hbeyond hnumber
        (steady _ (slot_fst_lt place) _ (slot_snd_lt place))
      have hsame := at_.take_steady hbeyond hnumber hstay
      rw [hsame, hplace] at hat
      have hread : params.read (byte :: rest) = params.read rest :=
        congrArg (fun params : Params => params.read rest) hsame
      rw [hread, hplace]
      refine ih hat sound hrest fun i hi j hj => ?_
      have hbefore := steady i hi j hj
      rw [digitsAt, digitsAt, hnumber, Bool.true_and, Bool.true_and, hplace,
        isOwn_false_of_beyond hbeyond hi hj, if_neg Bool.false_ne_true] at hbefore
      rw [← hbefore]
      split
      · rename_i harrives
        have hslot : place.slot = (i, j) := beq_iff_eq.mp harrives
        rw [hslot] at hstay
        rw [foldl_cons, hstay.1]
      · rfl

end Params

namespace Parser

variable {parser : Parser}

theorem state_feedByte_escape (parser : Parser) :
    (parser.feedByte 0x1B).value.1.state = .escape := by
  unfold feedByte
  cases parser.state <;> rfl

theorem feed_append (earlier later : Bytes) (parser : Parser) :
    (feed (earlier ++ later) parser).value =
      ((feed later (feed earlier parser).value.1).value.1,
        (feed earlier parser).value.2 ++ (feed later (feed earlier parser).value.1).value.2) := by
  induction earlier generalizing parser with
  | nil => rfl
  | cons byte rest ih =>
    have hrest := ih (parser.feedByte byte).value.1
    simp only [cons_append, feed, value_bind, value_pure, hrest, append_assoc]

theorem feed_cons (byte : UInt8) (rest : Bytes) (parser : Parser) :
    (feed (byte :: rest) parser).value =
      ((feed rest (parser.feedByte byte).value.1).value.1,
        (parser.feedByte byte).value.2 ++ (feed rest (parser.feedByte byte).value.1).value.2) := rfl

variable {byte final : UInt8}

theorem feedParam_param {entry param intermediate ignore : Android.ParserState}
    {complete : Parser × List Event} (bytes : isParamByte byte = true) :
    (parser.feedParam entry param intermediate ignore byte complete).value =
      ({ parser with params := parser.params.take byte, state := param }, []) := by
  rcases param_cases bytes with hdigit | rfl | rfl
  · rw [feedParam, if_pos hdigit, Params.take, if_pos hdigit]
    rfl
  · rfl
  · rfl

theorem ordinary_param (bytes : isParamByte byte = true) :
    ¬byte < 0x20 ∧ byte ≠ 0x1B ∧ byte ≠ 0x18 ∧ byte ≠ 0x1A := by
  revert byte
  apply forall_uint8
  decide +kernel

def readsCsi (state : Android.ParserState) : Bool := state == .csiEntry || state == .csiParam

def readsDcs (state : Android.ParserState) : Bool := state == .dcsEntry || state == .dcsParam

theorem handleControl_ordinary
    (ordinary : byte ≠ 0x1B ∧ byte ≠ 0x18 ∧ byte ≠ 0x1A) : parser.handleControl byte = none := by
  obtain ⟨hescape, hcancel, hsubstitute⟩ := ordinary
  rw [handleControl, if_neg hescape, if_neg]
  rintro (rfl | rfl)
  · exact hcancel rfl
  · exact hsubstitute rfl

theorem feedByte_csi (reads : readsCsi parser.state = true)
    (ordinary : byte ≠ 0x1B ∧ byte ≠ 0x18 ∧ byte ≠ 0x1A) (printable : ¬byte < 0x20) :
    parser.feedByte byte = parser.feedParam .csiEntry .csiParam .csiIntermediate .csiIgnore byte
      (parser.completeCsi byte) := by
  simp only [readsCsi, Bool.or_eq_true, beq_iff_eq] at reads
  unfold feedByte
  rw [handleControl_ordinary ordinary]
  rcases reads with hstate | hstate
  · rw [hstate]
    exact if_neg printable
  · rw [hstate]
    exact if_neg printable

theorem feedByte_dcs (reads : readsDcs parser.state = true)
    (ordinary : byte ≠ 0x1B ∧ byte ≠ 0x18 ∧ byte ≠ 0x1A) (printable : ¬byte < 0x20) :
    parser.feedByte byte = parser.feedParam .dcsEntry .dcsParam .dcsIntermediate .dcsIgnore byte
      (parser.completeDcs byte) := by
  simp only [readsDcs, Bool.or_eq_true, beq_iff_eq] at reads
  unfold feedByte
  rw [handleControl_ordinary ordinary]
  rcases reads with hstate | hstate
  · rw [hstate]
    exact if_neg printable
  · rw [hstate]
    exact if_neg printable

variable {text : Bytes}

theorem feed_csiText (reads : readsCsi parser.state = true)
    (bytes : ∀ byte ∈ text, isParamByte byte = true) :
    ∃ state, readsCsi state = true ∧
      (feed text parser).value = ({ parser with params := parser.params.read text, state }, []) := by
  induction text generalizing parser with
  | nil => exact ⟨parser.state, reads, rfl⟩
  | cons byte rest ih =>
    obtain ⟨hbyte, hrest⟩ := forall_mem_cons.mp bytes
    obtain ⟨hprintable, hordinary⟩ := ordinary_param hbyte
    have hfed : (parser.feedByte byte).value =
        ({ parser with params := parser.params.take byte, state := .csiParam }, []) := by
      rw [feedByte_csi reads hordinary hprintable]
      exact feedParam_param hbyte
    obtain ⟨state, hstate, hread⟩ :=
      @ih { parser with params := parser.params.take byte, state := .csiParam } rfl hrest
    refine ⟨state, hstate, ?_⟩
    rw [feed_cons, hfed, hread]
    rfl

theorem feed_dcsText (reads : readsDcs parser.state = true)
    (bytes : ∀ byte ∈ text, isParamByte byte = true) :
    ∃ state, readsDcs state = true ∧
      (feed text parser).value = ({ parser with params := parser.params.read text, state }, []) := by
  induction text generalizing parser with
  | nil => exact ⟨parser.state, reads, rfl⟩
  | cons byte rest ih =>
    obtain ⟨hbyte, hrest⟩ := forall_mem_cons.mp bytes
    obtain ⟨hprintable, hordinary⟩ := ordinary_param hbyte
    have hfed : (parser.feedByte byte).value =
        ({ parser with params := parser.params.take byte, state := .dcsParam }, []) := by
      rw [feedByte_dcs reads hordinary hprintable]
      exact feedParam_param hbyte
    obtain ⟨state, hstate, hread⟩ :=
      @ih { parser with params := parser.params.take byte, state := .dcsParam } rfl hrest
    refine ⟨state, hstate, ?_⟩
    rw [feed_cons, hfed, hread]
    rfl

theorem final_cases (ends : isFinal final = true) :
    ¬final < 0x20 ∧ (final ≠ 0x1B ∧ final ≠ 0x18 ∧ final ≠ 0x1A) ∧ isDigit final = false ∧
      final ≠ 0x3B ∧ final ≠ 0x3A ∧ Android.Parser.isMarker final = false ∧
        Android.Parser.isIntermediate final = false := by
  revert final
  apply forall_uint8
  decide +kernel

theorem feedParam_final {entry param intermediate ignore : Android.ParserState}
    {complete : Parser × List Event} (ends : isFinal final = true) :
    (parser.feedParam entry param intermediate ignore final complete).value = complete := by
  obtain ⟨-, -, hdigit, hsemicolon, hcolon, hmarker, hintermediate⟩ := final_cases ends
  rw [feedParam, hdigit, if_neg Bool.false_ne_true, if_neg hsemicolon, if_neg hcolon, hmarker,
    if_neg Bool.false_ne_true, hintermediate, if_neg Bool.false_ne_true, if_pos ends]
  rfl

theorem feed_csi (parser : Parser) (bytes : ∀ byte ∈ text, isParamByte byte = true)
    (ends : isFinal final = true) :
    (feed (0x1B :: 0x5B :: (text ++ [final])) parser).value.2 =
      (parser.feedByte 0x1B).value.2 ++ [.csi (Params.clear.read text) final] := by
  have hescape := state_feedByte_escape parser
  rw [feed_cons]
  generalize (parser.feedByte 0x1B).value = escaped at hescape ⊢
  have hentry : (escaped.1.feedByte 0x5B).value =
      ({ escaped.1 with state := .csiEntry, params := .clear, intermediates := [] }, []) := by
    unfold feedByte
    rw [hescape]
    rfl
  obtain ⟨state, hstate, hread⟩ := @feed_csiText
    { escaped.1 with state := .csiEntry, params := .clear, intermediates := [] } text rfl bytes
  obtain ⟨hprintable, hordinary, -⟩ := final_cases ends
  rw [feed_cons, hentry, feed_append, hread, feed_cons, feedByte_csi hstate hordinary hprintable,
    feedParam_final ends]
  rfl

def inDcs (byte : UInt8) : Bool := byte != 0x1B && byte != 0x18 && byte != 0x1A && byte != 0x07

theorem feed_dcsData (dcs : parser.state = .dcsPassthrough) {data : Bytes}
    (inside : ∀ byte ∈ data, inDcs byte = true)
    (room : parser.stringBuffer.length ≤ parser.maxStringBytes) :
    ∃ truncated, (feed data parser).value =
      ({ parser with
          stringBuffer := parser.stringBuffer ++
            data.take (parser.maxStringBytes - parser.stringBuffer.length)
          stringTruncated := truncated }, []) := by
  induction data generalizing parser with
  | nil =>
    refine ⟨parser.stringTruncated, ?_⟩
    rw [take_nil, append_nil]
    rfl
  | cons byte rest ih =>
    obtain ⟨hbyte, hrest⟩ := forall_mem_cons.mp inside
    simp only [inDcs, Bool.and_eq_true, bne_iff_ne] at hbyte
    obtain ⟨⟨⟨hescape, hcancel⟩, hsubstitute⟩, hbell⟩ := hbyte
    have hfed : (parser.feedByte byte).value = (parser.collect byte, []) := by
      unfold feedByte
      rw [dcs]
      rw [value_pure, feedDcsPassthrough, if_neg hescape, if_neg]
      simp only [hcancel, hsubstitute, hbell, or_self, not_false_eq_true]
    rw [feed_cons, hfed, collect]
    split
    · rename_i hless
      obtain ⟨truncated, hread⟩ :=
        @ih { parser with stringBuffer := parser.stringBuffer ++ [byte] } dcs hrest (by simpa using Nat.succ_le_of_lt hless)
      refine ⟨truncated, ?_⟩
      rw [hread]
      have hlength : parser.maxStringBytes - parser.stringBuffer.length =
          (parser.maxStringBytes - (parser.stringBuffer ++ [byte]).length) + 1 := by
        rw [length_append, length_singleton]
        omega
      rw [hlength, take_succ_cons]
      simp
    · rename_i hfull
      obtain ⟨truncated, hread⟩ :=
        @ih { parser with stringTruncated := true } dcs hrest room
      refine ⟨truncated, ?_⟩
      rw [hread]
      have hnone : parser.maxStringBytes - parser.stringBuffer.length = 0 := by omega
      simp [hnone]

theorem feed_dcs (parser : Parser) (bytes : ∀ byte ∈ text, isParamByte byte = true)
    (ends : isFinal final = true) {data : Bytes}
    (inside : ∀ byte ∈ data, inDcs byte = true) {stop : UInt8} (stops : inDcs stop = false) :
    ∃ truncated, (feed (0x1B :: 0x50 :: (text ++ final :: (data ++ [stop]))) parser).value.2 =
      (parser.feedByte 0x1B).value.2 ++
        [.dcs (Params.clear.read text) final
          (data.take (parser.feedByte 0x1B).value.1.maxStringBytes) truncated] := by
  have hescape := state_feedByte_escape parser
  rw [feed_cons]
  generalize (parser.feedByte 0x1B).value = escaped at hescape ⊢
  have hentry : (escaped.1.feedByte 0x50).value =
      ({ escaped.1 with state := .dcsEntry, params := .clear, intermediates := [] }, []) := by
    unfold feedByte
    rw [hescape]
    rfl
  obtain ⟨state, hstate, hread⟩ := @feed_dcsText
    { escaped.1 with state := .dcsEntry, params := .clear, intermediates := [] } text rfl bytes
  obtain ⟨hprintable, hordinary, -⟩ := final_cases ends
  obtain ⟨truncated, hdata⟩ := @feed_dcsData
    { escaped.1 with
      state := .dcsPassthrough, params := Params.clear.read text, intermediates := []
      stringBuffer := [], stringTruncated := false, dcsFinal := final } rfl data inside (Nat.zero_le _)
  refine ⟨truncated, ?_⟩
  have hstop (other : Parser) (dcs : other.state = .dcsPassthrough) :
      (other.feedByte stop).value.2 =
        [.dcs other.params other.dcsFinal other.stringBuffer other.stringTruncated] := by
    have hcases : stop = 0x1B ∨ stop = 0x18 ∨ stop = 0x1A ∨ stop = 0x07 := by
      revert stop
      apply forall_uint8
      decide +kernel
    unfold feedByte
    rw [dcs]
    rcases hcases with rfl | rfl | rfl | rfl <;> rfl
  rw [feed_cons, hentry, feed_append, hread, feed_cons, feedByte_dcs hstate hordinary hprintable,
    feedParam_final ends]
  have hcompleted : (completeDcs { escaped.1 with
      state := state, params := Params.clear.read text, intermediates := [] } final) =
      ({ escaped.1 with
        state := .dcsPassthrough, params := Params.clear.read text, intermediates := []
        stringBuffer := [], stringTruncated := false, dcsFinal := final }, []) := rfl
  rw [hcompleted, feed_append, hdata, feed_cons, hstop _ rfl]
  rfl

end Parser

/-- The parameters that a text should give. -/
structure Exact (text : Bytes) (params : Params) : Prop where
  count : params.count = (min 32 (paramCount text) : Nat)
  first : ∀ i < 32, (params.get (i : Nat) missing).value = valueOf (subParam text i 0)
  sub : ∀ i < 32, ∀ j < 8,
    (params.getSub (i : Nat) (j : Nat) missing).value = valueOf (subParam text i j)
  capacity : { params with overflowed := false } =
    { Params.clear.read (fitting {} text) with overflowed := false }

/-- Further digits leave a number as it is: there are none, or the number was given and is at
the limit already, or it is zero and so are they. -/
def Spares (own later : List Nat) : Prop :=
  later = [] ∨ own ≠ [] ∧
    (65535 ≤ decimalOf own ∨ decimalOf own = 0 ∧ ∀ digit ∈ later, digit = 0)

theorem valueOf_append_iff (own later : List Nat) :
    valueOf (own ++ later) = valueOf own ↔ Spares own later := by
  unfold Spares
  by_cases hlater : later = []
  · cases hlater
    rw [append_nil]
    exact iff_of_true rfl (.inl rfl)
  unfold valueOf
  have happend : own ++ later ≠ [] := fun hnil => hlater (append_eq_nil_iff.mp hnil).2
  rw [if_neg happend, or_iff_right hlater]
  by_cases hown : own = []
  · rw [if_pos hown]
    apply iff_of_false
    · unfold missing
      omega
    · exact fun hspares => hspares.1 hown
  · rw [if_neg hown, Int.ofNat_inj, min_decimalOf_append_iff hlater]
    exact (and_iff_right hown).symm

/-- In every text, from every state of the parser: the parameters are exact if and only if the
digits that there is no room for leave the numbers at whose places they arrive. -/
theorem params_exact_iff (parser : Parser) {text : Bytes}
    (bytes : ∀ byte ∈ text, isParamByte byte = true) {final : UInt8} (ends : isFinal final = true)
    {data : Bytes} (inside : ∀ byte ∈ data, Parser.inDcs byte = true) {stop : UInt8}
    (stops : Parser.inDcs stop = false) :
    ∃ params, (Parser.feed (0x1B :: 0x5B :: (text ++ [final])) parser).value.2 =
        (parser.feedByte 0x1B).value.2 ++ [.csi params final] ∧
      (∃ kept truncated,
        (Parser.feed (0x1B :: 0x50 :: (text ++ final :: (data ++ [stop]))) parser).value.2 =
          (parser.feedByte 0x1B).value.2 ++ [.dcs params final kept truncated]) ∧
      (Exact text params ↔
        ∀ i < 32, ∀ j < 8, Spares (subParam text i j) (intruding text i j)) := by
  obtain ⟨truncated, hdcs⟩ := Parser.feed_dcs parser bytes ends inside stops
  refine ⟨Params.clear.read text, Parser.feed_csi parser bytes ends, ⟨_, truncated, hdcs⟩, ?_⟩
  have hat := Params.at_clear.read bytes
  have hown (i j : Nat) : digitsAt (Place.isOwn i j) {} text = subParam text i j := by
    have hfields := digitsAt_own bytes {} i j
    rw [Nat.zero_add, Nat.zero_add, ite_self] at hfields
    exact hfields
  have harrives (i j : Nat) (hi : i < 32) (hj : j < 8) :
      digitsAt (Place.arrives i j) {} text = subParam text i j ++ intruding text i j := by
    rw [digitsAt_arrives hi hj (fun _ => rfl) text, hown]
    rfl
  have hslot (i j : Nat) (hi : i < 32) (hj : j < 8) :
      (Params.clear.read text).slot i j = valueOf (subParam text i j ++ intruding text i j) := by
    rw [Params.at_clear.slot_read bytes, Params.slot_clear hi hj, Params.foldl_extend_missing,
      harrives i j hi hj]
  constructor
  · intro hexact i hi j hj
    rw [← valueOf_append_iff, ← hslot i j hi hj, ← hat.value_getSub hi hj]
    exact hexact.sub i hi j hj
  · intro hspares
    have hsame (i j : Nat) (hi : i < 32) (hj : j < 8) :
        valueOf (subParam text i j ++ intruding text i j) = valueOf (subParam text i j) :=
      (valueOf_append_iff _ _).mpr (hspares i hi j hj)
    refine ⟨?_, ?_, ?_, ?_⟩
    · rw [Params.at_clear.count_read bytes, paramCount]
      split
      · rfl
      · dsimp only
        omega
    · intro i hi
      rw [hat.value_get hi, hslot i 0 hi (by decide), hsame i 0 hi (by decide)]
    · intro i hi j hj
      rw [hat.value_getSub hi hj, hslot i j hi hj, hsame i j hi hj]
    · rw [Params.at_clear.read_fitting (fun _ => rfl) bytes]
      intro i hi j hj
      rw [Params.slot_clear hi hj, Params.foldl_extend_missing, Params.foldl_extend_missing,
        harrives i j hi hj, hsame i j hi hj, hown]

/-- Seven empty sub-parameters, 1 in the eighth and 2 in the ninth. -/
def nineSubParams : Bytes := [0x3A, 0x3A, 0x3A, 0x3A, 0x3A, 0x3A, 0x3A, 0x31, 0x3A, 0x32]

/-- The ninth sub-parameter goes on with the number of the eighth. -/
theorem ninth_sub_param : (∀ byte ∈ nineSubParams, isParamByte byte = true) ∧
      ∃ params, (Parser.feed (0x1B :: 0x5B :: (nineSubParams ++ [0x6D])) {}).value.2 =
        [.csi params 0x6D] ∧ ¬Exact nineSubParams params := by
  refine ⟨by decide +kernel, Params.clear.read nineSubParams, by decide +kernel, fun hexact => ?_⟩
  have hvalue := hexact.sub 0 (by decide) 7 (by decide)
  revert hvalue
  decide +kernel

/-- Two sub-parameters, of which the first stops at the limit. -/
theorem params_exact_pair : ∃ params,
      (Parser.feed (0x1B :: 0x5B :: ([0x39, 0x39, 0x39, 0x39, 0x39, 0x3A, 0x32] ++ [0x6D])) {}).value.2 =
        ((({} : Parser).feedByte 0x1B).value.2) ++ [.csi params 0x6D] ∧
      (∃ kept truncated, (Parser.feed (0x1B :: 0x50 ::
            ([0x39, 0x39, 0x39, 0x39, 0x39, 0x3A, 0x32] ++ 0x6D :: ([0x41] ++ [0x07]))) {}).value.2 =
          (({} : Parser).feedByte 0x1B).value.2 ++ [.dcs params 0x6D kept truncated]) ∧
      (Exact [0x39, 0x39, 0x39, 0x39, 0x39, 0x3A, 0x32] params ↔
        ∀ i < 32, ∀ j < 8, Spares (subParam [0x39, 0x39, 0x39, 0x39, 0x39, 0x3A, 0x32] i j)
          (intruding [0x39, 0x39, 0x39, 0x39, 0x39, 0x3A, 0x32] i j)) :=
  params_exact_iff {} (by decide +kernel) rfl (by decide +kernel) rfl

end Hypeterm.Term

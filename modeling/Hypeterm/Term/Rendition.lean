import Hypeterm.Term.Retaining
import Hypeterm.Term.Sequences

/-! Select graphic rendition.  A sequence is a list of groups, and each group changes the pen
as if it stood alone, however many parameters it takes. -/
namespace Hypeterm.Term
open Library Checked List

inductive Layer where
  | foreground
  | background
  | underline

def Layer.code : Layer → Nat
  | .foreground => 38
  | .background => 48
  | .underline => 58

inductive ColorForm where
  | semicolons
  | colons
  /-- With a colour space, which may be left out. -/
  | colonsWithSpace (space : Option Nat)

inductive SgrGroup where
  | single (code : Option Nat) (other : ∀ layer : Layer, code ≠ some layer.code)
  | underline (style : Option Nat)
  | indexed (layer : Layer) (colons : Bool) (index : Option Nat)
  | rgb (layer : Layer) (form : ColorForm) (red green blue : Option Nat)

namespace SgrGroup

def params : SgrGroup → List (List (Option Nat))
  | single code _ => [[code]]
  | underline style => [[some 4, style]]
  | indexed layer false index => [[some layer.code], [some 5], [index]]
  | indexed layer true index => [[some layer.code, some 5, index]]
  | rgb layer .semicolons red green blue =>
      [[some layer.code], [some 2], [red], [green], [blue]]
  | rgb layer .colons red green blue => [[some layer.code, some 2, red, green, blue]]
  | rgb layer (.colonsWithSpace space) red green blue =>
      [[some layer.code, some 2, space, red, green, blue]]

/-- What it does to the pen.  A colour out of range changes nothing. -/
def apply (pen : Pen) : SgrGroup → Pen
  | single code _ =>
      let value := (code.map fun number => kept (some number)).getD 0
      if value = 4 then pen.underlineStyle 1 else pen.withAttribute value
  | underline style =>
      pen.underlineStyle ((style.map fun number => kept (some number)).getD 1)
  | indexed layer _ index =>
      ((indexedColor (kept index)).map (pen.setColor layer.code)).getD pen
  | rgb layer _ red green blue =>
      ((rgbColor (kept red) (kept green) (kept blue)).map (pen.setColor layer.code)).getD pen

theorem params_ne_nil (group : SgrGroup) : group.params ≠ [] := by
  unfold params
  split
  all_goals exact cons_ne_nil _ _

theorem length_params (group : SgrGroup) : group.params.length ≤ 5 := by
  unfold params
  split
  all_goals simp

theorem subs_params (group : SgrGroup) : ∀ subs ∈ group.params, subs ≠ [] ∧ subs.length ≤ 8 := by
  unfold params
  split
  all_goals simp

end SgrGroup

theorem value_sgrFrom (tables : Params) (rounds : Nat) (i : Int) (pen : Pen) :
    (sgrFrom tables (rounds + 1) i pen).value =
      if i < tables.count then
        if (tables.get i 0).value = 4 then
          (sgrFrom tables rounds (i + 1) (pen.underlineStyle (tables.getSub i 1 1).value)).value
        else if (tables.get i 0).value = 38 ∨ (tables.get i 0).value = 48 ∨
            (tables.get i 0).value = 58 then
          (sgrFrom tables rounds ((sgrColor tables i).value.2 + 1)
            (((sgrColor tables i).value.1.map (pen.setColor (tables.get i 0).value)).getD pen)).value
        else (sgrFrom tables rounds (i + 1) (pen.withAttribute (tables.get i 0).value)).value
      else pen := by
  rw [sgrFrom, value_ite]
  split
  · rw [value_bind, value_ite, value_ite]
    rfl
  · rfl

theorem value_sgrColor (tables : Params) (i : Int) : (sgrColor tables i).value =
      if 1 < (tables.subCount i).value then
        if (tables.getSub i 1 (-1)).value = 5 then
          (indexedColor (tables.getSub i 2 (-1)).value, i)
        else if (tables.getSub i 1 (-1)).value = 2 then
          (rgbColor (tables.getSub i (if 6 ≤ (tables.subCount i).value then 3 else 2) (-1)).value
            (tables.getSub i ((if 6 ≤ (tables.subCount i).value then 3 else 2) + 1) (-1)).value
            (tables.getSub i ((if 6 ≤ (tables.subCount i).value then 3 else 2) + 2) (-1)).value, i)
        else (none, i)
      else if (tables.get (i + 1) (-1)).value = 5 ∧ i + 2 < tables.count then
        (indexedColor (tables.get (i + 2) (-1)).value, i + 2)
      else if (tables.get (i + 1) (-1)).value = 2 ∧ i + 4 < tables.count then
        (rgbColor (tables.get (i + 2) (-1)).value (tables.get (i + 3) (-1)).value
          (tables.get (i + 4) (-1)).value, i + 4)
      else (none, if 0 ≤ (tables.get (i + 1) (-1)).value then i + 1 else i) := by
  unfold sgrColor
  rw [value_bind, value_bind, value_bind, value_bind, value_bind, value_ite]
  split
  · rw [value_bind, value_ite, value_ite]
    rfl
  · rw [value_bind, value_ite, value_ite]
    rfl

namespace Params

variable {tables : Params} {params : List (List (Option Nat))}

theorem getD_drop (params : List (List (Option Nat))) (start i : Nat) :
    params.getD (start + i) [] = (params.drop start).getD i [] := by
  rw [getD_eq_getElem?_getD, getD_eq_getElem?_getD, getElem?_drop]

end Params

namespace SgrGroup

variable {tables : Params} {all rest : List (List (Option Nat))} {start rounds : Nat}

structure Stands (group : SgrGroup) (tables : Params) (start : Nat) : Prop where
  count : (start : Int) + group.params.length ≤ tables.count
  get : ∀ (i : Nat) (fallback : Int), i < group.params.length →
    (tables.get (start + i : Nat) fallback).value =
      (((group.params.getD i []).getD 0 none).map fun number => kept (some number)).getD fallback
  getSub : ∀ (i j : Nat) (fallback : Int), i < group.params.length →
    (tables.getSub (start + i : Nat) (j : Nat) fallback).value =
      (((group.params.getD i []).getD j none).map fun number => kept (some number)).getD fallback
  subCount : ∀ i : Nat, i < group.params.length →
    (tables.subCount (start + i : Nat)).value = countFrom 0 (group.params.getD i [])

theorem stands {group : SgrGroup} (carries : tables.Carries all) (some : all ≠ [[none]])
    (here : all.drop start = group.params ++ rest) : group.Stands tables start := by
  have hlength := congrArg List.length here
  rw [length_drop, length_append] at hlength
  have hpositive := length_pos_iff.mpr group.params_ne_nil
  have hcount := carries.count
  rw [if_neg some] at hcount
  have hget (i : Nat) (hi : i < group.params.length) :
      all.getD (start + i) [] = group.params.getD i [] := by
    rw [Params.getD_drop, here, getD_append _ _ _ _ hi]
  refine ⟨by omega, fun i fallback hi => ?_, fun i j fallback hi => ?_, fun i hi => ?_⟩
  · rw [carries.get _ _ (by omega), hget i hi]
  · rw [carries.getSub _ _ _ (by omega), hget i hi]
  · rw [carries.subCount _ (by omega), hget i hi]

theorem kept_layer (layer : Layer) : kept (some layer.code) = layer.code ∧
    ¬(layer.code : Int) = 4 ∧
    ((layer.code : Int) = 38 ∨ (layer.code : Int) = 48 ∨ (layer.code : Int) = 58) := by
  cases layer
  · decide
  · decide
  · decide

theorem getD_kept_missing (number : Option Nat) :
    (number.map fun number => kept (some number)).getD (-1) = kept number := by
  cases number <;> rfl

theorem sgrColor_indexed (layer : Layer) (colons : Bool) (index : Option Nat)
    (stands : (indexed layer colons index).Stands tables start) :
    (sgrColor tables start).value = (indexedColor (kept index),
      (start : Int) + ((indexed layer colons index).params.length - 1 : Nat)) := by
  rw [value_sgrColor]
  cases colons with
  | true =>
    have hsubs : (tables.subCount start).value = 3 := stands.subCount 0 Nat.one_pos
    have hkind : (tables.getSub start 1 (-1)).value = 5 := stands.getSub 0 1 (-1) Nat.one_pos
    have hindex : (tables.getSub start 2 (-1)).value = kept index :=
      (stands.getSub 0 2 (-1) Nat.one_pos).trans (getD_kept_missing index)
    rw [hsubs, hkind, hindex, if_pos (by decide), if_pos rfl]
    exact congrArg (Prod.mk _) (Int.add_zero _).symm
  | false =>
    have hlength : (indexed layer false index).params.length = 3 := rfl
    have hsubs : (tables.subCount start).value = 1 := stands.subCount 0 (by rw [hlength]; decide)
    have hkind : (tables.get (start + 1) (-1)).value = 5 :=
      stands.get 1 (-1) (by rw [hlength]; decide)
    have hindex : (tables.get (start + 2) (-1)).value = kept index :=
      (stands.get 2 (-1) (by rw [hlength]; decide)).trans (getD_kept_missing index)
    have hcount := stands.count
    rw [hlength] at hcount
    rw [hsubs, hkind, hindex, if_neg (by decide), if_pos ⟨rfl, by omega⟩]
    rfl

theorem sgrColor_rgb (layer : Layer) (form : ColorForm) (red green blue : Option Nat)
    (stands : (rgb layer form red green blue).Stands tables start) :
    (sgrColor tables start).value = (rgbColor (kept red) (kept green) (kept blue),
      (start : Int) + ((rgb layer form red green blue).params.length - 1 : Nat)) := by
  rw [value_sgrColor]
  cases form with
  | colons =>
    have hsubs : (tables.subCount start).value = 5 := stands.subCount 0 Nat.one_pos
    have hkind : (tables.getSub start 1 (-1)).value = 2 := stands.getSub 0 1 (-1) Nat.one_pos
    have hred : (tables.getSub start 2 (-1)).value = kept red :=
      (stands.getSub 0 2 (-1) Nat.one_pos).trans (getD_kept_missing red)
    have hgreen : (tables.getSub start (2 + 1) (-1)).value = kept green :=
      (stands.getSub 0 3 (-1) Nat.one_pos).trans (getD_kept_missing green)
    have hblue : (tables.getSub start (2 + 2) (-1)).value = kept blue :=
      (stands.getSub 0 4 (-1) Nat.one_pos).trans (getD_kept_missing blue)
    rw [hsubs, hkind, if_pos (by decide), if_neg (by decide), if_pos rfl,
      if_neg (by decide : ¬(6 : Int) ≤ 5), hred, hgreen, hblue]
    exact congrArg (Prod.mk _) (Int.add_zero _).symm
  | colonsWithSpace space =>
    have hsubs : (tables.subCount start).value = 6 := stands.subCount 0 Nat.one_pos
    have hkind : (tables.getSub start 1 (-1)).value = 2 := stands.getSub 0 1 (-1) Nat.one_pos
    have hred : (tables.getSub start 3 (-1)).value = kept red :=
      (stands.getSub 0 3 (-1) Nat.one_pos).trans (getD_kept_missing red)
    have hgreen : (tables.getSub start (3 + 1) (-1)).value = kept green :=
      (stands.getSub 0 4 (-1) Nat.one_pos).trans (getD_kept_missing green)
    have hblue : (tables.getSub start (3 + 2) (-1)).value = kept blue :=
      (stands.getSub 0 5 (-1) Nat.one_pos).trans (getD_kept_missing blue)
    rw [hsubs, hkind, if_pos (by decide), if_neg (by decide), if_pos rfl,
      if_pos (by decide : (6 : Int) ≤ 6), hred, hgreen, hblue]
    exact congrArg (Prod.mk _) (Int.add_zero _).symm
  | semicolons =>
    have hlength : (rgb layer .semicolons red green blue).params.length = 5 := rfl
    have hsubs : (tables.subCount start).value = 1 := stands.subCount 0 (by rw [hlength]; decide)
    have hkind : (tables.get (start + 1) (-1)).value = 2 :=
      stands.get 1 (-1) (by rw [hlength]; decide)
    have hred : (tables.get (start + 2) (-1)).value = kept red :=
      (stands.get 2 (-1) (by rw [hlength]; decide)).trans (getD_kept_missing red)
    have hgreen : (tables.get (start + 3) (-1)).value = kept green :=
      (stands.get 3 (-1) (by rw [hlength]; decide)).trans (getD_kept_missing green)
    have hblue : (tables.get (start + 4) (-1)).value = kept blue :=
      (stands.get 4 (-1) (by rw [hlength]; decide)).trans (getD_kept_missing blue)
    have hcount := stands.count
    rw [hlength] at hcount
    rw [hsubs, hkind, if_neg (by decide), if_neg fun both => absurd both.1 (by decide),
      if_pos ⟨rfl, by omega⟩, hred, hgreen, hblue]
    rfl

theorem sgrFrom_group {group : SgrGroup} (stands : group.Stands tables start) (rounds : Nat)
    (pen : Pen) : (sgrFrom tables (rounds + 1) start pen).value =
      (sgrFrom tables rounds ((start + group.params.length : Nat) : Int) (group.apply pen)).value := by
  have hpositive := length_pos_iff.mpr group.params_ne_nil
  have hcount := stands.count
  rw [value_sgrFrom, if_pos (by omega)]
  cases group with
  | single code other =>
    have hcode : (tables.get start 0).value =
        (code.map fun number => kept (some number)).getD 0 := stands.get 0 0 Nat.one_pos
    have hplain : ¬((tables.get start 0).value = 38 ∨ (tables.get start 0).value = 48 ∨
        (tables.get start 0).value = 58) := by
      rw [hcode]
      cases code with
      | none => decide
      | some number =>
        have hkept : kept (some number) = (min 65535 number : Nat) := rfl
        have hnumber : number ≠ 38 ∧ number ≠ 48 ∧ number ≠ 58 := by
          refine ⟨?_, ?_, ?_⟩
          · rintro rfl
            exact other .foreground rfl
          · rintro rfl
            exact other .background rfl
          · rintro rfl
            exact other .underline rfl
        rw [Option.map_some, Option.getD_some, hkept]
        omega
    have hsub : (tables.getSub start 1 1).value = 1 := stands.getSub 0 1 1 Nat.one_pos
    rw [if_neg hplain, hsub, hcode, apply]
    split
    · rfl
    · rfl
  | underline style =>
    have hcode : (tables.get start 0).value = 4 := stands.get 0 0 Nat.one_pos
    have hsub : (tables.getSub start 1 1).value =
        (style.map fun number => kept (some number)).getD 1 := stands.getSub 0 1 1 Nat.one_pos
    rw [hcode, if_pos rfl, hsub]
    rfl
  | indexed layer colons index =>
    obtain ⟨hkept, hstyle, hlayer⟩ := kept_layer layer
    have hcode : (tables.get start 0).value = layer.code := by
      have hget := stands.get 0 0 hpositive
      cases colons
      · exact hget.trans hkept
      · exact hget.trans hkept
    have hnext : (start : Int) + ((indexed layer colons index).params.length - 1 : Nat) + 1 =
        ((start + (indexed layer colons index).params.length : Nat) : Int) := by omega
    rw [hcode, if_neg hstyle, if_pos hlayer, sgrColor_indexed layer colons index stands]
    rw [hnext]
    rfl
  | rgb layer form red green blue =>
    obtain ⟨hkept, hstyle, hlayer⟩ := kept_layer layer
    have hcode : (tables.get start 0).value = layer.code := by
      have hget := stands.get 0 0 hpositive
      cases form
      · exact hget.trans hkept
      · exact hget.trans hkept
      · exact hget.trans hkept
    have hnext : (start : Int) + ((rgb layer form red green blue).params.length - 1 : Nat) + 1 =
        ((start + (rgb layer form red green blue).params.length : Nat) : Int) := by omega
    rw [hcode, if_neg hstyle, if_pos hlayer, sgrColor_rgb layer form red green blue stands]
    rw [hnext]
    rfl

variable {groups : List SgrGroup}

theorem sgrFrom_groups (carries : tables.Carries all) (some : all ≠ [[none]])
    (here : all.drop start = groups.flatMap params)
    (within : start ≤ all.length) {rounds : Nat} (enough : groups.length ≤ rounds) (pen : Pen) :
    (sgrFrom tables rounds start pen).value = groups.foldl apply pen := by
  induction groups generalizing start rounds pen with
  | nil =>
    have hlength := congrArg List.length here
    rw [length_drop, flatMap_nil, length_nil] at hlength
    have hcount := carries.count
    rw [if_neg some] at hcount
    cases rounds with
    | zero => rfl
    | succ rounds =>
      rw [value_sgrFrom, if_neg (by omega)]
      rfl
  | cons group groups ih =>
    rw [flatMap_cons] at here
    rw [length_cons] at enough
    obtain ⟨rounds, rfl⟩ := Nat.exists_eq_add_of_le' (Nat.le_trans (Nat.le_add_left 1 _) enough)
    rw [sgrFrom_group (stands carries some here)]
    have hlength := congrArg List.length here
    rw [length_drop, length_append] at hlength
    refine ih ?_ (by omega) (by omega) _
    rw [← drop_drop, here, drop_left]

theorem length_le_params (groups : List SgrGroup) :
    groups.length ≤ (groups.flatMap params).length := by
  induction groups with
  | nil => exact Nat.le_refl 0
  | cons group groups ih =>
    have hpositive := length_pos_iff.mpr group.params_ne_nil
    rw [flatMap_cons, length_append, length_cons]
    omega

theorem foldl_reset (reset : groups.flatMap params = [[none]]) (pen : Pen) :
    groups.foldl apply pen = {} := by
  cases groups with
  | nil => cases reset
  | cons group groups =>
    rw [flatMap_cons] at reset
    have hlength := congrArg List.length reset
    have hpositive := length_pos_iff.mpr group.params_ne_nil
    have hrest := length_le_params groups
    rw [length_append, length_singleton] at hlength
    have hnil : groups = [] := eq_nil_of_length_eq_zero (by omega)
    subst hnil
    rw [flatMap_nil, append_nil] at reset
    cases group with
    | single code other =>
      cases reset
      rfl
    | underline style => cases reset
    | indexed layer colons index => cases colons <;> cases reset
    | rgb layer form red green blue => cases form <;> cases reset

theorem roomy_params (some : groups ≠ [])
    (room : (groups.flatMap params).length ≤ 32) : Roomy (groups.flatMap params) := by
  refine ⟨⟨?_, fun subs hsubs => ?_⟩, room, fun subs hsubs => ?_⟩
  · intro hnil
    obtain ⟨group, rest, rfl⟩ := exists_cons_of_ne_nil some
    rw [flatMap_cons, append_eq_nil_iff] at hnil
    exact group.params_ne_nil hnil.1
  · obtain ⟨group, -, hgroup⟩ := mem_flatMap.mp hsubs
    exact (group.subs_params subs hgroup).1
  · obtain ⟨group, -, hgroup⟩ := mem_flatMap.mp hsubs
    exact (group.subs_params subs hgroup).2

theorem applySgr_groups (some : groups ≠ [])
    (room : (groups.flatMap params).length ≤ 32) (pen : Pen) :
    (applySgr (Params.clear.read (paramText (groups.flatMap params))) pen).value =
      groups.foldl apply pen := by
  have hroomy := roomy_params some room
  have hcarries := Params.carries_read hroomy
  have hcount := hcarries.count
  generalize Params.clear.read (paramText (groups.flatMap params)) = tables at hcarries hcount
  unfold applySgr
  rw [value_ite]
  by_cases hreset : groups.flatMap params = [[none]]
  · -- a reset that is left out
    rw [if_pos hreset] at hcount
    rw [if_pos hcount]
    exact (foldl_reset hreset pen).symm
  · rw [if_neg hreset] at hcount
    have hpositive := length_pos_iff.mpr hroomy.some
    rw [if_neg (by omega), hcount]
    apply sgrFrom_groups hcarries hreset drop_zero (Nat.zero_le _)
    rw [Int.toNat_natCast]
    exact length_le_params groups

end SgrGroup

theorem kept_byte (byte : UInt8) : kept (some byte.toNat) = byte.toNat := by
  have hbyte := byte.toNat_lt
  exact congrArg (fun number : Nat => (number : Int)) (Nat.min_eq_right (by omega))

theorem indexedColor_byte (index : UInt8) : indexedColor index.toNat = some (.indexed index) := by
  have hindex := index.toNat_lt
  rw [indexedColor, if_pos (by omega), Int.toNat_natCast, UInt8.ofNat_toNat]

theorem rgbColor_bytes (red green blue : UInt8) :
    rgbColor red.toNat green.toNat blue.toNat = some (.rgb red green blue) := by
  have hred := red.toNat_lt
  have hgreen := green.toNat_lt
  have hblue := blue.toNat_lt
  rw [rgbColor, if_pos (by omega)]
  simp only [Int.toNat_natCast, UInt8.ofNat_toNat]

def sgrText (groups : List SgrGroup) : Bytes :=
  0x1B :: 0x5B :: (paramText (groups.flatMap SgrGroup.params) ++ [0x6D])

namespace Emulator

variable {groups : List SgrGroup}

theorem pen_feed_sgr (some : groups ≠ []) (room : (groups.flatMap SgrGroup.params).length ≤ 32)
    (emulator : Emulator) :
    (feed (sgrText groups) emulator).value.active.pen =
      groups.foldl SgrGroup.apply emulator.active.pen := by
  obtain ⟨hescape, -, -⟩ := feedByte_escape emulator
  have hpen := (retains_escape emulator).pen
  rw [sgrText, feed_cons]
  obtain ⟨parser, -, hfed⟩ :=
    @feed_csi (emulator.feedByte 0x1B).value _ hescape isParamByte_paramText 0x6D rfl
  rw [hfed, ← hpen]
  generalize (emulator.feedByte 0x1B).value = escaped
  have hmarker := (Params.carries_read (SgrGroup.roomy_params some room)).marker
  have hsgr := SgrGroup.applySgr_groups some room escaped.active.pen
  generalize Params.clear.read (paramText (groups.flatMap SgrGroup.params)) = tables at hmarker hsgr
  have hactions : (actions { escaped with parser } (.csi tables 0x6D)).value =
      [.screen (.setPen (groups.foldl SgrGroup.apply escaped.active.pen))] := by
    rw [← hsgr]
    simp [actions, onCsi, hmarker, onPlainCsi]
    rfl
  rw [handle, value_bind, hactions, performAll_screen]
  rfl

theorem pen_feed_one (group : SgrGroup) (emulator : Emulator) :
    (feed (sgrText [group]) emulator).value.active.pen = group.apply emulator.active.pen := by
  refine pen_feed_sgr (cons_ne_nil _ _) ?_ emulator
  have hfew := group.length_params
  rw [flatMap_singleton]
  omega

theorem pen_feed_each (groups : List SgrGroup) (emulator : Emulator) :
    (feed (groups.flatMap fun group => sgrText [group]) emulator).value.active.pen =
      groups.foldl SgrGroup.apply emulator.active.pen := by
  induction groups generalizing emulator with
  | nil => rfl
  | cons group groups ih =>
    rw [flatMap_cons, feed_append, ih, pen_feed_one]
    rfl

end Emulator

/-- Groups may share a sequence or have one each, and a colour is the same in every form. -/
theorem sgr_groups (emulator : Emulator) {groups : List SgrGroup} (nonempty : groups ≠ [])
    (room : (groups.flatMap SgrGroup.params).length ≤ 32) (layer : Layer) (form : ColorForm)
    (colons : Bool) (red green blue index : UInt8) :
    (Emulator.feed (sgrText groups) emulator).value.active.pen =
        (Emulator.feed (groups.flatMap fun group => sgrText [group]) emulator).value.active.pen ∧
      (Emulator.feed (sgrText [.rgb layer form (some red.toNat) (some green.toNat)
          (some blue.toNat)]) emulator).value.active.pen =
        emulator.active.pen.setColor layer.code (.rgb red green blue) ∧
      (Emulator.feed (sgrText [.indexed layer colons (some index.toNat)])
          emulator).value.active.pen =
        emulator.active.pen.setColor layer.code (.indexed index) := by
  refine ⟨?_, ?_, ?_⟩
  · rw [Emulator.pen_feed_sgr nonempty room, Emulator.pen_feed_each]
  · rw [Emulator.pen_feed_one, SgrGroup.apply, kept_byte, kept_byte, kept_byte, rgbColor_bytes]
    rfl
  · rw [Emulator.pen_feed_one, SgrGroup.apply, kept_byte, indexedColor_byte]
    rfl

/-- In a bold pen, a sequence that carries no group resets what no sequence leaves alone. -/
theorem sgr_no_group : (sampleEmulator [0x1B, 0x5B, 0x31, 0x6D]).Reachable ∧
      (Emulator.feed (sgrText []) (sampleEmulator [0x1B, 0x5B, 0x31, 0x6D])).value.active.pen ≠
        (Emulator.feed (flatMap (fun group => sgrText [group]) [])
          (sampleEmulator [0x1B, 0x5B, 0x31, 0x6D])).value.active.pen := by
  refine ⟨reachable_sampleEmulator _, ?_⟩
  decide

/-- A style of underlining after a colour. -/
theorem sgr_groups_orange_curly :
    (Emulator.feed (sgrText [.rgb .background .colons (some 255) (some 128) (some 0),
        .underline (some 3)]) (sampleEmulator [])).value.active.pen =
        (Emulator.feed ([.rgb .background .colons (some 255) (some 128) (some 0),
          .underline (some 3)].flatMap fun group => sgrText [group])
            (sampleEmulator [])).value.active.pen ∧
      (Emulator.feed (sgrText [.rgb .background (.colonsWithSpace none) (some (255 : UInt8).toNat)
          (some (128 : UInt8).toNat) (some (0 : UInt8).toNat)]) (sampleEmulator [])).value.active.pen =
        (sampleEmulator []).active.pen.setColor Layer.background.code (.rgb 255 128 0) ∧
      (Emulator.feed (sgrText [.indexed .background true (some (7 : UInt8).toNat)])
          (sampleEmulator [])).value.active.pen =
        (sampleEmulator []).active.pen.setColor Layer.background.code (.indexed 7) :=
  sgr_groups (sampleEmulator []) (by decide) (by decide) .background (.colonsWithSpace none) true
    255 128 0 7

end Hypeterm.Term

import Hypeterm.Http.Upgrade

/-! The path an upgrade writes is read back as its resource. -/
namespace Hypeterm.Http.Upgrade

open Db List

variable {parseUuid : List Char → Option Uuid}

theorem splitOn_segment {separator : Char} {segment rest : List Char}
    (plain : ∀ c ∈ segment, c ≠ separator) :
    (segment ++ separator :: rest).splitOn separator = segment :: rest.splitOn separator := by
  simp only [splitOn_eq_splitOnP]
  apply splitOnP_append_cons_of_forall_mem
  · intro c hc
    simpa using plain c hc
  · simp

theorem splitOn_last {separator : Char} {segment : List Char}
    (plain : ∀ c ∈ segment, c ≠ separator) : segment.splitOn separator = [segment] := by
  simp only [splitOn_eq_splitOnP]
  apply splitOnP_eq_singleton
  intro c hc
  simpa using plain c hc

def hexDigits : List Char := "0123456789abcdef".toList

def uuidDigits (uuid : Uuid) : List Char :=
  (range 32).map fun i => Nat.digitChar (uuid.toNat / 16 ^ (31 - i) % 16)

theorem mem_uuidDigits {uuid : Uuid} {c : Char} (mem : c ∈ uuidDigits uuid) : c ∈ hexDigits := by
  have hdigits : ∀ digit < 16, Nat.digitChar digit ∈ hexDigits := by decide
  obtain ⟨i, -, rfl⟩ := mem_map.mp mem
  exact hdigits _ (Nat.mod_lt _ (by decide))

theorem uuidText_toList (uuid : Uuid) :
    (uuidText uuid).toList = (uuidDigits uuid).take 8 ++ '-' :: (((uuidDigits uuid).drop 8).take 4 ++
      '-' :: (((uuidDigits uuid).drop 12).take 4 ++ '-' :: (((uuidDigits uuid).drop 16).take 4 ++
        '-' :: (uuidDigits uuid).drop 20))) := by
  simp [uuidText, uuidDigits]

theorem uuidText_ne_slash (uuid : Uuid) : ∀ c ∈ (uuidText uuid).toList, c ≠ '/' := by
  have hhex : ∀ c ∈ uuidDigits uuid, c ≠ '/' := by
    intro c hc hslash
    have hmem := mem_uuidDigits hc
    rw [hslash] at hmem
    exact absurd hmem (by decide)
  have hdash : '-' ≠ '/' := by decide
  intro c hc
  simp only [uuidText_toList, mem_append, mem_cons] at hc
  rcases hc with hc | rfl | hc | rfl | hc | rfl | hc | rfl | hc
  · exact hhex c (mem_of_mem_take hc)
  · exact hdash
  · exact hhex c (mem_of_mem_drop (mem_of_mem_take hc))
  · exact hdash
  · exact hhex c (mem_of_mem_drop (mem_of_mem_take hc))
  · exact hdash
  · exact hhex c (mem_of_mem_drop (mem_of_mem_take hc))
  · exact hdash
  · exact hhex c (mem_of_mem_drop hc)

theorem splitOn_path {front back : String} (kind channel : String) (uuid : Uuid)
    (front_eq : front.toList = '/' :: ("v1".toList ++ '/' :: (kind.toList ++ ['/'])))
    (back_eq : back.toList = '/' :: channel.toList)
    (kind_plain : ∀ c ∈ kind.toList, c ≠ '/') (channel_plain : ∀ c ∈ channel.toList, c ≠ '/') :
    ((front ++ uuidText uuid ++ back).toList.dropWhile fun c => c = '/').splitOn '/' =
      ["v1".toList, kind.toList, (uuidText uuid).toList, channel.toList] := by
  have htext : ((front ++ uuidText uuid ++ back).toList.dropWhile fun c => c = '/') =
      "v1".toList ++ '/' :: (kind.toList ++ '/' :: ((uuidText uuid).toList ++
        '/' :: channel.toList)) := by
    simp [front_eq, back_eq]
  rw [htext, splitOn_segment (by simp), splitOn_segment kind_plain,
    splitOn_segment (uuidText_ne_slash uuid), splitOn_last channel_plain]

theorem parseWsPath_text (parse_uuidText : ∀ uuid, parseUuid (uuidText uuid).toList = some uuid)
    (target : WsPath) : parseWsPath parseUuid target.text = some target := by
  cases target with
  | relay deviceId =>
    have hsplit := @splitOn_path "/v1/devices/" "/relay" "devices" "relay"
      deviceId (by decide) (by decide) (by simp) (by simp)
    simp only [parseWsPath, WsPath.text, hsplit]
    simp [parse_uuidText]
  | mirror terminalId =>
    have hsplit := @splitOn_path "/v1/terminals/" "/mirror" "terminals" "mirror"
      terminalId (by decide) (by decide) (by simp) (by simp)
    simp only [parseWsPath, WsPath.text, hsplit]
    simp [parse_uuidText]

def hexValue (c : Char) : Nat := hexDigits.idxOf c.toLower

def readUuid (text : List Char) : Option Uuid :=
  let groups := text.splitOn '-'
  let digits := groups.flatten
  if (groups.map List.length = [32] ∨ groups.map List.length = [8, 4, 4, 4, 12]) ∧
      digits.all fun c => c.toLower ∈ hexDigits then
    some (BitVec.ofNat 128 (digits.foldl (fun value c => value * 16 + hexValue c) 0))
  else none

theorem hexValue_digitChar (n : Nat) : hexValue (Nat.digitChar (n % 16)) = n % 16 := by
  have hdigits : ∀ digit < 16, hexValue (Nat.digitChar digit) = digit := by decide
  exact hdigits (n % 16) (Nat.mod_lt n (by decide))

theorem foldl_digits {n : Nat} (small : n < 16 ^ 32) {count : Nat} (le : count ≤ 32) :
    ((range count).map fun i => Nat.digitChar (n / 16 ^ (31 - i) % 16)).foldl
      (fun value c => value * 16 + hexValue c) 0 = n / 16 ^ (32 - count) := by
  induction count with
  | zero => exact (Nat.div_eq_of_lt small).symm
  | succ count ih =>
    have hpow : 16 ^ (32 - count) = 16 ^ (31 - count) * 16 := by
      rw [← Nat.pow_succ]
      congr 1
      omega
    have hexp : 32 - (count + 1) = 31 - count := by omega
    rw [range_succ, map_append, foldl_append, ih (by omega), hexp, hpow, ← Nat.div_div_eq_div_mul]
    simp only [map_cons, map_nil, foldl_cons, foldl_nil, hexValue_digitChar]
    omega

theorem uuidDigits_length (uuid : Uuid) : (uuidDigits uuid).length = 32 := by
  simp [uuidDigits]

theorem take_drop_append (digits : List Char) (start count : Nat) :
    (digits.drop start).take count ++ digits.drop (start + count) = digits.drop start := by
  rw [← drop_drop, take_append_drop]

theorem readUuid_uuidText (uuid : Uuid) : readUuid (uuidText uuid).toList = some uuid := by
  have hplain : ∀ c ∈ uuidDigits uuid, c ≠ '-' := by
    intro c hc hdash
    have hmem := mem_uuidDigits hc
    rw [hdash] at hmem
    exact absurd hmem (by decide)
  have hlower : hexDigits.all fun c => c.toLower ∈ hexDigits := by decide
  have hgroups : (uuidText uuid).toList.splitOn '-' = [(uuidDigits uuid).take 8,
      ((uuidDigits uuid).drop 8).take 4, ((uuidDigits uuid).drop 12).take 4,
      ((uuidDigits uuid).drop 16).take 4, (uuidDigits uuid).drop 20] := by
    rw [uuidText_toList, splitOn_segment, splitOn_segment, splitOn_segment, splitOn_segment,
      splitOn_last]
    · exact fun c hc => hplain c (mem_of_mem_drop hc)
    · exact fun c hc => hplain c (mem_of_mem_drop (mem_of_mem_take hc))
    · exact fun c hc => hplain c (mem_of_mem_drop (mem_of_mem_take hc))
    · exact fun c hc => hplain c (mem_of_mem_drop (mem_of_mem_take hc))
    · exact fun c hc => hplain c (mem_of_mem_take hc)
  have hlengths : ((uuidText uuid).toList.splitOn '-').map List.length = [8, 4, 4, 4, 12] := by
    rw [hgroups]
    simp [uuidDigits_length]
  have hflatten : ((uuidText uuid).toList.splitOn '-').flatten = uuidDigits uuid := by
    rw [hgroups]
    simp only [flatten_cons, flatten_nil, append_nil]
    rw [take_drop_append _ 16 4, take_drop_append _ 12 4, take_drop_append _ 8 4, take_append_drop]
  have hvalue : (uuidDigits uuid).foldl (fun value c => value * 16 + hexValue c) 0 = uuid.toNat := by
    have hsmall : uuid.toNat < 16 ^ 32 := uuid.isLt
    have hread := foldl_digits hsmall (Nat.le_refl 32)
    rw [Nat.sub_self, Nat.pow_zero, Nat.div_one] at hread
    exact hread
  unfold readUuid
  dsimp only
  have hdigits : (uuidDigits uuid).all fun c => c.toLower ∈ hexDigits :=
    all_eq_true.mpr fun c hc => all_eq_true.mp hlower c (mem_uuidDigits hc)
  rw [hflatten, hvalue, if_pos ⟨.inr hlengths, hdigits⟩, BitVec.ofNat_toNat, BitVec.setWidth_eq]

end Hypeterm.Http.Upgrade

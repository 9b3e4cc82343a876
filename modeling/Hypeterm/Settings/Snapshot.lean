import Hypeterm.Settings.Store

/-! Reading a setting from a snapshot. -/
namespace Hypeterm.Settings.Snapshot

section

variable (values : Values)

/-- Loading fills every declared key, so the declared default is not reached. -/
def get (name : String) : Value :=
  match values name with
  | some value => value
  | none =>
      match findDef name with
      | some definition => definition.defaultValue
      | none => .int 0

def int (name : String) : Int64 :=
  match get values name with
  | .int i => i
  | _ => 0

def u64 (name : String) : Nat := (int values name).toInt.toNat

def replayCapacity : Nat :=
  min (u64 values Keys.terminalReplayCapacityBytes) replayCapacityHardMax.toInt.toNat

end

def bool (snapshot : Snapshot) (name : String) : Bool := get snapshot.values name = .bool true

def string (snapshot : Snapshot) (name : String) : String :=
  match get snapshot.values name with
  | .str text => text
  | other => other.jsonText

def list (snapshot : Snapshot) (name : String) : List String :=
  match get snapshot.values name with
  | .list items => items
  | _ => []

theorem int_bounds {env : Env} {revision : Int} {rows : List SettingRow} {snapshot : Snapshot}
    {name : String} {default low high : Int64}
    (loaded : loadRows env revision rows = .ok snapshot)
    (declared : SettingDef.int name default low high ∈ defs) :
    low ≤ int snapshot.values name ∧ int snapshot.values name ≤ high := by
  obtain ⟨stored, -, hvalid, rfl⟩ := (loadRows_ok env).mp loaded
  have hfirst := ((validateLoaded_ok env).mp hvalid).1
  rw [firstInvalid, List.findSome?_eq_none_iff] at hfirst
  have hchecked := hfirst _ declared
  have hfound : findDef name = some (SettingDef.int name default low high) :=
    findDef_of_mem declared
  have hvalue : resolve stored name = some ((stored name).getD (.int default)) := by
    simp [resolve, hfound, SettingDef.defaultValue, SettingDef.int]
  have hname : (SettingDef.int name default low high).name = name := rfl
  rw [hname, hvalue, Option.getD_some] at hchecked
  simp only [int, get, hvalue]
  cases hstored : (stored name).getD (.int default) with
  | int value =>
    rw [hstored] at hchecked
    simp only [validateValue, SettingDef.int, Option.filter_some, decide_eq_true_eq] at hchecked
    by_cases hlow : value < low
    · simp [hlow] at hchecked
    · by_cases hhigh : high < value
      · simp [hlow, hhigh] at hchecked
      · exact ⟨Int64.not_lt.mp hlow, Int64.not_lt.mp hhigh⟩
  | bool _ | str _ | list _ =>
    rw [hstored] at hchecked
    simp [validateValue, SettingDef.int] at hchecked

end Hypeterm.Settings.Snapshot

import Hypeterm.Types

/-! Typed values of runtime settings: what a declaration says about a value,
how a JSON document is read against it and what a single value must satisfy. -/
namespace Hypeterm.Settings

inductive Kind where
  | bool
  | int
  | str
  | enum
  | list
  | secret
  deriving DecidableEq

inductive DefaultValue where
  | bool (value : Bool)
  | int (value : Int64)
  | str (value : String)
  | list (items : List String)
  deriving DecidableEq

inductive Value where
  | bool (value : Bool)
  | int (value : Int64)
  | str (text : String)
  | list (items : List String)
  deriving DecidableEq

structure SettingDef where
  name : String
  kind : Kind
  default : DefaultValue
  min : Option Int64
  max : Option Int64
  allowed : Option (List String)
  secret : Bool
  deriving DecidableEq

namespace SettingDef

/-! One constructor for each kind of declaration; bounds belong to integers and
the list of allowed words to enumerations. -/

def bool (name : String) (default : Bool) : SettingDef :=
  ⟨name, .bool, .bool default, none, none, none, false⟩

def int (name : String) (default min max : Int64) : SettingDef :=
  ⟨name, .int, .int default, some min, some max, none, false⟩

def str (name default : String) : SettingDef :=
  ⟨name, .str, .str default, none, none, none, false⟩

def enum (name default : String) (allowed : List String) : SettingDef :=
  ⟨name, .enum, .str default, none, none, some allowed, false⟩

def list (name : String) (default : List String) : SettingDef :=
  ⟨name, .list, .list default, none, none, none, false⟩

def secretStr (name default : String) : SettingDef :=
  ⟨name, .secret, .str default, none, none, none, true⟩

def defaultValue (definition : SettingDef) : Value :=
  match definition.default with
  | .bool value => .bool value
  | .int value => .int value
  | .str text => .str text
  | .list items => .list items

end SettingDef

/-- A JSON number: an integer of the range the decoder keeps exactly, or the
bits of a double. -/
inductive JsonNumber where
  | integer (value : Int)
  | float (bits : UInt64)

inductive Json where
  | null
  | bool (value : Bool)
  | number (value : JsonNumber)
  | string (text : String)
  | array (items : List Json)
  | object (fields : List (String × Json))

namespace Json

def asBool : Json → Option Bool
  | .bool value => some value
  | _ => none

/-- Integers outside the signed 64-bit range and doubles are not integers here,
not even a double with a zero fraction. -/
def asI64 : Json → Option Int64
  | .number (.integer value) =>
      if -2 ^ 63 ≤ value ∧ value < 2 ^ 63 then some (Int64.ofInt value) else none
  | _ => none

def asStr : Json → Option String
  | .string text => some text
  | _ => none

def asArray : Json → Option (List Json)
  | .array items => some items
  | _ => none

end Json

namespace Value

def toJson : Value → Json
  | .bool value => .bool value
  | .int value => .number (.integer value.toInt)
  | .str text => .string text
  | .list items => .array (items.map Json.string)

/-- Coercion is strict: a document of another type is refused. -/
def fromJson (definition : SettingDef) (json : Json) : Except String Value :=
  match definition.kind with
  | .bool =>
      match json.asBool with
      | some value => .ok (.bool value)
      | none => .error s!"{definition.name} expects a boolean"
  | .int =>
      match json.asI64 with
      | some value => .ok (.int value)
      | none => .error s!"{definition.name} expects an integer"
  | .str | .enum | .secret =>
      match json.asStr with
      | some text => .ok (.str text)
      | none => .error s!"{definition.name} expects a string"
  | .list =>
      match json.asArray with
      | none => .error s!"{definition.name} expects an array of strings"
      | some items =>
          match items.mapM Json.asStr with
          | some texts => .ok (.list texts)
          | none => .error s!"{definition.name} expects an array of strings"

/-- The escapes the serializer writes inside a string. -/
def escapeChar (c : Char) : String :=
  if c = '"' then "\\\""
  else if c = '\\' then "\\\\"
  else if c.toNat = 8 then "\\b"
  else if c.toNat = 9 then "\\t"
  else if c.toNat = 10 then "\\n"
  else if c.toNat = 12 then "\\f"
  else if c.toNat = 13 then "\\r"
  else if c.toNat < 16 then "\\u000" ++ String.singleton (Nat.digitChar c.toNat)
  else if c.toNat < 32 then "\\u001" ++ String.singleton (Nat.digitChar (c.toNat - 16))
  else String.singleton c

def quote (text : String) : String :=
  "\"" ++ String.join (text.toList.map escapeChar) ++ "\""

def jsonText : Value → String
  | .bool value => toString value
  | .int value => toString value.toInt
  | .str text => quote text
  | .list items => "[" ++ ",".intercalate (items.map quote) ++ "]"

end Value

/-- Characters with the Unicode `White_Space` property. -/
def isWhitespace (c : Char) : Bool :=
  let n := c.toNat
  (9 ≤ n && n ≤ 13) || n = 0x20 || n = 0x85 || n = 0xA0 || n = 0x1680 ||
    (0x2000 ≤ n && n ≤ 0x200A) || n = 0x2028 || n = 0x2029 || n = 0x202F || n = 0x205F ||
    n = 0x3000

def trim (text : List Char) : List Char :=
  ((text.dropWhile isWhitespace).reverse.dropWhile isWhitespace).reverse

def startsWith (pattern text : String) : Bool := pattern.toList.isPrefixOf text.toList

def validateValue (definition : SettingDef) (value : Value) : Except String Unit :=
  match definition.kind, value with
  | .bool, .bool _ => .ok ()
  | .int, .int i =>
      match definition.min.filter (i < ·), definition.max.filter (· < i) with
      | some min, _ => .error s!"{definition.name} must be at least {min}"
      | none, some max => .error s!"{definition.name} must be at most {max}"
      | none, none => .ok ()
  | .str, .str _ | .secret, .str _ => .ok ()
  | .enum, .str text =>
      let allowed := definition.allowed.getD []
      if text ∈ allowed then .ok ()
      else .error (s!"{definition.name} must be one of " ++ ", ".intercalate allowed)
  | .list, .list items =>
      if items.any fun item => (trim item.toList).isEmpty then
        .error s!"{definition.name} must not contain empty entries"
      else .ok ()
  | _, _ => .error s!"{definition.name} has the wrong value type"

theorem Json.mapM_asStr_string (items : List String) :
    (items.map Json.string).mapM Json.asStr = some items := by
  induction items with
  | nil => rfl
  | cons item rest ih => simp only [List.map_cons, List.mapM_cons, Json.asStr, ih]; rfl

@[simp] theorem Json.asI64_toInt (value : Int64) :
    (Json.number (.integer value.toInt)).asI64 = some value := by
  have range : -2 ^ 63 ≤ value.toInt ∧ value.toInt < 2 ^ 63 :=
    ⟨Int64.le_toInt value, Int64.toInt_lt value⟩
  simp only [Json.asI64, if_pos range, Int64.ofInt_toInt]

theorem Value.fromJson_toJson {definition : SettingDef} {value : Value}
    (valid : validateValue definition value = .ok ()) :
    fromJson definition value.toJson = .ok value := by
  obtain ⟨name, kind, default, min, max, allowed, secret⟩ := definition
  cases kind <;> cases value <;>
    simp_all [validateValue, fromJson, toJson, Json.asBool, Json.asStr, Json.asArray,
      Json.mapM_asStr_string, -List.mapM_map]

end Hypeterm.Settings

import AnsibleStaging.Json.Printer
import AnsibleStaging.Text.Quoted

/-! Reading records out of JSON. A record is an object with its fields by name, where unknown names are ignored,
    or an array with its fields in the order of their declaration. Of several bad fields of an object the one
    first by name is reported, and only then one that is missing. -/

namespace AnsibleStaging

/-- The shape of a JSON value, as far as a diagnosis shows it. --/
inductive Shape where
  | null
  | bool (b : Bool)
  | num (n : Number)
  | str (s : String)
  | sequence
  | map
deriving DecidableEq

namespace Shape

def ofJson : Json → Shape
  | .null => null
  | .bool b => bool b
  | .num n => num n
  | .str s => str s
  | .arr _ => sequence
  | .obj _ => map

def text : Shape → String
  | null => "null"
  | bool b => "boolean `" ++ toString b ++ "`"
  | num (.int n h) => "integer `" ++ Number.text (.int n h) ++ "`"
  | num (.double d) => "floating point `" ++ Number.text (.double d) ++ "`"
  | str s => "string " ++ quoted s
  | sequence => "sequence"
  | map => "map"

end Shape

/-- Why a JSON value is not the record that was asked for. --/
inductive DecodeError where
  | invalidType (found : Shape) (expected : String)
  | invalidValue (found : Shape) (expected : String)
  | invalidLength (length : Nat) (expected : String)
  | unknownVariant (name : String) (known : List String)
  | missingField (name : String)
deriving DecidableEq

namespace DecodeError

def inTicks (s : String) : String := "`" ++ s ++ "`"

def alternatives : List String → String
  | [] => "there are no variants"
  | [a] => "expected " ++ inTicks a
  | [a, b] => "expected " ++ inTicks a ++ " or " ++ inTicks b
  | many => "expected one of " ++ String.intercalate ", " (many.map inTicks)

def message : DecodeError → String
  | invalidType found expected => "invalid type: " ++ found.text ++ ", expected " ++ expected
  | invalidValue found expected => "invalid value: " ++ found.text ++ ", expected " ++ expected
  | invalidLength n expected => "invalid length " ++ toString n ++ ", expected " ++ expected
  | unknownVariant name known => "unknown variant " ++ inTicks name ++ ", " ++ alternatives known
  | missingField name => "missing field " ++ inTicks name

end DecodeError

abbrev Decoder (α : Type) := Json → Except DecodeError α

namespace Decode

def mismatch {α : Type} (v : Json) (expected : String) : Except DecodeError α :=
  .error (.invalidType (.ofJson v) expected)

def text : Decoder String
  | .str s => .ok s
  | v => mismatch v "a string"

def pathText : Decoder String
  | .str s => .ok s
  | v => mismatch v "path string"

def flag : Decoder Bool
  | .bool b => .ok b
  | v => mismatch v "a boolean"

def vars : Decoder Vars
  | .obj fields => .ok (.ofFields fields)
  | v => mismatch v "a map"

def nullable {α : Type} (read : Decoder α) : Decoder (Option α)
  | .null => .ok none
  | v => (read v).map some

def list {α : Type} (read : Decoder α) : Decoder (List α)
  | .arr items => items.mapM read
  | v => mismatch v "a sequence"

/-- One of a few names, alone or as the only member of an object, with `null` for its value. --/
def variant {α : Type} (known : List (String × α)) : Decoder α := fun v =>
  let named (name : String) : Except DecodeError α :=
    match known.find? fun k => k.1 == name with
    | some k => .ok k.2
    | none => .error (.unknownVariant name (known.map (·.1)))
  match v with
  | .str name => named name
  | .obj [(name, body)] => do
    let a ← named name
    match body with
    | .null => .ok a
    | body => mismatch body "unit"
  | .obj _ => .error (.invalidValue .map "map with a single key")
  | v => mismatch v "string or map"

/-! ### Fields by name -/

/-- The field called `name`, if it is there. --/
def field? {α : Type} (o : Fields) (name : String) (read : Decoder α) : Except DecodeError (Option α) :=
  match o.get? name with
  | some v => (read v).map some
  | none => .ok none

def field {α : Type} (o : Fields) (name : String) (read : Decoder α) (default : α) : Except DecodeError α :=
  (field? o name read).map (·.getD default)

/-- Fails for a field that was not there. --/
def require {α : Type} (name : String) : Option α → Except DecodeError α
  | some a => .ok a
  | none => .error (.missingField name)

/-! ### Fields in order -/

/-- What is left of an array, and the number of fields taken. --/
structure Items where
  left : List Json
  taken : Nat

/-- A reader of some fields of an array. --/
abbrev ItemReader (α : Type) := StateT Items (Except DecodeError) α

/-- The next field, if the array goes on. --/
def item? {α : Type} (read : Decoder α) : ItemReader (Option α) := fun i =>
  match i.left with
  | [] => .ok (none, { i with taken := i.taken + 1 })
  | v :: rest => (read v).map fun a => (some a, ⟨rest, i.taken + 1⟩)

def item {α : Type} (read : Decoder α) (default : α) : ItemReader α := (·.getD default) <$> item? read

/-- The next field of a record, for which there is no default. --/
def requiredItem {α : Type} (record : String) (read : Decoder α) : ItemReader α := do
  match ← item? read with
  | some a => pure a
  | none => throw (.invalidLength ((← get).taken - 1) record)

/-- What is said of an array that is longer than the record: within a record whose fields are those of another
    one, how many were expected. --/
inductive Surplus where
  | apart
  | within

def Surplus.text : Surplus → Nat → String
  | apart, _ => "fewer elements in array"
  | within, 1 => "1 element in sequence"
  | within, n => toString n ++ " elements in sequence"

def readItems {α : Type} (surplus : Surplus) (items : List Json) (read : ItemReader α) : Except DecodeError α := do
  let (a, i) ← read ⟨items, 0⟩
  match i.left with
  | [] => .ok a
  | _ => .error (.invalidLength items.length (surplus.text i.taken))

/-- How a record is called in a diagnosis. --/
def recordName (name : String) : String := "struct " ++ name

/-- A record of `size` fields, in a diagnosis about their number. --/
def sizedName (name : String) (size : Nat) : String :=
  recordName name ++ " with " ++ toString size ++ (if size = 1 then " element" else " elements")

/-- A record with its fields by name or in order. --/
def record {α : Type} (name : String) (surplus : Surplus) (byName : Fields → Except DecodeError α)
    (inOrder : ItemReader α) : Decoder α
  | .obj fields => byName fields
  | .arr items => readItems surplus items inOrder
  | v => mismatch v (recordName name)

/-- A record that has its fields by name only. --/
def openRecord {α : Type} (name : String) (byName : Fields → Except DecodeError α) : Decoder α
  | .obj fields => byName fields
  | v => mismatch v (recordName name)

end Decode

namespace Encode

/-- A member that is left out when there is nothing to write. --/
def optional {α : Type} (name : String) (write : α → Json) : Option α → Fields
  | some a => [(name, write a)]
  | none => []

def object (fields : Fields) : Json := .obj (fields.foldr (fun f o => Fields.insertNew f.1 f.2 o) [])

end Encode
end AnsibleStaging

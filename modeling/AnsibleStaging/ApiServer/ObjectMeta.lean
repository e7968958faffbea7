import AnsibleStaging.Json.Reader
import AnsibleStaging.Resource.Metadata

/-! The metadata of an object as the API server keeps it. Every part may be missing or null, and what is there must
    have its type; of it all, the name, the namespace and the uid are used here. -/

namespace AnsibleStaging
namespace ApiServer

abbrev Check := Json → Bool

namespace Check

def isText : Check
  | .str _ => true
  | _ => false

def isWhole : Check
  | .num (.int n _) => n < 9223372036854775808
  | _ => false

def isTruth : Check
  | .bool _ => true
  | _ => false

def listOf (check : Check) : Check
  | .arr items => items.all check
  | _ => false

def mapOf (check : Check) : Check
  | .obj fields => fields.all fun f => check f.2
  | _ => false

/-- An object whose parts have their types where they are not null. --/
def record (parts : List (String × Check)) : Check
  | .obj fields => fields.all fun (name, v) =>
    match v with
    | .null => true
    | v => (parts.lookup name).all (· v)
  | _ => false

/-! ### Times -/

/-- The number that `n` digits write, and what follows them. --/
def digits (n : Nat) (cs : List Char) : Option (Nat × List Char) :=
  if (cs.take n).length = n ∧ (cs.take n).all Char.isDigit then
    some ((cs.take n).foldl (fun v c => v * 10 + (c.toNat - 48)) 0, cs.drop n)
  else none

def oneOf (allowed : List Char) : List Char → Option (List Char)
  | c :: rest => if allowed.contains c then some rest else none
  | [] => none

def isLeap (year : Nat) : Bool := year % 4 == 0 && (year % 100 != 0 || year % 400 == 0)

def daysIn (year month : Nat) : Nat :=
  if month = 2 then if isLeap year then 29 else 28
  else if [4, 6, 9, 11].contains month then 30 else 31

def withoutFraction (cs : List Char) : Option (List Char) :=
  match cs with
  | '.' :: c :: rest => if c.isDigit then some (rest.dropWhile Char.isDigit) else none
  | cs => some cs

/-- Whether the distance from the common time is all that is left. --/
def isOffset : List Char → Bool
  | ['Z'] => true
  | ['z'] => true
  | cs => ((do
    let cs ← oneOf ['+', '-'] cs
    let (hours, cs) ← digits 2 cs
    let (minutes, cs) ← digits 2 (← oneOf [':'] cs)
    return cs.isEmpty && hours < 24 && minutes < 60) : Option Bool).getD false

/-- A day, a time of the day and its distance from the common time. --/
def isTime : Check
  | .str s => ((do
    let (year, cs) ← digits 4 s.toList
    let (month, cs) ← digits 2 (← oneOf ['-'] cs)
    let (day, cs) ← digits 2 (← oneOf ['-'] cs)
    let (hour, cs) ← digits 2 (← oneOf ['T', 't', ' '] cs)
    let (minute, cs) ← digits 2 (← oneOf [':'] cs)
    let (second, cs) ← digits 2 (← oneOf [':'] cs)
    let cs ← withoutFraction cs
    return 1 ≤ month && month ≤ 12 && 1 ≤ day && day ≤ daysIn year month && hour < 24 && minute < 60 &&
      second ≤ 60 && isOffset cs) : Option Bool).getD false
  | _ => false

/-! ### Metadata -/

def isOwner : Check := record
  [("apiVersion", isText), ("blockOwnerDeletion", isTruth), ("controller", isTruth), ("kind", isText),
    ("name", isText), ("uid", isText)]

def isManagedFields : Check := record
  [("apiVersion", isText), ("fieldsType", isText), ("manager", isText), ("operation", isText),
    ("subresource", isText), ("time", isTime)]

def isObjectMeta : Check := record
  [("annotations", mapOf isText), ("creationTimestamp", isTime), ("deletionGracePeriodSeconds", isWhole),
    ("deletionTimestamp", isTime), ("finalizers", listOf isText), ("generateName", isText),
    ("generation", isWhole), ("labels", mapOf isText), ("managedFields", listOf isManagedFields),
    ("name", isText), ("namespace", isText), ("ownerReferences", listOf isOwner), ("resourceVersion", isText),
    ("selfLink", isText), ("uid", isText)]

end Check

/-- The text of a part that may be missing. --/
def textPart (o : Fields) (name : String) : Option String :=
  match Fields.get? o name with
  | some (.str s) => some s
  | _ => none

/-- The metadata that a value holds, if all of it has its type. --/
def objectMeta? (v : Json) : Option Metadata :=
  match v with
  | .obj o =>
    if Check.isObjectMeta v then
      some ⟨(textPart o "name").getD "", textPart o "namespace", ⟨(textPart o "uid").getD ""⟩⟩
    else none
  | _ => none

/-- An object with its metadata in the form in which resources are decoded. --/
def readObject? (v : Json) : Option Json :=
  match v with
  | .obj o =>
    match Fields.get? o "metadata" with
    | none => some v
    | some m => (objectMeta? m).map fun (found : Metadata) =>
      .obj (o.map fun (name, w) => if name = "metadata" then (name, found.encode) else (name, w))
  | _ => none

end ApiServer
end AnsibleStaging

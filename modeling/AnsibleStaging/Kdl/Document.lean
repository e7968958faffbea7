/-! Documents of nodes. A node has a name, entries and children; an entry is an argument or a property. Type
    annotations and what is commented out leave no trace. -/

namespace AnsibleStaging
namespace Kdl

inductive Value where
  | str (s : String)
  | num (literal : String)
  | bool (b : Bool)
  | null
deriving DecidableEq

/-- The text of a value that is one. --/
def Value.string? : Value → Option String
  | str s => some s
  | _ => none

inductive Entry where
  | argument (v : Value)
  | property (name : String) (v : Value)
deriving DecidableEq

/-- The value of an entry that is an argument. --/
def Entry.argument? : Entry → Option Value
  | argument v => some v
  | property _ _ => none

inductive Node where
  | mk (name : String) (entries : List Entry) (children : List Node)

/-- The nodes at the top level, in order. --/
abbrev Document := List Node

namespace Node

def name : Node → String
  | mk n _ _ => n

def entries : Node → List Entry
  | mk _ e _ => e

def children : Node → List Node
  | mk _ _ c => c

def firstArgument? (n : Node) : Option Value := n.entries.findSome? Entry.argument?

end Node
end Kdl
end AnsibleStaging

import RouteDocs.Schema.Table

/-!
# Guests in the table

A table can be made to hold values that are no schemas beside its nodes.
-/

namespace RouteDocs
namespace Json

/-- The whole number that a value counts as: truth values are the numbers one and
zero, and a whole number is the same in both precisions. -/
def asWhole? : Json -> Option Int
  | .bool value => some (if value then 1 else 0)
  | .int value => some value
  | .real value => value.toInt?
  | _ => none

def equalLeaf (first second : Json) : Bool := match first.asWhole?, second.asWhole? with
  | some m, some n => m == n
  | none, none =>
    match first, second with
    | .null, .null => true
    | .string s, .string t => s == t
    | .real r, .real s => r == s && r != .undefined
    | _, _ => false
  | _, _ => false

mutual

/-- Whether two values are equal; the order of members does not count. -/
def equal : Json -> Json -> Bool
  | .array xs, .array ys => equalItems xs ys
  | .object xs, .object ys => xs.length == ys.length && equalMembers xs ys
  | .array _, _ | .object _, _ | _, .array _ | _, .object _ => false
  | first, second => equalLeaf first second

def equalItems : List Json -> List Json -> Bool
  | [], [] => true
  | x :: xs, y :: ys => x.equal y && equalItems xs ys
  | _, _ => false

def equalMembers : List (String × Json) -> List (String × Json) -> Bool
  | [], _ => true
  | (name, x) :: xs, ys =>
    (match OrderedMap.find? name ys with
      | some y => x.equal y
      | none => false) && equalMembers xs ys
end
end Json

namespace Schema
inductive Guest where
  | node (schema : Node)
  | foreign (value : Json)

instance : Inhabited Guest := ⟨.foreign .null⟩

instance : Storable Guest where
  ofNode := .node
  same
    | .node first, .node second => first.same second
    | .foreign first, .foreign second => first.equal second
    | _, _ => false
  isVacant
    | .foreign .null => true
    | _ => false
end Schema
end RouteDocs

import ClusterSurvey.Decimal.Binary64
import ClusterSurvey.Keyed

/-!
JSON values. Whole numbers that fit 64 bits stay whole, every other number is double precision. The
members of an object are a list of pairs; values built with `Json.object` list them by ascending
name, one for each name.
-/
namespace ClusterSurvey

/-- A JSON value. -/
inductive Json where
  | null
  | bool (b : Bool)
  | int (n : Int)
  | real (x : Binary64)
  | str (s : String)
  | arr (items : List Json)
  | obj (members : List (String × Json))
  deriving Inhabited

namespace Json

def erase (key : String) (members : List (String × Json)) : List (String × Json) :=
  members.filter (fun m => m.1 ≠ key)

/-- The object with these members; of several with one name the last counts. -/
def object (members : List (String × Json)) : Json :=
  .obj (members.foldl (fun acc m => Keyed.insert m.1 m.2 acc) [])

def textMember (name text : String) : List (String × Json) :=
  if text.isEmpty then [] else [(name, .str text)]

def get? (key : String) : Json → Option Json
  | .obj members => members.lookup key
  | _ => none

def asString? : Json → Option String
  | .str s => some s
  | _ => none

def asInt64? : Json → Option Int
  | .int n => if -9223372036854775808 ≤ n ∧ n ≤ 9223372036854775807 then some n else none
  | _ => none

def asArray? : Json → Option (List Json)
  | .arr items => some items
  | _ => none

def asObject? : Json → Option (List (String × Json))
  | .obj members => some members
  | _ => none

mutual

def beq : Json → Json → Bool
  | .null, .null => true
  | .bool a, .bool b => a == b
  | .int a, .int b => a == b
  | .real a, .real b => a.bits == b.bits
  | .str a, .str b => a == b
  | .arr a, .arr b => beqItems a b
  | .obj a, .obj b => beqMembers a b
  | _, _ => false

def beqItems : List Json → List Json → Bool
  | [], [] => true
  | a :: as, b :: bs => beq a b && beqItems as bs
  | _, _ => false

def beqMembers : List (String × Json) → List (String × Json) → Bool
  | [], [] => true
  | (k, a) :: as, (l, b) :: bs => k == l && beq a b && beqMembers as bs
  | _, _ => false

end

instance : BEq Json := ⟨beq⟩

end Json

end ClusterSurvey

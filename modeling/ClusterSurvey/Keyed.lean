/-!
Values by key: lists of pairs in ascending order of the keys, with one value for each key.
-/
namespace ClusterSurvey.Keyed

variable {α : Type}

/-- Puts a value under a key at its place; what stands under the key is replaced. -/
def insert (key : String) (value : α) : List (String × α) → List (String × α)
  | [] => [(key, value)]
  | (k, v) :: rest =>
    if k = key then (key, value) :: rest
    else if key < k then (key, value) :: (k, v) :: rest
    else (k, v) :: insert key value rest

def modify (key : String) (f : α → α) : List (String × α) → List (String × α)
  | [] => []
  | (k, v) :: rest => if k = key then (k, f v) :: rest else (k, v) :: modify key f rest

/-- Changes the value under a key, or puts one there at its place if there is none. -/
def upsert {κ : Type} [DecidableEq κ] [LT κ] [DecidableLT κ] (key : κ) (f : Option α → α) :
    List (κ × α) → List (κ × α)
  | [] => [(key, f none)]
  | (k, v) :: rest =>
    if k = key then (k, f (some v)) :: rest
    else if key < k then (key, f none) :: (k, v) :: rest
    else (k, v) :: upsert key f rest

end ClusterSurvey.Keyed

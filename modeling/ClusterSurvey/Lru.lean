/-!
A cache of bounded size. What was used least recently is dropped first.
-/
namespace ClusterSurvey

/-- A cache: how many entries it may have, and the entries, the most recently used first. -/
structure Lru (κ α : Type) where
  capacity : Nat
  entries : List (κ × α)

namespace Lru

variable {κ α : Type} [DecidableEq κ]

def empty (capacity : Nat) : Lru κ α := ⟨max capacity 1, []⟩

def size (c : Lru κ α) : Nat := c.entries.length

/-- The entry of a key, which thereby becomes the most recently used one. -/
def get? (c : Lru κ α) (key : κ) : Option α × Lru κ α :=
  match c.entries.find? (·.1 = key) with
  | some (k, v) => (some v, { c with entries := (k, v) :: c.entries.filter (·.1 ≠ key) })
  | none => (none, c)

def put (c : Lru κ α) (key : κ) (value : α) : Lru κ α :=
  { c with entries := ((key, value) :: c.entries.filter (·.1 ≠ key)).take c.capacity }

def resize (c : Lru κ α) (capacity : Nat) : Lru κ α := ⟨capacity, c.entries.take capacity⟩

def wordMax : Nat := 18446744073709551615

/-- Makes room for an estimated number of entries and a fifth more. -/
def resizeFor (c : Lru κ α) (estimate : Nat) : Lru κ α :=
  c.resize (max ((min (estimate * 6) wordMax + 4) / 5) 1)

end Lru

end ClusterSurvey

/-!
Arithmetic modulo a number, for the verification of signatures.
-/
namespace ClusterSurvey.Modular

def powFrom (m : Nat) : (fuel : Nat) → (base n acc : Nat) → Nat
  | 0, _, _, acc => acc % m
  | fuel + 1, base, n, acc =>
    if n = 0 then acc % m
    else powFrom m fuel (base * base % m) (n / 2) (if n % 2 = 1 then acc * base % m else acc)

def pow (m base n : Nat) : Nat := powFrom m (Nat.log2 n + 1) (base % m) n 1

/-- The inverse modulo a prime; zero has none and gives zero. -/
def inverse (p a : Nat) : Nat := pow p a (p - 2)

def sub (m a b : Nat) : Nat := (a % m + m - b % m) % m

end ClusterSurvey.Modular

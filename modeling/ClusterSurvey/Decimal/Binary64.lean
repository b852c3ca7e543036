/-!
Finite double precision numbers, held as their 64 bits so that two numbers are equal when they are
written equally. A number is `(-1)^negative · mantissa · 2^exponent`; arithmetic rounds to nearest,
ties to even.
-/
namespace ClusterSurvey

structure Binary64 where
  bits : UInt64
  deriving DecidableEq, Repr, Inhabited

namespace Binary64

def ofFloat (x : Float) : Binary64 := ⟨x.toBits⟩

def toFloat (x : Binary64) : Float := Float.ofBits x.bits

def ofNat (n : Nat) : Binary64 := ofFloat (Float.ofNat n)

/-- The nearest number to `n · 10^exponent`. -/
def ofDecimal (n : Nat) (exponent : Int) : Binary64 :=
  ofFloat (Float.ofScientific n (exponent < 0) exponent.natAbs)

def mul (x y : Binary64) : Binary64 := ofFloat (x.toFloat * y.toFloat)

def div (x y : Binary64) : Binary64 := ofFloat (x.toFloat / y.toFloat)

def add (x y : Binary64) : Binary64 := ofFloat (x.toFloat + y.toFloat)

def negative (x : Binary64) : Bool := x.bits >>> 63 == 1

def neg (x : Binary64) : Binary64 := ⟨x.bits ^^^ 0x8000000000000000⟩

def biased (x : Binary64) : Nat := (x.bits >>> 52).toNat % 2048

def fraction (x : Binary64) : Nat := x.bits.toNat % 4503599627370496

def mantissa (x : Binary64) : Nat :=
  if x.biased = 0 then x.fraction else x.fraction + 4503599627370496

def exponent (x : Binary64) : Int :=
  if x.biased = 0 then -1074 else (x.biased : Int) - 1075

def isFinite (x : Binary64) : Bool := x.biased < 2047

def isZero (x : Binary64) : Bool := x.mantissa == 0

end Binary64

end ClusterSurvey

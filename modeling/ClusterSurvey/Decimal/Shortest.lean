import ClusterSurvey.Decimal.Binary64

/-!
The shortest decimal text of a double precision number: the fewest digits that read back as the
number and, of those, the nearest to it. On each grid of decimals with one digit more, only the two
neighbours of the number can lie in the interval of reals that round to it.
-/
namespace ClusterSurvey.Shortest

def digits (n : Nat) : List Char := Nat.toDigits 10 n

/-- The reals that round to a number, as quarters of its last place: `4m - below` to `4m + 2`, times
`2^(exponent - 2)`. The ends belong to it when the mantissa is even. -/
structure Interval where
  value : Nat
  lower : Nat
  upper : Nat
  /-- All three are to be divided by this. -/
  unit : Nat
  closed : Bool

def interval (x : Binary64) : Interval :=
  let m := x.mantissa
  let below := if x.fraction = 0 ∧ 1 < x.biased then 1 else 2
  let e := x.exponent - 2
  let scale := Nat.pow 2 e.toNat
  { value := 4 * m * scale
    lower := (4 * m - below) * scale
    upper := (4 * m + 2) * scale
    unit := Nat.pow 2 (-e).toNat
    closed := m % 2 = 0 }

def Interval.contains (i : Interval) (d num den : Nat) : Bool :=
  let p := d * num * i.unit
  if i.closed then i.lower * den ≤ p && p ≤ i.upper * den
  else i.lower * den < p && p < i.upper * den

/-- The integers next to the number on the grid of multiples of `num / den` that lie in its
interval: the nearer one if both do, the even one if they are equally near. -/
def Interval.onGrid? (i : Interval) (num den : Nat) : Option Nat :=
  let d := i.value * den / (i.unit * num)
  match i.contains d num den, i.contains (d + 1) num den with
  | false, false => none
  | true, false => some d
  | false, true => some (d + 1)
  | true, true =>
    let down := i.value * den - d * num * i.unit
    let up := (d + 1) * num * i.unit - i.value * den
    if down < up then some d else if up < down then some (d + 1)
    else some (if d % 2 = 0 then d else d + 1)

/-- The place of the first digit: the largest `e` with `10^e ≤ value`, searched downward from
`e`. -/
def leadingPlace (i : Interval) : (fuel : Nat) → (e : Int) → Int
  | 0, e => e
  | fuel + 1, e =>
    if 10 ^ e.toNat * i.unit ≤ i.value * 10 ^ (-e).toNat then e
    else leadingPlace i fuel (e - 1)

/-- An upper bound of the place of the first digit, from the number of binary digits. -/
def placeBound (i : Interval) : Int :=
  ((Nat.log2 i.value : Int) - Nat.log2 i.unit + 1) * 1233 / 4096 + 1

/-- The first grid that has a point in the interval, each grid ten times finer than the one
before. -/
def search (i : Interval) : (fuel : Nat) → (place : Int) → Nat × Int
  | 0, place => (i.value / i.unit, place)
  | fuel + 1, place =>
    match i.onGrid? (10 ^ place.toNat) (10 ^ (-place).toNat) with
    | some d => (d, place)
    | none => search i fuel (place - 1)

/-- Moves the zeros at the end of a number into its power of ten. -/
def trimZeros : (fuel : Nat) → Nat × Int → Nat × Int
  | 0, r => r
  | fuel + 1, (d, place) => if d % 10 = 0 then trimZeros fuel (d / 10, place + 1) else (d, place)

/-- Digits `d` and place `p` with `d · 10^p` the shortest decimal of a number that is finite and not
zero. -/
def decimal (x : Binary64) : Nat × Int :=
  let i := interval x
  let first := leadingPlace i 8 (placeBound i)
  trimZeros 20 (search i 20 first)

/-- How a number is written: positional from the first digit's place `least` to `most`, with a point
and a zero after whole numbers, otherwise one digit before the point and a signed exponent. -/
structure Format where
  least : Int
  most : Int

def Format.write (f : Format) (d : Nat) (p : Int) : List Char :=
  let ds := digits d
  let first := p + ds.length - 1
  if first < f.least ∨ f.most < first then
    let rest := ds.drop 1
    let point := if rest.isEmpty then [] else '.' :: rest
    let sign := if first < 0 then '-' else '+'
    ds.take 1 ++ point ++ 'e' :: sign :: digits first.natAbs
  else if 0 ≤ p then
    ds ++ List.replicate p.toNat '0' ++ ['.', '0']
  else if 0 ≤ first then
    ds.take (first.toNat + 1) ++ '.' :: ds.drop (first.toNat + 1)
  else
    '0' :: '.' :: List.replicate (-first - 1).toNat '0' ++ ds

def Format.render (f : Format) (x : Binary64) : List Char :=
  let body :=
    if x.isZero then ['0', '.', '0']
    else
      let (d, p) := decimal x
      f.write d p
  if x.negative then '-' :: body else body

end ClusterSurvey.Shortest

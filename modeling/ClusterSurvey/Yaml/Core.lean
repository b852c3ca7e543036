import ClusterSurvey.Bytes.Hex
import ClusterSurvey.Json.Basic
import ClusterSurvey.Yaml.Encoding
import ClusterSurvey.Yaml.Node

/-!
The JSON value of a YAML document by the core scheme: plain scalars become null, truth values,
numbers or texts, scalars between quotes are texts. The keys of a mapping are the texts of scalars.
-/
namespace ClusterSurvey.Yaml

def coreTag (name : String) : Bytes := Bytes.ofString ("tag:yaml.org,2002:" ++ name)

def boolOf? (s : String) : Option Bool :=
  if s ∈ ["true", "True", "TRUE"] then some true
  else if s ∈ ["false", "False", "FALSE"] then some false
  else none

def isNull (s : String) : Bool := s ∈ ["null", "Null", "NULL", "~"]

def natOf? (base : Nat) (ds : List Char) : Option Nat :=
  if ds.isEmpty then none else Hex.number? base ds

def isZeroLed (cs : List Char) : Bool :=
  let ds := match cs with
    | '-' :: rest => rest
    | '+' :: rest => rest
    | _ => cs
  decide (1 < ds.length) && ds.head? == some '0' && (ds.drop 1).all Char.isDigit

def unsignedOf? (cs : List Char) : Option Nat :=
  match cs with
  | '0' :: 'x' :: rest => natOf? 16 rest
  | '0' :: 'o' :: rest => natOf? 8 rest
  | '0' :: 'b' :: rest => natOf? 2 rest
  | _ => if isZeroLed cs then none else natOf? 10 cs

def intOf? (cs : List Char) : Option Int :=
  match cs with
  | '+' :: rest => (unsignedOf? rest).map Int.ofNat
  | '-' :: rest => (unsignedOf? rest).map fun n => -(n : Int)
  | _ => (unsignedOf? cs).map Int.ofNat

/-- A decimal number without its sign, as digits and an exponent of ten. -/
def decimalOf? (cs : List Char) : Option (Nat × Int) := do
  let whole := cs.takeWhile Char.isDigit
  let rest := cs.drop whole.length
  let (fraction, rest) := match rest with
    | '.' :: rest =>
      let fraction := rest.takeWhile Char.isDigit
      (fraction, rest.drop fraction.length)
    | _ => ([], rest)
  if whole.isEmpty ∧ fraction.isEmpty then none
  let exponent ← match rest with
    | [] => some 0
    | e :: rest =>
      if e ≠ 'e' ∧ e ≠ 'E' then none
      else match rest with
        | '-' :: ds => (natOf? 10 ds).map fun n => -(n : Int)
        | '+' :: ds => (natOf? 10 ds).map Int.ofNat
        | ds => (natOf? 10 ds).map Int.ofNat
  let digits ← natOf? 10 (whole ++ fraction)
  return (digits, exponent - fraction.length)

def nearest (decimal : Nat × Int) (digits : Nat) : Binary64 :=
  if decimal.1 = 0 ∨ decimal.2 < -400 - digits then .ofDecimal 0 0
  else .ofDecimal decimal.1 (min decimal.2 400)

def realOf? (s : String) : Option Json :=
  let cs := s.toList
  let finite := fun (cs : List Char) (negative : Bool) => do
    let d ← decimalOf? cs
    let x := nearest d cs.length
    if x.isFinite then some (.real (if negative then x.neg else x)) else none
  if s ∈ [".inf", ".Inf", ".INF", "+.inf", "+.Inf", "+.INF", "-.inf", "-.Inf", "-.INF", ".nan",
      ".NaN", ".NAN"] then
    some .null
  else match cs with
    | '+' :: rest => finite rest false
    | '-' :: rest => finite rest true
    | _ => finite cs false

/-- A whole number as a value; one that no 64-bit word holds has no value. -/
def wholeValue? (n : Int) : Option Json :=
  if -9223372036854775808 ≤ n ∧ n ≤ 18446744073709551615 then some (.int n) else none

/-- Whether a whole number is looked at as such, which is up to 128 bits. -/
def isWhole (n : Int) : Bool :=
  -170141183460469231731687303715884105728 ≤ n && n < 340282366920938463463374607431768211456

def plainValue? (s : String) : Option Json :=
  if s.isEmpty ∨ isNull s then some .null
  else match boolOf? s with
    | some b => some (.bool b)
    | none =>
      match (intOf? s.toList).filter isWhole with
      | some n => wholeValue? n
      | none =>
        if isZeroLed s.toList then some (.str s)
        else some ((realOf? s).getD (.str s))

/-- The value of a scalar. A tag of the core scheme has to fit the text, a local tag is refused, and
with any other tag a scalar is a text. -/
def scalarValue? (tag : Option Bytes) (plain : Bool) (s : String) : Option Json :=
  match tag with
  | none => if plain then plainValue? s else some (.str s)
  | some t =>
    if t.head? = some 33 then none
    else if t = coreTag "bool" then (boolOf? s).map .bool
    else if t = coreTag "int" then ((intOf? s.toList).filter isWhole).bind wholeValue?
    else if t = coreTag "float" then realOf? s
    else if t = coreTag "null" then (if isNull s then some .null else none)
    else some (.str s)

abbrev Follow (α : Type) : Type := StateT Nat Option α

namespace Document

def maxDepth : Nat := 128

/-- The node itself, or the node that an alias stands for. Aliases may be followed a hundred times
for each part of the document. -/
def follow (d : Document) (node : Node) : Follow Node := do
  match node with
  | .alias number =>
    let jumps := (← get) + 1
    if 100 * d.size < jumps then failure
    set jumps
    match d.target? number with
    | some target => return target
    | none => failure
  | _ => return node

def keyText (d : Document) (node : Node) : Follow String := do
  match ← d.follow node with
  | .scalar _ _ text => return text
  | _ => failure

def isLocal (tag : Option Bytes) : Bool := (tag.bind List.head?) == some 33

def value (d : Document) : (depth : Nat) → Node → Follow Json
  | depth, node => do
    match ← d.follow node, depth with
    | .scalar tag plain text, _ => (scalarValue? tag plain text).elim failure pure
    | .sequence tag items, depth + 1 =>
      if isLocal tag then failure
      return .arr (← items.mapM (value d depth))
    | .mapping tag entries, depth + 1 =>
      if isLocal tag then failure
      let members ← entries.mapM fun e => do return (← d.keyText e.1, ← value d depth e.2)
      return Json.object members
    | _, _ => failure

end Document

def read? (bs : Bytes) : Option Json := do
  let cs ← charsOf? bs
  let tokens ← Token.ofChars? cs
  let d ← Document.ofTokens? tokens
  let (v, _) ← (d.value Document.maxDepth d.root).run 0
  return v

end ClusterSurvey.Yaml

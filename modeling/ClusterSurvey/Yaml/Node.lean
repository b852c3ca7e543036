import ClusterSurvey.Yaml.Token

/-!
The nodes of a YAML document. A stream holds at most one document. An anchor is known by a number,
the count of different names seen before it; a name that is used again can thus share its number
with the next new one, and of nodes with one number the last that begins counts.
-/
namespace ClusterSurvey.Yaml

inductive Node where
  | scalar (tag : Option Bytes) (plain : Bool) (text : String)
  | sequence (tag : Option Bytes) (items : List Node)
  | mapping (tag : Option Bytes) (entries : List (Node × Node))
  | alias (number : Nat)
  deriving Inhabited

/-- A document: its node, the nodes with anchors by number and place, and the count of its scalars,
aliases and ends of collections. -/
structure Document where
  root : Node
  anchored : List (Nat × Nat × Node)
  size : Nat

def Document.target? (d : Document) (number : Nat) : Option Node :=
  (d.anchored.foldl (fun best a =>
    if a.1 ≠ number then best
    else match best with
      | some (place, node) => if place ≤ a.2.1 then some a.2 else some (place, node)
      | none => some a.2) none).map (·.2)

structure Composer where
  tokens : List Token
  directives : List (String × Bytes)
  names : List (String × Nat)
  anchored : List (Nat × Nat × Node)
  size : Nat

abbrev Compose (α : Type) : Type := StateT Composer Option α

namespace Compose

def peek : Compose (Option Token) := return (← get).tokens.head?

def skip : Compose Unit := modify fun s => { s with tokens := s.tokens.drop 1 }

def count : Compose Unit := modify fun s => { s with size := s.size + 1 }

def skipIf (t : Token) : Compose Bool := do
  if (← peek) = some t then
    skip
    return true
  return false

structure Properties where
  anchor : Option String
  tag : Option (String × Bytes)

def anchor? : Compose (Option String) := do
  match ← peek with
  | some (.anchor name) =>
    skip
    return some name
  | _ => return none

def tag? : Compose (Option (String × Bytes)) := do
  match ← peek with
  | some (.tag handle suffix) =>
    skip
    return some (handle, suffix)
  | _ => return none

def properties : Compose Properties := do
  match ← anchor? with
  | some name => return ⟨some name, ← tag?⟩
  | none =>
    let tag ← tag?
    match tag with
    | some _ => return ⟨← anchor?, tag⟩
    | none => return ⟨none, none⟩

def resolve (tag : Option (String × Bytes)) : Compose (Option Bytes) := do
  match tag with
  | none => return none
  | some (handle, suffix) =>
    if handle = "" then return some suffix
    match (← get).directives.lookup handle with
    | some stem => return some (stem ++ suffix)
    | none => failure

/-- The number of the anchor of a node that begins here, with its place. -/
def number (anchor : Option String) : Compose (Option (Nat × Nat)) := do
  match anchor with
  | none => return none
  | some name =>
    let s ← get
    let n := s.names.length
    set { s with names := (name, n) :: s.names.filter (·.1 ≠ name) }
    return some (n, s.size)

def keep (mark : Option (Nat × Nat)) (node : Node) : Compose Node := do
  match mark with
  | some (n, place) => modify fun s => { s with anchored := (n, place, node) :: s.anchored }
  | none => pure ()
  return node

def empty : Compose Node := do
  count
  return .scalar none true ""

def isNext (ts : List Token) : Compose Bool := return (← peek).any ts.contains

def collection {α : Type} (mark : Option (Nat × Nat)) (parts : Compose α) (build : α → Node) :
    Compose Node := do
  count
  let xs ← parts
  count
  keep mark (build xs)

mutual

/-- Reads a node. Blocks are allowed if `block`; where `loose`, the entries of a sequence may stand
without a block of their own. -/
def node (block loose : Bool) : (fuel : Nat) → Compose Node
  | 0 => failure
  | fuel + 1 => do
    match ← peek with
    | some (.alias name) =>
      skip
      count
      match (← get).names.lookup name with
      | some n => return .alias n
      | none => failure
    | _ =>
      let p ← properties
      let tag ← resolve p.tag
      let next ← peek
      if loose && next == some .blockEntry then
        collection (← number p.anchor) (looseItems fuel) (.sequence tag)
      else
        match next with
        | some (.scalar plain text) =>
          skip
          let mark ← number p.anchor
          count
          keep mark (.scalar (if tag = some [33] then none else tag) plain text)
        | some .flowSequence =>
          skip
          collection (← number p.anchor) (flowItems true fuel) (.sequence tag)
        | some .flowMapping =>
          skip
          collection (← number p.anchor) (flowEntries true fuel) (.mapping tag)
        | some .blockSequence =>
          if !block then failure
          skip
          collection (← number p.anchor) (blockItems fuel) (.sequence tag)
        | some .blockMapping =>
          if !block then failure
          skip
          collection (← number p.anchor) (blockEntries fuel) (.mapping tag)
        | _ =>
          if p.anchor.isNone ∧ p.tag.isNone then failure
          let mark ← number p.anchor
          count
          keep mark (.scalar tag true "")

def nodeUnless (ends : List Token) (block loose : Bool) : (fuel : Nat) → Compose Node
  | 0 => failure
  | fuel + 1 => do
    if ← isNext ends then empty else node block loose fuel

def blockItems : (fuel : Nat) → Compose (List Node)
  | 0 => failure
  | fuel + 1 => do
    if ← skipIf .blockEntry then
      let item ← nodeUnless [.blockEntry, .blockEnd] true false fuel
      return item :: (← blockItems fuel)
    else if ← skipIf .blockEnd then return []
    else failure

def looseItems : (fuel : Nat) → Compose (List Node)
  | 0 => failure
  | fuel + 1 => do
    if ← skipIf .blockEntry then
      let item ← nodeUnless [.blockEntry, .key, .value, .blockEnd] true false fuel
      return item :: (← looseItems fuel)
    else return []

def blockEntries : (fuel : Nat) → Compose (List (Node × Node))
  | 0 => failure
  | fuel + 1 => do
    if ← skipIf .key then
      let ends := [Token.key, .value, .blockEnd]
      let key ← nodeUnless ends true true fuel
      let value ← if ← skipIf .value then nodeUnless ends true true fuel else empty
      return (key, value) :: (← blockEntries fuel)
    else if ← skipIf .blockEnd then return []
    else failure

def flowItems (first : Bool) : (fuel : Nat) → Compose (List Node)
  | 0 => failure
  | fuel + 1 => do
    if ← skipIf .flowSequenceEnd then return []
    if !first then
      if !(← skipIf .flowEntry) then failure
      if ← skipIf .flowSequenceEnd then return []
    let item ← if ← skipIf .key then collection none (pair fuel) (.mapping none)
      else node false false fuel
    return item :: (← flowItems false fuel)

/-- Reads the single entry of a mapping without braces. A sign that stands for a key that was left
out is passed. -/
def pair : (fuel : Nat) → Compose (List (Node × Node))
  | 0 => failure
  | fuel + 1 => do
    let ends := [Token.flowEntry, .flowSequenceEnd]
    let missing ← isNext (.value :: ends)
    if missing then skip
    let key ← if missing then empty else node false false fuel
    let value ← if ← skipIf .value then nodeUnless ends false false fuel else empty
    return [(key, value)]

def flowEntries (first : Bool) : (fuel : Nat) → Compose (List (Node × Node))
  | 0 => failure
  | fuel + 1 => do
    if ← skipIf .flowMappingEnd then return []
    if !first then
      if !(← skipIf .flowEntry) then failure
      if ← skipIf .flowMappingEnd then return []
    let ends := [Token.flowEntry, .flowMappingEnd]
    if ← skipIf .key then
      let key ← nodeUnless (.value :: ends) false false fuel
      let value ← if ← skipIf .value then nodeUnless ends false false fuel else empty
      return (key, value) :: (← flowEntries false fuel)
    else
      let key ← node false false fuel
      let value ← empty
      return (key, value) :: (← flowEntries false fuel)

end

/-- Reads directives in front of a document: at most one version, which has to be 1.1 or 1.2, and
stems of tags, each handle once. -/
def directives (versioned : Bool) : (fuel : Nat) → Compose Unit
  | 0 => failure
  | fuel + 1 => do
    match ← peek with
    | some (.version major minor) =>
      if versioned ∨ major ≠ 1 ∨ (minor ≠ 1 ∧ minor ≠ 2) then failure
      skip
      directives true fuel
    | some (.tagDirective handle stem) =>
      if ((← get).directives.lookup handle).isSome then failure
      skip
      modify fun s => { s with directives := (handle, stem) :: s.directives }
      directives versioned fuel
    | _ => return ()

def commonHandles : List (String × Bytes) :=
  [("!", [33]), ("!!", Bytes.ofString "tag:yaml.org,2002:")]

def isOutside : Option Token → Bool
  | some (.version ..) | some (.tagDirective ..) | some .documentStart | some .documentEnd | none =>
      true
  | _ => false

def document (fuel : Nat) : Compose Node := do
  let next ← peek
  if isOutside next ∧ next ≠ some .documentEnd then
    directives false fuel
    if !(← skipIf .documentStart) then failure
    modify fun s => { s with directives := s.directives ++ commonHandles }
    if isOutside (← peek) then empty else node true false fuel
  else
    modify fun s => { s with directives := commonHandles }
    node true false fuel

def skipEnds : (fuel : Nat) → Compose Unit
  | 0 => return ()
  | fuel + 1 => do if ← skipIf .documentEnd then skipEnds fuel

end Compose

def Document.ofTokens? (tokens : List Token) : Option Document := do
  if tokens.isEmpty then
    return ⟨.scalar none true "", [], 1⟩
  let fuel := 4 * tokens.length + 16
  let (root, s) ← (do
    let root ← Compose.document fuel
    Compose.skipEnds fuel
    return root : Compose Node).run ⟨tokens, [], [], [], 0⟩
  if s.tokens ≠ [] then none
  return ⟨root, s.anchored, s.size⟩

end ClusterSurvey.Yaml

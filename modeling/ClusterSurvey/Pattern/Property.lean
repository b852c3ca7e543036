import ClusterSurvey.Pattern.CharSet
import ClusterSurvey.Text.Category
import ClusterSurvey.Text.Script

/-!
Sets of characters by the names of Unicode properties: general categories, scripts and properties of
letters. Case, blanks, hyphens and underscores do not count in a name, and neither does a leading
`is`.
-/
namespace ClusterSurvey.Pattern

/-- A name without what does not count in it. -/
def plainName (name : String) : String :=
  let low := (name.toList.filter fun c => !Text.isBlank c && c ≠ '_' && c ≠ '-').map Char.toLower
  String.ofList (if "is".toList.isPrefixOf low ∧ 2 < low.length then low.drop 2 else low)

def categoryNames : List (String × String) := [
  ("uppercaseletter", "lu"), ("lowercaseletter", "ll"), ("titlecaseletter", "lt"),
  ("modifierletter", "lm"), ("otherletter", "lo"), ("nonspacingmark", "mn"), ("spacingmark", "mc"),
  ("enclosingmark", "me"), ("decimalnumber", "nd"), ("digit", "nd"), ("letternumber", "nl"),
  ("othernumber", "no"), ("connectorpunctuation", "pc"), ("dashpunctuation", "pd"),
  ("openpunctuation", "ps"), ("closepunctuation", "pe"), ("initialpunctuation", "pi"),
  ("finalpunctuation", "pf"), ("otherpunctuation", "po"), ("mathsymbol", "sm"),
  ("currencysymbol", "sc"), ("modifiersymbol", "sk"), ("othersymbol", "so"),
  ("spaceseparator", "zs"), ("lineseparator", "zl"), ("paragraphseparator", "zp"),
  ("control", "cc"), ("cntrl", "cc"), ("format", "cf"), ("privateuse", "co"), ("unassigned", "cn"),
  ("letter", "l"), ("casedletter", "lc"), ("mark", "m"), ("combiningmark", "m"), ("number", "n"),
  ("punctuation", "p"), ("punct", "p"), ("symbol", "s"), ("separator", "z"), ("other", "c")]

/-- The categories that a name stands for: one of them, or all with a first letter. -/
def categoryGroups : List (String × List String) := [
  ("l", ["lu", "ll", "lt", "lm", "lo"]), ("lc", ["lu", "ll", "lt"]), ("m", ["mn", "mc", "me"]),
  ("n", ["nd", "nl", "no"]), ("p", ["pc", "pd", "ps", "pe", "pi", "pf", "po"]),
  ("s", ["sm", "sc", "sk", "so"]), ("z", ["zs", "zl", "zp"])]

def ofCategories (names : List String) : CharSet :=
  names.foldr (fun n s =>
    match Text.categories.lookup n with
    | some ends => .union (.table ends) s
    | none => s) .none

def assigned : CharSet := ofCategories (Text.categories.map (·.1))

def category? (name : String) : Option CharSet :=
  let short := (categoryNames.lookup name).getD name
  if short = "cn" then some assigned.complement
  else if short = "c" then some (.union (ofCategories ["cc", "cf", "co"]) assigned.complement)
  else
    match Text.categories.lookup short, categoryGroups.lookup short with
    | some ends, _ => some (.table ends)
    | none, some names => some (ofCategories names)
    | none, none => none

def binary? (name : String) : Option CharSet :=
  if name = "any" then some (.ranges [(0, 0x10FFFF)])
  else if name = "ascii" then some (.ranges [(0, 127)])
  else if name = "assigned" then some assigned
  else if name = "alphabetic" ∨ name = "alpha" then some (.table Text.alphabeticTable)
  else if name = "uppercase" ∨ name = "upper" then some (.table Text.uppercaseTable)
  else if name = "lowercase" ∨ name = "lower" then some (.table Text.lowercaseTable)
  else if name = "whitespace" ∨ name = "wspace" ∨ name = "space" then some .blank
  else none

def script? (name : String) : Option CharSet := (Text.scripts.lookup name).map .table

def valued? (property value : String) : Option CharSet :=
  let property := plainName property
  let value := plainName value
  if property = "gc" ∨ property = "generalcategory" ∨ property = "category" then
    (category? value).or (binary? value)
  else if property = "sc" ∨ property = "script" ∨ property = "scx" ∨
      property = "scriptextensions" then
    script? value
  else none

def splitAt? (sign : List Char) : (before : List Char) → List Char → Option (String × String)
  | _, [] => none
  | before, c :: cs =>
    if sign.isPrefixOf (c :: cs) then
      some (String.ofList before.reverse, String.ofList ((c :: cs).drop sign.length))
    else splitAt? sign (c :: before) cs

def property? (written : String) : Option CharSet :=
  let cs := written.toList
  match splitAt? ['!', '='] [] cs with
  | some (p, v) => (valued? p v).map .complement
  | none =>
    match (splitAt? [':'] [] cs).or (splitAt? ['='] [] cs) with
    | some (p, v) => valued? p v
    | none =>
      let name := plainName written
      ((binary? name).or (category? name)).or (script? name)

end ClusterSurvey.Pattern

import ClusterSurvey.Json.Path
import ClusterSurvey.Text.Split

/-!
Masks for sensitive texts. A plain mask keeps the length in bytes only; a mask for addresses keeps
the marks that structure a host name or an address and the number of characters between them.
-/
namespace ClusterSurvey.Redaction

def maskText (s : String) : String := String.ofList (List.replicate s.utf8ByteSize 'x')

def isAddressMark (c : Char) : Bool := c = '.' || c = '-' || c = '/' || c = ':'

/-- Writes `x` for every character but the marks of an address. -/
def maskAddress (s : String) : String :=
  String.ofList (s.toList.map fun c => if isAddressMark c then c else 'x')

def maskAddressList (s : String) : String :=
  String.ofList (s.toList.map fun c => if isAddressMark c || c = ',' then c else 'x')

def maskField (path : List String) (tree : Json) : Except GatherError Json :=
  tree.replaceString path maskText

def productMarks : List String := ["openshift.io/", "k8s.io/", "kubernetes.io/"]

def isProductKey (key : String) : Bool :=
  productMarks.any fun m => Text.occursIn m.toList key.toList

/-- Whether an environment variable holds the address of a proxy. -/
def isProxyVariable (name : String) : Bool :=
  Text.occursIn "HTTP_PROXY".toList name.toList || Text.occursIn "HTTPS_PROXY".toList name.toList

def redactVariable (entry : Json) : Json :=
  match (entry.get? "name").bind Json.asString? with
  | some name =>
      if isProxyVariable name then entry.replaceStringIfPresent ["value"] maskText else entry
  | none => entry

def redactEnvironment (container : Json) : Json :=
  container.modifyAt ["env"] (Json.mapItems redactVariable)

end ClusterSurvey.Redaction

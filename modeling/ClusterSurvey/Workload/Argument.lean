import ClusterSurvey.Bytes.Base64
import ClusterSurvey.Digest.Sha2
import ClusterSurvey.Json.Basic
import ClusterSurvey.Text.Blank

/-!
Commands and arguments, reduced to the program and hashed, so that a fingerprint tells which are
equal and nothing else.
-/
namespace ClusterSurvey.Workload

def hashLength : Nat := 12

def hash (s : String) : String :=
  String.ofList ((Base64.encodeUrl (Digest.Sha256.hash (Bytes.ofString s))).toList.take hashLength)

def isSlash (c : Char) : Bool := c = '/' || c = '\\'

def trimSlashes (cs : List Char) : List Char :=
  ((cs.dropWhile isSlash).reverse.dropWhile isSlash).reverse

def behindLast (sep : Char) (cs : List Char) : List Char := (cs.reverse.takeWhile (· ≠ sep)).reverse

/-- The last part of a path, whose parts stand between slashes or, if there is none, between
backslashes. -/
def lastPart (cs : List Char) : List Char :=
  if cs.contains '/' then behindLast '/' cs else behindLast '\\' cs

/-- A word without the value of a flag; a flag without a value leaves nothing. -/
def dropValue (word : List Char) : List Char :=
  match word with
  | '-' :: _ => if word.contains '=' then word.takeWhile (· ≠ '=') else []
  | _ => word

/-- The part of a command or an argument that tells the program: the first word, without the value
of a flag and without directories. -/
def argumentChars (cs : List Char) : List Char :=
  lastPart (trimSlashes (dropValue ((Text.trim cs).takeWhile (· ≠ ' '))))

def argument (s : String) : String := String.ofList (argumentChars s.toList)

def hashedFirst (values : List Json) : String :=
  match values.head?.bind Json.asString? with
  | some first => hash (argument first)
  | none => ""

end ClusterSurvey.Workload

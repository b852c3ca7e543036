import ClusterSurvey.Error
import ClusterSurvey.Log.Lines
import ClusterSurvey.Pattern.Meaning
import ClusterSurvey.Text.Case
import ClusterSurvey.Text.Split

/-!
Filters for the lines of logs. A filter keeps the lines that contain one of its texts in any case,
or the lines that one of its patterns matches; without texts it keeps every line.
-/
namespace ClusterSurvey.Log

/-- Which lines are kept, and how much of a log is asked for. -/
structure Filter where
  messages : List String
  /-- Whether the messages are patterns. -/
  isRegex : Bool
  sinceSeconds : Int
  limitBytes : Int
  tailLines : Int
  previous : Bool
  deriving DecidableEq, Repr

namespace Filter

def substrings (messages : List String) : Filter := ⟨messages, false, 0, 0, 0, false⟩

def regex (patterns : List String) : Filter := ⟨patterns, true, 0, 0, 0, false⟩

def options (f : Filter) (container : String) : LogOptions :=
  ⟨container, f.sinceSeconds, f.limitBytes, f.tailLines, f.previous⟩

end Filter

inductive Matcher where
  | all
  | substrings (needles : List (List Char))
  | pattern (p : Pattern)

def Matcher.keeps (m : Matcher) (line : String) : Bool :=
  match m with
  | all => true
  | substrings needles =>
    let line := Text.lower line.toList
    needles.any fun needle => Text.occursIn needle line
  | pattern p => p.isMatch line

/-- The test of a filter. Patterns are joined as alternatives of one pattern. -/
def Filter.matcher (f : Filter) : Except GatherError Matcher :=
  if f.messages.isEmpty then .ok .all
  else if f.isRegex then
    match Pattern.ofString? ("|".intercalate f.messages) with
    | some p => .ok (.pattern p)
    | none => .error (.invalidFilter "no pattern")
  else .ok (.substrings (f.messages.map fun m => Text.lower m.toList))

/-- Reads a stream to its end and keeps the lines that pass; `kept` are those that were read before,
last first. -/
def keepLines (m : Matcher) (kept : List String) (s : Inflow) : List String :=
  match _h : s.readLine with
  | ([], _) => kept.reverse
  | (b :: line, rest) =>
    let text := lineText (b :: line)
    keepLines m (if m.keeps text then text :: kept else kept) rest
termination_by s.content.length
decreasing_by exact Inflow.length_readLine _h

/-- The kept lines of a stream, joined by newlines after `arrange` was applied to them. -/
def filterLog (stream : ByteStream) (f : Filter) (arrange : List String → List String)
    (cancelled : Bool) :
    Except GatherError String := do
  let matcher ← f.matcher
  if cancelled then throw .cancelled
  match stream.failure with
  | some text => throw (.io text)
  | none => return "\n".intercalate (arrange (keepLines matcher [] (.of stream.chunks)))

end ClusterSurvey.Log

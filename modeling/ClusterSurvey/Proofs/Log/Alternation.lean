import ClusterSurvey.Proofs.Log.Filtering
import ClusterSurvey.Proofs.Pattern.Alternation

/-!
Filters with several patterns against filters with one pattern each. The patterns are joined by bars
without being put in groups, so a pattern reaches into the next one if it leaves flags changed or a
group or a set open. Where no pattern in front of the last one does, the filter asks for the lines
that one of the patterns by itself asks for, and it is refused if one of them is no pattern.
-/
namespace ClusterSurvey.Log

namespace Filter

instance (f : Filter) : Decidable f.Valid :=
  inferInstanceAs (Decidable (f.messages ≠ [] → f.isRegex = true → f.pattern?.isSome = true))

theorem valid_regex_iff {patterns : List String} (some : patterns ≠ []) :
    (regex patterns).Valid ↔ (regex patterns).pattern?.isSome :=
  ⟨fun valid => valid some rfl, fun made _ _ => made⟩

theorem pattern?_singleton (p : String) : (regex [p]).pattern? = Pattern.ofString? p := by
  rw [pattern?]
  congr 1

theorem valid_singleton_iff (p : String) : (regex [p]).Valid ↔ (Pattern.ofString? p).isSome := by
  rw [valid_regex_iff (List.cons_ne_nil p []), pattern?_singleton]

theorem keeps_regex_iff {patterns : List String} (some : patterns ≠ []) (line : String) :
    (regex patterns).Keeps line ↔ ∃ p ∈ (regex patterns).pattern?, p.isMatch line = true := by
  simp [Keeps, regex, some]

theorem filterLog_of_not_valid {f : Filter} (refused : ¬ f.Valid) (stream : ByteStream)
    (arrange : List String → List String) (cancelled : Bool) :
    filterLog stream f arrange cancelled = .error (.invalidFilter "no pattern") := by
  obtain ⟨some, regex, none⟩ : f.messages ≠ [] ∧ f.isRegex = true ∧ f.pattern? = none := by
    simpa [Valid, Classical.not_imp] using refused
  have error : f.matcher = .error (.invalidFilter "no pattern") := by
    rw [pattern?] at none
    simp [matcher, some, regex, none]
  rw [filterLog, error]
  rfl

end Filter

section Joined

variable {front : List String} {last : String}

theorem keeps_joined {m : Pattern} (known : (Filter.regex (front ++ [last])).pattern? = some m)
    (joined : Pattern.Joined front last m) (line : String) :
    (Filter.regex (front ++ [last])).Keeps line ↔ ∃ p ∈ front ++ [last],
    (Filter.regex [p]).Keeps line := by
  have single : ∀ p, (Filter.regex [p]).Keeps line ↔
      ((Pattern.ofString? p).any fun q => q.occursIn line.toList) = true := fun p => by
    rw [Filter.keeps_regex_iff (List.cons_ne_nil p []), Filter.pattern?_singleton]
    cases Pattern.ofString? p <;> simp [Pattern.isMatch]
  have whole : (Filter.regex (front ++ [last])).Keeps line ↔ m.occursIn line.toList = true := by
    rw [Filter.keeps_regex_iff (by simp), known]
    simp [Pattern.isMatch]
  rw [whole, joined.matching, List.any_eq_true]
  simp only [single]

/-- Patterns that do not reach into the ones behind them are alternatives. The filter is refused if
one of them is no pattern by itself or two of them give the same name to groups. It is accepted if
each of them is a pattern, no two share a name and all together are not too large. An accepted
filter keeps the lines that one of the patterns by itself keeps. -/
theorem regex_logs (front : List String) (last : String) (closed : ∀ p ∈ front, Pattern.Closed p) :
    ((∃ p ∈ front ++ [last], ¬ (Filter.regex [p]).Valid) ∨ ¬ Pattern.NamedApart (front ++ [last]) →
      ∀ stream arrange cancelled, filterLog stream (.regex (front ++ [last])) arrange cancelled =
        .error (.invalidFilter "no pattern")) ∧
    ((∀ p ∈ front ++ [last], (Filter.regex [p]).Valid) → Pattern.NamedApart (front ++ [last]) →
      Pattern.Fit (front ++ [last]) → (Filter.regex (front ++ [last])).Valid) ∧
    ((Filter.regex (front ++ [last])).Valid → ∀ pieces arrange,
      filterLog ⟨pieces, none⟩ (.regex (front ++ [last])) arrange false =
        .ok ("\n".intercalate (arrange (((partsOf pieces.flatten).map partText).filter fun line =>
          ∃ p ∈ front ++ [last], (Filter.regex [p]).Keeps line)))) := by
  have some : front ++ [last] ≠ [] := by simp
  refine ⟨fun wrong => Filter.filterLog_of_not_valid fun valid => ?_, fun valid apart fit => ?_,
    fun valid pieces arrange => ?_⟩
  · obtain ⟨m, known⟩ := Option.isSome_iff_exists.mp ((Filter.valid_regex_iff some).mp valid)
    have joined := Pattern.joined_of_ofString? closed known
    rcases wrong with ⟨p, member, refused⟩ | shared
    · exact refused ((Filter.valid_singleton_iff p).mpr (joined.valid p member))
    · exact shared joined.apart
  · exact (Filter.valid_regex_iff some).mpr (Pattern.isSome_joined closed
      (fun p member => (Filter.valid_singleton_iff p).mp (valid p member)) apart fit)
  · obtain ⟨m, known⟩ := Option.isSome_iff_exists.mp ((Filter.valid_regex_iff some).mp valid)
    have joined := Pattern.joined_of_ofString? closed known
    rw [filterLog_pieces valid, Filter.reference]
    simp only [keeps_joined known joined]

theorem twoPatterns_kept :
    Pattern.Closed "(?i:a)" ∧ Pattern.Closed "*a" ∧
      filterLog ⟨[[65, 10, 66, 10, 98, 99]], none⟩ (.regex ["(?i:a)", "b"]) id false = .ok "A\nbc" ∧
      filterLog ⟨[[97]], none⟩ (.regex ["*a", "a"]) id false =
        .error (.invalidFilter "no pattern") := by
  have whole : Pattern.Closed "(?i:a)" := Or.inl (by decide +kernel)
  have hopeless : Pattern.Closed "*a" := Or.inr fun t => rfl
  have logs := regex_logs ["(?i:a)"] "b" (by simpa using whole)
  have refused := regex_logs ["*a"] "a" (by simpa using hopeless)
  have valid : (Filter.regex (["(?i:a)"] ++ ["b"])).Valid :=
    logs.2.1 (by decide +kernel) (by decide +kernel) (by decide +kernel)
  have told : ((partsOf [65, 10, 66, 10, 98, 99]).map partText).filter (fun line =>
      ∃ p ∈ ["(?i:a)"] ++ ["b"], (Filter.regex [p]).Keeps line) = ["A", "bc"] := by decide +kernel
  refine ⟨whole, hopeless, ?_, refused.1 (Or.inl ⟨"*a", by simp, by decide +kernel⟩) _ _ _⟩
  have kept := logs.2.2 valid [[65, 10, 66, 10, 98, 99]] id
  rw [List.flatten_singleton, told] at kept
  exact kept

/-- A flag that is left on reaches into the next pattern, and a group that is left open is closed by
it. -/
theorem joinedPatterns_reach :
    (∀ p ∈ ["(?i)a", "b"], (Filter.regex [p]).Valid) ∧
    (∀ p ∈ ["(?i)a", "b"], ¬ (Filter.regex [p]).Keeps "B") ∧
      filterLog ⟨[[66, 10]], none⟩ (.regex ["(?i)a", "b"]) id false = .ok "B" ∧
      ¬ (Filter.regex ["(a"]).Valid ∧
        filterLog ⟨[[97, 10]], none⟩ (.regex ["(a", "b)"]) id false = .ok "a" := by
  have valid : (Filter.regex ["(?i)a", "b"]).Valid := by decide +kernel
  have valid' : (Filter.regex ["(a", "b)"]).Valid := by decide +kernel
  have told : (Filter.regex ["(?i)a", "b"]).reference id [66, 10] = "B" := by decide +kernel
  have told' : (Filter.regex ["(a", "b)"]).reference id [97, 10] = "a" := by decide +kernel
  refine ⟨by decide +kernel, by decide +kernel, ?_, by decide +kernel, ?_⟩
  · rw [← told]
    exact filterLog_pieces valid id _
  · rw [← told']
    exact filterLog_pieces valid' id _

end Joined

end ClusterSurvey.Log

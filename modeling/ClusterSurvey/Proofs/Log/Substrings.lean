import ClusterSurvey.Proofs.Log.Filtering
import ClusterSurvey.Proofs.Text.Lower

/-!
Filters for texts. A message and a line are brought to lower case each on its own, so what counts is
whether the lower case of the message is found in that of each line around it. It is for the
messages that decide on their sigmas, and only for those.
-/
namespace ClusterSurvey.Log

open Text (SameLetters settled)

/-- A line that has a message in it, or has it after a change of the case of ASCII letters in
either. -/
def HasInAnyCase (message line : String) : Prop :=
  ∃ m l, SameLetters message.toList m ∧ SameLetters line.toList l ∧ m <:+: l

theorem HasInAnyCase.exists_infix {message line : String} (has : HasInAnyCase message line) :
    ∃ l, SameLetters line.toList l ∧ message.toList <:+: l := by
  obtain ⟨_, _, same, same', part⟩ := has
  exact same.exists_infix same' part

theorem HasInAnyCase.of_infix {message line : String} (part : message.toList <:+: line.toList) :
    HasInAnyCase message line :=
  ⟨_, _, rfl, rfl, part⟩

theorem keeps_of_settled {messages : List String} {m line : String} (member : m ∈ messages)
    (decided : settled m.toList = true) (has : HasInAnyCase m line) :
    (Filter.substrings messages).Keeps line := by
  obtain ⟨l, same, part⟩ := has.exists_infix
  have found := Text.lower_infix_of_settled decided part
  rw [← same.lower_eq] at found
  exact Or.inr ⟨m, member, found⟩

theorem lower_infix_of_keeps {m line : String} (kept : (Filter.substrings [m]).Keeps line) :
    Text.lower m.toList <:+: Text.lower line.toList := by
  rcases kept with none | ⟨_, member, found⟩
  · exact absurd none (List.cons_ne_nil _ _)
  · rwa [List.mem_singleton.mp member] at found

/-- The filtered log has the lines that the filter keeps. Among them are all that have a message
which decides on its sigmas, as each message without a sigma does. A message that does not is missed
in some line that it stands in. -/
theorem settled_messages_kept (messages : List String) (arrange : List String → List String)
    (pieces : List Bytes) :
    filterLog ⟨pieces, none⟩ (.substrings messages) arrange false =
        .ok ((Filter.substrings messages).reference arrange pieces.flatten) ∧
      (∀ m ∈ messages, settled m.toList = true →
        ∀ line, HasInAnyCase m line → (Filter.substrings messages).Keeps line) ∧
      (∀ m : String, settled m.toList = true ↔ ∀ line, HasInAnyCase m line →
        (Filter.substrings [m]).Keeps line) ∧
      ∀ m : String, Text.capitalSigma ∉ m.toList → settled m.toList = true := by
  refine ⟨filterLog_pieces (fun _ regex => absurd regex Bool.false_ne_true) arrange pieces,
    fun m member decided line => keeps_of_settled member decided,
    fun m => ⟨fun decided line => ?_, fun always => ?_⟩, fun m => Text.settled_of_no_sigma⟩
  · exact keeps_of_settled (List.mem_singleton_self m) decided
  · rw [Text.settled_iff]
    intro line part
    have told : (String.ofList line).toList = line := String.toList_ofList
    rw [← told] at part ⊢
    exact lower_infix_of_keeps (always _ (HasInAnyCase.of_infix part))

/-- A word that ends with a sigma is not found in front of a letter, though it stands there as it
is. -/
theorem unfinishedWord_dropped :
    HasInAnyCase "ΑΣ" "ΑΣΑ" ∧ ¬ (Filter.substrings ["ΑΣ"]).Keeps "ΑΣΑ" ∧
      filterLog ⟨[Bytes.ofString "ΑΣΑ"], none⟩ (.substrings ["ΑΣ"]) id false = .ok "" := by
  have part : "ΑΣ".toList <:+: "ΑΣΑ".toList := by decide
  have dropped : ¬ (Filter.substrings ["ΑΣ"]).Keeps "ΑΣΑ" := by decide +kernel
  have nothing : (Filter.substrings ["ΑΣ"]).reference id [Bytes.ofString "ΑΣΑ"].flatten =
      "" := by decide +kernel
  refine ⟨HasInAnyCase.of_infix part, dropped, ?_⟩
  rw [filterLog_pieces (fun _ regex => absurd regex Bool.false_ne_true), nothing]

end ClusterSurvey.Log

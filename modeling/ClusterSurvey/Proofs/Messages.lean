import ClusterSurvey.Error
import Mathlib.Data.List.Nodup

/-!
Messages without repetition. What is left of a list of messages is that list without its later
duplicates, so each message is there once and stands where it came first.
-/
namespace ClusterSurvey

theorem uniqueFrom_eq (seen messages : List String) :
    uniqueFrom seen messages = (messages.filter fun m => m ∉ seen).eraseDups := by
  induction messages generalizing seen with
  | nil => rfl
  | cons m rest ih =>
    simp only [uniqueFrom]
    by_cases known : m ∈ seen
    · rw [if_pos known, ih, List.filter_cons_of_neg (by simpa using known)]
    · rw [if_neg known, ih, List.filter_cons_of_pos (by simpa using known), List.eraseDups_cons,
        List.filter_filter]
      -- A message that is new now and is not this one is new to both.
      have both : ∀ n, decide (n ∉ m :: seen) = (!n == m && decide (n ∉ seen)) := by
        intro n
        by_cases same : n = m <;> simp [same]
      simp only [both]

theorem uniqueMessages_eq_eraseDups (messages : List String) :
    uniqueMessages messages = messages.eraseDups := by
  simp [uniqueMessages, uniqueFrom_eq]

theorem mem_uniqueMessages {m : String} {messages : List String} :
    m ∈ uniqueMessages messages ↔ m ∈ messages := by
  rw [uniqueMessages_eq_eraseDups, List.mem_eraseDups]

theorem uniqueFrom_nodup (seen messages : List String) : (uniqueFrom seen messages).Nodup := by
  induction messages generalizing seen with
  | nil => exact List.nodup_nil
  | cons m rest ih =>
    simp only [uniqueFrom]
    split
    · exact ih seen
    · refine List.nodup_cons.mpr ⟨?_, ih (m :: seen)⟩
      rw [uniqueFrom_eq, List.mem_eraseDups, List.mem_filter]
      simp

theorem eraseDups_nodup (messages : List String) : messages.eraseDups.Nodup := by
  rw [← uniqueMessages_eq_eraseDups]
  exact uniqueFrom_nodup [] messages

theorem eraseDups_concat (messages : List String) (m : String) :
    (messages ++ [m]).eraseDups = if m ∈ messages then messages.eraseDups
      else messages.eraseDups ++ [m] := by
  rw [List.eraseDups_append]
  split
  · rename_i known
    have none : [m].removeAll messages = [] := by simpa [List.removeAll] using known
    rw [none, List.eraseDups_nil, List.append_nil]
  · rename_i fresh
    have one : [m].removeAll messages = [m] := by simpa [List.removeAll] using fresh
    rw [one]
    rfl

theorem count_uniqueMessages {m : String} {messages : List String} (member : m ∈ messages) :
    (uniqueMessages messages).count m = 1 :=
  List.count_eq_one_of_mem (uniqueFrom_nodup [] messages) (mem_uniqueMessages.mpr member)

theorem uniqueFrom_append_uniqueFrom (seen first second : List String) :
    uniqueFrom seen (uniqueFrom seen first ++ second) = uniqueFrom seen (first ++ second) := by
  induction first generalizing seen with
  | nil => rfl
  | cons m rest ih =>
    by_cases known : m ∈ seen
    · simp only [uniqueFrom, List.cons_append, if_pos known]
      exact ih seen
    · simp only [uniqueFrom, List.cons_append, if_neg known]
      exact congrArg (m :: ·) (ih (m :: seen))

theorem uniqueMessages_append (first second : List String) :
    uniqueMessages (uniqueMessages first ++ second) = uniqueMessages (first ++ second) :=
  uniqueFrom_append_uniqueFrom [] first second

theorem uniqueMessages_eq_nil {messages : List String} :
    uniqueMessages messages = [] ↔ messages = [] := by
  cases messages with
  | nil => simp [uniqueMessages, uniqueFrom]
  | cons m rest => simp [uniqueMessages, uniqueFrom]

end ClusterSurvey

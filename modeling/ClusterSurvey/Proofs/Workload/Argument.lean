import ClusterSurvey.Proofs.Text.Trim
import ClusterSurvey.Workload.Argument
import Mathlib.Logic.ExistsUnique

/-!
What the program of a command or an argument tells. It is a part of the text between spaces and
slashes; the value of a flag has no part in it, and neither has anything behind the first word.
-/
namespace ClusterSurvey.Workload

/-- The first word of a text: all of it up to the first space, white space at its ends left out. -/
def FirstWord (s word : String) : Prop :=
  ' ' ∉ word.toList ∧ (Text.trimmed s = word ∨ ∃ rest, Text.trimmed s = word ++ " " ++ rest)

/-! Each step takes a part out of the text. -/

theorem behindLast_isSuffix (sep : Char) (cs : List Char) : behindLast sep cs <:+ cs :=
  List.rtakeWhile_suffix _ cs

theorem not_mem_behindLast (sep : Char) (cs : List Char) : sep ∉ behindLast sep cs :=
  fun member => by
  simpa using List.mem_rtakeWhile_imp member

theorem lastPart_isSuffix (cs : List Char) : lastPart cs <:+ cs := by
  unfold lastPart
  split <;> exact behindLast_isSuffix _ cs

theorem slash_not_mem_lastPart (cs : List Char) : '/' ∉ lastPart cs := by
  unfold lastPart
  split
  · exact not_mem_behindLast '/' cs
  · rename_i absent
    exact fun member => absent
      (List.contains_iff_mem.mpr ((behindLast_isSuffix _ cs).subset member))

theorem trimSlashes_isInfix (cs : List Char) : trimSlashes cs <:+: cs :=
  (List.rdropWhile_prefix isSlash _).isInfix.trans (List.dropWhile_suffix isSlash).isInfix

theorem dropValue_isPrefix (word : List Char) : dropValue word <+: word := by
  unfold dropValue
  split
  · split
    · exact List.takeWhile_prefix _
    · exact List.nil_prefix
  · exact List.prefix_rfl

def program (word : List Char) : List Char := lastPart (trimSlashes (dropValue word))

theorem program_isInfix (word : List Char) : program word <:+: word :=
  (lastPart_isSuffix _).isInfix.trans
    ((trimSlashes_isInfix _).trans (dropValue_isPrefix word).isInfix)

/-! The first word decides. -/

theorem toList_argument (s : String) :
    (argument s).toList = program ((Text.trim s.toList).takeWhile (· ≠ ' ')) := String.toList_ofList

theorem takeWhile_of_firstWord {s word : String} (first : FirstWord s word) :
    (Text.trim s.toList).takeWhile (· ≠ ' ') = word.toList := by
  obtain ⟨single, whole⟩ := first
  have trimmed : (Text.trimmed s).toList = Text.trim s.toList := String.toList_ofList
  rcases whole with all | ⟨rest, front⟩
  · rw [← trimmed, all, List.takeWhile_eq_self_iff]
    exact Text.forall_ne_of_not_mem single
  · rw [← trimmed, front, String.toList_append, String.toList_append, List.append_assoc]
    exact Text.takeWhile_ne_append single rest.toList

theorem space_not_mem_takeWhile (cs : List Char) : ' ' ∉ cs.takeWhile (· ≠ ' ') := fun member => by
  simpa using List.mem_takeWhile_imp member

theorem firstWord_takeWhile (s : String) :
    FirstWord s (String.ofList ((Text.trim s.toList).takeWhile (· ≠ ' '))) := by
  have whole : (Text.trimmed s).toList = (Text.trim s.toList).takeWhile (· ≠ ' ') ++
      (Text.trim s.toList).dropWhile (· ≠ ' ') := by
    rw [List.takeWhile_append_dropWhile]
    exact String.toList_ofList
  refine ⟨by rw [String.toList_ofList]; exact space_not_mem_takeWhile _, ?_⟩
  cases rest : (Text.trim s.toList).dropWhile (· ≠ ' ') with
  | nil =>
    refine Or.inl (String.toList_inj.mp ?_)
    rw [whole, rest, List.append_nil, String.toList_ofList]
  | cons c back =>
    have space := List.head?_dropWhile_not (· ≠ ' ') (Text.trim s.toList)
    rw [rest] at space
    have sign : c = ' ' := by simpa using space
    refine Or.inr ⟨String.ofList back, String.toList_inj.mp ?_⟩
    rw [whole, rest, sign]
    simp

theorem existsUnique_firstWord (s : String) : ∃! word, FirstWord s word :=
  ⟨_, firstWord_takeWhile s,
    fun word first => by rw [takeWhile_of_firstWord first, String.ofList_toList]⟩

theorem argument_of_firstWord {s word : String} (first : FirstWord s word) :
    argument s = String.ofList (program word.toList) := by
  rw [← String.toList_inj, toList_argument, takeWhile_of_firstWord first, String.toList_ofList]

/-! Flags. -/

theorem firstWord_flag {flag : List Char} (dash : flag.head? = some '-') (single : ' ' ∉ flag)
    (value : List Char) :
    (Text.trim (flag ++ '=' :: value)).takeWhile (· ≠ ' ') =
      flag ++ '=' :: (Text.trimEnd value).takeWhile (· ≠ ' ') := by
  -- The flag begins with a dash and the sign behind it is no white space, so trimming reaches into
  -- the value only.
  have kept : (flag ++ '=' :: value).dropWhile Text.isBlank = flag ++ '=' :: value := by
    obtain ⟨tail, rfl⟩ := List.head?_eq_some_iff.mp dash
    exact List.dropWhile_cons_of_neg (by decide)
  rw [Text.trim, kept, Text.trimEnd_append_cons (by decide),
    List.takeWhile_append_of_pos (Text.forall_ne_of_not_mem single),
    List.takeWhile_cons_of_pos (by decide)]

theorem program_flag {flag : List Char} (dash : flag.head? = some '-') (plain : '=' ∉ flag)
    (rest : List Char) :
    program (flag ++ '=' :: rest) = lastPart (trimSlashes flag) := by
  have front := Text.takeWhile_ne_append plain rest
  obtain ⟨tail, rfl⟩ := List.head?_eq_some_iff.mp dash
  rw [program, List.cons_append, dropValue, ← List.cons_append, if_pos (by simp), front]

theorem argument_flag {flag : String} (dash : flag.toList.head? = some '-')
    (single : ' ' ∉ flag.toList) (plain : '=' ∉ flag.toList) (value : String) :
    argument (flag ++ "=" ++ value) = String.ofList (lastPart (trimSlashes flag.toList)) := by
  have parts : (flag ++ "=" ++ value).toList = flag.toList ++ '=' :: value.toList := by simp
  rw [← String.toList_inj, toList_argument, parts, firstWord_flag dash single,
    program_flag dash plain, String.toList_ofList]

theorem program_bareFlag {word : List Char} (dash : word.head? = some '-') (plain : '=' ∉ word) :
    program word = [] := by
  obtain ⟨tail, rfl⟩ := List.head?_eq_some_iff.mp dash
  rw [program, dropValue, if_neg (by simpa using plain)]
  rfl

/-- The program is a part of the text without spaces and slashes. The value of a flag has no part in
it, a flag without a value has none, and of any other text only the first word counts. -/
theorem argument_reveals_program :
    (∀ s, (argument s).toList <:+: s.toList ∧ ' ' ∉ (argument s).toList ∧
      '/' ∉ (argument s).toList) ∧
    (∀ flag : String, flag.toList.head? = some '-' → ' ' ∉ flag.toList → '=' ∉ flag.toList →
      ∀ v w, argument (flag ++ "=" ++ v) = argument (flag ++ "=" ++ w)) ∧
    (∀ s, ∃! word, FirstWord s word) ∧
    (∀ s word, FirstWord s word → word.toList.head? = some '-' → '=' ∉ word.toList →
      argument s = "") ∧
    (∀ s t word, FirstWord s word → FirstWord t word → argument s = argument t) := by
  refine ⟨fun s => ?_, fun flag dash single plain v w => ?_, existsUnique_firstWord,
    fun s word first dash plain => ?_,
    fun s t word first first' => ?_⟩
  · have part := program_isInfix ((Text.trim s.toList).takeWhile (· ≠ ' '))
    rw [toList_argument]
    exact ⟨part.trans ((List.takeWhile_prefix _).isInfix.trans (Text.trim_isInfix _)),
      fun member => space_not_mem_takeWhile _ (part.subset member), slash_not_mem_lastPart _⟩
  · rw [argument_flag dash single plain, argument_flag dash single plain]
  · rw [argument_of_firstWord first, program_bareFlag dash plain, String.ofList_nil]
  · rw [argument_of_firstWord first, argument_of_firstWord first']

theorem shells_revealed :
    FirstWord " /bin/sh -c 'exec a/b'" "/bin/sh" ∧ FirstWord "\t/bin/sh rm -rf /" "/bin/sh" ∧
      argument " /bin/sh -c 'exec a/b'" = argument "\t/bin/sh rm -rf /" ∧
        argument "\t/bin/sh rm -rf /" = "sh" ∧
      argument "--config=/etc/a.yaml" = argument "--config=a b=\\c/" ∧
      FirstWord "--token secret=1" "--token" ∧ argument "--token secret=1" = "" := by
  obtain ⟨-, values, -, bare, words⟩ := argument_reveals_program
  have first : FirstWord " /bin/sh -c 'exec a/b'" "/bin/sh" :=
    ⟨by decide +kernel, Or.inr ⟨"-c 'exec a/b'", by decide +kernel⟩⟩
  have second : FirstWord "\t/bin/sh rm -rf /" "/bin/sh" :=
    ⟨by decide +kernel, Or.inr ⟨"rm -rf /", by decide +kernel⟩⟩
  have token : FirstWord "--token secret=1" "--token" :=
    ⟨by decide +kernel, Or.inr ⟨"secret=1", by decide +kernel⟩⟩
  exact ⟨first, second, words _ _ _ first second, by decide +kernel,
    values "--config" (by decide) (by decide) (by decide) "/etc/a.yaml" "a b=\\c/",
    token, bare _ _ token (by decide) (by decide)⟩

end ClusterSurvey.Workload

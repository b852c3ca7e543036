import ClusterSurvey.Bytes.Utf8
import Mathlib.Algebra.GroupWithZero.Nat
import Mathlib.Data.List.Count

/-!
How many bytes a text has that was read from bytes. A character never takes more bytes than were
read for it. What is ill-formed is written as U+FFFD, of three bytes, so each ill-formed part adds
two at most.
-/
namespace ClusterSurvey.Utf8

/-- The number of the maximal ill-formed parts of a byte string. -/
def illFormed (bs : Bytes) : Nat := (scan .ready bs).count none

/-- The bytes of the text that is read from a byte string. -/
def rewritten (bs : Bytes) : Bytes := Bytes.ofChars (decodeLossy bs)

/-- What the machine knows of a sequence of which `read` bytes are read: the next byte is a
continuation byte, and the character stays within what two or three bytes can write if there are no
more of them. -/
def State.Within (read : Nat) : State → Prop
  | .ready => read = 0
  | .pending more high _ top =>
      1 ≤ read ∧ top ≤ 0xBF ∧ (read + more = 1 → (high + 1) * 64 ^ (more + 1) ≤ 2048) ∧
      (read + more = 2 → (high + 1) * 64 ^ (more + 1) ≤ 65536)

/-- The bytes of characters, with U+FFFD for each ill-formed part. -/
def size (read : List (Option Char)) : Nat := (read.map fun c => (c.getD replacement).utf8Size).sum

theorem length_rewritten (bs : Bytes) : (rewritten bs).length = size (scan .ready bs) := by
  simp [rewritten, decodeLossy, Bytes.ofChars, size, List.length_flatMap, Function.comp_def]

theorem toNat_ofNat_le (n : Nat) : (Char.ofNat n).toNat ≤ n := by
  by_cases valid : n.isValidChar
  · exact Nat.le_of_eq (congrArg Char.toNat (dif_pos valid))
  · exact Nat.le_trans (Nat.le_of_eq (congrArg Char.toNat (dif_neg valid))) (Nat.zero_le n)

theorem utf8Size_le_two {c : Char} (small : c.toNat < 2048) : c.utf8Size ≤ 2 := by
  have v : c.val.toNat < 2048 := small
  unfold Char.utf8Size
  simp only [UInt32.le_iff_toNat_le]
  split <;> [omega; skip]
  split <;> [omega; skip]
  rename_i large
  exact absurd (Nat.le_of_lt_succ v) large

theorem utf8Size_le_three {c : Char} (small : c.toNat < 65536) : c.utf8Size ≤ 3 := by
  have v : c.val.toNat < 65536 := small
  unfold Char.utf8Size
  simp only [UInt32.le_iff_toNat_le]
  split <;> [omega; skip]
  split <;> [omega; skip]
  split <;> [omega; skip]
  rename_i large
  exact absurd (Nat.le_of_lt_succ v) large

theorem within_ready : State.ready.Within 0 := rfl

theorem within_of_lead {b : UInt8} {s : State} (opened : lead b = .opens s) : s.Within 1 := by
  have byte := b.toNat_lt
  unfold lead at opened
  simp only [UInt8.lt_iff_toNat_lt, beq_iff_eq] at opened
  repeat' split at opened
  all_goals cases opened
  all_goals refine ⟨Nat.le_refl 1, by decide, fun two => ?_, fun three => ?_⟩
  all_goals simp at *
  all_goals omega

theorem utf8Size_of_lead {b : UInt8} {c : Char} (single : lead b = .single c) : c.utf8Size = 1 := by
  unfold lead at single
  repeat' split at single
  all_goals cases single
  rename_i ascii
  have small : (Char.ofNat b.toNat).val.toNat ≤ 127 :=
    Nat.le_trans (toNat_ofNat_le _) (Nat.le_of_lt_succ (UInt8.lt_iff_toNat_lt.mp ascii))
  exact if_pos small

/-- Whether characters have no more than `n` bytes, but for two of each ill-formed part, and no more
such parts. -/
def FitIn (n : Nat) (read : List (Option Char)) : Prop :=
  read.count none ≤ n ∧ size read ≤ n + 2 * read.count none

theorem FitIn.nil (n : Nat) : FitIn n [] := ⟨Nat.zero_le n, Nat.zero_le _⟩

theorem FitIn.none {m n : Nat} {read : List (Option Char)} (fit : FitIn m read) (more : m < n) :
    FitIn n (none :: read) := by
  have first : size (Option.none :: read) = 3 + size read := rfl
  unfold FitIn at fit ⊢
  rw [first, List.count_cons_self]
  omega

theorem FitIn.some {m n : Nat} {c : Char} {read : List (Option Char)} (fit : FitIn m read)
    (more : c.utf8Size + m ≤ n) : FitIn n (some c :: read) := by
  have first : size (Option.some c :: read) = c.utf8Size + size read := rfl
  unfold FitIn at fit ⊢
  rw [first, List.count_cons_of_ne (Option.some_ne_none c)]
  omega

theorem utf8Size_of_within {read high : Nat} {low top b : UInt8}
    (within : (State.pending 0 high low top).Within read) (last : b ≤ top) :
    (Char.ofNat (high * 64 + (b.toNat - 0x80))).utf8Size ≤ read + 1 := by
  obtain ⟨some, bound, two, three⟩ := within
  have small : b.toNat ≤ 191 :=
    Nat.le_trans (UInt8.le_iff_toNat_le.mp last) (UInt8.le_iff_toNat_le.mp bound)
  have value := toNat_ofNat_le (high * 64 + (b.toNat - 0x80))
  have most := Char.utf8Size_le_four (Char.ofNat (high * 64 + (b.toNat - 0x80)))
  by_cases one : read = 1
  · have := utf8Size_le_two (c := Char.ofNat (high * 64 + (b.toNat - 0x80))) (by omega)
    omega
  · by_cases twoRead : read = 2
    · have := utf8Size_le_three (c := Char.ofNat (high * 64 + (b.toNat - 0x80))) (by omega)
      omega
    · omega

theorem within_succ {read more high : Nat} {low top b : UInt8}
    (within : (State.pending (more + 1) high low top).Within read) (next : b ≤ top) :
    (State.pending more (high * 64 + (b.toNat - 0x80)) 0x80 0xBF).Within (read + 1) := by
  obtain ⟨some, bound, two, three⟩ := within
  have small : b.toNat ≤ 191 :=
    Nat.le_trans (UInt8.le_iff_toNat_le.mp next) (UInt8.le_iff_toNat_le.mp bound)
  have step : (high * 64 + (b.toNat - 0x80) + 1) * 64 ^ (more + 1) ≤
      (high + 1) * 64 ^ (more + 1 + 1) := by
    rw [Nat.pow_succ 64 (more + 1), Nat.mul_comm (64 ^ (more + 1)) 64, ← Nat.mul_assoc]
    exact Nat.mul_le_mul_right _ (by omega)
  exact ⟨Nat.succ_pos read, Nat.le_refl _, fun all => Nat.le_trans step (two (by omega)),
    fun all => Nat.le_trans step (three (by omega))⟩

/-- What is read from here on has no more bytes than were read before in the same sequence and are
still to be read, but for two of each ill-formed part. -/
theorem scan_fit {read : Nat} {s : State} (within : s.Within read) (bs : Bytes) :
    FitIn (read + bs.length) (scan s bs) := by
  fun_induction scan s bs generalizing read with
  | case1 => exact .nil _
  | case2 more high low top => exact (FitIn.nil 0).none (Nat.add_pos_left within.1 _)
  | case3 b bs c single ih =>
    refine (ih within_ready).some ?_
    rw [utf8Size_of_lead single, List.length_cons]
    omega
  | case4 b bs s opened ih =>
    have started : read = 0 := within
    rw [started, List.length_cons, Nat.zero_add, Nat.add_comm]
    exact ih (within_of_lead opened)
  | case5 b bs invalid ih =>
    refine (ih within_ready).none ?_
    rw [List.length_cons]
    omega
  | case6 high low top b bs fits ih =>
    have last := utf8Size_of_within within fits.2
    refine (ih within_ready).some ?_
    rw [List.length_cons]
    omega
  | case7 high low top b bs fits more ih =>
    rw [List.length_cons, Nat.add_comm bs.length, ← Nat.add_assoc]
    exact ih (within_succ within fits.2)
  | case8 more high low top b bs other c single ih =>
    have some := within.1
    refine ((ih within_ready).some (n := bs.length + 1) ?_).none ?_
    · rw [utf8Size_of_lead single]
      omega
    · rw [List.length_cons]
      omega
  | case9 more high low top b bs other s opened ih =>
    have some := within.1
    refine (ih (within_of_lead opened)).none ?_
    rw [List.length_cons]
    omega
  | case10 more high low top b bs other invalid ih =>
    have some := within.1
    refine ((ih within_ready).none (n := bs.length + 1) ?_).none ?_
    · omega
    · rw [List.length_cons]
      omega

theorem scan_ready_fit (bs : Bytes) : FitIn bs.length (scan .ready bs) := by
  have fit := scan_fit within_ready bs
  rwa [Nat.zero_add] at fit

/-- Each ill-formed part adds two bytes at most, and nothing else adds any. -/
theorem length_rewritten_le (bs : Bytes) :
    (rewritten bs).length ≤ bs.length + 2 * illFormed bs := by
  rw [length_rewritten]
  exact (scan_ready_fit bs).2

theorem illFormed_le (bs : Bytes) : illFormed bs ≤ bs.length := (scan_ready_fit bs).1

theorem length_rewritten_replicate {b : UInt8} {c : Option Char}
    (alone : ∀ bs, scan .ready (b :: bs) = c :: scan .ready bs) (n : Nat) :
    (rewritten (List.replicate n b)).length = n * (c.getD replacement).utf8Size := by
  rw [length_rewritten]
  induction n with
  | zero => rw [List.replicate_zero, Nat.zero_mul]; rfl
  | succ n ih =>
    have first : size (c :: scan .ready (List.replicate n b)) =
        (c.getD replacement).utf8Size + size (scan .ready (List.replicate n b)) := rfl
    rw [List.replicate_succ, alone, first, ih, Nat.succ_mul, Nat.add_comm]

end ClusterSurvey.Utf8

import ClusterSurvey.Proofs.Bytes.Base64

/-!
Base64 in several padded parts. Groups of four symbols are decoded one by one, and each of them is
the encoding of the one to three bytes that it is decoded to. So what can be decoded group by group
is exactly the encodings of byte strings put end to end.
-/
namespace ClusterSurvey.Base64

/-- The encodings of byte strings, put end to end. -/
def encodeParts (parts : List Bytes) : Bytes :=
  parts.flatMap fun part => Bytes.ofString (encode part)

theorem encodeParts_cons (part : Bytes) (parts : List Bytes) :
    encodeParts (part :: parts) = Bytes.ofString (encode part) ++ encodeParts parts :=
  List.flatMap_cons

theorem ofString_encode (bs : Bytes) :
    Bytes.ofString (encode bs) = Bytes.ofChars (encodeWith standard ['='] bs) := by
  rw [encode, Bytes.ofString, String.toList_ofList]

theorem lt_of_value {b : UInt8} {v : Nat} (value : value? b = some v) :
    v < 64 ∧ symbolByte v = b := by
  have table : ∀ n < 256, ∀ v ∈ value? (UInt8.ofNat n), v < 64 ∧
      symbolByte v = UInt8.ofNat n := by decide +kernel
  have same : UInt8.ofNat b.toNat = b := ofNat_eq (Nat.mod_eq_of_lt b.toNat_lt)
  simpa only [same] using table b.toNat b.toNat_lt v (same.symm ▸ value)

theorem symbolByte_of_value {b : UInt8} {v n : Nat} (value : value? b = some v)
    (same : n % 64 = v) :
    symbolByte n = b := by
  rw [← (lt_of_value value).2, ← same, symbolByte, symbolByte, symbol, symbol, Nat.mod_mod]

/-! Groups of four symbols. -/

section Groups

variable {a b c : UInt8} {n : Nat}

theorem encode_three (number : n = a.toNat * 65536 + b.toNat * 256 + c.toNat) (rest : Bytes) :
    Bytes.ofChars (encodeWith standard ['='] (a :: b :: c :: rest)) =
      symbolByte (n / 262144) :: symbolByte (n / 4096) :: symbolByte (n / 64) :: symbolByte n
        :: Bytes.ofChars (encodeWith standard ['='] rest) := by
  simp only [encodeWith, ofChars_symbol, number]

theorem encode_two (number : n = a.toNat * 1024 + b.toNat * 4) :
    Bytes.ofChars (encodeWith standard ['='] [a, b]) =
      [symbolByte (n / 4096), symbolByte (n / 64), symbolByte n, pad] := by
  simp only [encodeWith, ofChars_symbol, List.cons_append, number]
  rfl

theorem encode_one (number : n = a.toNat * 16) :
    Bytes.ofChars (encodeWith standard ['='] [a]) =
      [symbolByte (n / 64), symbolByte n, pad, pad] := by
  simp only [encodeWith, ofChars_symbol, List.cons_append, number]
  rfl

theorem decodeGroup_three (number : n = a.toNat * 65536 + b.toNat * 256 + c.toNat) :
    decodeGroup? (symbolByte (n / 262144)) (symbolByte (n / 4096)) (symbolByte (n / 64))
      (symbolByte n) =
      some [a, b, c] := by
  have small_a := a.toNat_lt
  have small_b := b.toNat_lt
  have small_c := c.toNat_lt
  rw [decodeGroup?, if_neg (symbolByte_ne_pad _), if_neg (symbolByte_ne_pad _)]
  simp only [value_symbolByte]
  rw [ofValues_group a b c [] number (by omega) rfl rfl rfl]
  rfl

theorem decodeGroup_two (number : n = a.toNat * 1024 + b.toNat * 4) :
    decodeGroup? (symbolByte (n / 4096)) (symbolByte (n / 64)) (symbolByte n) pad =
      some [a, b] := by
  have small_a := a.toNat_lt
  have small_b := b.toNat_lt
  have held :=
    ofValues_group a b 0 [] rfl (w := n / 4096 % 64) (x := n / 64 % 64) (y := n % 64) (z := 0)
    (by simp; omega) (by simp; omega) (by simp; omega) (by simp; omega)
  rw [decodeGroup?, if_neg (symbolByte_ne_pad _), if_pos rfl]
  simp only [value_symbolByte]
  rw [if_pos (by omega), held]
  rfl

theorem decodeGroup_one (number : n = a.toNat * 16) :
    decodeGroup? (symbolByte (n / 64)) (symbolByte n) pad pad = some [a] := by
  have small := a.toNat_lt
  have held := ofValues_group a 0 0 [] rfl (w := n / 64 % 64) (x := n % 64) (y := 0) (z := 0)
    (by simp; omega) (by simp; omega) (by simp; omega) (by simp; omega)
  rw [decodeGroup?, if_pos rfl, if_pos rfl]
  simp only [value_symbolByte]
  rw [if_pos (by omega), held]
  rfl

end Groups

/-! The values of a group are those of the encoding of its bytes. -/

section Values

variable {a b c d : UInt8} {w x y z : Nat}

theorem encode_three_values (first : value? a = some w) (second : value? b = some x)
    (third : value? c = some y) (fourth : value? d = some z) :
    [a, b, c, d] = Bytes.ofChars (encodeWith standard ['='] (ofValues [w, x, y, z])) := by
  have small_w := (lt_of_value first).1
  have small_x := (lt_of_value second).1
  have small_y := (lt_of_value third).1
  have small_z := (lt_of_value fourth).1
  simp only [ofValues]
  rw [encode_three rfl, symbolByte_of_value first, symbolByte_of_value second,
    symbolByte_of_value third, symbolByte_of_value fourth]
  · rfl
  all_goals
    simp only [UInt8.toNat_ofNat']
    omega

theorem encode_two_values (first : value? a = some w) (second : value? b = some x)
    (third : value? c = some y) (unused : y % 4 = 0) :
    [a, b, c, pad] = Bytes.ofChars
    (encodeWith standard ['='] ((ofValues [w, x, y, 0]).take 2)) := by
  have small_w := (lt_of_value first).1
  have small_x := (lt_of_value second).1
  have small_y := (lt_of_value third).1
  rw [ofValues, List.take_succ_cons, List.take_succ_cons, List.take_zero, encode_two rfl,
    symbolByte_of_value first, symbolByte_of_value second, symbolByte_of_value third]
  all_goals
    simp only [UInt8.toNat_ofNat']
    omega

theorem encode_one_values (first : value? a = some w) (second : value? b = some x)
    (unused : x % 16 = 0) :
    [a, b, pad, pad] = Bytes.ofChars
    (encodeWith standard ['='] ((ofValues [w, x, 0, 0]).take 1)) := by
  have small_w := (lt_of_value first).1
  have small_x := (lt_of_value second).1
  rw [ofValues, List.take_succ_cons, List.take_zero, encode_one rfl, symbolByte_of_value first,
    symbolByte_of_value second]
  all_goals
    simp only [UInt8.toNat_ofNat']
    omega

end Values

theorem eq_encode_of_decodeGroup {a b c d : UInt8} {out : Bytes}
    (decoded : decodeGroup? a b c d = some out) :
    [a, b, c, d] = Bytes.ofChars (encodeWith standard ['='] out) := by
  rw [decodeGroup?] at decoded
  split_ifs at decoded with third fourth fourth
  · split at decoded
    · rename_i w x first second
      split_ifs at decoded with unused
      rw [third, fourth, ← Option.some.inj decoded]
      exact encode_one_values first second unused
    · cases decoded
  · split at decoded
    · rename_i w x y first second third
      split_ifs at decoded with unused
      rw [fourth, ← Option.some.inj decoded]
      exact encode_two_values first second third unused
    · cases decoded
  · split at decoded
    · rename_i w x y z first second third fourth
      rw [← Option.some.inj decoded]
      exact encode_three_values first second third fourth
    · cases decoded

theorem decodeGroups_encode (part tail : Bytes) :
    decodeGroups? (Bytes.ofString (encode part) ++ tail) =
      (decodeGroups? tail).map (part ++ ·) := by
  have group : ∀ {a b c d : UInt8} {out rest : Bytes}, decodeGroup? a b c d = some out →
      decodeGroups? (a :: b :: c :: d :: rest) = (decodeGroups? rest).map (out ++ ·) := by
    intro a b c d out rest decoded
    rw [decodeGroups?, decoded]
    cases decodeGroups? rest <;> rfl
  rw [ofString_encode]
  induction part using encodeWith.induct with
  | case1 a b c rest ih =>
    rw [encode_three rfl]
    simp only [List.cons_append]
    rw [group (decodeGroup_three rfl), ih, Option.map_map]
    rfl
  | case2 a b =>
    rw [encode_two rfl]
    exact group (decodeGroup_two rfl)
  | case3 a =>
    rw [encode_one rfl]
    exact group (decodeGroup_one rfl)
  | case4 => simp [encodeWith, Bytes.ofChars]

/-- What is decoded group by group is the encodings of byte strings, and gives these put end to
end. -/
theorem decodeGroups_eq_some_iff {text out : Bytes} :
    decodeGroups? text = some out ↔ ∃ parts, text = encodeParts parts ∧ out = parts.flatten := by
  constructor
  · intro decoded
    fun_induction decodeGroups? text generalizing out with
    | case1 => exact ⟨[], rfl, (Option.some.inj decoded).symm⟩
    | case2 a b c d rest front tail later first ih =>
      obtain ⟨parts, rfl, rfl⟩ := ih later
      refine ⟨front :: parts, ?_, (Option.some.inj decoded).symm⟩
      rw [encodeParts_cons, ofString_encode, ← eq_encode_of_decodeGroup first]
      rfl
    | case3 => cases decoded
    | case4 => cases decoded
  · rintro ⟨parts, rfl, rfl⟩
    induction parts with
    | nil => rfl
    | cons part parts ih =>
      rw [encodeParts_cons, decodeGroups_encode, ih]
      rfl

end ClusterSurvey.Base64

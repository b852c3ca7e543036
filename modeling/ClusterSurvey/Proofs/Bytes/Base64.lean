import ClusterSurvey.Bytes.Base64
import Mathlib.Algebra.Group.Nat.Defs
import Mathlib.Data.List.Basic

/-!
Bytes encoded as base64 are decoded again. Three bytes at a time are encoded, whatever follows, so
the text of all but the last of them is the text of complete groups and has no padding.
-/
namespace ClusterSurvey.Base64

def symbolByte (n : Nat) : UInt8 := UInt8.ofNat (symbol standard n).toNat

theorem value_symbolByte (n : Nat) : value? (symbolByte n) = some (n % 64) := by
  have table : ∀ m < 64, value? (UInt8.ofNat (standard.getD m 'A').toNat) =
      some m := by decide +kernel
  exact table (n % 64) (Nat.mod_lt n (by decide))

theorem symbolByte_ne_pad (n : Nat) : symbolByte n ≠ pad := by
  intro same
  have value := value_symbolByte n
  rw [same] at value
  cases value

theorem ofChars_symbol (n : Nat) (cs : List Char) :
    Bytes.ofChars (symbol standard n :: cs) = symbolByte n :: Bytes.ofChars cs := by
  have table : ∀ m < 64, String.utf8EncodeChar (standard.getD m 'A') =
      [UInt8.ofNat (standard.getD m 'A').toNat] := by decide +kernel
  rw [Bytes.ofChars, List.flatMap_cons, symbol, table (n % 64) (Nat.mod_lt n (by decide))]
  rfl

theorem values_symbols (offset : Nat) (ns : List Nat) :
    values offset (ns.map symbolByte) = .ok (ns.map (· % 64)) := by
  induction ns generalizing offset with
  | nil => rfl
  | cons n ns ih => simp [values, value_symbolByte, ih, Except.map]

theorem ofNat_eq {n : Nat} {b : UInt8} (same : n % 256 = b.toNat) : UInt8.ofNat n = b := by
  apply UInt8.toNat_inj.mp
  rw [UInt8.toNat_ofNat']
  exact same

theorem ofValues_group (a b c : UInt8) {w x y z n : Nat} (vs : List Nat)
    (number : n = a.toNat * 65536 + b.toNat * 256 + c.toNat) (first : w = n / 262144)
    (second : x = n / 4096 % 64) (third : y = n / 64 % 64) (fourth : z = n % 64) :
    ofValues (w :: x :: y :: z :: vs) = a :: b :: c :: ofValues vs := by
  have whole : w * 262144 + x * 4096 + y * 64 + z = n := by omega
  have small_b := b.toNat_lt
  have small_c := c.toNat_lt
  have small_a := a.toNat_lt
  rw [ofValues, whole, ofNat_eq (b := a) (by omega), ofNat_eq (b := b) (by omega),
    ofNat_eq (b := c) (by omega)]

theorem encodeWith_append (alphabet padding : List Char) {front : Bytes}
    (whole : front.length % 3 = 0) (last : Bytes) :
    encodeWith alphabet padding (front ++ last) =
      encodeWith alphabet padding front ++ encodeWith alphabet padding last := by
  induction front using encodeWith.induct with
  | case1 a b c rest ih =>
    have whole' : rest.length % 3 = 0 := by
      simp only [List.length_cons] at whole
      omega
    simp [encodeWith, ih whole']
  | case2 a b => simp at whole
  | case3 a => simp at whole
  | case4 => rfl

theorem encodeWith_whole (padding : List Char) {front : Bytes} (whole : front.length % 3 = 0) :
    ∃ ns : List Nat, Bytes.ofChars (encodeWith standard padding front) = ns.map symbolByte ∧
      ns.length % 4 = 0 ∧ ofValues (ns.map (· % 64)) = front := by
  induction front using encodeWith.induct with
  | case1 a b c rest ih =>
    let n := a.toNat * 65536 + b.toNat * 256 + c.toNat
    have whole' : rest.length % 3 = 0 := by
      simp only [List.length_cons] at whole
      omega
    obtain ⟨ns, text, groups, decoded⟩ := ih whole'
    refine ⟨n / 262144 :: n / 4096 :: n / 64 :: n :: ns, ?_, ?_, ?_⟩
    · simp only [encodeWith, ofChars_symbol, text, List.map_cons, n]
    · simp only [List.length_cons]
      omega
    · have small_a := a.toNat_lt
      have small_b := b.toNat_lt
      have small_c := c.toNat_lt
      simp only [List.map_cons]
      rw [ofValues_group a b c _ rfl (by omega) rfl rfl rfl, decoded]
  | case2 a b => simp at whole
  | case3 a => simp at whole
  | case4 => exact ⟨[], rfl, rfl, rfl⟩

theorem takeWhile_symbols (ns : List Nat) (lacking : Nat) :
    (ns.map symbolByte ++ List.replicate lacking pad).takeWhile (· != pad) = ns.map symbolByte := by
  induction ns with
  | nil => cases lacking <;> rfl
  | cons n ns ih => simpa [symbolByte_ne_pad n] using ih

theorem decodeLast_symbols (offset : Nat) {ns : List Nat} {lacking : Nat}
    (four : ns.length + lacking = 4) (enough : 2 ≤ ns.length)
    (unused : ns.getLastD 0 % 4 ^ lacking = 0) :
    decodeLast offset (ns.map symbolByte ++ List.replicate lacking pad) =
      .ok ((ofValues (ns.map (· % 64) ++ List.replicate lacking 0)).take (3 - lacking)) := by
  have behind : (ns.map symbolByte ++ List.replicate lacking pad).drop (ns.map symbolByte).length =
      List.replicate lacking pad := List.drop_left
  rw [decodeLast, takeWhile_symbols, values_symbols]
  simp only [behind]
  match ns with
  | [] => simp at enough
  | [w] => simp at enough
  | [w, x] =>
    obtain rfl : lacking = 2 := Nat.add_left_cancel (show 2 + lacking = 2 + 2 from four)
    have unused' : x % 64 % 16 = 0 := by
      simp only [List.getLastD_cons, List.getLastD_nil] at unused
      omega
    simp [Bind.bind, Except.bind, pure, Except.pure, unused']
  | [w, x, y] =>
    obtain rfl : lacking = 1 := Nat.add_left_cancel (show 3 + lacking = 3 + 1 from four)
    have unused' : y % 64 % 4 = 0 := by
      simp only [List.getLastD_cons, List.getLastD_nil] at unused
      omega
    simp [Bind.bind, Except.bind, pure, Except.pure, unused']
  | [w, x, y, z] =>
    obtain rfl : lacking = 0 := Nat.add_left_cancel (show 4 + lacking = 4 + 0 from four)
    simp [Bind.bind, Except.bind, pure, Except.pure, ofValues]
  | v :: w :: x :: y :: z :: more =>
    simp only [List.length_cons] at four
    omega

theorem decodeLast_group (offset : Nat) {last : Bytes} (ns : List Nat) (lacking : Nat)
    (text : Bytes.ofChars (encodeWith standard ['='] last) = ns.map symbolByte
      ++ List.replicate lacking pad)
    (four : ns.length + lacking = 4) (enough : 2 ≤ ns.length)
    (unused : ns.getLastD 0 % 4 ^ lacking = 0)
    (held : (ofValues (ns.map (· % 64) ++ List.replicate lacking 0)).take (3 - lacking) = last) :
    (Bytes.ofChars (encodeWith standard ['='] last)).length = 4 ∧
      decodeLast offset (Bytes.ofChars (encodeWith standard ['='] last)) = .ok last := by
  rw [text]
  constructor
  · simpa using four
  · rw [decodeLast_symbols offset four enough unused, held]

theorem encodeWith_last (offset : Nat) {last : Bytes} (some : last ≠ []) (few : last.length ≤ 3) :
    (Bytes.ofChars (encodeWith standard ['='] last)).length = 4 ∧
      decodeLast offset (Bytes.ofChars (encodeWith standard ['='] last)) = .ok last := by
  match last with
  | [] => exact absurd rfl some
  | [a] =>
    have small := a.toNat_lt
    apply decodeLast_group offset [a.toNat * 16 / 64, a.toNat * 16] 2 _ rfl (by simp)
    · simp only [List.getLastD_cons, List.getLastD_nil]
      omega
    · have held :=
        ofValues_group a 0 0 [] rfl (w := a.toNat * 16 / 64 % 64) (x := a.toNat * 16 % 64)
          (y := 0) (z := 0)
        (by simp; omega) (by simp; omega) (by simp; omega) (by simp; omega)
      exact congrArg (List.take 1) held
    · simp only [encodeWith, ofChars_symbol, List.cons_append]
      rfl
  | [a, b] =>
    have small_a := a.toNat_lt
    have small_b := b.toNat_lt
    let n := a.toNat * 1024 + b.toNat * 4
    apply decodeLast_group offset [n / 4096, n / 64, n] 1 _ rfl (by simp)
    · simp only [List.getLastD_cons, List.getLastD_nil]
      omega
    · have held :=
        ofValues_group a b 0 [] rfl (w := n / 4096 % 64) (x := n / 64 % 64) (y := n % 64) (z := 0)
        (by simp [n]; omega) (by simp [n]; omega) (by simp [n]; omega) (by simp; omega)
      exact congrArg (List.take 2) held
    · simp only [encodeWith, ofChars_symbol, List.cons_append]
      rfl
  | [a, b, c] =>
    have small_a := a.toNat_lt
    have small_b := b.toNat_lt
    have small_c := c.toNat_lt
    let n := a.toNat * 65536 + b.toNat * 256 + c.toNat
    apply decodeLast_group offset [n / 262144, n / 4096, n / 64, n] 0 _ rfl
      (by simp) (Nat.mod_one _)
    · exact ofValues_group a b c [] rfl (by simp only [n]; omega) rfl rfl rfl
    · simp only [encodeWith, ofChars_symbol]
      rfl
  | _ :: _ :: _ :: _ :: _ =>
    simp only [List.length_cons] at few
    omega

/-- A text of complete groups is decoded group by group, the last one for itself. -/
theorem decode_groups {ns : List Nat} {group last : Bytes} (whole : ns.length % 4 = 0)
    (four : group.length = 4) (decoded : decodeLast ns.length group = .ok last) :
    decode (ns.map symbolByte ++ group) = .ok (ofValues (ns.map (· % 64)) ++ last) := by
  have length : (ns.map symbolByte ++ group).length = ns.length + 4 := by
    rw [List.length_append, List.length_map, four]
  have left : (ns.map symbolByte ++ group).length % 4 = 0 := by omega
  have some : (ns.map symbolByte ++ group).isEmpty = false := by
    rw [List.isEmpty_eq_false_iff, ← List.length_pos_iff, length]
    omega
  have front : (ns.map symbolByte ++ group).take ns.length = ns.map symbolByte :=
    List.take_left' (List.length_map symbolByte)
  have back : (ns.map symbolByte ++ group).drop ns.length = group :=
    List.drop_left' (List.length_map symbolByte)
  rw [decode, some, left, if_neg Bool.false_ne_true, if_neg (by simp), if_pos rfl, length,
    Nat.add_sub_cancel]
  dsimp only
  rw [front, back, values_symbols, decoded]
  rfl

theorem decode_encode (bs : Bytes) : decode (Bytes.ofString (encode bs)) = .ok bs := by
  rcases eq_or_ne bs [] with none | some
  · subst none
    rfl
  have length : 0 < bs.length := List.length_pos_iff.mpr some
  let cut := (bs.length - 1) / 3 * 3
  have whole : (bs.take cut).length % 3 = 0 := by
    rw [List.length_take]
    omega
  have rest : bs.drop cut ≠ [] := by
    apply List.length_pos_iff.mp
    rw [List.length_drop]
    omega
  have few : (bs.drop cut).length ≤ 3 := by
    rw [List.length_drop]
    omega
  obtain ⟨ns, front, groups, held⟩ := encodeWith_whole ['='] whole
  obtain ⟨four, last⟩ := encodeWith_last ns.length rest few
  have text : Bytes.ofString (encode bs) =
      ns.map symbolByte ++ Bytes.ofChars (encodeWith standard ['='] (bs.drop cut)) := by
    rw [encode, Bytes.ofString, String.toList_ofList, ← front, ← Bytes.ofChars_append,
      ← encodeWith_append standard ['='] whole, List.take_append_drop]
  rw [text, decode_groups groups four last, held, List.take_append_drop]

end ClusterSurvey.Base64

import ClusterSurvey.Proofs.Bytes.Groups

/-!
What padded base64 is. A text of that form is decoded and no other one is, and it is the encoding of
the bytes that it is decoded to. So what was decoded can be encoded again without a loss, and how
long a text is depends on the number of its bytes alone.
-/
namespace ClusterSurvey

theorem Bytes.ofString_injective : Function.Injective Bytes.ofString := by
  intro s t same
  have text : ∀ s : String, (Bytes.ofString s).toByteArray = s.toByteArray := by
    intro s
    conv_rhs => rw [← String.ofList_toList (s := s)]
    rfl
  apply String.toByteArray_inj.mp
  rw [← text, same, text]

namespace Base64

/-- Groups of four symbols, the last of which may hold one byte or two and is filled up with
padding. The bits that no byte uses are zero. -/
inductive Canonical : Bytes → Prop
  | nothing : Canonical []
  | oneByte {a b : UInt8} {x y : Nat} (first : value? a = some x) (second : value? b = some y)
      (unused : y % 16 = 0) :
      Canonical [a, b, pad, pad]
  | twoBytes {a b c : UInt8} {x y z : Nat} (first : value? a = some x) (second : value? b = some y)
      (third : value? c = some z) (unused : z % 4 = 0) : Canonical [a, b, c, pad]
  | threeBytes {a b c d : UInt8} {w x y z : Nat} {rest : Bytes} (first : value? a = some w)
      (second : value? b = some x)
      (third : value? c = some y) (fourth : value? d = some z) (more : Canonical rest) :
      Canonical (a :: b :: c :: d :: rest)

theorem canonical_encode (bs : Bytes) : Canonical (Bytes.ofString (encode bs)) := by
  rw [ofString_encode]
  induction bs using encodeWith.induct with
  | case1 a b c rest ih =>
    rw [encode_three rfl]
    exact .threeBytes (value_symbolByte _) (value_symbolByte _) (value_symbolByte _)
      (value_symbolByte _) ih
  | case2 a b =>
    rw [encode_two rfl]
    exact .twoBytes (value_symbolByte _) (value_symbolByte _) (value_symbolByte _) (by omega)
  | case3 a =>
    rw [encode_one rfl]
    exact .oneByte (value_symbolByte _) (value_symbolByte _) (by omega)
  | case4 => exact .nothing

theorem encode_group {a b c d : UInt8} {w x y z : Nat} (first : value? a = some w)
    (second : value? b = some x) (third : value? c = some y)
    (fourth : value? d = some z) (bs : Bytes) :
    Bytes.ofString (encode (ofValues [w, x, y, z] ++ bs)) =
      a :: b :: c :: d :: Bytes.ofString (encode bs) := by
  have three : (ofValues [w, x, y, z]).length = 3 := rfl
  rw [ofString_encode, encodeWith_append standard ['='] (by rw [three]), Bytes.ofChars_append,
    ← encode_three_values first second third fourth, ← ofString_encode]
  rfl

theorem Canonical.encodes {text : Bytes} (canonical : Canonical text) :
    ∃ bs, text = Bytes.ofString (encode bs) := by
  induction canonical with
  | nothing => exact ⟨[], rfl⟩
  | oneByte first second unused =>
    exact ⟨_, (encode_one_values first second unused).trans (ofString_encode _).symm⟩
  | twoBytes first second third unused =>
    exact ⟨_, (encode_two_values first second third unused).trans (ofString_encode _).symm⟩
  | threeBytes first second third fourth more ih =>
    obtain ⟨bs, rfl⟩ := ih
    exact ⟨_, (encode_group first second third fourth bs).symm⟩

/-! What was decoded is what the text encodes. -/

theorem values_ok {offset : Nat} {text : Bytes} {vs : List Nat}
    (read : values offset text = .ok vs) :
    text = vs.map symbolByte ∧ ∀ v ∈ vs, v < 64 := by
  induction text generalizing offset vs with
  | nil =>
    cases read
    exact ⟨rfl, List.forall_mem_nil _⟩
  | cons b text ih =>
    rw [values] at read
    cases symbol : value? b with
    | none =>
      rw [symbol] at read
      cases read
    | some v =>
      rw [symbol] at read
      cases later : values (offset + 1) text with
      | error e =>
        rw [later] at read
        cases read
      | ok rest =>
        rw [later] at read
        cases read
        obtain ⟨small, same⟩ := lt_of_value symbol
        obtain ⟨others, small'⟩ := ih later
        exact ⟨by rw [List.map_cons, same, ← others], List.forall_mem_cons.mpr ⟨small, small'⟩⟩

theorem value_symbolByte_of_lt {v : Nat} (small : v < 64) : value? (symbolByte v) = some v := by
  rw [value_symbolByte, Nat.mod_eq_of_lt small]

theorem encode_ofValues {vs : List Nat} (whole : vs.length % 4 = 0)
    (small : ∀ v ∈ vs, v < 64) (bs : Bytes) :
    Bytes.ofString (encode (ofValues vs ++ bs)) = vs.map symbolByte
      ++ Bytes.ofString (encode bs) := by
  induction vs using ofValues.induct with
  | case1 a b c d rest ih =>
    simp only [List.forall_mem_cons] at small
    obtain ⟨a_lt, b_lt, c_lt, d_lt, rest_lt⟩ := small
    have whole' : rest.length % 4 = 0 := by
      simp only [List.length_cons] at whole
      omega
    have split : ofValues (a :: b :: c :: d :: rest) ++ bs = ofValues [a, b, c, d]
        ++ (ofValues rest ++ bs) := rfl
    rw [split, encode_group (value_symbolByte_of_lt a_lt) (value_symbolByte_of_lt b_lt)
      (value_symbolByte_of_lt c_lt)
      (value_symbolByte_of_lt d_lt), ih whole' rest_lt]
    rfl
  | case2 vs short =>
    match vs with
    | [] => rfl
    | [_] | [_, _] | [_, _, _] => simp at whole
    | a :: b :: c :: d :: rest => exact absurd rfl (short a b c d rest)

theorem decodeLast_ok {offset : Nat} {group out : Bytes} (few : group.length ≤ 4)
    (decoded : decodeLast offset group = .ok out) :
    group.length = 4 ∧ group = Bytes.ofString (encode out) := by
  have parts := List.takeWhile_append_dropWhile (p := (· != pad)) (l := group)
  have behind : (group.takeWhile (· != pad) ++ group.dropWhile (· != pad)).drop
      (group.takeWhile (· != pad)).length =
      group.dropWhile (· != pad) := List.drop_left
  rw [parts] at behind
  unfold decodeLast at decoded
  dsimp only at decoded
  rw [behind] at decoded
  generalize group.takeWhile (· != pad) = symbols at *
  generalize group.dropWhile (· != pad) = rest at *
  cases read : values offset symbols with
  | error e =>
    rw [read] at decoded
    cases decoded
  | ok vs =>
    rw [read] at decoded
    simp only [bind, Except.bind, pure, Except.pure, throw, throwThe, MonadExceptOf.throw]
      at decoded
    split_ifs at decoded with _ padded enough whole
    obtain ⟨rfl, small⟩ := values_ok read
    have filled : rest = List.replicate rest.length pad := by
      refine List.eq_replicate_iff.mpr ⟨rfl, fun b member => ?_⟩
      by_contra other
      exact padded (List.any_eq_true.mpr ⟨b, member, bne_iff_ne.mpr other⟩)
    have four : group.length = 4 := by
      have count := congrArg List.length parts
      simp only [List.length_append, List.length_map] at count enough
      omega
    refine ⟨four, ?_⟩
    rw [← parts, List.length_append, List.length_map] at four
    rw [← parts, ofString_encode]
    split at decoded
    · rename_i w x y z
      obtain rfl := List.eq_nil_of_length_eq_zero (Nat.add_left_cancel four : rest.length = 0)
      simp only [List.forall_mem_cons] at small
      obtain ⟨w_lt, x_lt, y_lt, z_lt, _⟩ := small
      rw [← Except.ok.inj decoded, List.append_nil]
      exact encode_three_values (value_symbolByte_of_lt w_lt) (value_symbolByte_of_lt x_lt)
        (value_symbolByte_of_lt y_lt) (value_symbolByte_of_lt z_lt)
    · rename_i w x y
      split_ifs at decoded with unused
      rw [filled, (Nat.add_left_cancel four : rest.length = 1), ← Except.ok.inj decoded]
      simp only [List.forall_mem_cons] at small
      obtain ⟨w_lt, x_lt, y_lt, _⟩ := small
      exact encode_two_values (value_symbolByte_of_lt w_lt) (value_symbolByte_of_lt x_lt)
        (value_symbolByte_of_lt y_lt) (not_not.mp unused)
    · rename_i w x
      split_ifs at decoded with unused
      rw [filled, (Nat.add_left_cancel four : rest.length = 2), ← Except.ok.inj decoded]
      simp only [List.forall_mem_cons] at small
      obtain ⟨w_lt, x_lt, _⟩ := small
      exact encode_one_values (value_symbolByte_of_lt w_lt) (value_symbolByte_of_lt x_lt)
        (not_not.mp unused)
    · cases decoded

theorem eq_encode_of_decode {text bs : Bytes} (decoded : decode text = .ok bs) :
    text = Bytes.ofString (encode bs) := by
  unfold decode at decoded
  split at decoded
  · rename_i none
    rw [List.isEmpty_iff.mp none, ← Except.ok.inj decoded]
    rfl
  · dsimp only at decoded
    split at decoded
    · cases decoded
    · have few : (text.drop (text.length - if text.length % 4 = 0 then 4
          else text.length % 4)).length ≤ 4 := by
        rw [List.length_drop]
        split <;> omega
      have front : (text.length - if text.length % 4 = 0 then 4 else text.length % 4) % 4 = 0 := by
        split <;> omega
      generalize text.length - (if text.length % 4 = 0 then 4 else text.length % 4) = cut at *
      cases read : values 0 (text.take cut) with
      | error e =>
        rw [read] at decoded
        cases decoded
      | ok vs =>
        cases last : decodeLast cut (text.drop cut) with
        | error e =>
          rw [read, last] at decoded
          cases decoded
        | ok tail =>
          rw [read, last] at decoded
          obtain ⟨four, group⟩ := decodeLast_ok few last
          obtain ⟨groups, small⟩ := values_ok read
          have whole : vs.length % 4 = 0 := by
            have length := congrArg List.length groups
            rw [List.length_take, List.length_map] at length
            rw [List.length_drop] at four
            omega
          calc text = text.take cut ++ text.drop cut := (List.take_append_drop cut text).symm
            _ = vs.map symbolByte ++ Bytes.ofString (encode tail) := by rw [groups, group]
            _ = Bytes.ofString (encode (ofValues vs ++ tail)) :=
              (encode_ofValues whole small tail).symm
            _ = Bytes.ofString (encode bs) := by rw [← Except.ok.inj decoded]

/-- Bytes are decoded from the text that encodes them, and from no other one. -/
theorem decode_eq_ok_iff {text bs : Bytes} :
    decode text = .ok bs ↔ text = Bytes.ofString (encode bs) :=
  ⟨eq_encode_of_decode, fun same => same ▸ decode_encode bs⟩

theorem exists_decode_iff {text : Bytes} : (∃ bs, decode text = .ok bs) ↔ Canonical text := by
  constructor
  · rintro ⟨bs, decoded⟩
    rw [decode_eq_ok_iff.mp decoded]
    exact canonical_encode bs
  · intro canonical
    obtain ⟨bs, rfl⟩ := canonical.encodes
    exact ⟨bs, decode_encode bs⟩

theorem length_encode (bs : Bytes) : (encode bs).length = (bs.length + 2) / 3 * 4 := by
  rw [encode, String.length_ofList]
  induction bs using encodeWith.induct with
  | case1 a b c rest ih =>
    simp only [encodeWith, List.length_cons, ih]
    omega
  | case2 a b => simp [encodeWith]
  | case3 a => simp [encodeWith]
  | case4 => rfl

end Base64

end ClusterSurvey

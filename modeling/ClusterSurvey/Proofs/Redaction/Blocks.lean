import ClusterSurvey.Proofs.Certificate.Pem
import ClusterSurvey.Redaction.Blocks

/-!
Redaction of PEM texts. A byte string that splits into blocks becomes as many masked blocks,
whatever was in them; any other stays as it is. A masked block is no block itself, since its body is
no base64, so redacting twice changes nothing more.
-/
namespace ClusterSurvey.Redaction

open Pem (SplitsInto)

/-- Masked blocks, put end to end. -/
def maskedBlocks (n : Nat) : Bytes := (List.replicate n (Bytes.ofString maskedBlock)).flatten

/-- What becomes of a byte string: masked blocks if it splits into blocks, and itself if it does
not. -/
structure AllOrNothing (d out : Bytes) : Prop where
  all : ∀ n, n ≠ 0 → SplitsInto n d → out = maskedBlocks n
  nothing : (∀ n, n ≠ 0 → ¬ SplitsInto n d) → out = d

theorem maskBlocks_of_some {d : Bytes} {blocks : List Pem.Block}
    (read : Pem.blocks? (Pem.lines d) = some blocks) :
    maskBlocks d = maskedBlocks blocks.length := by
  rw [maskBlocks, read]
  dsimp only
  rw [List.flatMap_def, List.map_const', maskedBlocks]

theorem maskBlocks_of_none {d : Bytes} (read : Pem.blocks? (Pem.lines d) = none) :
    maskBlocks d = d := by
  rw [maskBlocks, read]

theorem maskBlocks_allOrNothing (d : Bytes) : AllOrNothing d (maskBlocks d) where
  all := by
    intro n some splits
    obtain ⟨blocks, read, rfl⟩ := (Pem.splitsInto_iff some).mp splits
    exact maskBlocks_of_some read
  nothing := by
    intro never
    cases read : Pem.blocks? (Pem.lines d) with
    | none => exact maskBlocks_of_none read
    | some blocks =>
      have count := Pem.blocks_ne_nil read
      exact absurd ((Pem.splitsInto_iff count).mpr ⟨blocks, read, rfl⟩) (never _ count)

def maskedLines : List Bytes :=
  ["-----BEGIN CERTIFICATE-----\n", "ANONYMIZED\n",
    "-----END CERTIFICATE-----\n"].map Bytes.ofString

/-- The body of a masked block has ten symbols, so it is no base64. -/
theorem readBlock_maskedLines (rest : List Bytes) : Pem.readBlock (maskedLines ++ rest) = none := by
  have opened : Pem.openBlock (maskedLines ++ rest) =
      some ("CERTIFICATE".toList, maskedLines.drop 1 ++ rest) := rfl
  have closed : Pem.closeBlock (maskedLines.drop 1 ++ rest) = some ("ANONYMIZED".toList, rest) :=
    rfl
  have undecoded : Base64.decodeGroups? (Bytes.ofChars "ANONYMIZED".toList) = none := by decide
  rw [Pem.readBlock, opened]
  dsimp only [Option.bind_eq_bind, Option.bind_some]
  rw [closed]
  dsimp only [Option.bind_some]
  rw [undecoded]
  rfl

theorem lines_maskedBlocks (n : Nat) :
    Pem.lines (maskedBlocks (n + 1)) = maskedLines ++ Pem.lines (maskedBlocks n) := by
  have block : Bytes.ofString maskedBlock = (Bytes.ofString maskedBlock).dropLast
      ++ [10] := by decide
  have cut : Pem.lines (Bytes.ofString maskedBlock) = maskedLines := by decide
  rw [maskedBlocks, List.replicate_succ, List.flatten_cons, block, List.append_assoc,
    List.singleton_append, Pem.lines_append, ← block, cut, maskedBlocks]

theorem blocks_maskedBlocks (n : Nat) : Pem.blocks? (Pem.lines (maskedBlocks n)) = none := by
  cases n with
  | zero =>
    rw [Pem.blocks_eq]
    rfl
  | succ n =>
    rw [Pem.blocks_eq, lines_maskedBlocks, readBlock_maskedLines]
    rfl

theorem maskBlocks_maskBlocks (d : Bytes) : maskBlocks (maskBlocks d) = maskBlocks d := by
  cases read : Pem.blocks? (Pem.lines d) with
  | none => rw [maskBlocks_of_none read, maskBlocks_of_none read]
  | some blocks => rw [maskBlocks_of_some read, maskBlocks_of_none (blocks_maskedBlocks _)]

/-- A byte string that splits into blocks becomes as many masked blocks and any other stays as it
is; each block that is read uses up bytes; and redacting twice is redacting once. -/
theorem pem_all_or_nothing (d : Bytes) :
    AllOrNothing d (maskBlocks d) ∧
      (∀ block rest, Pem.readBlock (Pem.lines d) = some (block, rest) →
        ∃ used left, d = used ++ left ∧ used ≠ [] ∧ Pem.lines left = rest) ∧
      maskBlocks (maskBlocks d) = maskBlocks d :=
  ⟨maskBlocks_allOrNothing d, fun _ _ read => Pem.readBlock_bytes read, maskBlocks_maskBlocks d⟩

def keyAndCertificate : List String :=
  ["the key\n", "-----BEGIN A KEY-----\n", "YQ==\n", "YWJj \n", "-----END A KEY-----\n",
    "-----BEGIN CERTIFICATE-----\n", "-----END CERTIFICATE-----"]

theorem keyAndCertificate_masked :
    SplitsInto 2 (Bytes.ofString (String.join keyAndCertificate)) ∧
      maskBlocks (Bytes.ofString (String.join keyAndCertificate)) = maskedBlocks 2 := by
  have splits : SplitsInto 2 (Bytes.ofString (String.join keyAndCertificate)) := by
    refine ⟨[(keyAndCertificate.take 5).map Bytes.ofString,
      (keyAndCertificate.drop 5).map Bytes.ofString], rfl,
      by decide +kernel, List.forall_mem_cons.mpr ⟨?_, List.forall_mem_singleton.mpr ?_⟩⟩
    · refine ⟨[Bytes.ofString "the key\n"], Bytes.ofString "-----BEGIN A KEY-----\n",
        ["YQ==\n", "YWJj \n"].map Bytes.ofString, Bytes.ofString "-----END A KEY-----\n",
        rfl, ?_, ?_, ?_, ?_⟩
      · exact List.forall_mem_singleton.mpr ⟨_, rfl, by decide⟩
      · exact ⟨_, "A KEY".toList, ['\n'], rfl, rfl⟩
      · exact ⟨_, [[97], [97, 98, 99]],
          .cons ⟨rfl, by decide⟩ (.cons ⟨rfl, by decide⟩ .nil), by decide⟩
      · exact ⟨_, rfl, by decide⟩
    · refine ⟨[], Bytes.ofString "-----BEGIN CERTIFICATE-----\n", [],
        Bytes.ofString "-----END CERTIFICATE-----", rfl,
        fun _ member => absurd member List.not_mem_nil, ?_, ⟨[], [], .nil, rfl⟩, ?_⟩
      · exact ⟨_, "CERTIFICATE".toList, ['\n'], rfl, rfl⟩
      · exact ⟨_, rfl, by decide⟩
  exact ⟨splits, (pem_all_or_nothing _).1.all 2 (by decide) splits⟩

end ClusterSurvey.Redaction

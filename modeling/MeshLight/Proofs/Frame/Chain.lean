import MeshLight.Frame.Protection
import MeshLight.Proofs.Bytes
import MeshLight.Proofs.Cipher.Permutation

/-!
# The chain behind a check

A check takes its payload piece by piece, sixteen bytes at a time, and a last piece that is shorter
counts as if zeros stood behind it. So a check is a chain over the filled pieces, which starts from
the nonce and the length. Each link permutes the blocks, both as a map of what came before it and as
a map of its own piece. A single difference is therefore carried to the end of the chain, whether it
is in the start or in one of the pieces.

The start holds the length modulo 256 only. Payloads that are alike once they are filled up differ
by fewer than sixteen bytes, and that much is still seen.
-/

namespace MeshLight

open Cipher (Block encrypt encrypt_inj)

namespace Bytes

/-! ## Pieces -/

/-- A piece: sixteen bytes, fewer of them at the end, and none behind it. -/
def piece (number : Nat) (bytes : Bytes) : Bytes :=
  (bytes.drop (16 * number)).take 16

/-- How many pieces there are. -/
def pieceCount (bytes : Bytes) : Nat :=
  (bytes.length + 15) / 16

/-- The bytes with zeros behind them, up to the end of the last piece. -/
def filled (bytes : Bytes) : Bytes :=
  bytes ++ List.replicate (16 * bytes.pieceCount - bytes.length) 0

/-- The pieces as blocks, the last one filled up with zeros. -/
def blocks (bytes : Bytes) : List Block :=
  (List.range bytes.pieceCount).map fun number => fitted 16 (bytes.piece number)

/-- The first block and those of the rest. -/
theorem blocks_cons (first : UInt8) (rest : Bytes) :
    blocks (first :: rest) = fitted 16 (first :: rest.take 15) :: blocks (rest.drop 15) := by
  have count : pieceCount (first :: rest) = pieceCount (rest.drop 15) + 1 := by
    simp only [pieceCount, List.length_cons, List.length_drop]
    omega
  have later (number : Nat) : piece (number + 1) (first :: rest) = piece number (rest.drop 15) := by
    have place : 16 * (number + 1) = 15 + 16 * number + 1 := by omega
    rw [piece, piece, place, List.drop_succ_cons, List.drop_drop]
  have opening : piece 0 (first :: rest) = first :: rest.take 15 := rfl
  rw [blocks, count, List.range_succ_eq_map, List.map_cons, List.map_map, opening]
  simp only [Function.comp_def, later]
  rfl

/-- A filled piece has the bytes of the whole, as far as they go. -/
theorem fitted_piece (number : Nat) (bytes : Bytes) :
    fitted 16 (bytes.piece number) =
      Vector.ofFn fun index : Fin 16 => bytes.getD (16 * number + index.val) 0 := by
  unfold fitted piece
  congr 1
  funext index
  rw [List.getD_eq_getElem?_getD, List.getElem?_take_of_lt index.isLt, List.getElem?_drop,
    ← List.getD_eq_getElem?_getD]

/-- Bytes that are alike once they are filled up have the same blocks. -/
theorem blocks_congr {first second : Bytes} (count : first.pieceCount = second.pieceCount)
    (alike : first.filled = second.filled) : first.blocks = second.blocks := by
  have bytes (position : Nat) : first.getD position 0 = second.getD position 0 := by
    rw [← getD_zeros first, ← filled, alike, filled, getD_zeros]
  simp only [blocks, count, fitted_piece, bytes]

/-- A block by its number. -/
theorem getElem?_blocks (bytes : Bytes) (number : Nat) :
    bytes.blocks[number]? =
      if number < bytes.pieceCount then some (fitted 16 (bytes.piece number)) else none := by
  rw [blocks, List.getElem?_map]
  by_cases inside : number < bytes.pieceCount
  · rw [if_pos inside, List.getElem?_range inside, Option.map_some]
  · rw [if_neg inside, List.getElem?_eq_none (by simpa using inside), Option.map_none]

/-- Of bytes of one length, the blocks with a number are the same exactly if the pieces are. -/
theorem getElem?_blocks_inj {first second : Bytes} (length : first.length = second.length)
    (number : Nat) :
    first.blocks[number]? = second.blocks[number]? ↔ first.piece number = second.piece number := by
  have pieces : (first.piece number).length = (second.piece number).length := by
    simp only [piece, List.length_take, List.length_drop, length]
  have fits : (first.piece number).length ≤ 16 := List.length_take_le _ _
  have count : first.pieceCount = second.pieceCount := by rw [pieceCount, pieceCount, length]
  rw [getElem?_blocks, getElem?_blocks, count]
  by_cases inside : number < second.pieceCount
  · rw [if_pos inside, if_pos inside, Option.some_inj, fitted_inj pieces fits]
  · have beyond (bytes : Bytes) (same : bytes.length = second.length) :
        bytes.piece number = [] := by
      rw [pieceCount] at inside
      rw [piece, List.drop_eq_nil_of_le (by omega), List.take_nil]
    rw [if_neg inside, if_neg inside, beyond first length, beyond second rfl]
    exact ⟨fun _ => rfl, fun _ => rfl⟩

end Bytes

namespace Frame

/-! ## Links -/

/-- One link of the chain: the check so far takes in a block. -/
def absorb (key check block : Block) : Block :=
  encrypt key (check.exclusiveOr block)

/-- A link permutes what came before it. -/
theorem absorb_left_inj {key first second block : Block} :
    absorb key first block = absorb key second block ↔ first = second := by
  rw [absorb, absorb, encrypt_inj, Block.exclusiveOr_left_inj]

/-- A link permutes the blocks that it may take in. -/
theorem absorb_right_inj {key check first second : Block} :
    absorb key check first = absorb key check second ↔ first = second := by
  rw [absorb, absorb, encrypt_inj, Block.exclusiveOr_right_inj]

/-! ## Chains -/

/-- Links one after the other. -/
def chain (key start : Block) (blocks : List Block) : Block :=
  blocks.foldl (absorb key) start

/-- A link and then the others. -/
@[simp] theorem chain_cons (key start block : Block) (later : List Block) :
    chain key start (block :: later) = chain key (absorb key start block) later := rfl

/-- A chain permutes the blocks that it may start from. -/
theorem chain_start_inj {key first second : Block} (blocks : List Block) :
    chain key first blocks = chain key second blocks ↔ first = second := by
  induction blocks generalizing first second with
  | nil => rfl
  | cons block later inductionHypothesis =>
    rw [chain_cons, chain_cons, inductionHypothesis, absorb_left_inj]

/-- A chain tells apart blocks that differ in one place.

The induction is on the chain up to this place. There the two checks part, and behind it both go on
alike. -/
theorem chain_ne_of_single {key start : Block} {first second : List Block}
    (length : first.length = second.length) {number : Nat}
    (here : first[number]? ≠ second[number]?)
    (elsewhere : ∀ other, other ≠ number → first[other]? = second[other]?) :
    chain key start first ≠ chain key start second := by
  induction first generalizing second start number with
  | nil =>
    rw [List.eq_nil_of_length_eq_zero length.symm] at here
    exact absurd rfl here
  | cons block later inductionHypothesis =>
    cases second with
    | nil => cases length
    | cons other others =>
      have shorter : later.length = others.length := Nat.succ.inj length
      rw [chain_cons, chain_cons]
      cases number with
      | zero =>
        have parted : block ≠ other := fun same => here (congrArg some same)
        have alike : later = others := by
          apply List.ext_getElem?
          intro place
          exact elsewhere (place + 1) (Nat.succ_ne_zero place)
        rw [alike, ne_eq, chain_start_inj, absorb_right_inj]
        exact parted
      | succ number =>
        have same : block = other := Option.some.inj (elsewhere 0 (Nat.succ_ne_zero number).symm)
        rw [same]
        exact inductionHypothesis shorter here fun place another =>
          elsewhere (place + 1) fun equal => another (Nat.succ.inj equal)

/-! ## Checks -/

/-- A check goes on as a chain over the blocks of the payload. -/
theorem checkFrom_eq_chain (key start : Block) (payload : Bytes) :
    checkFrom key start payload = chain key start payload.blocks := by
  fun_induction checkFrom key start payload with
  | case1 start => rfl
  | case2 start first rest inductionHypothesis =>
    rw [Bytes.blocks_cons, chain_cons, inductionHypothesis]
    rfl

/-- A check is a chain that starts from the cipher of its first block. -/
theorem check_eq_chain (key : Block) (nonce : Nonce) (payload : Bytes) :
    check key nonce payload =
      chain key (encrypt key (checkSeed nonce payload.length)) payload.blocks :=
  checkFrom_eq_chain key _ payload

/-- The first block of a check holds the nonce and the length modulo 256. -/
theorem checkSeed_inj {first second : Nonce} {length other : Nat} :
    checkSeed first length = checkSeed second other ↔
      first = second ∧ length % 256 = other % 256 := by
  have sizes : (first.toList ++ [UInt8.ofNat length]).length =
      (second.toList ++ [UInt8.ofNat other]).length := by simp
  rw [checkSeed, checkSeed, Bytes.fitted_inj sizes (by simp)]
  constructor
  · intro same
    obtain ⟨nonces, lengths⟩ := List.append_inj same (by simp)
    have bytes := congrArg UInt8.toNat (List.head_eq_of_cons_eq lengths)
    exact ⟨Vector.toList_inj.mp nonces, by simpa using bytes⟩
  · rintro ⟨rfl, lengths⟩
    have bytes : UInt8.ofNat length = UInt8.ofNat other :=
      UInt8.toNat_inj.mp (by simpa using lengths)
    rw [bytes]

/-- Checks over payloads with the same blocks tell apart what they start from. -/
theorem check_inj {key : Block} {nonce other : Nonce} {first second : Bytes}
    (alike : first.blocks = second.blocks) :
    check key nonce first = check key other second ↔
      nonce = other ∧ first.length % 256 = second.length % 256 := by
  rw [check_eq_chain, check_eq_chain, alike, chain_start_inj, encrypt_inj, checkSeed_inj]

/-- What a check tells apart, for payloads of any length.

It tells apart the nonces of one payload. Under one nonce it tells apart payloads of one length that
differ in exactly one piece. It also tells apart payloads of different lengths that are alike once
their last pieces are filled up, so zeros at the end of a payload are seen, although the length is
kept modulo 256. -/
theorem checks_apart (key : Block) :
    (∀ (nonce other : Nonce) (payload : Bytes), nonce ≠ other →
      check key nonce payload ≠ check key other payload) ∧
    (∀ (nonce : Nonce) (first second : Bytes), first.length = second.length →
      (∃! number, first.piece number ≠ second.piece number) →
        check key nonce first ≠ check key nonce second) ∧
    ∀ (nonce : Nonce) (first second : Bytes), first.length ≠ second.length →
      first.pieceCount = second.pieceCount → first.filled = second.filled →
        check key nonce first ≠ check key nonce second := by
  refine ⟨?_, ?_, ?_⟩
  · intro nonce other payload different same
    exact different ((check_inj rfl).mp same).1
  · rintro nonce first second length ⟨number, here, only⟩
    have blocks : first.blocks.length = second.blocks.length := by
      simp [Bytes.blocks, Bytes.pieceCount, length]
    have elsewhere (other : Nat) (another : other ≠ number) :
        first.blocks[other]? = second.blocks[other]? := by
      rw [Bytes.getElem?_blocks_inj length]
      exact Decidable.not_not.mp fun different => another (only other different)
    rw [check_eq_chain, check_eq_chain, length]
    exact chain_ne_of_single blocks (mt (Bytes.getElem?_blocks_inj length number).mp here) elsewhere
  · intro nonce first second different count alike same
    have lengths := ((check_inj (Bytes.blocks_congr count alike)).mp same).2
    rw [Bytes.pieceCount, Bytes.pieceCount] at count
    omega

end Frame

end MeshLight

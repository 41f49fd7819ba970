import MeshLight.Proofs.Frame.Binding

/-!
# The blocks behind a command frame

For a command frame three blocks are enciphered: the start of the check, the link of the check that
takes in the payload, and the block of counter and nonce that covers the payload. The payload has
fifteen bytes, so there is one link and one block of keystream.

Nothing is set into the first and the last of these blocks to keep them apart. Both hold the nonce,
the start of the check from its first byte on and the counter block from its second. If one were the
other, the four bytes of the address in the nonce would each be the byte before, the first of them
the counter, and the one that follows them the last. So the counter would be one. A command frame
stays at the counter zero.
-/

namespace MeshLight

namespace Bytes

/-- If bytes are found again one place further on, then so is what follows them in front of them.
The induction carries the byte in front through the bytes, one by one. -/
theorem eq_of_shifted {before after : UInt8} {bytes behind rest : Bytes}
    (shifted : bytes ++ after :: behind = before :: (bytes ++ after :: rest)) : before = after := by
  induction bytes generalizing before with
  | nil => exact (List.head_eq_of_cons_eq shifted).symm
  | cons first later inductionHypothesis =>
    obtain ⟨same, tails⟩ := List.cons.inj shifted
    exact same.symm.trans (inductionHypothesis tails)

/-- A single piece is a single block. -/
theorem blocks_single {bytes : Bytes} (nonempty : bytes ≠ []) (fits : bytes.length ≤ 16) :
    bytes.blocks = [fitted 16 bytes] := by
  cases bytes with
  | nil => exact absurd rfl nonempty
  | cons first rest =>
    have short : rest.length ≤ 15 := Nat.le_of_succ_le_succ fits
    rw [blocks_cons, List.take_of_length_le short, List.drop_eq_nil_of_le short]
    rfl

end Bytes

namespace Frame

open Cipher (Block encrypt encrypt_inj)

/-- The keystream of a single block covers a single piece. -/
theorem cover_single (key : Block) (nonce : Nonce) {data : Bytes} (fits : data.length ≤ 16) :
    cover key nonce data =
      Bytes.exclusiveOr data (encrypt key (counterBlock nonce 0)).toList := by
  have first := cover_first key nonce data
  have whole : (cover key nonce data).length ≤ 16 := by rwa [length_cover]
  rwa [List.take_of_length_le whole, List.take_of_length_le fits] at first

/-- The block that starts the check of a command frame: its nonce and the length of its payload. -/
def commandSeed (address : Address) (sequence : Sequence) : Block :=
  checkSeed (commandNonce address sequence) 15

/-- The block whose cipher covers the payload of a command frame. -/
def commandCounter (address : Address) (sequence : Sequence) : Block :=
  counterBlock (commandNonce address sequence) 0

/-- A command frame is made with the ciphers of these two blocks and of the link between the first
of them and the payload. -/
theorem encodeCommand_eq (key : SessionKey) (address : Address) (sequence : Sequence)
    (destination : UInt16) (opcode : UInt8) {data : Bytes}
    (fits : data.length ≤ commandDataLimit) :
    let payload := commandPayload destination opcode data
    encodeCommand key address sequence destination opcode data =
      .ok (sequence.toList
        ++ (absorb key.block (encrypt key.block (commandSeed address sequence))
            (Bytes.fitted 16 payload)).toList.take 2
        ++ Bytes.exclusiveOr payload
            (encrypt key.block (commandCounter address sequence)).toList) := by
  intro payload
  have fifteen : payload.length = 15 := by
    simp [payload, commandPayload, Bytes.ofWord, commandDataLimit]
  have single : payload.blocks = [Bytes.fitted 16 payload] :=
    Bytes.blocks_single (List.ne_nil_of_length_eq_add_one fifteen) (by omega)
  have encoded : encodeCommand key address sequence destination opcode data =
      .ok (sequence.toList
        ++ (check key.block (commandNonce address sequence) payload).toList.take 2
        ++ cover key.block (commandNonce address sequence) payload) := if_pos fits
  rw [encoded, check_eq_chain, single, fifteen, cover_single key.block _ (by omega)]
  rfl

/-- The bytes of the nonce of a command frame. -/
theorem commandNonce_toList (address : Address) (sequence : Sequence) :
    (commandNonce address sequence).toList =
      address.airOrder.toList.take 4 ++ 0x01 :: sequence.toList := by
  rw [commandNonce, Bytes.fitted_toList 8 _ (by simp), List.take_of_length_le (by simp)]

/-- Of one light, the start of a check is a counter block at most for the counter one. For that it
may be one, if the address ends in four ones. -/
theorem counter_of_seed {address : Address} {sequence other : Sequence} {length : Nat}
    {counter : UInt8}
    (same : checkSeed (commandNonce address sequence) length =
      counterBlock (commandNonce address other) counter) : counter = 1 := by
  rw [checkSeed, counterBlock, Bytes.fitted_inj (by simp) (by simp), commandNonce_toList,
    commandNonce_toList, List.append_assoc, List.cons_append] at same
  exact Bytes.eq_of_shifted same

/-- The start of a check is never the block of a keystream. -/
theorem commandSeed_ne_commandCounter (address : Address) (sequence other : Sequence) :
    commandSeed address sequence ≠ commandCounter address other := by
  intro same
  have impossible : (0 : UInt8) = 1 := counter_of_seed same
  exact absurd impossible (by decide)

/-- The start of a check holds the number of the frame. -/
theorem commandSeed_inj {address : Address} {sequence other : Sequence} :
    commandSeed address sequence = commandSeed address other ↔ sequence = other := by
  rw [commandSeed, commandSeed, checkSeed_inj, commandNonce_inj]
  simp

/-- So does the block of a keystream. -/
theorem commandCounter_inj {address : Address} {sequence other : Sequence} :
    commandCounter address sequence = commandCounter address other ↔ sequence = other := by
  rw [commandCounter, commandCounter, counterBlock_inj, commandNonce_inj]
  simp

/-- The command frames of one session use no block twice.

A frame comes from the start of its check and from one block of keystream as written here. The start
of the check of one frame is never the block of keystream of a frame, be it the same or another one.
Frames with different numbers have different starts and different blocks of keystream, so two frames
have the same keystream only if they have the same number. Compared are whole blocks; the last byte
of a block of keystream covers nothing. -/
theorem commandBlocks_apart (key : SessionKey) (address : Address) :
    (∀ (sequence : Sequence) (destination : UInt16) (opcode : UInt8) (data frame : Bytes),
      encodeCommand key address sequence destination opcode data = .ok frame →
        let payload := commandPayload destination opcode data
        frame = sequence.toList
          ++ (absorb key.block (encrypt key.block (commandSeed address sequence))
              (Bytes.fitted 16 payload)).toList.take 2
          ++ Bytes.exclusiveOr payload
              (encrypt key.block (commandCounter address sequence)).toList) ∧
    (∀ sequence other : Sequence,
      commandSeed address sequence ≠ commandCounter address other) ∧
    (∀ sequence other : Sequence, sequence ≠ other →
      commandSeed address sequence ≠ commandSeed address other ∧
        commandCounter address sequence ≠ commandCounter address other) ∧
    ∀ sequence other : Sequence,
      encrypt key.block (commandCounter address sequence) =
          encrypt key.block (commandCounter address other) ↔ sequence = other := by
  refine ⟨?_, commandSeed_ne_commandCounter address, ?_, ?_⟩
  · intro sequence destination opcode data frame encoded
    by_cases fits : data.length ≤ commandDataLimit
    · rw [encodeCommand_eq key address sequence destination opcode fits] at encoded
      exact (Except.ok.inj encoded).symm
    · rw [encodeCommand, if_neg fits] at encoded
      cases encoded
  · intro sequence other different
    exact ⟨mt commandSeed_inj.mp different, mt commandCounter_inj.mp different⟩
  · intro sequence other
    rw [encrypt_inj, commandCounter_inj]

end Frame

end MeshLight

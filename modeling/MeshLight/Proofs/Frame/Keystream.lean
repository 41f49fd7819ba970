import MeshLight.Proofs.Frame.Binding
import MeshLight.Proofs.Frame.Protection

/-!
# The pad

Covering goes through the data block by block and counts the blocks with a byte. Read by position,
each byte of the data is added to the byte at its place in a pad that does not depend on the data:
the ciphers of the numbered blocks, one after the other. So what covers the beginning of the data is
the beginning of what covers all of it.

The numbers count modulo 256, and blocks with different counters have different ciphers. So the pad
repeats after 256 blocks, which are 4096 bytes, and not before. Any other period, doubled again and
again, would come to a period that leaves 2048 modulo 4096, and then the block numbered 128 would be
the first one again.
-/

namespace MeshLight.Frame

open Cipher (Block encrypt encrypt_inj)

/-- The block with a number: the number modulo 256, the nonce, zeros. -/
def numberedBlock (nonce : Nonce) (number : Nat) : Block :=
  #v[UInt8.ofNat (number % 256)] ++ nonce ++ Vector.replicate 7 (0 : UInt8)

/-- Every position has a place in its block. -/
theorem place_lt (position : Nat) : position % 16 < 16 :=
  Nat.mod_lt position (by decide)

/-- The pad: the ciphers of the numbered blocks, one after the other. -/
def pad (key : Block) (nonce : Nonce) (position : Nat) : UInt8 :=
  (encrypt key (numberedBlock nonce (position / 16))).get ⟨position % 16, place_lt position⟩

/-- The bytes of a numbered block. -/
theorem toList_numberedBlock (nonce : Nonce) (number : Nat) :
    (numberedBlock nonce number).toList =
      UInt8.ofNat (number % 256) :: nonce.toList ++ List.replicate 7 0 := by
  change (#v[UInt8.ofNat (number % 256)] ++ nonce ++ Vector.replicate 7 0 :
    Vector UInt8 (1 + 8 + 7)).toList = _
  rw [Vector.toList_append, Vector.toList_append, Vector.toList_replicate]
  rfl

/-- The counter stands for the number modulo 256. -/
theorem counterBlock_ofNat (nonce : Nonce) (number : Nat) :
    counterBlock nonce (UInt8.ofNat number) = numberedBlock nonce number := by
  have counter : UInt8.ofNat (number % 256) = UInt8.ofNat number := UInt8.ofNat_mod_size
  apply Vector.toList_inj.mp
  rw [toList_numberedBlock, counter, counterBlock, Bytes.fitted_toList_filled 16 _ (by simp),
    List.length_cons, Vector.length_toList]

variable (key : Block) (nonce : Nonce)

/-- The pad is the keystream that is counted from the block zero on. -/
theorem padAt_zero (position : Nat) : padAt key nonce 0 position = pad key nonce position := by
  have inside := place_lt position
  rw [padAt, UInt8.zero_add, counterBlock_ofNat, pad, List.getD_eq_getElem?_getD]
  simp [inside, Vector.get]

/-- Each byte is added to the one at its position in the pad. -/
theorem getElem?_cover (data : Bytes) (position : Nat) :
    (cover key nonce data)[position]? = data[position]?.map (· ^^^ pad key nonce position) := by
  rw [cover, getElem?_coverFrom, padAt_zero]

/-- What covers the beginning of the data is the beginning of what covers the data. -/
theorem cover_take (data : Bytes) (size : Nat) :
    cover key nonce (data.take size) = (cover key nonce data).take size := by
  apply List.ext_getElem?
  intro position
  rw [getElem?_cover]
  by_cases early : position < size
  · rw [List.getElem?_take_of_lt early, List.getElem?_take_of_lt early, getElem?_cover]
  · have late := Nat.le_of_not_lt early
    rw [List.getElem?_take_eq_none late, List.getElem?_take_eq_none late]
    rfl

/-- Blocks are the same exactly if their numbers are the same modulo 256. -/
theorem numberedBlock_inj {nonce : Nonce} {number other : Nat} :
    numberedBlock nonce number = numberedBlock nonce other ↔ number % 256 = other % 256 := by
  rw [← counterBlock_ofNat, ← counterBlock_ofNat, counterBlock_inj, ← UInt8.toNat_inj]
  simp

/-! ## Periods -/

/-- The pad depends on the position modulo 4096 only. -/
theorem pad_mod (position : Nat) : pad key nonce (position % 4096) = pad key nonce position := by
  have block :
      numberedBlock nonce (position % 4096 / 16) = numberedBlock nonce (position / 16) := by
    rw [numberedBlock_inj]
    omega
  have place : position % 4096 % 16 = position % 16 := by omega
  simp only [pad, block, place]

/-- Blocks of the pad are the same exactly if their numbers are the same modulo 256. -/
theorem padBlock_inj {key : Block} {nonce : Nonce} {number other : Nat} :
    encrypt key (numberedBlock nonce number) = encrypt key (numberedBlock nonce other) ↔
      number % 256 = other % 256 := by
  rw [encrypt_inj, numberedBlock_inj]

/-- The pad is not the same again after half of the blocks. -/
theorem not_periodic_half :
    ¬ ∀ position, pad key nonce (position + 2048) = pad key nonce position := by
  intro repeats
  have same : encrypt key (numberedBlock nonce 128) = encrypt key (numberedBlock nonce 0) := by
    apply Block.ext_get
    intro place
    have bound := place.isLt
    have block : (place.val + 2048) / 16 = 128 := by omega
    have offset : (place.val + 2048) % 16 = place.val := by omega
    have first : place.val / 16 = 0 := by omega
    have start : place.val % 16 = place.val := by omega
    simpa only [pad, block, offset, first, start] using repeats place.val
  have impossible : 128 % 256 = 0 % 256 := padBlock_inj.mp same
  exact absurd impossible (by decide)

/-- A period is a multiple of 4096 if it becomes one by doubling.

The induction is on the doublings. The double of a period is a period too, so it is a multiple of
4096, and a number of which only the double is one leaves 2048. -/
theorem dvd_of_periodic (doublings : Nat) {period : Nat} (doubled : 4096 ∣ period * 2 ^ doublings)
    (repeats : ∀ position, pad key nonce (position + period) = pad key nonce position) :
    4096 ∣ period := by
  induction doublings generalizing period with
  | zero => rwa [Nat.pow_zero, Nat.mul_one] at doubled
  | succ doublings inductionHypothesis =>
    have twice : 4096 ∣ period * 2 := by
      apply inductionHypothesis
      · rwa [Nat.mul_assoc, ← Nat.pow_succ']
      · intro position
        rw [Nat.mul_two, ← Nat.add_assoc, repeats, repeats]
    by_contra apart
    apply not_periodic_half key nonce
    intro position
    have half : (position + period) % 4096 = (position + 2048) % 4096 := by omega
    rw [← pad_mod, ← half, pad_mod, repeats]

/-- The periods of the pad are the multiples of 4096. -/
theorem pad_periodic_iff (period : Nat) :
    (∀ position, pad key nonce (position + period) = pad key nonce position) ↔ 4096 ∣ period := by
  constructor
  · exact dvd_of_periodic key nonce 12 (Nat.dvd_mul_left 4096 period)
  · rintro ⟨rounds, rfl⟩ position
    rw [← pad_mod, Nat.add_mul_mod_self_left, pad_mod]

/-- The keystream by position, for data of every length.

Covering keeps the length and adds to each byte the one at its position in the pad. So doing it
twice gives the data back, and the beginning of the data is covered like the beginning of all of it.
Of the blocks of the pad no two are the same among the first 256, from then on they come again, and
the pad has no period but 4096 bytes and the multiples of it. -/
theorem keystream_positional (key : Block) (nonce : Nonce) :
    (∀ data : Bytes,
      (cover key nonce data).length = data.length ∧
      (∀ position, (cover key nonce data)[position]? =
        data[position]?.map (· ^^^ pad key nonce position)) ∧
      cover key nonce (cover key nonce data) = data ∧
      ∀ size, cover key nonce (data.take size) = (cover key nonce data).take size) ∧
    (∀ number other : Nat,
      encrypt key (numberedBlock nonce number) = encrypt key (numberedBlock nonce other) ↔
        number % 256 = other % 256) ∧
    ∀ period,
      (∀ position, pad key nonce (position + period) = pad key nonce position) ↔
        4096 ∣ period := by
  refine ⟨?_, ?_, ?_⟩
  · intro data
    exact ⟨length_cover key nonce data, getElem?_cover key nonce data, cover_cover key nonce data,
      cover_take key nonce data⟩
  · intro number other
    exact padBlock_inj
  · exact pad_periodic_iff key nonce

end MeshLight.Frame

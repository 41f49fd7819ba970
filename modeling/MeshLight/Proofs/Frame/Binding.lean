import MeshLight.Frame.Notification
import MeshLight.Proofs.Frame.Chain
import MeshLight.Proofs.Frame.Protection

/-!
# What a frame is bound to

Of the address of its light a command frame has the last four bytes in its nonce, and a notification
has the last three. The rest of the address is not looked at. So lights that agree in these bytes
build and read the same frames under one key. For lights that differ in them, every check and the
beginning of every keystream differ as a whole; the two bytes of a check that a frame carries may
still agree by chance.
-/

namespace MeshLight

namespace Address

/-- The last bytes of an address, so many of them. -/
def ending (size : Nat) (address : Address) : Bytes :=
  address.bytes.toList.drop (6 - size)

/-- The first bytes of the air order are the last ones of the address. -/
theorem airOrder_take_inj {first second : Address} {size : Nat} :
    first.airOrder.toList.take size = second.airOrder.toList.take size ↔
      first.ending size = second.ending size := by
  have turned (address : Address) :
      address.airOrder.toList.take size = (address.ending size).reverse := by
    rw [airOrder, Vector.toList_reverse, List.take_reverse, Vector.length_toList, ending]
  rw [turned, turned, List.reverse_inj]

end Address

namespace Frame

open Cipher (encrypt encrypt_inj)

/-- The first block of a keystream holds the counter and the nonce. -/
theorem counterBlock_inj {first second : Nonce} {counter other : UInt8} :
    counterBlock first counter = counterBlock second other ↔ first = second ∧ counter = other := by
  rw [counterBlock, counterBlock, Bytes.fitted_inj (by simp) (by simp), List.cons_eq_cons,
    Vector.toList_inj, and_comm]

/-- The nonce of a command frame holds the last four bytes of the address and the number. -/
theorem commandNonce_inj {first second : Address} {sequence other : Sequence} :
    commandNonce first sequence = commandNonce second other ↔
      first.ending 4 = second.ending 4 ∧ sequence = other := by
  rw [commandNonce, commandNonce, Bytes.fitted_inj (by simp) (by simp),
    List.append_eq_append_iff_of_size_eq_left (by simp), Address.airOrder_take_inj,
    List.cons_inj_right, Vector.toList_inj]

/-- The nonce of a notification holds the last three bytes of the address and the header. -/
theorem notificationNonce_inj {first second : Address} {header other : Bytes}
    (length : header.length = other.length) :
    notificationNonce first header = notificationNonce second other ↔
      first.ending 3 = second.ending 3 ∧ header.take 5 = other.take 5 := by
  have fits : (first.airOrder.toList.take 3 ++ header.take 5).length ≤ 8 := by
    simp
    omega
  rw [notificationNonce, notificationNonce, Bytes.fitted_inj (by simp [length]) fits,
    List.append_eq_append_iff_of_size_eq_left (by simp), Address.airOrder_take_inj]

/-- Two nonces start checks and keystreams that differ, whatever the payload. -/
theorem starts_apart {key : Cipher.Block} {nonce other : Nonce} (different : nonce ≠ other)
    (payload : Bytes) :
    check key nonce payload ≠ check key other payload ∧
      encrypt key (counterBlock nonce 0) ≠ encrypt key (counterBlock other 0) :=
  ⟨fun same => different ((check_inj rfl).mp same).1,
    fun same => different (counterBlock_inj.mp (encrypt_inj.mp same)).1⟩

/-- What a frame is bound to under a key.

Lights whose addresses end in the same four bytes build the same command frames and read them alike,
errors included. So it is with notifications if the last three bytes are the same. If these bytes
differ, then so do the whole checks of every payload and the first blocks of the keystreams, under
every number or header. The first block of a keystream is what covers the first sixteen bytes. -/
theorem frames_bound (key : SessionKey) (first second : Address) :
    (first.ending 4 = second.ending 4 →
      encodeCommand key first = encodeCommand key second ∧
        decodeCommand key first = decodeCommand key second) ∧
    (first.ending 3 = second.ending 3 →
      encodeNotification key first = encodeNotification key second ∧
        decodeNotification key first = decodeNotification key second) ∧
    (first.ending 4 ≠ second.ending 4 → ∀ sequence payload,
      let nonce := commandNonce first sequence
      let other := commandNonce second sequence
      check key.block nonce payload ≠ check key.block other payload ∧
        encrypt key.block (counterBlock nonce 0) ≠ encrypt key.block (counterBlock other 0)) ∧
    (first.ending 3 ≠ second.ending 3 → ∀ header payload,
      let nonce := notificationNonce first header
      let other := notificationNonce second header
      check key.block nonce payload ≠ check key.block other payload ∧
        encrypt key.block (counterBlock nonce 0) ≠ encrypt key.block (counterBlock other 0)) ∧
    ∀ nonce payload, (cover key.block nonce payload).take 16 =
      Bytes.exclusiveOr (payload.take 16) (encrypt key.block (counterBlock nonce 0)).toList := by
  refine ⟨fun same => ?_, fun same => ?_, fun different sequence payload => ?_,
    fun different header payload => ?_, cover_first key.block⟩
  · have nonces (sequence : Sequence) :
        commandNonce first sequence = commandNonce second sequence :=
      commandNonce_inj.mpr ⟨same, rfl⟩
    constructor
    · funext sequence destination opcode data
      rw [encodeCommand, encodeCommand, nonces]
    · funext frame
      simp only [decodeCommand, nonces]
  · have nonces (header : Bytes) :
        notificationNonce first header = notificationNonce second header :=
      (notificationNonce_inj rfl).mpr ⟨same, rfl⟩
    constructor
    · funext sequence source payload
      simp only [encodeNotification, nonces]
    · funext frame
      simp only [decodeNotification, nonces]
  · exact starts_apart (fun same => different (commandNonce_inj.mp same).1) payload
  · exact starts_apart (fun same => different ((notificationNonce_inj rfl).mp same).1) payload

end Frame

end MeshLight

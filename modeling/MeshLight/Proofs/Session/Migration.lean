import MeshLight.Proofs.Frame.MeshUpdate
import MeshLight.Session.Migration

/-!
# The frames of a move

Credentials always fit into their fields, so only the long-term key can be refused.
-/

namespace MeshLight.Session.Controller

/-- The values of a move with the fields that they replace, in the order of their frames. -/
def migrationValues (target : Credentials) (longTermKey : Bytes) : List (MeshField × Bytes) :=
  [(.name, Bytes.ofText target.name), (.password, Bytes.ofText target.password),
    (.longTermKey, longTermKey)]

/-- The long-term key decides whether a move has its frames. -/
theorem migrationFrames_eq (key : SessionKey) (target : Credentials) (longTermKey : Bytes) :
    migrationFrames key target longTermKey =
      (Frame.encodeMeshUpdate key .longTermKey longTermKey).map fun longTerm =>
        [Frame.updateFrame key .name (Bytes.ofText target.name),
          Frame.updateFrame key .password (Bytes.ofText target.password), longTerm] := by
  unfold migrationFrames
  rw [Frame.encodeMeshUpdate_ok target.name_fits, Frame.encodeMeshUpdate_ok target.password_fits]
  cases Frame.encodeMeshUpdate key .longTermKey longTermKey <;> rfl

/-- A long-term key that does not fit is the fault of a move. -/
theorem migrationFrames_tooLong (key : SessionKey) (target : Credentials) {longTermKey : Bytes}
    (long : fieldLimit < longTermKey.length) :
    migrationFrames key target longTermKey =
      .error (.credentialTooLong "long-term key" longTermKey.length fieldLimit) := by
  rw [migrationFrames_eq, Frame.encodeMeshUpdate, checkField, if_neg (Nat.not_le_of_lt long)]
  rfl

/-- A move has its frames exactly if its long-term key fits. -/
theorem migrationFrames_ok_iff {key : SessionKey} {target : Credentials} {longTermKey : Bytes}
    {frames : List Bytes} :
    migrationFrames key target longTermKey = .ok frames ↔
      longTermKey.length ≤ fieldLimit ∧
        frames = (migrationValues target longTermKey).map fun entry =>
          Frame.updateFrame key entry.1 entry.2 := by
  rw [migrationFrames_eq]
  by_cases fits : longTermKey.length ≤ fieldLimit
  · rw [Frame.encodeMeshUpdate_ok fits]
    simp [Except.map, fits, migrationValues, eq_comm]
  · have refused : ∀ longTerm,
        Frame.encodeMeshUpdate key .longTermKey longTermKey ≠ .ok longTerm :=
      fun longTerm made => fits (Frame.encodeMeshUpdate_ok_iff.mp made).1
    cases encoded : Frame.encodeMeshUpdate key .longTermKey longTermKey with
    | error fault => simp [Except.map, fits]
    | ok longTerm => exact absurd encoded (refused longTerm)

end MeshLight.Session.Controller

import MeshLight.Proofs.Bulb.Calm
import MeshLight.Proofs.Frame.MeshUpdate
import MeshLight.Proofs.Text.Lossy

/-!
# A bulb that is moved

The three frames of a move, written to a bulb in calm that holds their key, give it new credentials.
It fills its fields up with zeros and reads a field up to the first zero, so what it keeps of a text
is the text before its first zero. The secret survives that if a text has its zeros at its end.
-/

namespace MeshLight

namespace Credentials

/-- A text that fits still does when it is cut. -/
theorem untilZero_fits {content : String} (fits : (Bytes.ofText content).length ≤ fieldLimit) :
    (Bytes.ofText (Lossy.untilZero content)).length ≤ fieldLimit := by
  have cut := Lossy.takeWhile_ofText content 0
  rw [List.replicate_zero, List.append_nil] at cut
  rw [← cut]
  exact Nat.le_trans (List.takeWhile_prefix _).length_le fits

/-- What a light keeps of credentials. -/
def kept (credentials : Credentials) : Credentials where
  name := Lossy.untilZero credentials.name
  password := Lossy.untilZero credentials.password
  name_fits := untilZero_fits credentials.name_fits
  password_fits := untilZero_fits credentials.password_fits

/-- The secret survives if the texts have their zeros at their ends. -/
theorem secret_kept {credentials : Credentials} (name : Lossy.ZerosLast credentials.name)
    (password : Lossy.ZerosLast credentials.password) :
    credentials.kept.secret = credentials.secret := by
  obtain ⟨_, nameIs⟩ := Lossy.ofText_untilZero name
  obtain ⟨_, passwordIs⟩ := Lossy.ofText_untilZero password
  rw [secret, secret, nameIs, passwordIs, Bytes.fitted_zeros, Bytes.fitted_zeros]
  rfl

/-- Texts that fit are credentials. -/
theorem make_eq (credentials : Credentials) :
    make credentials.name credentials.password = .ok credentials := by
  simp only [make, dif_pos credentials.name_fits, dif_pos credentials.password_fits]

end Credentials

namespace Bulb

/-- A field is read up to its first zero. -/
theorem fieldText_fitted {content : String}
    (fits : (Bytes.ofText content).length ≤ fieldLimit) :
    fieldText (Bytes.fitted 16 (Bytes.ofText content)) = Lossy.untilZero content := by
  rw [fieldText, Bytes.fitted_toList_filled 16 _ fits, Lossy.takeWhile_ofText, Lossy.text_ofText]

/-- Fields that hold credentials are taken over. -/
theorem adopt_fitted (target : Credentials) (bulb : Bulb) (willing : bulb.faults = {}) :
    bulb.adopt (Bytes.fitted 16 (Bytes.ofText target.name))
        (Bytes.fitted 16 (Bytes.ofText target.password)) =
      { bulb with
        credentials := target.kept
        pairResponse := some [Frame.meshAcceptedTag] } := by
  have made : Credentials.make (Lossy.untilZero target.name) (Lossy.untilZero target.password) =
      .ok target.kept := target.kept.make_eq
  simp only [adopt, willing, fieldText_fitted target.name_fits,
    fieldText_fitted target.password_fits, made]
  rfl

/-- A value under the key of the bulb is staged. -/
theorem taking_updateFrame {key : SessionKey} (bulb : Bulb) (held : bulb.key = some key)
    (field : MeshField) (value : Bytes) :
    bulb.taking .pairing (Frame.updateFrame key field value) =
      bulb.countWrite.stageField field (Bytes.fitted 16 value) := by
  have asks : (Frame.updateFrame key field value).head? ≠ some Frame.pairRequestTag := by
    cases field <;> simp [Frame.updateFrame, MeshField.tag, Frame.pairRequestTag]
  have keyed : bulb.countWrite.key = some key := held
  simp only [taking, writePairing, if_neg asks, keyed, Frame.decodeMeshUpdate_updateFrame]

/-- The bulb behind the frames of a move. -/
def moved (target : Credentials) (bulb : Bulb) : Bulb :=
  { bulb.countWrite.countWrite.countWrite with
    credentials := target.kept
    pairResponse := some [Frame.meshAcceptedTag] }

/-- The third frame of a move completes it. -/
theorem taking_move {key : SessionKey} {bulb : Bulb} (held : bulb.key = some key)
    (fresh : bulb.stage = {}) (willing : bulb.faults = {}) (target : Credentials)
    (longTermKey : Bytes) :
    ((bulb.taking .pairing (Frame.updateFrame key .name (Bytes.ofText target.name))).taking .pairing
        (Frame.updateFrame key .password (Bytes.ofText target.password))).taking .pairing
          (Frame.updateFrame key .longTermKey longTermKey) = bulb.moved target := by
  let named : Bulb :=
    { bulb.countWrite with
      stage := { name := some (Bytes.fitted 16 (Bytes.ofText target.name)) } }
  let guarded : Bulb :=
    { named.countWrite with
      stage := { named.stage with
        password := some (Bytes.fitted 16 (Bytes.ofText target.password)) } }
  have name : bulb.taking .pairing (Frame.updateFrame key .name (Bytes.ofText target.name)) =
      named := by
    rw [taking_updateFrame bulb held]
    simp only [stageField, countWrite, fresh, Stage.add]
    rfl
  have password : named.taking .pairing
      (Frame.updateFrame key .password (Bytes.ofText target.password)) = guarded :=
    taking_updateFrame named held _ _
  have adopted := adopt_fitted target { guarded.countWrite with stage := {} } willing
  rw [name, password, taking_updateFrame guarded held]
  refine adopted.trans ?_
  simp only [moved, guarded, named, countWrite, fresh]

end Bulb

end MeshLight

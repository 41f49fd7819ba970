import MeshLight.Proofs.Bulb.Calm
import MeshLight.Proofs.Frame.MeshUpdate

/-!
# The chronicle of a bulb

Anybody may write any bytes to a bulb, read from it, take its link down, bring it up and put faults
in force, in any order. The chronicle keeps, beside the bulb, the writes that it took, and from them
says what the bulb is entitled to have: a key only while the link is up, staged fields only from
frames under its key, other credentials only by a complete update, another light only by a command
under its key.

The link takes key and answer with it when it goes down, but not the stage. Fields of two sessions
are kept apart all the same: a field is staged only under a key, a key comes only from a pair
request, and a pair request empties the stage. The invariant therefore speaks of the stage only
while there is a key, and of the values since the latest pair request.
-/

namespace MeshLight

/-- What the stage holds of a field. -/
def Stage.block? (stage : Stage) : MeshField → Option Cipher.Block
  | .name => stage.name
  | .password => stage.password
  | .longTermKey => stage.longTermKey

/-- A field that arrived is staged, and the others stay as they were. -/
theorem Stage.block?_add (field other : MeshField) (block : Cipher.Block) (stage : Stage) :
    (stage.add field block).block? other =
      if field = other then some block else stage.block? other := by
  cases field <;> cases other <;> rfl

/-- What is staged arrived just now, or was staged before. -/
theorem Stage.add_block? {field other : MeshField} {block found : Cipher.Block} {stage : Stage}
    (staged : (stage.add field block).block? other = some found) :
    (other = field ∧ found = block) ∨ stage.block? other = some found := by
  rw [Stage.block?_add] at staged
  split at staged
  · rename_i same
    exact .inl ⟨same.symm, (Option.some.inj staged).symm⟩
  · exact .inr staged

namespace Bulb

open Link (Characteristic Report)

/-- The bulb takes what is written to it. -/
def accepts (bulb : Bulb) : Bool :=
  bulb.connected && !bulb.faults.dropWrites && bulb.faults.failWrites.isNone

/-- A write that the bulb takes. -/
theorem write_taken {bulb : Bulb} (accepts : bulb.accepts = true) (characteristic : Characteristic)
    (value : Bytes) : (bulb.write characteristic value).2 = bulb.taking characteristic value := by
  obtain ⟨⟨connected, dropped⟩, failed⟩ :
      (bulb.connected = true ∧ bulb.faults.dropWrites = false) ∧ bulb.faults.failWrites = none := by
    simpa [Bulb.accepts] using accepts
  cases characteristic <;> simp [Bulb.write, connected, dropped, failed, taking]

/-- A write that it does not take is only counted. -/
theorem write_ignored {bulb : Bulb} (refuses : ¬bulb.accepts = true)
    (characteristic : Characteristic) (value : Bytes) :
    (bulb.write characteristic value).2 = bulb.countWrite := by
  unfold write
  split
  · rfl
  · split
    · rfl
    · split
      · rename_i kept _ unfailed connected
        simp [accepts, kept, unfailed, connected] at refuses
      · rfl

/-- Something that is done to a bulb. -/
inductive Deed where
  | write (characteristic : Characteristic) (value : Bytes)
  | read (characteristic : Characteristic)
  | disconnect
  | connect
  | setFaults (faults : Faults)
  deriving Repr, DecidableEq

namespace Deed

/-- The bulb behind a deed. -/
def apply : Deed → Bulb → Bulb
  | .write characteristic value, bulb => (bulb.write characteristic value).2
  | .read characteristic, bulb => (bulb.read characteristic).2
  | .disconnect, bulb => bulb.disconnect
  | .connect, bulb => bulb.connect
  | .setFaults faults, bulb => bulb.setFaults faults

/-- The write that the bulb took, if the deed was one. -/
def taken : Deed → Bulb → Option (Characteristic × Bytes)
  | .write characteristic value, bulb => if bulb.accepts then some (characteristic, value) else none
  | _, _ => none

end Deed

/-- A bulb and the writes that it took, first one first. -/
structure Chronicle where
  bulb : Bulb
  writes : List (Characteristic × Bytes) := []

namespace Chronicle

/-- The chronicle behind a deed. -/
def next (deed : Deed) (chronicle : Chronicle) : Chronicle :=
  { bulb := deed.apply chronicle.bulb
    writes := chronicle.writes ++ (deed.taken chronicle.bulb).toList }

/-- The chronicle of a new bulb behind deeds, first one first. -/
def ofDeeds (settings : BulbSettings) (deeds : List Deed) : Chronicle :=
  deeds.foldl (fun chronicle deed => chronicle.next deed) { bulb := ofSettings settings }

/-- The values since the latest pair request, once another write was taken. -/
def note (values : Option (List Bytes)) : Characteristic × Bytes → Option (List Bytes)
  | (.pairing, value) =>
    if value.head? = some Frame.pairRequestTag then some [] else values.map (· ++ [value])
  | _ => values

/-- The values written to the pairing endpoint since the latest pair request, if there was one. -/
def sinceRequest (chronicle : Chronicle) : Option (List Bytes) :=
  chronicle.writes.foldl note none

/-- A block came as a field in an update frame under a key, since the latest pair request. -/
def Brought (chronicle : Chronicle) (key : SessionKey) (field : MeshField) (block : Cipher.Block) :
    Prop :=
  ∃ values body, chronicle.sinceRequest = some values ∧ field.tag :: body ∈ values ∧
    body.length = 16 ∧ block = Cipher.decrypt key.block (Bytes.fitted 16 body)

/-- How many writes to the command endpoint were taken. -/
def commandWrites (chronicle : Chronicle) : Nat :=
  chronicle.writes.countP (·.1 = .command)

/-- What a bulb built from some settings is entitled to have. A key or an answer that waits needs
the link, a key needs a pair request, and what is staged came under the key. The address and the
mesh id stay, white brightness stays on its scale, and every command frame was applied or
ignored. -/
structure Entitled (settings : BulbSettings) (chronicle : Chronicle) : Prop where
  linked : chronicle.bulb.key.isSome ∨ chronicle.bulb.pairResponse.isSome →
    chronicle.bulb.connected = true
  requested : chronicle.bulb.key.isSome → chronicle.sinceRequest.isSome
  staged : ∀ key field block, chronicle.bulb.key = some key →
    chronicle.bulb.stage.block? field = some block → chronicle.Brought key field block
  address : chronicle.bulb.address = settings.address
  meshId : chronicle.bulb.light.meshId = settings.meshId
  whiteBrightness : chronicle.bulb.light.whiteBrightness ≤ Light.whiteBrightnessLimit
  commands : chronicle.bulb.statistics.commandsApplied +
    chronicle.bulb.statistics.commandsRejected = chronicle.commandWrites

/-- The deed completed an update with fields that came under the key since the latest pair
request. -/
def Completes (deed : Deed) (chronicle : Chronicle) : Prop :=
  ∃ value key field block name password longTermKey,
    deed = .write .pairing value ∧ chronicle.bulb.accepts = true ∧
    chronicle.bulb.faults.rejectMeshUpdate = false ∧ chronicle.bulb.key = some key ∧
    Frame.decodeMeshUpdate key value = .ok (field, block) ∧
    chronicle.bulb.stage.add field block = ⟨some name, some password, some longTermKey⟩ ∧
    (chronicle.next deed).Brought key .name name ∧
    (chronicle.next deed).Brought key .password password ∧
    (chronicle.next deed).Brought key .longTermKey longTermKey ∧
    Credentials.make (fieldText name) (fieldText password) =
      .ok (chronicle.next deed).bulb.credentials

/-- The deed wrote a command frame under the key, and the bulb obeyed. -/
def Commands (deed : Deed) (chronicle : Chronicle) : Prop :=
  ∃ value key frame command,
    deed = .write .command value ∧ chronicle.bulb.accepts = true ∧
    chronicle.bulb.key = some key ∧
    Frame.decodeCommand key chronicle.bulb.address value = .ok frame ∧
    frame.light = .ok command ∧
    (chronicle.next deed).bulb.light = obey command chronicle.bulb.light

end Chronicle

/-- What only commands touch is as it was, and so is the address. -/
structure Unlit (before after : Bulb) : Prop where
  address : after.address = before.address
  light : after.light = before.light
  applied : after.statistics.commandsApplied = before.statistics.commandsApplied
  rejected : after.statistics.commandsRejected = before.statistics.commandsRejected

/-- At most the link and what depends on it changed: a key or an answer that waits still needs the
link, and the key stayed or went. -/
structure Spared (before after : Bulb) : Prop extends Unlit before after where
  linked : (before.key.isSome ∨ before.pairResponse.isSome → before.connected = true) →
    (after.key.isSome ∨ after.pairResponse.isSome → after.connected = true)
  key : after.key = before.key ∨ after.key = none
  stage : after.stage = before.stage
  credentials : after.credentials = before.credentials

/-- A write that is only counted spares everything. -/
theorem countWrite_spared (bulb : Bulb) : Spared bulb bulb.countWrite :=
  ⟨⟨rfl, rfl, rfl, rfl⟩, id, .inl rfl, rfl, rfl⟩

/-- A read takes the answer that waits at most. -/
theorem read_spared (characteristic : Characteristic) (bulb : Bulb) :
    Spared bulb (bulb.read characteristic).2 := by
  have counted : Spared bulb bulb.countRead := ⟨⟨rfl, rfl, rfl, rfl⟩, id, .inl rfl, rfl, rfl⟩
  unfold read
  split
  · exact counted
  · split
    · exact counted
    · split
      · rename_i connected
        cases characteristic with
        | pairing =>
          unfold readPairing
          dsimp only
          split
          · exact counted
          · exact ⟨⟨rfl, rfl, rfl, rfl⟩, fun _ _ => connected, .inl rfl, rfl, rfl⟩
        | status =>
          unfold readStatus
          dsimp only
          split
          · exact counted
          · exact ⟨⟨rfl, rfl, rfl, rfl⟩, fun _ _ => connected, .inl rfl, rfl, rfl⟩
        | command => exact counted
      · exact counted

/-- So does everything that is not a write. -/
theorem Deed.spared {deed : Deed}
    (other : ∀ characteristic value, deed ≠ .write characteristic value) (bulb : Bulb) :
    Spared bulb (deed.apply bulb) := by
  cases deed with
  | write characteristic value => exact absurd rfl (other characteristic value)
  | read characteristic => exact read_spared characteristic bulb
  | disconnect =>
    exact ⟨⟨rfl, rfl, rfl, rfl⟩, fun _ present => by simp [Deed.apply, Bulb.disconnect] at present,
      .inr rfl, rfl, rfl⟩
  | connect => exact ⟨⟨rfl, rfl, rfl, rfl⟩, fun _ _ => rfl, .inl rfl, rfl, rfl⟩
  | setFaults faults => exact ⟨⟨rfl, rfl, rfl, rfl⟩, id, .inl rfl, rfl, rfl⟩

/-- Whether an update is adopted or refused, only commands touch the light. -/
theorem adopt_unlit (name password : Cipher.Block) (bulb : Bulb) :
    Unlit bulb (bulb.adopt name password) := by
  unfold adopt
  split
  · exact ⟨rfl, rfl, rfl, rfl⟩
  · split <;> exact ⟨rfl, rfl, rfl, rfl⟩

/-- Other credentials come from the two texts, and only if updates are not refused. -/
theorem adopt_credentials {name password : Cipher.Block} {bulb : Bulb}
    (changed : (bulb.adopt name password).credentials ≠ bulb.credentials) :
    bulb.faults.rejectMeshUpdate = false ∧
      Credentials.make (fieldText name) (fieldText password) =
        .ok (bulb.adopt name password).credentials := by
  unfold adopt at changed ⊢
  split at changed
  · exact absurd rfl changed
  · rename_i willing
    split at changed
    · rename_i credentials made
      rw [if_neg willing, made]
      exact ⟨by simpa using willing, rfl⟩
    · exact absurd rfl changed

/-- The stage holds what it held and the field that arrived, unless it was emptied. -/
theorem stageField_block? {field other : MeshField} {block found : Cipher.Block} {bulb : Bulb}
    (staged : (bulb.stageField field block).stage.block? other = some found) :
    (other = field ∧ found = block) ∨ bulb.stage.block? other = some found := by
  unfold stageField at staged
  dsimp only at staged
  split at staged
  · rw [adopt_stage] at staged
    cases other <;> cases staged
  · exact Stage.add_block? staged

/-- Other credentials need all three fields on the stage. -/
theorem stageField_credentials {field : MeshField} {block : Cipher.Block} {bulb : Bulb}
    (changed : (bulb.stageField field block).credentials ≠ bulb.credentials) :
    ∃ name password longTermKey,
      bulb.stage.add field block = ⟨some name, some password, some longTermKey⟩ ∧
      bulb.faults.rejectMeshUpdate = false ∧
      Credentials.make (fieldText name) (fieldText password) =
        .ok (bulb.stageField field block).credentials := by
  unfold stageField at changed ⊢
  dsimp only at changed ⊢
  split at changed
  · rename_i name password longTermKey isName isPassword isLongTermKey
    have full : bulb.stage.add field block = ⟨some name, some password, some longTermKey⟩ := by
      rw [← isName, ← isPassword, ← isLongTermKey]
    exact ⟨name, password, longTermKey, full, adopt_credentials changed⟩
  · exact absurd rfl changed

/-- A write to the pairing endpoint touches nothing that belongs to commands. -/
theorem writePairing_unlit (value : Bytes) (bulb : Bulb) :
    Unlit bulb (bulb.writePairing value) := by
  unfold writePairing
  split
  · unfold answerPairRequest
    dsimp only
    split <;> exact ⟨rfl, rfl, rfl, rfl⟩
  · split
    · exact ⟨rfl, rfl, rfl, rfl⟩
    · split
      · unfold stageField
        dsimp only
        split
        · rename_i name password _ _ _ _
          obtain ⟨address, light, applied, rejected⟩ :=
            adopt_unlit name password { bulb with stage := {} }
          exact ⟨address, light, applied, rejected⟩
        · exact ⟨rfl, rfl, rfl, rfl⟩
      · exact ⟨rfl, rfl, rfl, rfl⟩

/-- A pair request empties the stage and leaves the credentials alone. -/
theorem writePairing_request_stage {value : Bytes}
    (asks : value.head? = some Frame.pairRequestTag) (bulb : Bulb) :
    (bulb.writePairing value).stage = {} ∧
      (bulb.writePairing value).credentials = bulb.credentials := by
  unfold writePairing
  rw [if_pos asks]
  unfold answerPairRequest
  dsimp only
  split <;> exact ⟨rfl, rfl⟩

/-- Any other value does nothing to stage and credentials, or it is an update frame under the
key. -/
theorem writePairing_update {value : Bytes} (other : value.head? ≠ some Frame.pairRequestTag)
    (bulb : Bulb) :
    ((bulb.writePairing value).stage = bulb.stage ∧
        (bulb.writePairing value).credentials = bulb.credentials) ∨
      ∃ key field block, bulb.key = some key ∧
        Frame.decodeMeshUpdate key value = .ok (field, block) ∧
        bulb.writePairing value = bulb.stageField field block := by
  unfold writePairing
  rw [if_neg other]
  split
  · exact .inl ⟨rfl, rfl⟩
  · rename_i key keyed
    split
    · rename_i field block decoded
      exact .inr ⟨key, field, block, keyed, decoded, rfl⟩
    · exact .inl ⟨rfl, rfl⟩

/-- A write to the command endpoint touches light and counters only. -/
theorem writeCommand_dark (value : Bytes) (bulb : Bulb) :
    (bulb.writeCommand value).connected = bulb.connected ∧
      (bulb.writeCommand value).key = bulb.key ∧
      (bulb.writeCommand value).pairResponse = bulb.pairResponse ∧
      (bulb.writeCommand value).stage = bulb.stage ∧
      (bulb.writeCommand value).credentials = bulb.credentials ∧
      (bulb.writeCommand value).address = bulb.address := by
  unfold writeCommand
  split <;> exact ⟨rfl, rfl, rfl, rfl, rfl, rfl⟩

/-- It counts once, as applied or as ignored. -/
theorem writeCommand_counted (value : Bytes) (bulb : Bulb) :
    (bulb.writeCommand value).statistics.commandsApplied +
        (bulb.writeCommand value).statistics.commandsRejected =
      bulb.statistics.commandsApplied + bulb.statistics.commandsRejected + 1 := by
  unfold writeCommand
  split <;> dsimp only <;> omega

/-- The command of a frame is the one that it carries under the key. -/
theorem command?_some {value : Bytes} {bulb : Bulb} {command : Light.Command}
    (carried : bulb.command? value = some command) :
    ∃ key frame, bulb.key = some key ∧
      Frame.decodeCommand key bulb.address value = .ok frame ∧ frame.light = .ok command := by
  unfold command? at carried
  split at carried
  · cases carried
  · rename_i key keyed
    split at carried
    · rename_i frame decoded
      refine ⟨key, frame, keyed, decoded, ?_⟩
      cases told : frame.light with
      | error fault => rw [told] at carried; cases carried
      | ok command => rw [told] at carried; rw [← Option.some.inj carried]
    · cases carried

/-- The light stays as it was or obeys a command that came under the key. -/
theorem writeCommand_light (value : Bytes) (bulb : Bulb) :
    (bulb.writeCommand value).light = bulb.light ∨
      ∃ command, bulb.command? value = some command ∧
        (bulb.writeCommand value).light = obey command bulb.light := by
  unfold writeCommand
  split
  · rename_i command carried
    exact .inr ⟨command, carried, rfl⟩
  · exact .inl rfl

/-- No command changes the mesh id. -/
theorem obey_meshId (command : Light.Command) (light : Light.Status) :
    (obey command light).meshId = light.meshId := by
  cases command <;> rfl

/-- No command takes white brightness off its scale. -/
theorem obey_whiteBrightness {light : Light.Status}
    (onScale : light.whiteBrightness ≤ Light.whiteBrightnessLimit) (command : Light.Command) :
    (obey command light).whiteBrightness ≤ Light.whiteBrightnessLimit := by
  cases command with
  | whiteBrightness value => exact Std.min_le_right
  | power on => exact onScale
  | whiteTemperature value => exact onScale
  | color red green blue => exact onScale
  | colorBrightness value => exact onScale

namespace Chronicle

variable {settings : BulbSettings} {chronicle : Chronicle}

/-- The chronicle of a bulb behind a write that it took. -/
def took (after : Bulb) (write : Characteristic × Bytes) (chronicle : Chronicle) : Chronicle :=
  { bulb := after, writes := chronicle.writes ++ [write] }

/-- The chronicle behind a write that the bulb took. -/
theorem next_taken (accepts : chronicle.bulb.accepts = true) (characteristic : Characteristic)
    (value : Bytes) :
    chronicle.next (.write characteristic value) =
      chronicle.took (chronicle.bulb.taking characteristic value) (characteristic, value) := by
  simp only [next, took, Deed.apply, Deed.taken, write_taken accepts, accepts, if_true,
    Option.toList_some]

/-- A deed is a write that the bulb takes, or it adds no write and spares everything. -/
theorem next_cases (deed : Deed) (chronicle : Chronicle) :
    (∃ characteristic value, deed = .write characteristic value ∧
      chronicle.bulb.accepts = true) ∨
      Spared chronicle.bulb (chronicle.next deed).bulb ∧
        (chronicle.next deed).writes = chronicle.writes := by
  by_cases writes : ∃ characteristic value, deed = .write characteristic value
  · obtain ⟨characteristic, value, rfl⟩ := writes
    by_cases accepts : chronicle.bulb.accepts = true
    · exact .inl ⟨characteristic, value, rfl, accepts⟩
    · refine .inr ⟨?_, ?_⟩
      · simp only [next, Deed.apply, write_ignored accepts]
        exact countWrite_spared chronicle.bulb
      · simp [next, Deed.taken, accepts]
  · have other (characteristic : Characteristic) (value : Bytes) :
        deed ≠ .write characteristic value := fun same => writes ⟨characteristic, value, same⟩
    refine .inr ⟨Deed.spared other chronicle.bulb, ?_⟩
    cases deed with
    | write characteristic value => exact absurd rfl (other characteristic value)
    | read | disconnect | connect | setFaults => exact List.append_nil _

/-- One more write is noted. -/
theorem sinceRequest_took (after : Bulb) (write : Characteristic × Bytes) (chronicle : Chronicle) :
    (chronicle.took after write).sinceRequest = note chronicle.sinceRequest write :=
  List.foldl_append

/-- And it is counted if it went to the command endpoint. -/
theorem commandWrites_took (after : Bulb) (write : Characteristic × Bytes)
    (chronicle : Chronicle) :
    (chronicle.took after write).commandWrites =
      chronicle.commandWrites + if write.1 = .command then 1 else 0 := by
  simp [took, commandWrites, List.countP_append, List.countP_singleton]

/-- What came stays so while no pair request comes. -/
theorem Brought.kept {key : SessionKey} {field : MeshField} {block : Cipher.Block} {value : Bytes}
    (brought : chronicle.Brought key field block)
    (other : value.head? ≠ some Frame.pairRequestTag) (after : Bulb) :
    (chronicle.took after (.pairing, value)).Brought key field block := by
  obtain ⟨values, body, since, among, length, isBlock⟩ := brought
  refine ⟨values ++ [value], body, ?_, List.mem_append_left _ among, length, isBlock⟩
  rw [sinceRequest_took, since]
  simp only [note, if_neg other, Option.map_some]

/-- An update frame brings its field. -/
theorem brought_now {key : SessionKey} {field : MeshField} {block : Cipher.Block} {value : Bytes}
    (requested : chronicle.sinceRequest.isSome)
    (other : value.head? ≠ some Frame.pairRequestTag)
    (decoded : Frame.decodeMeshUpdate key value = .ok (field, block)) (after : Bulb) :
    (chronicle.took after (.pairing, value)).Brought key field block := by
  obtain ⟨values, since⟩ := Option.isSome_iff_exists.mp requested
  obtain ⟨body, rfl, length, isBlock⟩ := Frame.decodeMeshUpdate_shape decoded
  have among : field.tag :: body ∈ values ++ [field.tag :: body] := by simp
  refine ⟨values ++ [field.tag :: body], body, ?_, among, length, isBlock⟩
  rw [sinceRequest_took, since]
  simp only [note, if_neg other, Option.map_some]

/-- What is found on the stage behind an update frame came under the key. -/
theorem Entitled.brought_add (entitled : Entitled settings chronicle) {key : SessionKey}
    {field found : MeshField} {block held : Cipher.Block} {value : Bytes}
    (keyed : chronicle.bulb.key = some key)
    (other : value.head? ≠ some Frame.pairRequestTag)
    (decoded : Frame.decodeMeshUpdate key value = .ok (field, block))
    (staged : (found = field ∧ held = block) ∨ chronicle.bulb.stage.block? found = some held)
    (after : Bulb) :
    (chronicle.took after (.pairing, value)).Brought key found held := by
  rcases staged with ⟨rfl, rfl⟩ | earlier
  · exact brought_now (entitled.requested (by rw [keyed]; rfl)) other decoded after
  · exact (entitled.staged key found held keyed earlier).kept other after

/-- What spares everything, and adds nothing that is noted, takes no entitlement away. -/
theorem Entitled.spared (entitled : Entitled settings chronicle) {after : Chronicle}
    (spared : Spared chronicle.bulb after.bulb)
    (since : after.sinceRequest = chronicle.sinceRequest)
    (counted : after.commandWrites = chronicle.commandWrites) : Entitled settings after where
  linked := spared.linked entitled.linked
  requested present := by
    rcases spared.key with stayed | went
    · rw [since]
      exact entitled.requested (stayed ▸ present)
    · simp [went] at present
  staged key field block keyed staged := by
    rcases spared.key with stayed | went
    · have brought := entitled.staged key field block (stayed ▸ keyed) (spared.stage ▸ staged)
      unfold Brought at brought ⊢
      rwa [since]
    · simp [went] at keyed
  address := spared.address.trans entitled.address
  meshId := spared.light ▸ entitled.meshId
  whiteBrightness := spared.light ▸ entitled.whiteBrightness
  commands := by rw [spared.applied, spared.rejected, counted, entitled.commands]

/-- A write that the pairing endpoint took leaves the bulb with what it is entitled to. -/
theorem Entitled.pairing (entitled : Entitled settings chronicle)
    (accepts : chronicle.bulb.accepts = true) (value : Bytes) :
    Entitled settings
      (chronicle.took (chronicle.bulb.taking .pairing value) (.pairing, value)) := by
  obtain ⟨link, -, keyKept⟩ := writePairing_frame value chronicle.bulb.countWrite
  obtain ⟨address, light, applied, rejected⟩ := writePairing_unlit value chronicle.bulb.countWrite
  have connected : chronicle.bulb.connected = true := by
    simp only [Bulb.accepts, Bool.and_eq_true] at accepts
    exact accepts.1.1
  have unasked (other : value.head? ≠ some Frame.pairRequestTag) :
      (chronicle.bulb.taking .pairing value).key = chronicle.bulb.key :=
    keyKept (by simp [Frame.requestRandom?, other])
  refine ⟨fun _ => link.trans connected, fun present => ?_, fun key field block keyed staged => ?_,
    address.trans entitled.address, light ▸ entitled.meshId, light ▸ entitled.whiteBrightness, ?_⟩
  · rw [sinceRequest_took]
    by_cases asks : value.head? = some Frame.pairRequestTag
    · simp [note, asks]
    · have before := entitled.requested (unasked asks ▸ present)
      simpa [note, asks] using before
  · by_cases asks : value.head? = some Frame.pairRequestTag
    · have emptied : (chronicle.bulb.taking .pairing value).stage = {} :=
        (writePairing_request_stage asks chronicle.bulb.countWrite).1
      simp only [took, emptied] at staged
      cases field <;> cases staged
    · have before : chronicle.bulb.key = some key := (unasked asks).symm.trans keyed
      rcases writePairing_update asks chronicle.bulb.countWrite with
        ⟨same, -⟩ | ⟨other, arrived, block', isKey, decoded, isStaged⟩
      · simp only [took, taking, same] at staged
        exact (entitled.staged key field block before staged).kept asks _
      · obtain rfl : other = key := Option.some.inj (isKey.symm.trans before)
        simp only [took, taking, isStaged] at staged
        have placed := stageField_block? staged
        exact entitled.brought_add before asks decoded placed _
  · have counted := commandWrites_took (chronicle.bulb.taking .pairing value) (.pairing, value)
      chronicle
    rw [if_neg (by simp), Nat.add_zero] at counted
    rw [counted, ← entitled.commands]
    exact congr (congrArg Nat.add applied) rejected

/-- So does a write that the command endpoint took. -/
theorem Entitled.command (entitled : Entitled settings chronicle) (value : Bytes) :
    Entitled settings
      (chronicle.took (chronicle.bulb.taking .command value) (.command, value)) := by
  obtain ⟨connected, key, answer, stage, -, address⟩ :=
    writeCommand_dark value chronicle.bulb.countWrite
  have since : (chronicle.took (chronicle.bulb.taking .command value)
      (.command, value)).sinceRequest = chronicle.sinceRequest := sinceRequest_took _ _ chronicle
  refine ⟨fun present => ?_, fun present => since ▸ entitled.requested (key ▸ present),
    fun held field block keyed staged => ?_, address.trans entitled.address, ?_, ?_, ?_⟩
  · simp only [took, taking, key, answer] at present
    exact connected.trans (entitled.linked present)
  · have brought := entitled.staged held field block (key ▸ keyed) (stage ▸ staged)
    unfold Brought at brought ⊢
    rwa [since]
  · rcases writeCommand_light value chronicle.bulb.countWrite with same | ⟨command, -, obeyed⟩
    · exact (congrArg Light.Status.meshId same).trans entitled.meshId
    · exact ((congrArg Light.Status.meshId obeyed).trans (obey_meshId command _)).trans
        entitled.meshId
  · rcases writeCommand_light value chronicle.bulb.countWrite with same | ⟨command, -, obeyed⟩
    · exact same ▸ entitled.whiteBrightness
    · exact obeyed ▸ obey_whiteBrightness entitled.whiteBrightness command
  · have counted := commandWrites_took (chronicle.bulb.taking .command value) (.command, value)
      chronicle
    rw [if_pos rfl] at counted
    rw [counted, ← entitled.commands]
    exact writeCommand_counted value chronicle.bulb.countWrite

/-- Whatever is done to it, a bulb has no more than it is entitled to. -/
theorem Entitled.next (entitled : Entitled settings chronicle) (deed : Deed) :
    Entitled settings (chronicle.next deed) := by
  rcases next_cases deed chronicle with ⟨characteristic, value, rfl, accepts⟩ | ⟨spared, same⟩
  · rw [next_taken accepts]
    cases characteristic with
    | pairing => exact entitled.pairing accepts value
    | status =>
      refine entitled.spared (countWrite_spared chronicle.bulb)
        (sinceRequest_took _ _ chronicle) (commandWrites_took _ _ chronicle)
    | command => exact entitled.command value
  · refine entitled.spared spared ?_ ?_
    · rw [sinceRequest, same, sinceRequest]
    · rw [commandWrites, same, commandWrites]

/-- A new bulb has nothing. -/
theorem entitled_new (settings : BulbSettings) :
    Entitled settings { bulb := ofSettings settings } where
  linked _ := rfl
  requested present := by simp [ofSettings] at present
  staged key field block keyed := by simp [ofSettings] at keyed
  address := rfl
  meshId := rfl
  whiteBrightness := Std.le_refl _
  commands := rfl

/-- Other credentials are those of an update that was completed under the key. -/
theorem Entitled.completes (entitled : Entitled settings chronicle) {deed : Deed}
    (changed : (chronicle.next deed).bulb.credentials ≠ chronicle.bulb.credentials) :
    chronicle.Completes deed := by
  rcases next_cases deed chronicle with ⟨characteristic, value, rfl, accepts⟩ | ⟨spared, -⟩
  · have taken := next_taken accepts characteristic value
    rw [taken] at changed
    cases characteristic with
    | pairing =>
      by_cases asks : value.head? = some Frame.pairRequestTag
      · exact absurd (writePairing_request_stage asks chronicle.bulb.countWrite).2 changed
      rcases writePairing_update asks chronicle.bulb.countWrite with
        ⟨-, same⟩ | ⟨key, field, block, keyed, decoded, staged⟩
      · exact absurd same changed
      simp only [taking, staged] at changed taken
      obtain ⟨name, password, longTermKey, full, willing, made⟩ := stageField_credentials changed
      have brought (found : MeshField) (held : Cipher.Block)
          (place : (chronicle.bulb.stage.add field block).block? found = some held) :
          (chronicle.next (.write .pairing value)).Brought key found held := by
        rw [taken]
        exact entitled.brought_add keyed asks decoded (Stage.add_block? place) _
      refine ⟨value, key, field, block, name, password, longTermKey, rfl, accepts, willing, keyed,
        decoded, full, brought .name name ?_, brought .password password ?_,
        brought .longTermKey longTermKey ?_, ?_⟩
      · exact congrArg Stage.name full
      · exact congrArg Stage.password full
      · exact congrArg Stage.longTermKey full
      · rw [taken]
        exact made
    | status => exact absurd rfl changed
    | command =>
      obtain ⟨-, -, -, -, same, -⟩ := writeCommand_dark value chronicle.bulb.countWrite
      exact absurd same changed
  · exact absurd spared.credentials changed

/-- Another light is what a command under the key made of it. -/
theorem commands_of_light {deed : Deed}
    (changed : (chronicle.next deed).bulb.light ≠ chronicle.bulb.light) :
    chronicle.Commands deed := by
  rcases next_cases deed chronicle with ⟨characteristic, value, rfl, accepts⟩ | ⟨spared, -⟩
  · have taken := next_taken accepts characteristic value
    rw [taken] at changed
    cases characteristic with
    | pairing => exact absurd (writePairing_unlit value chronicle.bulb.countWrite).light changed
    | status => exact absurd rfl changed
    | command =>
      rcases writeCommand_light value chronicle.bulb.countWrite with
        same | ⟨command, carried, obeyed⟩
      · exact absurd same changed
      · obtain ⟨key, frame, keyed, decoded, told⟩ := command?_some carried
        refine ⟨value, key, frame, command, rfl, accepts, keyed, decoded, told, ?_⟩
        rw [taken]
        exact obeyed
  · exact absurd spared.light changed

/-- Any number of deeds leave a bulb with no more than it is entitled to. -/
theorem Entitled.deeds (entitled : Entitled settings chronicle) (deeds : List Deed) :
    Entitled settings (deeds.foldl (fun current deed => current.next deed) chronicle) := by
  induction deeds generalizing chronicle with
  | nil => exact entitled
  | cons deed deeds inductionHypothesis => exact inductionHypothesis (entitled.next deed)

/-- At every moment of every chronicle the bulb has no more than it is entitled to, and whatever is
done next changes its credentials only by completing an update and its light only by a command. -/
theorem chronicle_entitled (settings : BulbSettings) (deeds : List Deed) (deed : Deed) :
    let chronicle := ofDeeds settings deeds
    Entitled settings chronicle ∧
      ((chronicle.next deed).bulb.credentials ≠ chronicle.bulb.credentials →
        chronicle.Completes deed) ∧
      ((chronicle.next deed).bulb.light ≠ chronicle.bulb.light → chronicle.Commands deed) := by
  have entitled : Entitled settings (ofDeeds settings deeds) := (entitled_new settings).deeds deeds
  exact ⟨entitled, entitled.completes, commands_of_light⟩

end Chronicle

end Bulb

end MeshLight

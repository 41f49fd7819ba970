import MeshLight.Proofs.Bulb.Chronicle
import MeshLight.Proofs.Frame.Binding

/-!
# The numbers of notifications

A bulb numbers its notifications with three bytes. Links, pairings, commands and faults leave the
counter alone: it takes a step for each notification and for nothing else, in one session as across
sessions. The diary counts these steps without a bound, and the counter is their number modulo 2²⁴.
So two notifications have the same number exactly if some multiple of 2²⁴ steps was made between
them.

The number is part of the header and the header is part of the nonce, so notifications with
different numbers have different nonces, even if the keys and the payloads are the same.
-/

namespace MeshLight.Bulb

open Link (Characteristic Report)
open Cipher (encrypt encrypt_inj)

/-! ## Steps of the counter -/

/-- The address and the number of the latest notification are as they were. -/
structure Uncounted (before after : Bulb) : Prop where
  address : after.address = before.address
  sequence : after.sequence = before.sequence

/-- Whether an update is adopted or refused, it is not counted. -/
theorem adopt_uncounted (name password : Cipher.Block) (bulb : Bulb) :
    Uncounted bulb (bulb.adopt name password) := by
  unfold adopt
  split
  · exact ⟨rfl, rfl⟩
  · split <;> exact ⟨rfl, rfl⟩

/-- No write to the pairing endpoint is counted. -/
theorem writePairing_uncounted (value : Bytes) (bulb : Bulb) :
    Uncounted bulb (bulb.writePairing value) := by
  unfold writePairing
  split
  · unfold answerPairRequest
    dsimp only
    split <;> exact ⟨rfl, rfl⟩
  · split
    · exact ⟨rfl, rfl⟩
    · split
      · unfold stageField
        dsimp only
        split
        · rename_i name password _ _ _ _
          obtain ⟨address, sequence⟩ := adopt_uncounted name password { bulb with stage := {} }
          exact ⟨address, sequence⟩
        · exact ⟨rfl, rfl⟩
      · exact ⟨rfl, rfl⟩

/-- No write is counted, to any endpoint and under any faults. -/
theorem write_uncounted (characteristic : Characteristic) (value : Bytes) (bulb : Bulb) :
    Uncounted bulb (bulb.write characteristic value).2 := by
  by_cases accepts : bulb.accepts = true
  · rw [write_taken accepts]
    cases characteristic with
    | pairing =>
      obtain ⟨address, sequence⟩ := writePairing_uncounted value bulb.countWrite
      exact ⟨address, sequence⟩
    | status => exact ⟨rfl, rfl⟩
    | command =>
      unfold taking writeCommand
      dsimp only
      split <;> exact ⟨rfl, rfl⟩
  · rw [write_ignored accepts]
    exact ⟨rfl, rfl⟩

/-- The bulb answers what is read from it. -/
def responds (bulb : Bulb) : Bool :=
  bulb.connected && !bulb.faults.dropReads && bulb.faults.failReads.isNone

/-- A read that the bulb answers. -/
theorem read_answered {bulb : Bulb} (responds : bulb.responds = true)
    (characteristic : Characteristic) :
    bulb.read characteristic =
      (some (.delivered (bulb.answering characteristic).1), (bulb.answering characteristic).2) := by
  obtain ⟨⟨connected, dropped⟩, failed⟩ :
      (bulb.connected = true ∧ bulb.faults.dropReads = false) ∧ bulb.faults.failReads = none := by
    simpa [Bulb.responds] using responds
  cases characteristic <;> simp [Bulb.read, connected, dropped, failed, answering]

/-- A read that it does not answer is only counted as a read. -/
theorem read_ignored {bulb : Bulb} (refuses : ¬bulb.responds = true)
    (characteristic : Characteristic) :
    (bulb.read characteristic).2 = bulb.countRead ∧
      ∀ bytes, (bulb.read characteristic).1 ≠ some (.delivered bytes) := by
  unfold read
  split
  · exact ⟨rfl, nofun⟩
  · split
    · exact ⟨rfl, nofun⟩
    · split
      · rename_i kept _ unfailed connected
        simp [responds, kept, unfailed, connected] at refuses
      · exact ⟨rfl, nofun⟩

/-- The key and the bytes of the notification that a deed brings forth, if it brings one forth.
Without a session a read of the status brings no bytes. -/
def Deed.notification? (deed : Deed) (bulb : Bulb) : Option (SessionKey × Bytes) :=
  match deed, bulb.key with
  | .read .status, some key =>
    match (bulb.read .status).1 with
    | some (.delivered bytes) => some (key, bytes)
    | _ => none
  | _, _ => none

/-- A notification was sent and the counter took a step. It is read under the key and for the
address of the bulb, and it has the number of this step. -/
structure Counted (key : SessionKey) (frame : Bytes) (before after : Bulb) : Prop where
  address : after.address = before.address
  sequence : after.sequence = (before.sequence + 1) % 0x1000000
  read : ∃ content, Frame.decodeNotification key before.address frame = .ok content ∧
    content.sequence = sequenceBytes after.sequence

/-- In a session a read that is answered brings forth a notification, and the session goes on. -/
theorem read_told {bulb : Bulb} {key : SessionKey} (responds : bulb.responds = true)
    (keyed : bulb.key = some key) :
    ∃ frame, Deed.notification? (.read .status) bulb = some (key, frame) ∧
      (bulb.read .status).2 =
        { bulb.countRead with sequence := (bulb.sequence + 1) % 0x1000000 } ∧
      Counted key frame bulb (bulb.read .status).2 := by
  have held : bulb.countRead.key = some key := keyed
  obtain ⟨frame, brought, decoded⟩ := readStatus_keyed held
  have answered := read_answered responds .status
  rw [answering, brought] at answered
  refine ⟨frame, by simp only [Deed.notification?, keyed, answered], congrArg Prod.snd answered, ?_⟩
  rw [answered]
  exact ⟨rfl, rfl, _, decoded, rfl⟩

/-- A read that is not answered brings forth none. -/
theorem notification?_ignored {bulb : Bulb} (refuses : ¬bulb.responds = true)
    (characteristic : Characteristic) :
    Deed.notification? (.read characteristic) bulb = none := by
  cases characteristic with
  | pairing => rfl
  | status =>
    unfold Deed.notification?
    split
    · split
      · rename_i bytes brought
        exact absurd brought ((read_ignored refuses .status).2 bytes)
      · rfl
    · rfl
  | command => rfl

/-- A read brings forth a notification, or it is not counted. -/
theorem read_counts (characteristic : Characteristic) (bulb : Bulb) :
    (Deed.notification? (.read characteristic) bulb = none ∧
        Uncounted bulb (bulb.read characteristic).2) ∨
      ∃ key frame, Deed.notification? (.read characteristic) bulb = some (key, frame) ∧
        Counted key frame bulb (bulb.read characteristic).2 := by
  by_cases responds : bulb.responds = true
  · have answered := read_answered responds characteristic
    cases characteristic with
    | pairing =>
      refine .inl ⟨rfl, ?_⟩
      rw [answered]
      unfold answering readPairing
      dsimp only
      split <;> exact ⟨rfl, rfl⟩
    | status =>
      cases keyed : bulb.key with
      | none =>
        have silent : bulb.countRead.readStatus = ([], bulb.countRead) := by
          simp only [readStatus, countRead, keyed]
        refine .inl ⟨by simp only [Deed.notification?, keyed], ?_⟩
        rw [answered, answering, silent]
        exact ⟨rfl, rfl⟩
      | some key =>
        obtain ⟨frame, told, -, counted⟩ := read_told responds keyed
        exact .inr ⟨key, frame, told, counted⟩
    | command =>
      refine .inl ⟨rfl, ?_⟩
      rw [answered]
      exact ⟨rfl, rfl⟩
  · refine .inl ⟨notification?_ignored responds characteristic, ?_⟩
    rw [(read_ignored responds characteristic).1]
    exact ⟨rfl, rfl⟩

/-- A deed brings forth a notification, or it is not counted. -/
theorem Deed.counts (deed : Deed) (bulb : Bulb) :
    (deed.notification? bulb = none ∧ Uncounted bulb (deed.apply bulb)) ∨
      ∃ key frame, deed.notification? bulb = some (key, frame) ∧
        Counted key frame bulb (deed.apply bulb) := by
  cases deed with
  | write characteristic value => exact .inl ⟨rfl, write_uncounted characteristic value bulb⟩
  | read characteristic => exact read_counts characteristic bulb
  | disconnect => exact .inl ⟨rfl, rfl, rfl⟩
  | connect => exact .inl ⟨rfl, rfl, rfl⟩
  | setFaults faults => exact .inl ⟨rfl, rfl, rfl⟩

/-! ## The diary -/

/-- A status notification that a bulb sent under a key, with the steps that the counter had made by
then. -/
structure Notice where
  key : SessionKey
  frame : Bytes
  step : Nat
  deriving Repr, DecidableEq

/-- A bulb, the steps that its counter made and the notifications that it sent, first one first. -/
structure Diary where
  bulb : Bulb
  steps : Nat := 0
  notices : List Notice := []

namespace Diary

/-- The diary behind a deed. -/
def next (deed : Deed) (diary : Diary) : Diary :=
  let after := deed.apply diary.bulb
  let steps := if after.sequence = diary.bulb.sequence then diary.steps else diary.steps + 1
  { bulb := after
    steps
    notices := diary.notices ++
      (deed.notification? diary.bulb).toList.map fun (key, frame) => { key, frame, step := steps } }

/-- The diary of a new bulb behind deeds, first one first. -/
def ofDeeds (settings : BulbSettings) (deeds : List Deed) : Diary :=
  deeds.foldl (fun diary deed => diary.next deed) { bulb := ofSettings settings }

/-- The counter is the number of its steps modulo 2²⁴, there is one notification for each step, and
it has the number of its step. The address stays. -/
structure Numbered (settings : BulbSettings) (diary : Diary) : Prop where
  address : diary.bulb.address = settings.address
  counter : diary.bulb.sequence = diary.steps % 0x1000000
  steps : diary.notices.map Notice.step = List.range' 1 diary.steps
  numbers : ∀ notice ∈ diary.notices, ∃ content,
    Frame.decodeNotification notice.key settings.address notice.frame = .ok content ∧
      content.sequence = sequenceBytes (notice.step % 0x1000000)

variable {settings : BulbSettings} {diary : Diary}

/-- A new bulb has sent nothing. -/
theorem numbered_new (settings : BulbSettings) :
    Numbered settings { bulb := ofSettings settings } where
  address := rfl
  counter := rfl
  steps := rfl
  numbers := nofun

/-- What is not counted adds nothing to the diary. -/
theorem next_uncounted {deed : Deed} (silent : deed.notification? diary.bulb = none)
    (uncounted : Uncounted diary.bulb (deed.apply diary.bulb)) :
    diary.next deed = { diary with bulb := deed.apply diary.bulb } := by
  simp [next, silent, uncounted.sequence]

/-- A notification adds a step and itself. -/
theorem next_counted {deed : Deed} {key : SessionKey} {frame : Bytes}
    (told : deed.notification? diary.bulb = some (key, frame))
    (counted : Counted key frame diary.bulb (deed.apply diary.bulb)) :
    diary.next deed =
      { bulb := deed.apply diary.bulb
        steps := diary.steps + 1
        notices := diary.notices ++ [{ key, frame, step := diary.steps + 1 }] } := by
  have changed : (deed.apply diary.bulb).sequence ≠ diary.bulb.sequence := by
    rw [counted.sequence]
    omega
  simp [next, told, changed]

/-- Every deed keeps the numbers. -/
theorem Numbered.next (numbered : Numbered settings diary) (deed : Deed) :
    Numbered settings (diary.next deed) := by
  rcases deed.counts diary.bulb with ⟨silent, uncounted⟩ | ⟨key, frame, told, counted⟩
  · rw [next_uncounted silent uncounted]
    exact ⟨uncounted.address.trans numbered.address, uncounted.sequence.trans numbered.counter,
      numbered.steps, numbered.numbers⟩
  · rw [next_counted told counted]
    have counter : (deed.apply diary.bulb).sequence = (diary.steps + 1) % 0x1000000 := by
      rw [counted.sequence, numbered.counter]
      omega
    refine ⟨counted.address.trans numbered.address, counter, ?_, ?_⟩
    · rw [List.map_append, numbered.steps, List.range'_concat]
      simp [Nat.add_comm]
    · intro notice among
      rcases List.mem_append.mp among with earlier | now
      · exact numbered.numbers notice earlier
      · obtain rfl := List.mem_singleton.mp now
        obtain ⟨content, decoded, sequence⟩ := counted.read
        exact ⟨content, numbered.address ▸ decoded, sequence.trans (congrArg _ counter)⟩

/-- So do any number of deeds. -/
theorem Numbered.deeds (numbered : Numbered settings diary) (deeds : List Deed) :
    Numbered settings (deeds.foldl (fun current deed => current.next deed) diary) := by
  induction deeds generalizing diary with
  | nil => exact numbered
  | cons deed deeds inductionHypothesis => exact inductionHypothesis (numbered.next deed)

/-- The notification in a place was sent at the step with the next number. -/
theorem Numbered.step (numbered : Numbered settings diary) {place : Nat} {notice : Notice}
    (there : diary.notices[place]? = some notice) : notice.step = place + 1 := by
  have listed : (diary.notices.map Notice.step)[place]? = some notice.step := by
    rw [List.getElem?_map, there]
    rfl
  rw [numbered.steps] at listed
  obtain ⟨_, isStep⟩ := List.getElem?_eq_some_iff.mp listed
  rw [List.getElem_range'] at isStep
  omega

/-- Two notifications have the same number exactly if they were sent at steps that are the same
modulo 2²⁴. -/
theorem Numbered.sequence_eq_iff (numbered : Numbered settings diary) {one other : Notice}
    (isOne : one ∈ diary.notices) (isOther : other ∈ diary.notices) :
    ∃ content later,
      Frame.decodeNotification one.key settings.address one.frame = .ok content ∧
        Frame.decodeNotification other.key settings.address other.frame = .ok later ∧
        (content.sequence = later.sequence ↔ one.step % 0x1000000 = other.step % 0x1000000) := by
  obtain ⟨content, decoded, sequence⟩ := numbered.numbers one isOne
  obtain ⟨later, uncovered, number⟩ := numbered.numbers other isOther
  refine ⟨content, later, decoded, uncovered, ?_⟩
  rw [sequence, number]
  constructor
  · intro same
    have numbers := congrArg numberOf same
    rw [numberOf_sequenceBytes, numberOf_sequenceBytes, Nat.mod_mod, Nat.mod_mod] at numbers
    exact numbers
  · exact congrArg sequenceBytes

/-- The diary behind a pair request that the bulb accepted. -/
def paired (random : SessionRandom) (diary : Diary) : Diary :=
  { diary with bulb := diary.bulb.countWrite.accepting random }

/-- The diary behind a notification. -/
def told (key : SessionKey) (frame : Bytes) (diary : Diary) : Diary :=
  { bulb := { diary.bulb.countRead with sequence := (diary.bulb.sequence + 1) % 0x1000000 }
    steps := diary.steps + 1
    notices := diary.notices ++ [{ key, frame, step := diary.steps + 1 }] }

/-- A pair request with the proof that the bulb expects is accepted, and it is not counted. -/
theorem next_request (calm : diary.bulb.Calm) (credentials : Credentials) (random : SessionRandom)
    (same : Frame.proof diary.bulb.credentials random = Frame.proof credentials random) :
    diary.next (.write .pairing (Frame.encodePairRequest credentials random)) =
      diary.paired random := by
  have taken := congrArg Prod.snd
    (calm.write_eq .pairing (Frame.encodePairRequest credentials random))
  have accepted := writePairing_request credentials random diary.bulb.countWrite same
  rw [next_uncounted rfl (write_uncounted _ _ _)]
  exact congrArg (fun after => { diary with bulb := after }) (taken.trans accepted)

/-- In a session a read of the status adds a notification. -/
theorem next_read {key : SessionKey} (responds : diary.bulb.responds = true)
    (keyed : diary.bulb.key = some key) :
    ∃ frame, diary.next (.read .status) = diary.told key frame := by
  obtain ⟨frame, brought, after, counted⟩ := read_told responds keyed
  have applied : Deed.apply (.read .status) diary.bulb =
      { diary.bulb.countRead with sequence := (diary.bulb.sequence + 1) % 0x1000000 } := after
  exact ⟨frame, by rw [next_counted brought counted, applied, told]⟩

end Diary

/-! ## Nonces -/

/-- Notifications with different numbers have different nonces, for one address. -/
theorem nonces_apart {key another : SessionKey} {address : Address} {frame other : Bytes}
    {content later : Frame.Notification}
    (decoded : Frame.decodeNotification key address frame = .ok content)
    (uncovered : Frame.decodeNotification another address other = .ok later)
    (different : content.sequence ≠ later.sequence) :
    Frame.notificationNonce address frame ≠ Frame.notificationNonce address other := by
  have beginning {key : SessionKey} {frame : Bytes} {content : Frame.Notification}
      (decoded : Frame.decodeNotification key address frame = .ok content) :
      frame.take 5 = content.header := by
    rw [Frame.decodeNotification_ok_iff.mp decoded, Frame.Notification.bytes, List.append_assoc,
      List.take_left' content.length_header]
  intro same
  rw [← Frame.notificationNonce_take, ← Frame.notificationNonce_take address other,
    beginning decoded, beginning uncovered] at same
  obtain ⟨-, headers⟩ := (Frame.notificationNonce_inj (by simp)).mp same
  rw [List.take_of_length_le (by simp), List.take_of_length_le (by simp)] at headers
  exact different (Vector.toList_inj.mp (List.append_inj headers (by simp)).1)

/-- The notifications of a bulb are told apart by their numbers, whatever is done to the bulb.

Any two of them with fewer than 2²⁴ steps of the counter from one to the other are read with
different numbers. So they have different nonces, and their checks start from different blocks. If
they were sent under one key, then these blocks and the first blocks of their keystreams are
enciphered differently too. The first block of its keystream is what covers the payload in each of
the two frames. -/
theorem notices_apart {settings : BulbSettings} {deeds : List Deed} {first second : Nat}
    {one other : Notice} (isOne : (Diary.ofDeeds settings deeds).notices[first]? = some one)
    (isOther : (Diary.ofDeeds settings deeds).notices[second]? = some other)
    (order : first < second) (near : other.step - one.step < 0x1000000) :
    ∃ content later,
      Frame.decodeNotification one.key settings.address one.frame = .ok content ∧
        Frame.decodeNotification other.key settings.address other.frame = .ok later ∧
        content.sequence ≠ later.sequence ∧
        let nonce := Frame.notificationNonce settings.address one.frame
        let another := Frame.notificationNonce settings.address other.frame
        let seed := Frame.checkSeed nonce content.payload.length
        let anotherSeed := Frame.checkSeed another later.payload.length
        nonce ≠ another ∧ seed ≠ anotherSeed ∧
          (one.key = other.key →
            encrypt one.key.block seed ≠ encrypt other.key.block anotherSeed ∧
              encrypt one.key.block (Frame.counterBlock nonce 0) ≠
                encrypt other.key.block (Frame.counterBlock another 0)) ∧
          (one.frame.drop 7).take 16 = Bytes.exclusiveOr (content.payload.take 16)
            (encrypt one.key.block (Frame.counterBlock nonce 0)).toList ∧
          (other.frame.drop 7).take 16 = Bytes.exclusiveOr (later.payload.take 16)
            (encrypt other.key.block (Frame.counterBlock another 0)).toList := by
  have numbered : Diary.Numbered settings (Diary.ofDeeds settings deeds) :=
    (Diary.numbered_new settings).deeds deeds
  have oneStep : one.step = first + 1 := numbered.step isOne
  have otherStep : other.step = second + 1 := numbered.step isOther
  obtain ⟨content, later, decoded, uncovered, repeats⟩ :=
    numbered.sequence_eq_iff (List.mem_of_getElem? isOne) (List.mem_of_getElem? isOther)
  have different : content.sequence ≠ later.sequence := by
    intro same
    have wrapped := repeats.mp same
    omega
  have apart := nonces_apart decoded uncovered different
  have seeds (length size : Nat) :
      Frame.checkSeed (Frame.notificationNonce settings.address one.frame) length ≠
        Frame.checkSeed (Frame.notificationNonce settings.address other.frame) size :=
    fun same => apart (Frame.checkSeed_inj.mp same).1
  refine ⟨content, later, decoded, uncovered, different, apart, seeds _ _, ?_,
    Frame.decodeNotification_covered decoded, Frame.decodeNotification_covered uncovered⟩
  intro sameKey
  rw [sameKey]
  constructor
  · intro same
    exact seeds _ _ (encrypt_inj.mp same)
  · intro same
    exact apart (Frame.counterBlock_inj.mp (encrypt_inj.mp same)).1

/-- A bulb at the address of all ones. -/
def watched : BulbSettings :=
  { address := ⟨Vector.replicate 6 1⟩
    credentials := ⟨"cellar", "candle", by decide, by decide⟩ }

/-- Its status is read twice in one session and once in another one. -/
def watching : List Deed :=
  let request := Frame.encodePairRequest watched.credentials ⟨Vector.replicate 8 7⟩
  [.write .pairing request, .read .status, .read .status, .disconnect, .connect,
    .write .pairing request, .read .status]

/-- The two notifications of the first session have one key and different beginnings of their
keystreams. The one of the second session has another nonce than the first. -/
theorem notices_apart_watched :
    ∃ one other last, (Diary.ofDeeds watched watching).notices = [one, other, last] ∧
      one.key = other.key ∧ other.step - one.step < 0x1000000 ∧ last.step - one.step < 0x1000000 ∧
      encrypt one.key.block
          (Frame.counterBlock (Frame.notificationNonce watched.address one.frame) 0) ≠
        encrypt other.key.block
          (Frame.counterBlock (Frame.notificationNonce watched.address other.frame) 0) ∧
      Frame.notificationNonce watched.address one.frame ≠
        Frame.notificationNonce watched.address last.frame := by
  let random : SessionRandom := ⟨Vector.replicate 8 7⟩
  let request := Frame.encodePairRequest watched.credentials random
  let start : Diary := { bulb := ofSettings watched }
  -- The first session.
  let opened := start.paired random
  have opens : start.next (.write .pairing request) = opened :=
    Diary.next_request ⟨rfl, rfl⟩ watched.credentials random rfl
  obtain ⟨key, keyed⟩ : ∃ key, opened.bulb.key = some key := ⟨_, rfl⟩
  obtain ⟨first, once⟩ : ∃ frame, opened.next (.read .status) = opened.told key frame :=
    Diary.next_read rfl keyed
  obtain ⟨second, twice⟩ : ∃ frame, (opened.told key first).next (.read .status) =
      (opened.told key first).told key frame := Diary.next_read rfl keyed
  -- The link is lost, and the second session begins behind a new one.
  let told := (opened.told key first).told key second
  let lost : Diary := { told with bulb := Deed.apply .disconnect told.bulb }
  let linked : Diary := { lost with bulb := Deed.apply .connect lost.bulb }
  have loses : told.next .disconnect = lost := Diary.next_uncounted rfl ⟨rfl, rfl⟩
  have links : lost.next .connect = linked := Diary.next_uncounted rfl ⟨rfl, rfl⟩
  let again := linked.paired random
  have opensAgain : linked.next (.write .pairing request) = again :=
    Diary.next_request ⟨rfl, rfl⟩ watched.credentials random rfl
  obtain ⟨fresh, renewed⟩ : ∃ key, again.bulb.key = some key := ⟨_, rfl⟩
  obtain ⟨third, thrice⟩ : ∃ frame, again.next (.read .status) = again.told fresh frame :=
    Diary.next_read rfl renewed
  have notices : (Diary.ofDeeds watched watching).notices =
      [⟨key, first, 1⟩, ⟨key, second, 2⟩, ⟨fresh, third, 3⟩] := by
    calc (Diary.ofDeeds watched watching).notices
        = (((((((start.next (.write .pairing request)).next (.read .status)).next
            (.read .status)).next .disconnect).next .connect).next
            (.write .pairing request)).next (.read .status)).notices := rfl
      _ = (again.told fresh third).notices := by
          rw [opens, once, twice, loses, links, opensAgain, thrice]
      _ = [⟨key, first, 1⟩, ⟨key, second, 2⟩, ⟨fresh, third, 3⟩] := rfl
  have place (number : Nat) : (Diary.ofDeeds watched watching).notices[number]? =
      [(⟨key, first, 1⟩ : Notice), ⟨key, second, 2⟩, ⟨fresh, third, 3⟩][number]? := by
    rw [notices]
  have near : 2 - 1 < 0x1000000 := by decide
  have further : 3 - 1 < 0x1000000 := by decide
  obtain ⟨_, _, -, -, -, -, -, starts, -⟩ := notices_apart (place 0) (place 1) (by decide) near
  obtain ⟨_, _, -, -, -, nonces, -⟩ := notices_apart (place 0) (place 2) (by decide) further
  exact ⟨_, _, _, notices, rfl, near, further, (starts rfl).2, nonces⟩

end MeshLight.Bulb

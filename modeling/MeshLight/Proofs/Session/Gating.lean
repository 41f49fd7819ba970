import MeshLight.Proofs.Session.Conversation
import MeshLight.Proofs.Session.Migration
import MeshLight.Proofs.Session.Trace

/-!
# Frames and the slot of their key

A command asks for the key and makes its only call at once, so the slot still holds the key that its
frame is covered with. A move asks for the key once and makes four calls under it. A link that is
lost while such a call is under way, but after the report, is seen by no step; the next frame then
finds an empty slot. A pairing compares the losses before it installs its key; a move has no such
comparison.
-/

namespace MeshLight.Session

open Link (Disturbance Tracker Script Contact Access)

/-- Nothing but dropping the link. -/
def Permission.silent : Permission :=
  { access := fun _ => False, install := False }

/-- A procedure without a step adds requests to drop the link and nothing else. -/
theorem Adds.of_silent {Value : Type} {procedure : Procedure Value} {kind : Contact → Prop}
    (stepwise : Stepwise .silent procedure) (drops : ∀ found, kind (.disconnect found))
    (script : Script) (world : World (List Contact)) :
    Adds kind world (procedure.finish script.transport world).2 := by
  refine (Adds.of_stepwise stepwise script world).weaken fun contact covers => ?_
  cases contact with
  | access asked completion found => exact (covers asked rfl).elim
  | disconnect found => exact drops found

/-- A contact that writes a command under the key that it found. -/
def Carries (address : Address) (meshId : UInt16) (command : Light.Command) (contact : Contact) :
    Prop :=
  ∀ access, contact.access? = some access →
    ∃ key sequence frame, access = .write .command frame ∧ contact.found.key = some key ∧
      Frame.encodeLightCommand key address sequence meshId command = .ok frame

/-- Neither a command frame nor the frame of a move. -/
def PlainAccess (access : Access) : Prop :=
  (∀ frame, access ≠ .write .command frame) ∧
    ∀ frame (field : MeshField), frame.head? = some field.tag → access ≠ .write .pairing frame

/-- No frame under a key. -/
def Permission.plain : Permission :=
  { access := PlainAccess, install := True }

/-- A contact without a frame under a key. -/
abbrev Plain : Contact → Prop :=
  Permission.plain.Covers

namespace Controller

variable (script : Script) (controller : Controller) (world : World (List Contact))

/-! ## Commands -/

/-- The delivery of a command writes its frame from the world that it asked for the key. -/
theorem deliver_carries (meshId : UInt16) (command : Light.Command) :
    Adds (Carries controller.address meshId command) world
      ((controller.deliver meshId command).finish script.transport world).2 := by
  simp only [deliver, Procedure.finish_bind, finish_requireKey]
  cases held : world.tracker.key with
  | none => exact .none rfl
  | some key =>
    cases encoded : Frame.encodeLightCommand key controller.drawSequence.2.address
        controller.drawSequence.1 meshId command with
    | error fault =>
      simp only [Option.elim, encoded]
      exact .none rfl
    | ok frame =>
      simp only [Option.elim, encoded, write, Procedure.finish_bind, Step.finish_scripted_write]
      refine .behind script _ _ ?_
      rintro _ ⟨⟩
      exact ⟨key, controller.drawSequence.1, frame, rfl, held, encoded⟩

/-- A command makes no other calls. -/
theorem send_carries (meshId : UInt16) (command : Light.Command) :
    Adds (Carries controller.address meshId command) world
      ((controller.send meshId command).finish script.transport world).2 := by
  simp only [send, Procedure.finish_bind]
  have delivered := deliver_carries script controller world meshId command
  generalize (controller.deliver meshId command).finish script.transport world = reached at *
  obtain ⟨⟨result, drawn⟩, later⟩ := reached
  cases result with
  | ok _ => exact delivered
  | error failure =>
    simp only [Procedure.finish_bind, Procedure.finish_count, Procedure.finish_emit,
      Procedure.finish_pure]
    exact delivered.trans (.of_silent (abort_stepwise failure)
      (fun _ access asked => absurd asked.symm (Option.some_ne_none access)) script
      ((later.count (.commandFailed failure.reason)).emit
        (.commandFailed command.opcode failure.reason)))

/-! ## Pairings and statuses -/

/-- A pairing writes its request, which has a tag of its own, and no frame under a key. -/
theorem pair_plain : Adds Plain world (controller.pair.finish script.transport world).2 := by
  have stepwise : Stepwise .plain controller.pair := by
    refine controller.pair_stepwise (fun random => ?_) ⟨nofun, nofun⟩ ⟨nofun, nofun⟩ True.intro
    refine ⟨nofun, fun frame field tagged same => ?_⟩
    cases same
    cases field <;> cases tagged
  exact Adds.of_stepwise stepwise script world

/-- Reading the status writes nothing. -/
theorem readStatus_plain :
    Adds Plain world (controller.readStatus.finish script.transport world).2 := by
  have stepwise : Stepwise .plain controller.readStatus :=
    controller.readStatus_stepwise ⟨nofun, nofun⟩
  exact Adds.of_stepwise stepwise script world

/-! ## Moves -/

/-- The calls of a complete move, in order. -/
def migrationAccesses (key : SessionKey) (target : Credentials) (longTermKey : Bytes) :
    List Access :=
  ((migrationValues target longTermKey).map fun entry =>
    Access.write .pairing (Frame.updateFrame key entry.1 entry.2)) ++ [.read .pairing]

/-- Writing frames is a chain of steps. -/
theorem writeAll_follows (frames : List Bytes) :
    Follows script (controller.writeAll frames) (frames.map (.write .pairing)) world := by
  induction frames generalizing world with
  | nil => exact .succeed ()
  | cons frame frames inductionHypothesis =>
    exact (Follows.write _ _ _ _).bind fun _ later => inductionHypothesis later

/-- Announcing new credentials is a chain of steps: the frames, then the read of the reply. -/
theorem announce_follows (frames : List Bytes) :
    Follows script (controller.announce frames) (frames.map (.write .pairing) ++ [.read .pairing])
      world := by
  refine (writeAll_follows script controller world frames).bind fun _ later => ?_
  have replied : Follows script (controller.announce []) ([.read .pairing] ++ []) later := by
    refine (Follows.read _ _ _).bind fun reply last => ?_
    cases reply with
    | nil => exact .fail _ []
    | cons tag rest =>
      by_cases accepted : tag = Frame.meshAcceptedTag
      · simp only [accepted, if_true]
        exact .succeed ()
      · simp only [accepted, if_false]
        exact .fail _ []
  exact replied

/-- What a move does: nothing if it is refused, and otherwise its chain of steps with perhaps a
request to drop the link behind it. It succeeds only with the whole chain, and then with nothing
behind it. -/
theorem migrate_traced (target : Credentials) (longTermKey : Bytes) :
    let moved := (controller.migrate target longTermKey).finish script.transport world
    (moved.1.1.isOk = false ∧ moved.2 = world) ∨
      ∃ key number middle, world.tracker.key = some key ∧ longTermKey.length ≤ fieldLimit ∧
        Traced script ((migrationAccesses key target longTermKey).take number) world middle ∧
        Adds (fun contact => contact.access? = none) middle moved.2 ∧
        (moved.1.1.isOk = true → 4 ≤ number ∧ moved.1.2.credentials = target ∧
          moved.2.tracker.key = middle.tracker.key) := by
  simp only [migrate, Procedure.finish_bind, finish_requireKey]
  cases held : world.tracker.key with
  | none => exact .inl ⟨rfl, rfl⟩
  | some key =>
    cases framed : migrationFrames key target longTermKey with
    | error fault =>
      simp only [Option.elim, framed]
      exact .inl ⟨rfl, rfl⟩
    | ok frames =>
      obtain ⟨fits, framesAre⟩ := migrationFrames_ok_iff.mp framed
      obtain ⟨number, -, traced, complete⟩ := announce_follows script controller world frames
      have accesses : frames.map (Access.write .pairing) ++ [.read .pairing] =
          migrationAccesses key target longTermKey := by
        rw [framesAre, migrationAccesses, List.map_map]
        rfl
      rw [accesses] at traced complete
      simp only [Option.elim, framed, Procedure.finish_bind]
      generalize (controller.announce frames).run.finish script.transport world = announced at *
      obtain ⟨result, middle⟩ := announced
      refine .inr ⟨key, number, middle, rfl, fits, traced, ?_⟩
      cases result with
      | ok _ =>
        simp only [Procedure.finish_bind, Procedure.finish_emit, Procedure.finish_pure]
        exact ⟨.none rfl, fun succeeded => ⟨Nat.le_of_eq (complete succeeded).symm, trivial, rfl⟩⟩
      | error failure =>
        simp only [Procedure.finish_bind, Procedure.finish_pure]
        exact ⟨.of_silent (abort_stepwise failure) (fun _ => rfl) script middle,
          fun succeeded => absurd succeeded Bool.false_ne_true⟩

end Controller

/-- What a contact shows of its frame and of the slot that it found, if so many contacts of the same
operation were made before it and the operation began with this slot. A command frame is covered
with the key in the slot. The frame of a move is enciphered under the key from the beginning, which
is in the slot exactly if no earlier call of the operation was disturbed. -/
structure Gated (script : Script) (address : Address) (meshId : UInt16) (held : Option SessionKey)
    (first number : Nat) (contact : Contact) : Prop where
  command : ∀ frame, contact.access? = some (.write .command frame) →
    ∃ key command sequence, contact.found.key = some key ∧
      Frame.encodeLightCommand key address sequence meshId command = .ok frame
  update : ∀ frame (field : MeshField), contact.access? = some (.write .pairing frame) →
    frame.head? = some field.tag →
    ∃ key value, held = some key ∧ Frame.encodeMeshUpdate key field value = .ok frame ∧
      (contact.found.key = some key ↔
        ∀ earlier < number, (script (first + earlier)).disturbances = [])

namespace Gated

variable {script : Script} {address : Address} {meshId : UInt16} {held : Option SessionKey}
  {first number : Nat} {contact : Contact}

/-- A contact without a frame under a key. -/
theorem of_plain (plain : Plain contact) :
    Gated script address meshId held first number contact where
  command frame asked := ((plain _ asked).1 frame rfl).elim
  update frame field asked tagged := ((plain _ asked).2 frame field tagged rfl).elim

/-- The contact of a command. -/
theorem of_carries {command : Light.Command} (carries : Carries address meshId command contact) :
    Gated script address meshId held first number contact where
  command frame asked := by
    obtain ⟨key, sequence, _, ⟨⟩, found, encoded⟩ := carries _ asked
    exact ⟨key, command, sequence, found, encoded⟩
  update frame field asked _ := by
    obtain ⟨_, _, _, ⟨⟩, -, -⟩ := carries _ asked

/-- The contact of a move. -/
theorem of_migration {key : SessionKey} {target : Credentials} {longTermKey : Bytes}
    (fits : longTermKey.length ≤ fieldLimit)
    (among : ∀ access, contact.access? = some access →
      access ∈ Controller.migrationAccesses key target longTermKey)
    (found : contact.found.key = if met script first number = [] then some key else none) :
    Gated script address meshId (some key) first number contact where
  command frame asked := by
    simpa [Controller.migrationAccesses] using among _ asked
  update frame field asked tagged := by
    have written : ∃ entry ∈ Controller.migrationValues target longTermKey,
        Frame.updateFrame key entry.1 entry.2 = frame := by
      simpa [Controller.migrationAccesses] using among _ asked
    obtain ⟨⟨other, value⟩, entry, rfl⟩ := written
    have same : other = field := by
      cases other <;> cases field <;> first | rfl | cases tagged
    have short : value.length ≤ fieldLimit := by
      simp only [Controller.migrationValues, List.mem_cons, Prod.mk.injEq, List.not_mem_nil,
        or_false] at entry
      rcases entry with ⟨-, rfl⟩ | ⟨-, rfl⟩ | ⟨-, rfl⟩
      · exact target.name_fits
      · exact target.password_fits
      · exact fits
    refine ⟨key, value, rfl, same ▸ Frame.encodeMeshUpdate_ok short, ?_⟩
    rw [found, ← met_eq_nil]
    by_cases calm : met script first number = [] <;> simp [calm]

end Gated

namespace Controller

variable (script : Script) (controller : Controller) (world : World (List Contact))

/-- Every contact of every operation. -/
theorem perform_gated (meshId : UInt16) (request : Request) :
    ∃ made, ((controller.perform meshId request).finish script.transport world).2.transport =
        world.transport ++ made ∧
      ∀ number contact, made[number]? = some contact →
        Gated script controller.address meshId world.tracker.key world.transport.length number
          contact := by
  cases request with
  | pair =>
    obtain ⟨made, grown, plain⟩ := pair_plain script controller world
    simp only [perform, Procedure.finish_bind, Procedure.finish_pure]
    exact ⟨made, grown, fun _ _ among => .of_plain (plain _ (List.mem_of_getElem? among))⟩
  | light command =>
    obtain ⟨made, grown, carries⟩ := send_carries script controller world meshId command
    simp only [perform, Procedure.finish_bind, Procedure.finish_pure]
    exact ⟨made, grown, fun _ _ among => .of_carries (carries _ (List.mem_of_getElem? among))⟩
  | status =>
    obtain ⟨made, grown, plain⟩ := readStatus_plain script controller world
    simp only [perform, Procedure.finish_bind, Procedure.finish_pure]
    exact ⟨made, grown, fun _ _ among => .of_plain (plain _ (List.mem_of_getElem? among))⟩
  | migrate target longTermKey =>
    simp only [perform, Procedure.finish_bind, Procedure.finish_pure]
    rcases migrate_traced script controller world target longTermKey with
      ⟨-, same⟩ | ⟨key, count, middle, held, fits, traced, added, -⟩
    · exact ⟨[], by simp [same], fun number contact made => absurd made (by simp)⟩
    · obtain ⟨steps, stepsAre, found⟩ := traced.found
      obtain ⟨behind, behindIs, drops⟩ := added
      refine ⟨steps ++ behind, by rw [behindIs, stepsAre, List.append_assoc], ?_⟩
      intro number contact among
      rw [List.getElem?_append] at among
      split at among
      · obtain ⟨asked, slot⟩ := found number contact among
        rw [held] at slot ⊢
        have listed : ∀ access, contact.access? = some access →
            access ∈ migrationAccesses key target longTermKey := fun access same =>
          List.mem_of_mem_take (List.mem_of_getElem? (asked.symm.trans same))
        exact .of_migration fits listed slot
      · have drop := drops contact (List.mem_of_getElem? among)
        exact .of_plain fun access asked => by simp [drop] at asked

end Controller

/-- Which frames meet their key, at every point of every conversation and for every operation.

A command frame always finds the key that it is covered with in the slot. A frame of a move is
enciphered under the key from the beginning of the move, and finds it in the slot exactly if no
earlier call of the move was disturbed. A move that succeeds takes the new credentials over, and the
key is still in the slot exactly if none of the four calls was disturbed. -/
theorem frames_and_slot (script : Script) (controller : Controller)
    (orders : List (Order Disturbance)) (meshId : UInt16) (request : Request) :
    let reached := (Conversation.start controller []).run script.transport disturbed orders
    let performed := (reached.controller.perform meshId request).finish script.transport
      reached.world
    let first := reached.world.transport.length
    (∃ made, performed.2.transport = reached.world.transport ++ made ∧
      ∀ number contact, made[number]? = some contact →
        Gated script reached.controller.address meshId reached.world.tracker.key first number
          contact) ∧
    ∀ target longTermKey, request = .migrate target longTermKey →
      ∀ answer, performed.1.1 = .ok answer →
        performed.1.2.credentials = target ∧
        ∃ key, reached.world.tracker.key = some key ∧
          (performed.2.tracker.key = some key ↔
            ∀ number < 4, (script (first + number)).disturbances = []) := by
  intro reached performed first
  refine ⟨reached.controller.perform_gated script reached.world meshId request, ?_⟩
  intro target longTermKey moves answer succeeded
  have opened : performed = (reached.controller.perform meshId request).finish script.transport
    reached.world := rfl
  rw [moves] at opened
  simp only [Controller.perform, Procedure.finish_bind, Procedure.finish_pure] at opened
  have moved := reached.controller.migrate_traced script reached.world target longTermKey
  generalize (reached.controller.migrate target longTermKey).finish script.transport
    reached.world = move at *
  have isOk : move.1.1.isOk = true := by
    rw [opened] at succeeded
    cases ended : move.1.1 with
    | error failure => simp [ended, Except.map] at succeeded
    | ok _ => rfl
  rcases moved with ⟨failed, -⟩ | ⟨key, count, middle, held, -, traced, -, complete⟩
  · simp [failed] at isOk
  · obtain ⟨all, adopted, slot⟩ := complete isOk
    have whole : (Controller.migrationAccesses key target longTermKey).take count =
        Controller.migrationAccesses key target longTermKey :=
      List.take_of_length_le all
    rw [whole] at traced
    have kept : move.2.tracker.key = if met script first 4 = [] then some key else none := by
      rw [slot, traced.key, held]
      rfl
    rw [opened]
    refine ⟨adopted, key, held, ?_⟩
    rw [kept, ← met_eq_nil]
    by_cases calm : met script first 4 = [] <;> simp [calm]

/-- A pairing and a move whose calls all succeed; the link is lost just after the first frame of the
move was taken. -/
def lossBehindFirstFrame : Script
  | 2 => { report := some (.delivered (Frame.pairAcceptedTag :: List.replicate 8 0)) }
  | 3 => { report := some .written, after := [.linkLost] }
  | 6 => { report := some (.delivered [Frame.meshAcceptedTag]) }
  | _ => { report := some .written }

/-- A lost link does not stop a move: the second frame finds an empty slot, and all the same the
move succeeds and the new credentials are taken over. -/
theorem move_outlives_link :
    let controller : Controller :=
      { address := ⟨Vector.replicate 6 0⟩, credentials := ⟨"mesh", "word", by decide, by decide⟩,
        bound := defaultBound, random := { word := fun _ => 0 } }
    let target : Credentials := ⟨"office", "5678", by decide, by decide⟩
    let script := lossBehindFirstFrame
    let paired := (Conversation.start controller []).run script.transport disturbed
      [.operation 0 .pair]
    let performed := (paired.controller.perform 0 (.migrate target [])).finish script.transport
      paired.world
    let written : Contact → Option UInt8
      | .access (.write .pairing frame) _ _ => frame.head?
      | _ => none
    paired.world.tracker.key.isSome = true ∧
      (performed.2.transport[4]?.map fun contact => (written contact, contact.found.key)) =
        some (some MeshField.password.tag, none) ∧
      performed.1.1.isOk = true ∧ performed.1.2.credentials = target := by
  decide +kernel

end MeshLight.Session

import MeshLight.Proofs.Session.Migration
import MeshLight.Proofs.Session.Policy

/-!
# When new credentials are taken over

A move on a transport that follows a script meets at most four turns: one for each frame and one for
the reply. It is refused before the first of them if there is no key or if the long-term key does
not fit; nothing at all has changed then. Otherwise the steps are made up to the first one that
fails, and the new credentials are taken over exactly if none fails and the reply accepts them.

The frames are enciphered beforehand under the key that was there when the move began, so they are
described by what the light reads from them under that key.
-/

namespace MeshLight.Session

open Link (Script Contact Access Report)

/-- The first failure among the outcomes of steps, or a success if none of them failed. -/
def firstFailure : List (Except Failure Unit) → Except Failure Unit
  | [] => .ok ()
  | .error failure :: _ => .error failure
  | .ok _ :: later => firstFailure later

/-- How many steps are made if they would end like this: a step that fails is the last one. -/
def numberMade : List (Except Failure Unit) → Nat
  | [] => 0
  | .error _ :: _ => 1
  | .ok _ :: later => numberMade later + 1

/-- There is no first failure exactly if every step succeeds. -/
theorem firstFailure_ok_iff {outcomes : List (Except Failure Unit)} :
    firstFailure outcomes = .ok () ↔ ∀ outcome ∈ outcomes, outcome = .ok () := by
  induction outcomes with
  | nil => simp [firstFailure]
  | cons outcome later inductionHypothesis =>
    cases outcome with
    | error failure => simp [firstFailure]
    | ok _ => simpa [firstFailure] using inductionHypothesis

/-- The first failure of steps is looked for behind others if none of those fails. -/
theorem firstFailure_append (first second : List (Except Failure Unit)) :
    firstFailure (first ++ second) = (do
      firstFailure first
      firstFailure second) := by
  induction first with
  | nil => rfl
  | cons outcome later inductionHypothesis =>
    cases outcome with
    | error failure => rfl
    | ok _ => exact inductionHypothesis

/-- Steps behind others are made if none of those fails. -/
theorem numberMade_append {first : List (Except Failure Unit)}
    (succeeded : firstFailure first = .ok ()) (second : List (Except Failure Unit)) :
    numberMade (first ++ second) = first.length + numberMade second := by
  induction first with
  | nil => exact (Nat.zero_add _).symm
  | cons outcome later inductionHypothesis =>
    cases outcome with
    | error failure => cases succeeded
    | ok _ =>
      rw [List.cons_append, numberMade, inductionHypothesis succeeded, List.length_cons]
      omega

/-- No step is made behind one that fails. -/
theorem numberMade_append_failed {first : List (Except Failure Unit)} {failure : Failure}
    (failed : firstFailure first = .error failure) (second : List (Except Failure Unit)) :
    numberMade (first ++ second) = numberMade first ∧ numberMade first ≤ first.length := by
  induction first with
  | nil => cases failed
  | cons outcome later inductionHypothesis =>
    cases outcome with
    | error failure => exact ⟨rfl, Nat.succ_le_succ (Nat.zero_le _)⟩
    | ok _ =>
      obtain ⟨same, within⟩ := inductionHypothesis failed
      exact ⟨congrArg Nat.succ same, Nat.succ_le_succ within⟩

namespace Controller

variable (script : Script) (controller : Controller) (world : World (List Contact))

/-! ## The four steps -/

/-- How the step that writes the frame with this number ends, if it is made. -/
def frameTaken (number : Nat) : Except Failure Unit :=
  Step.outcome Step.taken controller.bound "mesh update" world.tracker.cancelled
    (script (world.transport.length + number))

/-- How the step that reads the reply ends, if it is made. -/
def replied : Except Failure Bytes :=
  Step.outcome Report.response controller.bound "mesh update reply" world.tracker.cancelled
    (script (world.transport.length + 3))

/-- What the bytes of a reply say. -/
def replyVerdict : Bytes → Except Failure Unit
  | [] => .error (.protocol "empty mesh update reply")
  | tag :: _ =>
    if tag = Frame.meshAcceptedTag then .ok ()
    else .error (.protocol ("mesh update rejected with tag " ++ Frame.byteName tag))

/-- What a move with its frames comes to: its first failure, or what the reply says. -/
def announced : Except Failure Unit := do
  firstFailure ((List.range 3).map (controller.frameTaken script world))
  replyVerdict (← controller.replied script world)

/-- A reply accepts exactly if it begins with the tag of acceptance. -/
theorem replyVerdict_ok_iff {reply : Bytes} : replyVerdict reply = .ok () ↔ reply.head? = some 0x07
    := by
  cases reply with
  | nil => simp [replyVerdict]
  | cons tag rest =>
    by_cases accepted : tag = Frame.meshAcceptedTag
    · simp [replyVerdict, accepted, Frame.meshAcceptedTag]
    · have other : tag ≠ 0x07 := accepted
      simp [replyVerdict, accepted, other]

/-- Any other reply is outside the protocol. -/
theorem replyVerdict_refused {reply : Bytes} (refused : reply.head? ≠ some 0x07) :
    ∃ detail, replyVerdict reply = .error (.protocol detail) := by
  cases reply with
  | nil => exact ⟨_, rfl⟩
  | cons tag rest =>
    have other : tag ≠ Frame.meshAcceptedTag := fun same => refused (congrArg some same)
    exact ⟨_, if_neg other⟩

/-- Writing frames gives the first failure, and its calls are those of the steps that were made.

The induction is on the frames. A step that succeeds leaves a tracker that nobody tore down and one
more contact, so the outcomes of the other frames are those of the later turns. -/
theorem finish_writeAll (frames : List Bytes) :
    let outcomes := (List.range frames.length).map (controller.frameTaken script world)
    ∃ later, (controller.writeAll frames).run.finish script.transport world =
        (firstFailure outcomes, later) ∧
      Stepped script ((frames.map (.write .pairing)).take (numberMade outcomes)) world later ∧
      (firstFailure outcomes = .ok () →
        later.tracker.cancelled = world.tracker.cancelled) := by
  induction frames generalizing world with
  | nil => exact ⟨world, rfl, Stepped.refl world, fun _ => rfl⟩
  | cons frame frames inductionHypothesis =>
    have firstIs : Step.outcome Step.taken controller.bound "mesh update" world.tracker.cancelled
        (script world.transport.length) = controller.frameTaken script world 0 := rfl
    simp only [writeAll, write, Procedure.finish_attempt, Step.finish_scripted_write, firstIs,
      List.length_cons, List.range_succ_eq_map, List.map_cons, List.map_map]
    have one := Stepped.behind script (.write .pairing frame) (controller.frameTaken script world 0)
      world
    generalize Step.behind script (.write .pairing frame) (controller.frameTaken script world 0)
      world = taken at *
    cases first : controller.frameTaken script world 0 with
    | error failure => exact ⟨taken, rfl, one, fun succeeded => by cases succeeded⟩
    | ok _ =>
      have same : taken.tracker.cancelled = world.tracker.cancelled :=
        one.mark_eq (by simpa using (Step.outcome_ok (firstIs.trans first)).2)
      have met : taken.transport.length = world.transport.length + 1 := one.length
      have turns : controller.frameTaken script world ∘ Nat.succ =
          controller.frameTaken script taken := by
        funext number
        simp only [Function.comp, frameTaken, same, met, Nat.succ_eq_add_one, Nat.add_assoc,
          Nat.add_comm 1]
      obtain ⟨later, finished, stepped, kept⟩ := inductionHypothesis taken
      rw [turns]
      exact ⟨later, finished, one.trans stepped, fun succeeded => (kept succeeded).trans same⟩

/-- The outcomes of all four steps, in order. -/
def moveOutcomes : List (Except Failure Unit) :=
  (List.range 3).map (controller.frameTaken script world) ++
    [(controller.replied script world).map fun _ => ()]

/-- Announcing gives the first failure or what the reply says, and its calls are those of the steps
that were made. -/
theorem finish_announce (frames : List Bytes) (three : frames.length = 3) :
    ∃ later, (controller.announce frames).run.finish script.transport world =
        (controller.announced script world, later) ∧
      Stepped script ((frames.map (Access.write .pairing) ++ [Access.read .pairing]).take
        (numberMade (controller.moveOutcomes script world))) world later := by
  have replyIs : Step.outcome Report.response controller.bound "mesh update reply"
      world.tracker.cancelled (script (world.transport.length + 3)) =
        controller.replied script world := rfl
  obtain ⟨middle, wrote, stepped, kept⟩ := finish_writeAll script controller world frames
  rw [three] at wrote stepped kept
  unfold moveOutcomes announced
  generalize written : (List.range 3).map (controller.frameTaken script world) = outcomes at *
  have allThree : outcomes.length = 3 := by
    rw [← written]
    rfl
  have mapped : (frames.map (Access.write .pairing)).length = outcomes.length := by
    rw [List.length_map, three, allThree]
  simp only [announce, read, Procedure.finish_attempt, wrote, Step.finish_scripted_read]
  cases ended : firstFailure outcomes with
  | error failure =>
    obtain ⟨same, within⟩ := numberMade_append_failed ended
      [(controller.replied script world).map fun _ => ()]
    refine ⟨middle, rfl, ?_⟩
    rw [same, List.take_append_of_le_length (mapped ▸ within)]
    exact stepped
  | ok _ =>
    have whole : numberMade outcomes = outcomes.length := by
      simpa [numberMade] using numberMade_append ended []
    have made : numberMade (outcomes ++ [(controller.replied script world).map fun _ => ()]) =
        outcomes.length + 1 := by
      rw [numberMade_append ended]
      cases controller.replied script world <;> rfl
    rw [whole, ← mapped, List.take_length] at stepped
    have met : middle.transport.length = world.transport.length + 3 := by
      rw [stepped.length, mapped, allThree]
    simp only [kept ended, met, replyIs]
    have both := stepped.trans
      (Stepped.behind script (.read .pairing) (controller.replied script world) middle)
    generalize Step.behind script (.read .pairing) (controller.replied script world) middle =
      answered at *
    have all : (frames.map (Access.write .pairing) ++ [Access.read .pairing]).length ≤
        outcomes.length + 1 := by
      simp [mapped]
    rw [made, List.take_of_length_le all]
    cases controller.replied script world with
    | error failure => exact ⟨answered, rfl, both⟩
    | ok reply =>
      refine ⟨answered, ?_, both⟩
      change _ = (replyVerdict reply, answered)
      cases reply with
      | nil => rfl
      | cons tag rest =>
        by_cases accepted : tag = Frame.meshAcceptedTag <;> simp [replyVerdict, accepted]

/-- A tracker that was torn down before a move fails its first step. -/
theorem announced_torn (torn : world.tracker.cancelled = true) :
    controller.announced script world = .error .cancelled := by
  have first : controller.frameTaken script world 0 = .error .cancelled := by
    simp [frameTaken, Step.outcome, torn]
  have outcomes : (List.range 3).map (controller.frameTaken script world) =
      controller.frameTaken script world 0 ::
        [controller.frameTaken script world 1, controller.frameTaken script world 2] := rfl
  rw [announced, outcomes, first]
  rfl

/-- A move comes to a success exactly if all four steps succeed and the reply accepts. -/
theorem announced_ok_iff :
    controller.announced script world = .ok () ↔
      (∀ number < 3, controller.frameTaken script world number = .ok ()) ∧
        ∃ reply, controller.replied script world = .ok reply ∧ reply.head? = some 0x07 := by
  have written : firstFailure ((List.range 3).map (controller.frameTaken script world)) = .ok () ↔
      ∀ number < 3, controller.frameTaken script world number = .ok () := by
    simp [firstFailure_ok_iff]
  rw [← written, announced]
  cases firstFailure ((List.range 3).map (controller.frameTaken script world)) with
  | error failure => exact ⟨nofun, nofun⟩
  | ok _ =>
    cases controller.replied script world with
    | error failure => exact ⟨nofun, nofun⟩
    | ok reply =>
      change replyVerdict reply = .ok () ↔ _
      rw [replyVerdict_ok_iff]
      constructor
      · intro accepted
        exact ⟨rfl, reply, rfl, accepted⟩
      · rintro ⟨-, _, ⟨⟩, accepted⟩
        exact accepted

/-- The first step that fails decides. -/
theorem announced_failed {failure : Failure}
    (failed : firstFailure (controller.moveOutcomes script world) = .error failure) :
    controller.announced script world = .error failure := by
  rw [moveOutcomes, firstFailure_append] at failed
  rw [announced]
  generalize firstFailure ((List.range 3).map (controller.frameTaken script world)) = written at *
  generalize controller.replied script world = reply at *
  cases written with
  | error first => exact failed
  | ok _ =>
    cases reply with
    | error last => exact failed
    | ok reply => cases failed

/-- If no step fails, a reply without the tag of acceptance is outside the protocol. -/
theorem announced_refused {reply : Bytes}
    (written : ∀ number < 3, controller.frameTaken script world number = .ok ())
    (answered : controller.replied script world = .ok reply) (refused : reply.head? ≠ some 0x07) :
    ∃ detail, controller.announced script world = .error (.protocol detail) := by
  have succeeded :
      firstFailure ((List.range 3).map (controller.frameTaken script world)) = .ok () := by
    simpa [firstFailure_ok_iff] using written
  obtain ⟨detail, verdict⟩ := replyVerdict_refused refused
  refine ⟨detail, ?_⟩
  rw [announced, succeeded, answered]
  exact verdict

/-! ## The whole move -/

/-- The frames of a move whose long-term key fits. -/
def moveFrames (key : SessionKey) (target : Credentials) (longTermKey : Bytes) : List Bytes :=
  (migrationValues target longTermKey).map fun entry => Frame.updateFrame key entry.1 entry.2

/-- What the light reads from the frames under their key: each field with its value and the zeros
behind it. -/
theorem decode_moveFrames (key : SessionKey) (target : Credentials) {longTermKey : Bytes}
    (fits : longTermKey.length ≤ fieldLimit) :
    (moveFrames key target longTermKey).map (fun frame =>
        (Frame.decodeMeshUpdate key frame).map fun content => (content.1, content.2.toList)) =
      (migrationValues target longTermKey).map fun entry =>
        .ok (entry.1, entry.2 ++ List.replicate (16 - entry.2.length) 0) := by
  rw [moveFrames, List.map_map]
  refine List.map_congr_left fun entry among => ?_
  have short : entry.2.length ≤ fieldLimit := by
    simp only [migrationValues, List.mem_cons, List.not_mem_nil, or_false] at among
    rcases among with rfl | rfl | rfl
    · exact target.name_fits
    · exact target.password_fits
    · exact fits
  simp only [Function.comp, Frame.decodeMeshUpdate_updateFrame]
  exact congrArg (fun block => Except.ok (entry.1, block)) (Bytes.fitted_toList_filled 16 _ short)

variable {world}

/-- A move that is not refused makes its steps, and then it takes the new credentials over or gives
up. Giving up drops the link for every failure that asks for it, because such a failure is none of a
tracker that was torn down. -/
theorem finish_migrate {key : SessionKey} {longTermKey : Bytes} (target : Credentials)
    (held : world.tracker.key = some key) (fits : longTermKey.length ≤ fieldLimit) :
    ∃ after final, (controller.migrate target longTermKey).finish script.transport world =
        ((controller.announced script world, after), final) ∧
      final.transport.map Contact.access? = world.transport.map Contact.access? ++
        (((moveFrames key target longTermKey).map (Access.write .pairing) ++
          [Access.read .pairing]).take (numberMade (controller.moveOutcomes script world))).map
            some ++
        (if dropsLink (controller.announced script world) = true then [none] else []) ∧
      (controller.announced script world = .ok () →
        after = { controller with credentials := target } ∧
          final.events = world.events ++ [.meshUpdated target.name]) ∧
      (∀ failure, controller.announced script world = .error failure →
        after = controller ∧ ∃ reported, final.events = world.events ++ reported ∧
          ∀ event ∈ reported, event = .disconnected) := by
  have framed : migrationFrames key target longTermKey = .ok (moveFrames key target longTermKey) :=
    migrationFrames_ok_iff.mpr ⟨fits, rfl⟩
  obtain ⟨middle, finished, stepped⟩ :=
    finish_announce script controller world (moveFrames key target longTermKey) rfl
  have dropping : dropsLink (controller.announced script world) = true →
      middle.tracker.cancelled = false := by
    intro drops
    cases torn : world.tracker.cancelled with
    | true =>
      rw [announced_torn script controller world torn] at drops
      cases drops
    | false =>
      obtain ⟨_, -, ended⟩ := announce_conducted script controller world
        (moveFrames key target longTermKey) torn
      rw [finished] at ended
      exact ended.dropping drops
  simp only [migrate, Procedure.finish_bind, finish_requireKey, held, Option.elim, framed, finished]
  cases ended : controller.announced script world with
  | ok _ =>
    refine ⟨_, _, rfl, ?_, fun _ => ⟨rfl, ?_⟩, fun _ failed => by cases failed⟩
    · simpa [dropsLink, World.emit] using stepped.calls
    · exact congrArg (· ++ [_]) stepped.events
  | error failure =>
    rw [ended] at dropping
    have givenUp := abort_gives_up script failure middle
    obtain ⟨reported, reports, only⟩ := abort_reports script failure middle
    refine ⟨controller, ((abort failure).finish script.transport middle).2, ?_, ?_,
      (fun succeeded => by cases succeeded), fun _ _ => ⟨rfl, reported, ?_, only⟩⟩
    · simp only [Procedure.finish_bind, Procedure.finish_pure]
    · have asked : (middle.tracker.cancelled = false ∧ failure.requiresDisconnect = true) ↔
          dropsLink (.error failure : Except Failure Unit) = true :=
        ⟨fun both => both.2, fun drops => ⟨dropping drops, drops⟩⟩
      simp only [givenUp.calls, stepped.calls, asked]
    · rw [reports, stepped.events]

/-- A move is all or nothing on the side of the controller, for every state of the controller and of
the tracker and every script.

Without a key, or with a long-term key that does not fit, it is refused and nothing has changed.
Otherwise its calls are the three frames and the read of the reply, up to the first step that fails,
and then the request to drop the link if the failure asks for it; under the key from the beginning
the light reads the name, the password and the long-term key from the frames. The move succeeds
exactly if all four steps do and the reply begins with the tag of acceptance. Exactly then the new
credentials are taken over and reported, and nothing else is. The failure is that of the first
failing step, else that of a reply outside the protocol. -/
theorem migration_all_or_nothing (script : Script) (controller : Controller) (target : Credentials)
    (longTermKey : Bytes) (world : World (List Contact)) :
    let moved := (controller.migrate target longTermKey).finish script.transport world
    (world.tracker.key = none →
      moved = ((.error (.notEstablished controller.address), controller), world)) ∧
    ∀ key, world.tracker.key = some key →
      (16 < longTermKey.length →
        moved = ((.error (.invalidCredentials
          (.credentialTooLong "long-term key" longTermKey.length 16)), controller), world)) ∧
      (longTermKey.length ≤ 16 →
        let written := controller.frameTaken script world
        let replied := controller.replied script world
        let outcomes := [written 0, written 1, written 2, replied.map fun _ => ()]
        let accepted := (∀ number < 3, written number = .ok ()) ∧
          ∃ reply, replied = .ok reply ∧ reply.head? = some 0x07
        let padded (value : Bytes) := value ++ List.replicate (16 - value.length) 0
        ∃ (frames : List Bytes) (result : Except Failure Unit) (after : Controller)
            (final : World (List Contact)), moved = ((result, after), final) ∧
          frames.map (fun frame =>
              (Frame.decodeMeshUpdate key frame).map fun content => (content.1, content.2.toList)) =
            [.ok (.name, padded (Bytes.ofText target.name)),
              .ok (.password, padded (Bytes.ofText target.password)),
              .ok (.longTermKey, padded longTermKey)] ∧
          final.transport.map Contact.access? = world.transport.map Contact.access? ++
            ((frames.map (Access.write .pairing) ++ [Access.read .pairing]).take
              (numberMade outcomes)).map some ++
            (if dropsLink result = true then [none] else []) ∧
          (result = .ok () ↔ accepted) ∧
          (accepted → after = { controller with credentials := target } ∧
            final.events = world.events ++ [.meshUpdated target.name]) ∧
          (¬accepted → after = controller ∧
            ∃ reported, final.events = world.events ++ reported ∧
              ∀ name, .meshUpdated name ∉ reported) ∧
          (∀ failure, firstFailure outcomes = .error failure → result = .error failure) ∧
          (∀ reply, (∀ number < 3, written number = .ok ()) → replied = .ok reply →
            reply.head? ≠ some 0x07 → ∃ detail, result = .error (.protocol detail))) := by
  intro moved
  constructor
  · intro unkeyed
    simp only [moved, migrate, Procedure.finish_bind, finish_requireKey, unkeyed]
    rfl
  intro key held
  constructor
  · intro long
    simp only [moved, migrate, Procedure.finish_bind, finish_requireKey, held, Option.elim,
      migrationFrames_tooLong key target long]
    rfl
  · intro fits written replied outcomes accepted padded
    obtain ⟨after, final, finished, calls, taken, kept⟩ :=
      finish_migrate script controller target held fits
    have decides : controller.announced script world = .ok () ↔ accepted :=
      announced_ok_iff script controller world
    refine ⟨moveFrames key target longTermKey, controller.announced script world, after, final,
      finished, decode_moveFrames key target fits, calls, decides,
      fun all => taken (decides.mpr all), ?_,
      fun failure => announced_failed script controller world,
      fun reply all answered refused =>
        announced_refused script controller world all answered refused⟩
    intro rejected
    cases ended : controller.announced script world with
    | ok _ => exact absurd (decides.mp ended) rejected
    | error failure =>
      obtain ⟨same, reported, reports, only⟩ := kept failure ended
      exact ⟨same, reported, reports, fun name among => by cases only _ among⟩

end Controller

end MeshLight.Session

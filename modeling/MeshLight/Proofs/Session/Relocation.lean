import MeshLight.Proofs.Bulb.Migration
import MeshLight.Proofs.Session.Lamp
import MeshLight.Proofs.Session.Migration

/-!
# A move between pairings

In calm a paired controller can always move its bulb. The bulb keeps of the new credentials what it
reads back from its fields, so the two sides go on with one secret if their secret survives that. A
text that goes on behind a zero is cut; if that changes the proof of the next pairing, the bulb
refuses it.
-/

namespace MeshLight.Session

/-- Whether a request leaves both sides with one secret. -/
def Request.Keeps : Request → Prop
  | .migrate target longTermKey =>
    longTermKey.length ≤ fieldLimit ∧ target.kept.secret = target.secret
  | _ => True

namespace Controller

variable (controller : Controller) {world : World Bulb}

/-- In calm all frames are taken, one after the other. -/
theorem finish_calm_writeAll (calm : Calm world) (frames : List Bytes) :
    ∃ later, (controller.writeAll frames).run.finish Bulb.transport world = (.ok (), later) ∧
      Calm later ∧
      later.transport =
        frames.foldl (fun bulb frame => bulb.taking .pairing frame) world.transport ∧
      later.tracker.key = world.tracker.key := by
  induction frames generalizing world with
  | nil => exact ⟨world, rfl, calm, rfl, rfl⟩
  | cons frame later inductionHypothesis =>
    have wrote := Step.finish_calm_write calm controller.bound "mesh update" .pairing frame
    have still := calm.rested _ (calm.bulb.taking .pairing frame)
    obtain ⟨ended, rest, endedCalm, bulb, key⟩ := inductionHypothesis still
    refine ⟨ended, ?_, endedCalm, bulb, key.trans ?_⟩
    · rw [writeAll, Procedure.finish_attempt, write, wrote]
      exact rest
    · exact Step.rested_key _ _

/-- In calm a move with a long-term key that fits succeeds. The session goes on. -/
theorem finish_calm_migrate (paired : Paired controller world) (target : Credentials)
    {longTermKey : Bytes} (fits : longTermKey.length ≤ fieldLimit) :
    ∃ later, (controller.migrate target longTermKey).finish Bulb.transport world =
        ((.ok (), { controller with credentials := target }), later) ∧
      Calm later ∧ later.transport = (world.transport.moved target).answered ∧
      later.tracker.key = world.tracker.key := by
  obtain ⟨key, held, heldThere⟩ := paired.key
  let frames := (migrationValues target longTermKey).map fun entry =>
    Frame.updateFrame key entry.1 entry.2
  have framed : migrationFrames key target longTermKey = .ok frames :=
    migrationFrames_ok_iff.mpr ⟨fits, rfl⟩
  obtain ⟨written, wrote, calm, bulb, slot⟩ :=
    controller.finish_calm_writeAll paired.toCalm frames
  have moved : written.transport = world.transport.moved target :=
    bulb.trans (Bulb.taking_move heldThere paired.stage paired.bulb.faults target longTermKey)
  have reply := Step.finish_calm_read calm controller.bound "mesh update reply" .pairing
  rw [calm.bulb.answering_pairing, moved] at reply
  have required := finish_requireKey controller Bulb.transport world
  rw [held] at required
  let answered := Step.rested (world.transport.moved target).answered written
  have announced : (controller.announce frames).run.finish Bulb.transport world =
      (.ok (), answered) := by
    simp only [announce, Procedure.finish_attempt, wrote, read, reply]
    rfl
  have still : Calm answered := calm.rested _ (moved ▸ calm.bulb.answered)
  refine ⟨answered.emit (.meshUpdated target.name), ?_, ⟨still.running, still.bulb⟩, rfl, slot⟩
  simp only [migrate, Procedure.finish_bind, required, Option.elim, framed, announced,
    Procedure.finish_emit, Procedure.finish_pure]

/-- If the secret survives, the two sides stay paired. -/
theorem moved_paired (paired : Paired controller world) {target : Credentials}
    (survives : target.kept.secret = target.secret) {later : World Bulb} (calm : Calm later)
    (bulb : later.transport = (world.transport.moved target).answered)
    (slot : later.tracker.key = world.tracker.key) :
    Paired { controller with credentials := target } later where
  toCalm := calm
  address := paired.address.trans (congrArg Bulb.address bulb).symm
  secret := (congrArg (fun bulb => bulb.credentials.secret) bulb).trans survives
  key := by
    obtain ⟨key, held, heldThere⟩ := paired.key
    exact ⟨key, slot.trans held, (congrArg Bulb.key bulb).trans heldThere⟩
  stage := (congrArg Bulb.stage bulb).trans paired.stage

/-- A request that leaves both sides with one secret succeeds and leaves them paired. -/
theorem perform_stays_paired (paired : Paired controller world) (meshId : UInt16)
    {request : Request} (keeps : request.Keeps) :
    let performed := (controller.perform meshId request).finish Bulb.transport world
    Paired performed.1.2 performed.2 ∧ performed.1.1.isOk = true := by
  by_cases stays : request.stays = true
  · obtain ⟨still, -, answered⟩ := perform_serves paired meshId stays
    exact ⟨still, answered.isOk⟩
  · cases request with
    | migrate target longTermKey =>
      obtain ⟨later, finished, calm, bulb, slot⟩ :=
        controller.finish_calm_migrate paired target keeps.1
      simp only [perform, Procedure.finish_bind, Procedure.finish_pure, finished]
      exact ⟨controller.moved_paired paired keeps.2 calm bulb slot, rfl⟩
    | _ => exact absurd rfl stays

end Controller

namespace Conversation

/-- Requests that leave both sides with one secret all succeed. The induction is on the requests
from the first one on, with any conversation of two paired sides. -/
theorem goOn_keeps {conversation : Conversation Bulb}
    (paired : Paired conversation.controller conversation.world)
    (requests : List (UInt16 × Request)) (keeping : ∀ entry ∈ requests, entry.2.Keeps) :
    Paired (conversation.goOn requests).controller (conversation.goOn requests).world ∧
      ∃ given, (conversation.goOn requests).results = conversation.results ++ given ∧
        ∀ result ∈ given, result.isOk = true := by
  induction requests generalizing conversation with
  | nil => exact ⟨paired, [], (List.append_nil _).symm, fun _ among => nomatch among⟩
  | cons entry later inductionHypothesis =>
    obtain ⟨still, succeeded⟩ :=
      conversation.controller.perform_stays_paired paired entry.1 (keeping entry List.mem_cons_self)
    obtain ⟨ended, given, results, all⟩ :=
      @inductionHypothesis (conversation.goOn [entry]) still
        fun other among => keeping other (List.mem_cons_of_mem _ among)
    refine ⟨ended, _ :: given, results.trans (List.append_assoc _ [_] given), ?_⟩
    exact List.forall_mem_cons.mpr ⟨succeeded, all⟩

/-- A move in calm. -/
theorem goOn_move {conversation : Conversation Bulb}
    (paired : Paired conversation.controller conversation.world) (meshId : UInt16)
    (target : Credentials) {longTermKey : Bytes} (fits : longTermKey.length ≤ fieldLimit) :
    let moved := conversation.goOn [(meshId, .migrate target longTermKey)]
    moved.controller = { conversation.controller with credentials := target } ∧
      Calm moved.world ∧
      moved.world.transport = (conversation.world.transport.moved target).answered ∧
      moved.world.tracker.key = conversation.world.tracker.key ∧
      moved.results = conversation.results ++ [.ok .done] := by
  obtain ⟨later, finished, calm, bulb, slot⟩ :=
    conversation.controller.finish_calm_migrate paired target fits
  have performed : (conversation.controller.perform meshId (.migrate target longTermKey)).finish
      Bulb.transport conversation.world =
        ((.ok .done, { conversation.controller with credentials := target }), later) := by
    simp only [Controller.perform, Procedure.finish_bind, Procedure.finish_pure, finished]
    rfl
  rw [goOn_singleton, performed]
  exact ⟨rfl, calm, bulb, slot, rfl⟩

/-- The proof decides a pairing in calm. -/
theorem goOn_decided {conversation : Conversation Bulb} (calm : Calm conversation.world)
    (meshId : UInt16) :
    let random := conversation.controller.drawRandom.1
    (conversation.goOn [(meshId, .pair)]).results = conversation.results ++
      [if Frame.proof conversation.world.transport.credentials random =
          Frame.proof conversation.controller.credentials random then .ok .done
        else .error (.authentication conversation.controller.address)] := by
  intro random
  rw [goOn_singleton]
  simp only [Controller.perform, Procedure.finish_bind, Procedure.finish_pure]
  by_cases same : Frame.proof conversation.world.transport.credentials random =
      Frame.proof conversation.controller.credentials random
  · obtain ⟨later, finished, -⟩ :=
      conversation.controller.finish_calm_accepted conversation.world calm same
    rw [if_pos same, finished]
    rfl
  · have refused := conversation.controller.finish_calm_refused conversation.world calm same
    rw [if_neg same, refused]
    rfl

end Conversation

/-- After a pairing, and any requests that leave both sides with one secret, a move with a long-term
key that fits always succeeds. The bulb then has what it could keep of the new credentials, and
their secret survives that if the texts have their zeros at their ends. If it does, the next pairing
succeeds and both sides hold the same key. In any case the next pairing succeeds exactly if its
proof survives, and otherwise the bulb refuses it. -/
theorem move_then_pair (start : Conversation Bulb) (calm : Calm start.world)
    (address : start.controller.address = start.world.transport.address)
    (secret : start.world.transport.credentials.secret = start.controller.credentials.secret)
    (meshId : UInt16) (requests : List (UInt16 × Request))
    (keeping : ∀ entry ∈ requests, entry.2.Keeps) (target : Credentials) (longTermKey : Bytes)
    (fits : longTermKey.length ≤ fieldLimit) :
    let paired := start.goOn ((meshId, .pair) :: requests)
    let moved := paired.goOn [(meshId, .migrate target longTermKey)]
    let again := moved.goOn [(meshId, .pair)]
    let random := moved.controller.drawRandom.1
    moved.results = paired.results ++ [.ok .done] ∧
      moved.controller.credentials = target ∧ moved.world.transport.credentials = target.kept ∧
      (Lossy.ZerosLast target.name → Lossy.ZerosLast target.password →
        target.kept.secret = target.secret) ∧
      (target.kept.secret = target.secret →
        again.results = moved.results ++ [.ok .done] ∧
          ∃ key, again.world.tracker.key = some key ∧ again.world.transport.key = some key) ∧
      again.results = moved.results ++
        [if Frame.proof target.kept random = Frame.proof target random then .ok .done
          else .error (.authentication moved.controller.address)] := by
  intro paired moved again random
  obtain ⟨first, opened, -, secured, -, -⟩ :=
    Conversation.goOn_pair start calm address secret meshId requests
  have pairedIs : paired = first.goOn requests := opened
  have still : Paired paired.controller paired.world := by
    rw [pairedIs]
    exact (Conversation.goOn_keeps secured requests keeping).1
  obtain ⟨controller, movedCalm, bulb, slot, results⟩ :=
    Conversation.goOn_move still meshId target fits
  have adopted : moved.controller.credentials = target := congrArg Controller.credentials controller
  have kept : moved.world.transport.credentials = target.kept := congrArg Bulb.credentials bulb
  refine ⟨results, adopted, kept, Credentials.secret_kept, fun survives => ?_, ?_⟩
  · have after : Paired moved.controller moved.world :=
      controller ▸ paired.controller.moved_paired still survives movedCalm bulb slot
    obtain ⟨last, reached, -, ended, -, succeeded⟩ :=
      Conversation.goOn_pair moved after.toCalm after.address after.secret meshId []
    have lastIs : again = last := reached
    rw [lastIs]
    exact ⟨succeeded, ended.key⟩
  · have decided := Conversation.goOn_decided movedCalm meshId
    rw [kept, adopted] at decided
    exact decided

/-- A status, a move to other credentials and another pairing. -/
theorem move_then_pair_office :
    let office : Credentials := ⟨"office", "5678", by decide, by decide⟩
    let paired := (Conversation.start someController
      (Bulb.new someLight { word := fun _ => 5 })).goOn [(0, .pair), (0, .status)]
    let moved := paired.goOn [(0, .migrate office [])]
    let again := moved.goOn [(0, .pair)]
    again.results = moved.results ++ [.ok .done] ∧
      ∃ key, again.world.tracker.key = some key ∧ again.world.transport.key = some key := by
  intro office
  have facts := move_then_pair (Conversation.start someController
    (Bulb.new someLight { word := fun _ => 5 })) ⟨rfl, ⟨rfl, rfl⟩⟩ rfl rfl 0 [(0, .status)]
    (List.forall_mem_singleton.mpr True.intro) office [] (by decide)
  obtain ⟨-, -, -, survives, succeeds, -⟩ := facts
  exact succeeds (survives (by decide) (by decide))

/-- Credentials whose name goes on behind a zero. -/
def longerName : Credentials :=
  ⟨"a\x00b", "c", by decide, by decide⟩

/-- A light that moved to such credentials is lost: it said that it took them, and then it refuses
them. -/
theorem longerName_refused :
    ((Conversation.start someController (Bulb.new someLight { word := fun _ => 5 })).goOn
      [(0, .pair), (0, .migrate longerName []), (0, .pair)]).results =
        [.ok .done, .ok .done, .error (.authentication someLight.address)] := by
  obtain ⟨paired, opened, drawn, secured, -, results⟩ :=
    Conversation.goOn_pair (Conversation.start someController
      (Bulb.new someLight { word := fun _ => 5 })) ⟨rfl, ⟨rfl, rfl⟩⟩ rfl rfl 0
        [(0, .migrate longerName []), (0, .pair)]
  obtain ⟨controller, calm, bulb, -, moved⟩ :=
    Conversation.goOn_move secured 0 longerName (by decide : ([] : Bytes).length ≤ fieldLimit)
  have kept := congrArg Bulb.credentials bulb
  have random := congrArg (fun controller => controller.drawRandom.1) controller
  have adopted := congrArg Controller.credentials controller
  have different : Frame.proof longerName.kept someController.drawRandom.2.drawRandom.1 ≠
      Frame.proof longerName someController.drawRandom.2.drawRandom.1 := by
    decide +kernel
  have decided := Conversation.goOn_decided calm 0
  rw [kept, random, adopted, drawn] at decided
  have refused := decided.trans (congrArg (_ ++ [·]) (if_neg different))
  have last := Conversation.goOn_concat [(0, .migrate longerName [])] (0, .pair) paired
  rw [opened]
  refine (congrArg Conversation.results last).trans (refused.trans ?_)
  rw [moved, results, controller, drawn]
  rfl

end MeshLight.Session

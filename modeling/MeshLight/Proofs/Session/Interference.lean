import MeshLight.Proofs.Bulb.Courier
import MeshLight.Session.Procedure

/-!
# Procedures under interference

Between any two actions of a procedure other parties may move. A procedure is safe in a world if it
keeps the two sides in agreement whatever moves come when, and if its result then says what it is
meant to say. Safety is defined along the tree of the procedure: at every action and every wait the
other parties have moved any number of times.

What a procedure needs is stated beforehand and what it gives afterwards, as a triple; the rules for
triples follow the ways in which procedures are put together. Only what stands before an action or a
wait has to be steady.
-/

namespace MeshLight.Session

open Link (Phase Tracker Verdict)

/-- What is shared in a world. -/
def World.scene (world : World Courier) : Scene :=
  (world.transport, world.tracker)

/-- The world some time later: other parties moved, and anything may have been reported. -/
def World.Precedes (world later : World Courier) : Prop :=
  ∃ moves, later.scene = Move.applyAll moves world.scene

namespace World.Precedes

/-- No time at all. -/
theorem refl (world : World Courier) : world.Precedes world :=
  ⟨[], rfl⟩

/-- Two spans of time. -/
theorem trans {world middle later : World Courier} (one : world.Precedes middle)
    (two : middle.Precedes later) : world.Precedes later := by
  obtain ⟨first, reached⟩ := one
  obtain ⟨second, ended⟩ := two
  exact ⟨first ++ second, by rw [Move.applyAll_append, ← reached, ended]⟩

/-- What is steady stays true as time goes by. -/
theorem steady {world later : World Courier} (precedes : world.Precedes later)
    {assertion : Scene → Prop} (steady : Steady assertion) (now : assertion world.scene) :
    assertion later.scene := by
  obtain ⟨moves, reached⟩ := precedes
  rw [reached]
  exact steady.applyAll moves now

end World.Precedes

/-- A write that asks for a pairing carries a proof that is not by chance that of a bulb with
another secret. -/
def Action.Discerned (credentials : Credentials) (bulb : Bulb) : Action → Prop
  | .write .pairing value _ =>
    ∀ random, Frame.requestRandom? value = some random → bulb.Discerns credentials random
  | _ => True

/-- A procedure that keeps the two sides in agreement whatever other parties do, and whose result
says what it is meant to say. -/
def Procedure.Safe {Value : Type} (credentials : Credentials) (post : Value → Scene → Prop) :
    Procedure Value → World Courier → Prop
  | .done value, world => post value world.scene
  | .act action next, world =>
    ∀ later, world.Precedes later → action.Discerned credentials later.transport.bulb →
      Sound (action.perform Courier.transport later).2.scene ∧
        (next (action.perform Courier.transport later).1).Safe credentials post
          (action.perform Courier.transport later).2
  | .await _ targets next, world =>
    ∀ later, world.Precedes later →
      (next ((later.tracker.verdict? targets).getD .timedOut)).Safe credentials post later

namespace Procedure.Safe

variable {First Second : Type} {credentials : Credentials}

/-- A safe procedure stays safe as time goes by. -/
theorem later {procedure : Procedure First} {world final : World Courier}
    {post : First → Scene → Prop} (steady : ∀ value, Steady (post value))
    (safe : procedure.Safe credentials post world) (precedes : world.Precedes final) :
    procedure.Safe credentials post final := by
  cases procedure with
  | done value => exact precedes.steady (steady value) safe
  | act action next => exact fun further after => safe further (precedes.trans after)
  | await bound targets next => exact fun further after => safe further (precedes.trans after)

/-- A safe procedure and then one that is safe wherever the first one ends. -/
theorem bind {first : Procedure First} {second : First → Procedure Second}
    {middle : First → Scene → Prop} {post : Second → Scene → Prop} {world : World Courier}
    (sound : Sound world.scene) (safe : first.Safe credentials middle world)
    (continues : ∀ value later, Sound later.scene → middle value later.scene →
      (second value).Safe credentials post later) :
    (first >>= second).Safe credentials post world := by
  induction first generalizing world with
  | done value => exact continues value world sound safe
  | act action next inductionHypothesis =>
    intro later precedes discerned
    obtain ⟨kept, rest⟩ := safe later precedes discerned
    exact ⟨kept, inductionHypothesis _ kept rest⟩
  | await bound targets next inductionHypothesis =>
    intro later precedes
    exact inductionHypothesis _ (precedes.steady Sound.steady sound) (safe later precedes)

/-- A safe procedure is safe for every result that says less. -/
theorem weaken {procedure : Procedure First} {post weaker : First → Scene → Prop}
    {world : World Courier} (safe : procedure.Safe credentials post world)
    (implies : ∀ value scene, post value scene → weaker value scene) :
    procedure.Safe credentials weaker world := by
  induction procedure generalizing world with
  | done value => exact implies value world.scene safe
  | act action next inductionHypothesis =>
    intro later precedes discerned
    obtain ⟨kept, rest⟩ := safe later precedes discerned
    exact ⟨kept, inductionHypothesis _ rest⟩
  | await bound targets next inductionHypothesis =>
    exact fun later precedes => inductionHypothesis _ (safe later precedes)

end Procedure.Safe

/-- Where both sides agree and some assertion holds, a procedure is safe and its result says
something. -/
def Upholds {Value : Type} (credentials : Credentials) (pre : Scene → Prop)
    (procedure : Procedure Value) (post : Value → Scene → Prop) : Prop :=
  ∀ world, Sound world.scene → pre world.scene → procedure.Safe credentials post world

namespace Upholds

variable {First Second : Type} {credentials : Credentials} {pre : Scene → Prop}

/-- The end of a procedure. -/
theorem done {post : First → Scene → Prop} {value : First}
    (implies : ∀ scene, pre scene → post value scene) :
    Upholds credentials pre (pure value) post :=
  fun world _ now => implies world.scene now

/-- Procedures one after the other. -/
theorem bind {first : Procedure First} {second : First → Procedure Second}
    {middle : First → Scene → Prop} {post : Second → Scene → Prop}
    (begins : Upholds credentials pre first middle)
    (continues : ∀ value, Upholds credentials (middle value) (second value) post) :
    Upholds credentials pre (first >>= second) post :=
  fun world sound now =>
    Procedure.Safe.bind sound (begins world sound now) fun value later => continues value later

/-- Less is needed, or more is given. -/
theorem weaken {first : Procedure First} {stronger : Scene → Prop}
    {post weaker : First → Scene → Prop} (upholds : Upholds credentials pre first post)
    (before : ∀ scene, stronger scene → pre scene)
    (after : ∀ value scene, post value scene → weaker value scene) :
    Upholds credentials stronger first weaker :=
  fun world sound now => (upholds world sound (before _ now)).weaken after

/-- A single action. -/
theorem action {action : Action} {post : action.Reply → Scene → Prop} (steady : Steady pre)
    (performs : ∀ world, Sound world.scene → pre world.scene →
      action.Discerned credentials world.transport.bulb →
        Sound (action.perform Courier.transport world).2.scene ∧
          post (action.perform Courier.transport world).1
            (action.perform Courier.transport world).2.scene) :
    Upholds credentials pre (Procedure.of action) post := by
  intro world sound now later precedes discerned
  exact performs later (precedes.steady Sound.steady sound) (precedes.steady steady now) discerned

/-- A single wait. -/
theorem wait {bound : Nat} {targets : List Phase} {post : Verdict → Scene → Prop}
    (steady : Steady pre)
    (ends : ∀ scene : Scene, pre scene →
      post ((scene.2.verdict? targets).getD .timedOut) scene) :
    Upholds credentials pre (Procedure.wait bound targets) post := by
  intro world sound now later precedes
  exact ends later.scene (precedes.steady steady now)

/-- An action that changes nothing that is shared. -/
theorem observe {action : Action} {post : action.Reply → Scene → Prop} (steady : Steady pre)
    (unchanged : ∀ world : World Courier,
      (action.perform Courier.transport world).2.scene = world.scene)
    (replies : ∀ world : World Courier, pre world.scene →
      post (action.perform Courier.transport world).1 world.scene) :
    Upholds credentials pre (Procedure.of action) post :=
  Upholds.action steady fun world sound now _ => by
    rw [unchanged]
    exact ⟨sound, replies world now⟩

/-- An action that changes the tracker, but installs no key and takes no cycle back. -/
theorem change {action : Action} {post : action.Reply → Scene → Prop} (steady : Steady pre)
    (change : Tracker → action.Reply × Tracker)
    (performs : ∀ world : World Courier,
      action.perform Courier.transport world = world.onTracker change)
    (key : ∀ tracker installed, (change tracker).2.key = some installed →
      tracker.key = some installed)
    (further : ∀ tracker, tracker.cycle ≤ (change tracker).2.cycle)
    (gives : ∀ courier tracker, Sound (courier, tracker) → pre (courier, tracker) →
      post (change tracker).1 (courier, (change tracker).2)) :
    Upholds credentials pre (Procedure.of action) post := by
  refine Upholds.action steady fun world sound now _ => ?_
  rw [performs]
  refine ⟨⟨?_, sound.honest, ?_⟩, gives world.transport world.tracker sound now⟩
  · exact fun installed held => sound.agreement installed (key _ installed held)
  · exact fun job among => Nat.le_trans (sound.past job among) (further _)

end Upholds

end MeshLight.Session

import MeshLight.Proofs.Session.Steps
import MeshLight.Proofs.Session.Stepwise

/-!
# The trace of an operation

What an operation writes into the log of a scripted transport. Every operation only adds contacts,
and whatever its permission does not name is not among them. An attempt that is a chain of steps
makes the first few of a fixed list of accesses, all of them if it succeeds, and every access finds
the key that was there when the chain began, unless a turn of an earlier step was disturbed.
-/

namespace MeshLight.Link.Contact

/-- The tracker that a contact found. -/
def found : Contact → Tracker
  | .access _ _ found => found
  | .disconnect found => found

end MeshLight.Link.Contact

namespace MeshLight.Session

open Link (Tracker Script Contact Access)

/-! ## Contacts of procedures -/

/-- Whether a contact asks for nothing but what is permitted. A request to drop the link asks for
nothing. -/
def Permission.Covers (permission : Permission) (contact : Contact) : Prop :=
  ∀ access, contact.access? = some access → permission.access access

/-- The contacts that were added are all of one kind. -/
def Adds (kind : Contact → Prop) (world later : World (List Contact)) : Prop :=
  ∃ made, later.transport = world.transport ++ made ∧ ∀ contact ∈ made, kind contact

namespace Adds

variable {kind wider : Contact → Prop} {world middle later : World (List Contact)}

/-- Nothing was added. -/
theorem none (same : later.transport = world.transport) : Adds kind world later :=
  ⟨[], by simp [same], List.forall_mem_nil _⟩

/-- What was added before and what was added behind it. -/
theorem trans (one : Adds kind world middle) (two : Adds kind middle later) :
    Adds kind world later := by
  obtain ⟨first, firstIs, firstMay⟩ := one
  obtain ⟨second, secondIs, secondMay⟩ := two
  refine ⟨first ++ second, ?_, fun contact among => ?_⟩
  · rw [secondIs, firstIs, List.append_assoc]
  · rcases List.mem_append.mp among with before | behind
    · exact firstMay contact before
    · exact secondMay contact behind

/-- A kind may be widened. -/
theorem weaken (adds : Adds kind world later) (wide : ∀ contact, kind contact → wider contact) :
    Adds wider world later := by
  obtain ⟨made, grown, may⟩ := adds
  exact ⟨made, grown, fun contact among => wide contact (may contact among)⟩

/-- A step adds its own contact. -/
theorem behind {Value : Type} (script : Script) (access : Access) (outcome : Except Failure Value)
    (own : kind (.access access (Step.issued world.tracker) (Step.handed world.tracker))) :
    Adds kind world (Step.behind script access outcome world) :=
  ⟨[_], rfl, by simpa using own⟩

/-- A procedure that makes its calls in whole steps adds only contacts that it is permitted. -/
theorem of_stepwise {permission : Permission} {Value : Type} {procedure : Procedure Value}
    (stepwise : Stepwise permission procedure) (script : Script) (world : World (List Contact)) :
    Adds permission.Covers world (procedure.finish script.transport world).2 := by
  have permits {access : Access} (permitted : permission.access access)
      (world : World (List Contact)) : permission.Covers
        (.access access (Step.issued world.tracker) (Step.handed world.tracker)) := by
    rintro _ ⟨⟩
    exact permitted
  induction stepwise generalizing world with
  | done value => exact none rfl
  | action action harmless => exact none (by cases action <;> first | rfl | cases harmless)
  | installKey key epoch permitted => exact none rfl
  | disconnect =>
    have dropped : Adds permission.Covers world
        ((world.withTracker world.tracker.clearKey.2).onTransport script.transport.disconnect) :=
      ⟨[.disconnect world.tracker.clearKey.2], rfl, by simp [Permission.Covers, Contact.access?]⟩
    have opened : Controller.disconnect.finish script.transport world =
        (if world.tracker.key.isSome = true then do
            Procedure.count .disconnect
            Procedure.emit .disconnected
          else pure () : Procedure Unit).finish script.transport
            ((world.withTracker world.tracker.clearKey.2).onTransport
              script.transport.disconnect) := rfl
    rw [opened]
    split
    · exact dropped
    · exact dropped
  | write bound step characteristic value permitted =>
    rw [Step.finish_scripted_write]
    exact behind script _ _ (permits permitted world)
  | read bound step characteristic permitted =>
    rw [Step.finish_scripted_read]
    exact behind script _ _ (permits permitted world)
  | bind _ _ begins continues =>
    rw [Procedure.finish_bind]
    exact (begins world).trans (continues _ _)

end Adds

/-! ## Contacts of chains of steps -/

/-- Steps one after the other that made some accesses, together with what each of them found: the
key from before the first step, unless a turn in between was disturbed. -/
structure Traced (script : Script) (accesses : List Access) (world later : World (List Contact)) :
    Prop extends Stepped script accesses world later where
  found : ∃ made, later.transport = world.transport ++ made ∧
    ∀ number contact, made[number]? = some contact →
      contact.access? = accesses[number]? ∧
        contact.found.key =
          if met script world.transport.length number = [] then world.tracker.key else none

namespace Traced

variable {script : Script} {world middle later : World (List Contact)}

/-- No step at all. -/
theorem refl (world : World (List Contact)) : Traced script [] world world where
  toStepped := .refl world
  found := ⟨[], by simp, fun _ _ made => absurd made (by simp)⟩

/-- Steps behind steps. -/
theorem trans {first second : List Access} (one : Traced script first world middle)
    (two : Traced script second middle later) : Traced script (first ++ second) world later where
  toStepped := one.toStepped.trans two.toStepped
  found := by
    obtain ⟨before, beforeIs, beforeFound⟩ := one.found
    obtain ⟨behind, behindIs, behindFound⟩ := two.found
    have length : before.length = first.length := by
      have counted := one.length
      simp only [beforeIs, List.length_append] at counted
      omega
    refine ⟨before ++ behind, by rw [behindIs, beforeIs, List.append_assoc], ?_⟩
    intro number contact among
    by_cases early : number < before.length
    · rw [List.getElem?_append_left early] at among
      rw [List.getElem?_append_left (length ▸ early)]
      exact beforeFound number contact among
    · have late : before.length ≤ number := Nat.le_of_not_lt early
      rw [List.getElem?_append_right late] at among
      rw [List.getElem?_append_right (length ▸ late), ← length]
      obtain ⟨asked, key⟩ := behindFound _ contact among
      refine ⟨asked, ?_⟩
      have turns : met script world.transport.length number =
          met script world.transport.length before.length ++
            met script middle.transport.length (number - before.length) := by
        rw [one.length, ← length, ← met_add]
        congr 1
        omega
      rw [key, one.key, turns, ← length]
      by_cases calm : met script world.transport.length before.length = [] <;>
        by_cases still : met script middle.transport.length (number - before.length) = [] <;>
        simp [calm, still]

/-- One scripted step, however it ended. -/
theorem behind {Value : Type} (script : Script) (access : Access)
    (outcome : Except Failure Value) (world : World (List Contact)) :
    Traced script [access] world (Step.behind script access outcome world) where
  toStepped := .behind script access outcome world
  found := by
    refine ⟨[.access access (Step.issued world.tracker) (Step.handed world.tracker)], rfl, ?_⟩
    intro number contact among
    cases number with
    | zero =>
      cases among
      exact ⟨rfl, by simp [Contact.found, Step.handed, Link.Tracker.reset]⟩
    | succ number => cases among

end Traced

/-- An attempt that is a chain of steps: it makes the first of some accesses, and all of them if it
succeeds. -/
def Follows {Value : Type} (script : Script) (attempt : Attempt Value) (accesses : List Access)
    (world : World (List Contact)) : Prop :=
  ∃ number ≤ accesses.length,
    Traced script (accesses.take number) world (attempt.run.finish script.transport world).2 ∧
      ((attempt.run.finish script.transport world).1.isOk = true → number = accesses.length)

namespace Follows

variable {First Second : Type} {script : Script} {world : World (List Contact)}

/-- A success without a step. -/
theorem succeed (result : First) : Follows script (pure result : Attempt First) [] world :=
  ⟨0, Nat.le_refl 0, Traced.refl world, fun _ => rfl⟩

/-- A failure without a step. -/
theorem fail (failure : Failure) (accesses : List Access) :
    Follows script (throw failure : Attempt First) accesses world :=
  ⟨0, Nat.zero_le _, Traced.refl world, nofun⟩

/-- Attempts one after the other. Only a success leads on. -/
theorem bind {first : Attempt First} {second : First → Attempt Second}
    {before behind : List Access} (begins : Follows script first before world)
    (continues : ∀ result later, Follows script (second result) behind later) :
    Follows script (first >>= second) (before ++ behind) world := by
  obtain ⟨number, within, traced, complete⟩ := begins
  unfold Follows
  rw [Procedure.finish_attempt]
  generalize first.run.finish script.transport world = reached at *
  obtain ⟨result, later⟩ := reached
  cases result with
  | error failure =>
    refine ⟨number, by simp; omega, ?_, nofun⟩
    rwa [List.take_append_of_le_length within]
  | ok result =>
    obtain ⟨further, withinToo, tracedOn, completeOn⟩ := continues result later
    have whole : number = before.length := complete rfl
    refine ⟨before.length + further, by simp; omega, ?_, fun succeeded => ?_⟩
    · rw [List.take_length_add_append]
      rw [whole, List.take_length] at traced
      exact traced.trans tracedOn
    · rw [completeOn succeeded, List.length_append]

/-- A write is a step. -/
theorem write (bound : Nat) (step : String) (characteristic : Link.Characteristic)
    (value : Bytes) :
    Follows script (Step.write bound step characteristic value) [.write characteristic value]
      world := by
  unfold Follows
  rw [Step.finish_scripted_write]
  exact ⟨1, Nat.le_refl 1, Traced.behind script _ _ world, fun _ => rfl⟩

/-- A read is a step. -/
theorem read (bound : Nat) (step : String) (characteristic : Link.Characteristic) :
    Follows script (Step.read bound step characteristic) [.read characteristic] world := by
  unfold Follows
  rw [Step.finish_scripted_read]
  exact ⟨1, Nat.le_refl 1, Traced.behind script _ _ world, fun _ => rfl⟩

end Follows

end MeshLight.Session

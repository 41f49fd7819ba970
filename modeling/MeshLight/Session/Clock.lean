import MeshLight.Session.Procedure

/-!
# Time

Two things take time: a wait that nothing decides lasts as long as its bound, and a call keeps its
caller until it returns. Everything else happens at once.

A procedure is run for a span of time. It goes as far as the span lets it; if the span ends within a
wait or a call, what already passed of that is remembered, so that two spans one after the other do
what one span of both lengths does.
-/

namespace MeshLight.Session

open Link (Transport)

/-- A span of time in milliseconds; `none` is a span without an end. -/
abbrev Span := Option Nat

namespace Span

/-- The span in which only that happens which takes no time. -/
def instant : Span :=
  some 0

/-- Lets a while pass: what is left of the span then, or, if the span ends first, how much of the
while has passed by its end. -/
def pass (duration : Nat) : Span → Except Nat Span
  | none => .ok none
  | some length =>
    if duration ≤ length then .ok (some (length - duration)) else .error length

end Span

/-- How long an action takes. -/
def Action.duration {State : Type} (transport : Transport State) (world : World State) :
    Action → Nat
  | .callReturn => transport.latency world.transport
  | _ => 0

/-- How far a procedure came: the rest of it, the world as it is now, how much has passed of the
wait or the call that the rest begins with, and what is left of the span. -/
structure Progress (State Result : Type) where
  rest : Procedure Result
  world : World State
  spent : Nat := 0
  left : Span

/-- Runs a procedure for a span, beginning with a wait or a call of which a part has passed. Once
the world is as it was waited for, no more time passes. -/
def Procedure.advance {State Result : Type} (transport : Transport State)
    (enough : World State → Bool) :
    Procedure Result → Nat → Span → World State → Progress State Result
  | .done result, _, left, world => { rest := .done result, world, left }
  | .act action next, spent, left, world =>
    let span := if enough world then Span.instant else left
    match span.pass (action.duration transport world - spent) with
    | .ok left =>
      let (reply, changed) := action.perform transport world
      (next reply).advance transport enough 0 left changed
    | .error passed =>
      { rest := .act action next, world, spent := spent + passed, left := Span.instant }
  | .await bound targets next, spent, left, world =>
    match world.tracker.verdict? targets with
    | some verdict => (next verdict).advance transport enough 0 left world
    | none =>
      let span := if enough world then Span.instant else left
      match span.pass (bound - spent) with
      | .ok left => (next .timedOut).advance transport enough 0 left world
      | .error passed =>
        { rest := .await bound targets next, world, spent := spent + passed, left := Span.instant }

end MeshLight.Session

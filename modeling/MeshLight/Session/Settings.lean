import MeshLight.Identity.Address
import MeshLight.Identity.Credentials
import MeshLight.Random.Source

/-!
# Session settings

What a session with one light needs to know before it starts.
-/

namespace MeshLight.Session

/-- The bound on every wait unless another one is set, in milliseconds. -/
def defaultBound : Nat := 3000

/-- The parameters of a session with one light. Commands are addressed to the mesh id, and zero
reaches the connected light. The bound on every wait is in milliseconds; with a seed, the session's
randomness is reproducible. -/
structure Settings where
  address : Address
  credentials : Credentials
  meshId : UInt16 := 0
  bound : Nat := defaultBound
  seed : Option UInt64 := none
  deriving DecidableEq

/-- The random source of a session: the seeded one, or else the one that is given. -/
def Settings.random (settings : Settings) (unseeded : Random.Source) : Random.Source :=
  match settings.seed with
  | some seed => .seeded seed
  | none => unseeded

end MeshLight.Session

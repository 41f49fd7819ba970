import MeshLight.Cipher.Rounds

/-!
# Session values

Each side of a pairing contributes eight random bytes; the session key made from them authorises the
traffic of one connection.
-/

namespace MeshLight

/-- Eight random bytes chosen by one side of a pairing, as they are sent. -/
structure SessionRandom where
  bytes : Vector UInt8 8
  deriving Repr, DecidableEq

/-- The key of one connection, sixteen bytes. -/
structure SessionKey where
  block : Cipher.Block
  deriving Repr, DecidableEq

namespace SessionKey

/-- The form shown for inspection, which gives nothing away. -/
def shown (_ : SessionKey) : String :=
  "SessionKey(..)"

end SessionKey

end MeshLight

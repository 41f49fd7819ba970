import MeshLight.Cipher.Reversed
import MeshLight.Identity.Credentials
import MeshLight.Identity.Session

/-!
# Pairing frames

A pair request is a tag, the controller's random and a proof of the credentials under that random.
An accepting response has the same shape with the light's random; a rejection is its tag alone. Both
sides derive the session key from the credentials and the two randoms, the controller's first.
-/

namespace MeshLight.Frame

open Cipher (encrypt)

/-- First byte of a pair request. -/
def pairRequestTag : UInt8 := 0x0c

/-- First byte of a response that accepts the credentials. -/
def pairAcceptedTag : UInt8 := 0x0d

/-- First byte of a response that rejects the credentials. -/
def pairRejectedTag : UInt8 := 0x0e

/-- Written to the status characteristic to ask for a status echo. -/
def statusEcho : Bytes := [0x01]

/-- The block from which the proof of the credentials is cut. -/
def proofBlock (credentials : Credentials) (random : SessionRandom) : Cipher.Block :=
  encrypt (Bytes.fitted 16 random.bytes.toList) credentials.secret

/-- The proof that a peer knows the credentials. -/
def proof (credentials : Credentials) (random : SessionRandom) : Bytes :=
  (proofBlock credentials random).toList.take 8

/-- The request that opens a pairing. -/
def encodePairRequest (credentials : Credentials) (random : SessionRandom) : Bytes :=
  pairRequestTag :: (random.bytes.toList ++ proof credentials random)

/-- The random of a request made with the same credentials. Bytes after the proof are ignored. -/
def decodePairRequest (credentials : Credentials) (frame : Bytes) :
    Except Fault SessionRandom :=
  if frame.length < 17 then .error (.length "pair request" 17 frame.length)
  else
    let tag := frame.headD 0
    let random : SessionRandom := ⟨Bytes.fitted 8 (frame.drop 1)⟩
    let carried := (frame.drop 9).take 8
    if tag ≠ pairRequestTag then .error (.format ("pair request tag " ++ byteName tag))
    else if proof credentials random ≠ carried then
      .error (.integrity (proof credentials random) carried)
    else .ok random

/-- What a response to a pair request tells: the credentials were accepted, with the light's random;
they were rejected; or the tag is outside the protocol. -/
inductive PairResponse where
  | accepted (random : SessionRandom)
  | rejected
  | unexpected (tag : UInt8)
  deriving Repr, DecidableEq

/-- The response that accepts a request. -/
def encodePairResponse (credentials : Credentials) (random : SessionRandom) : Bytes :=
  pairAcceptedTag :: (random.bytes.toList ++ proof credentials random)

/-- Reads a response. The light's own proof is not looked at. -/
def decodePairResponse : Bytes → Except Fault PairResponse
  | [] => .error (.length "pair response" 1 0)
  | tag :: body =>
    if tag = pairAcceptedTag then
      if body.length < 8 then .error (.length "pair response" 9 (body.length + 1))
      else .ok (.accepted ⟨Bytes.fitted 8 body⟩)
    else if tag = pairRejectedTag then .ok .rejected
    else .ok (.unexpected tag)

/-- The key that both sides derive once they know both randoms. -/
def deriveSessionKey (credentials : Credentials) (controller device : SessionRandom) :
    SessionKey :=
  ⟨encrypt credentials.secret (Bytes.fitted 16 (controller.bytes.toList ++ device.bytes.toList))⟩

end MeshLight.Frame

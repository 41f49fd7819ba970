import MeshLight.Frame.Command

/-!
# Notification frames

What a light reports: its own sequence number of three bytes, the mesh id of the sender, two check
bytes and a covered payload. The nonce is made of the first three bytes of the address in air order
and the five bytes in front of the check.
-/

namespace MeshLight.Frame

/-- The payload that a light can put into one notification. -/
def notificationPayloadLimit : Nat := 13

/-- The nonce of a notification whose first five bytes are `header`. -/
def notificationNonce (address : Address) (header : Bytes) : Nonce :=
  Bytes.fitted 8 (address.airOrder.toList.take 3 ++ header.take 5)

/-- A notification after its check has passed, with the light's sequence number, the mesh id of the
sender and the plain payload. -/
structure Notification where
  sequence : Sequence
  source : UInt16
  payload : Bytes
  deriving Repr, DecidableEq

/-- The notification that a light sends. -/
def encodeNotification (key : SessionKey) (address : Address) (sequence : Sequence)
    (source : UInt16) (payload : Bytes) : Except Fault Bytes :=
  if payload.length ≤ notificationPayloadLimit then
    let header := sequence.toList ++ Bytes.ofWord source
    let nonce := notificationNonce address header
    .ok (header ++ (check key.block nonce payload).toList.take 2 ++ cover key.block nonce payload)
  else .error (.dataTooLong payload.length notificationPayloadLimit)

/-- Uncovers a notification and compares its check. The payload may have any length. -/
def decodeNotification (key : SessionKey) (address : Address) (frame : Bytes) :
    Except Fault Notification :=
  if frame.length < 7 then .error (.length "notification" 7 frame.length)
  else
    let nonce := notificationNonce address frame
    let payload := cover key.block nonce (frame.drop 7)
    let expected := (check key.block nonce payload).toList.take 2
    let carried := (frame.drop 5).take 2
    if expected ≠ carried then .error (.integrity expected carried)
    else
      .ok { sequence := Bytes.fitted 3 frame
            source := Bytes.toWord (frame.getD 3 0) (frame.getD 4 0)
            payload }

end MeshLight.Frame

import MeshLight.Bytes

/-!
# Reading doubtful text

Bytes that should be UTF-8 are read without refusing any: a sequence that cannot be continued is
replaced by U+FFFD, and reading goes on at the byte that did not fit.
-/

namespace MeshLight.Lossy

/-- How many bytes must follow a first byte; `none` if nothing can begin with it. -/
def followers? (first : UInt8) : Option Nat :=
  if first < 0x80 then some 0
  else if 0xc2 ≤ first ∧ first ≤ 0xdf then some 1
  else if 0xe0 ≤ first ∧ first ≤ 0xef then some 2
  else if 0xf0 ≤ first ∧ first ≤ 0xf4 then some 3
  else none

/-- Whether a byte may stand behind a first byte. The bounds leave out overlong forms, surrogates
and numbers beyond the last code point. -/
def maySecond (first second : UInt8) : Bool :=
  if first = 0xe0 then 0xa0 ≤ second ∧ second ≤ 0xbf
  else if first = 0xed then 0x80 ≤ second ∧ second ≤ 0x9f
  else if first = 0xf0 then 0x90 ≤ second ∧ second ≤ 0xbf
  else if first = 0xf4 then 0x80 ≤ second ∧ second ≤ 0x8f
  else 0x80 ≤ second ∧ second ≤ 0xbf

/-- Whether a byte may stand further behind. -/
def mayFollow (byte : UInt8) : Bool :=
  0x80 ≤ byte ∧ byte ≤ 0xbf

/-- The bytes behind `first` that belong to its sequence, at most `wanted`. -/
def belonging (first : UInt8) (wanted : Nat) : Bytes → Bytes
  | [] => []
  | second :: rest =>
    if wanted = 0 then []
    else if maySecond first second then second :: (rest.take (wanted - 1)).takeWhile mayFollow
    else []

/-- The number that a complete sequence stands for. -/
def point (first : UInt8) (behind : Bytes) : Nat :=
  let start :=
    match behind.length with
    | 0 => first.toNat
    | 1 => first.toNat % 32
    | 2 => first.toNat % 16
    | _ => first.toNat % 8
  behind.foldl (fun value byte => value * 64 + byte.toNat % 64) start

/-- The characters of some bytes. -/
def characters : Bytes → List Char
  | [] => []
  | first :: rest =>
    match followers? first with
    | none => '\uFFFD' :: characters rest
    | some wanted =>
      let behind := belonging first wanted rest
      let read := if behind.length = wanted then Char.ofNat (point first behind) else '\uFFFD'
      read :: characters (rest.drop behind.length)
termination_by bytes => bytes.length
decreasing_by
  · simp
  · simp only [List.length_drop, List.length_cons]; omega

/-- The text of some bytes. -/
def text (bytes : Bytes) : String :=
  String.ofList (characters bytes)

end MeshLight.Lossy

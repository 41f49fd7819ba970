import MeshLight.Text.Hex
import MeshLight.Proofs.Text.Lossy

/-!
# Hexadecimal text is read by its digits

A text is read from its bytes. A character beyond ASCII is written with bytes that are all beyond
ASCII, and no such byte is a digit, so what is read is known from the characters: there is an even
number of them and each is a digit of either case. The bytes are then the values of the pairs, one
after the other.

The values are counted here along the digits themselves, and not computed from the code of a
character as the reader does.
-/

namespace MeshLight.Hex

/-! ## Digits -/

/-- The digits in lower case, in the order of their values. -/
def lowerDigits : List Char := "0123456789abcdef".toList

/-- The digits in upper case, in the order of their values. -/
def upperDigits : List Char := "0123456789ABCDEF".toList

/-- Whether a character is a digit of either case. -/
def IsDigit (character : Char) : Prop :=
  character ∈ lowerDigits ++ upperDigits

instance (character : Char) : Decidable (IsDigit character) :=
  inferInstanceAs (Decidable (character ∈ lowerDigits ++ upperDigits))

/-- The value of a digit: its place among the digits of its case. -/
def digitValue (character : Char) : Nat :=
  if character ∈ lowerDigits then lowerDigits.idxOf character else upperDigits.idxOf character

/-- The bytes whose halves are the values of the digits, pair by pair. -/
def pairValues : List Char → Bytes
  | [] => []
  | [_] => []
  | high :: low :: rest => UInt8.ofNat (16 * digitValue high + digitValue low) :: pairValues rest

/-- What holds of the listed digits holds of every digit. -/
theorem of_digits {claim : Char → Prop} [DecidablePred claim]
    (all : (lowerDigits ++ upperDigits).all (claim ·) = true) :
    ∀ character, IsDigit character → claim character :=
  fun character isDigit => of_decide_eq_true (List.all_eq_true.mp all character isDigit)

/-- Every two digits make a byte. -/
theorem length_pairValues (characters : List Char) :
    (pairValues characters).length = characters.length / 2 := by
  fun_induction pairValues characters with
  | case1 => rfl
  | case2 => simp
  | case3 high low rest inductionHypothesis =>
    simp only [List.length_cons, inductionHypothesis]
    omega

/-! ## Writing -/

/-- The two digits of a byte in upper case. -/
theorem toList_upperByte (byte : UInt8) :
    (upperByte byte).toList =
      [(digit (byte.toNat / 16)).toUpper, (digit (byte.toNat % 16)).toUpper] :=
  String.toList_ofList

/-- The digit of a value is a digit and stands for it, also in upper case. -/
theorem digitValue_upper (value : Nat) (small : value < 16) :
    IsDigit (digit value).toUpper ∧ digitValue (digit value).toUpper = value := by
  have all : ∀ value < 16,
      IsDigit (digit value).toUpper ∧ digitValue (digit value).toUpper = value := by
    decide +kernel
  exact all value small

/-- A digit in lower case is a digit of the same value. -/
theorem digitValue_lower : ∀ character, IsDigit character →
    IsDigit character.toLower ∧ digitValue character.toLower = digitValue character :=
  of_digits (by decide)

/-- What is written for a byte consists of digits. -/
theorem isDigit_upperByte (byte : UInt8) :
    ∀ character ∈ (upperByte byte).toList, IsDigit character := by
  have bound := byte.toNat_lt
  rw [toList_upperByte]
  intro character among
  rcases List.mem_cons.mp among with rfl | among
  · exact (digitValue_upper _ (by omega)).1
  · rw [List.mem_singleton.mp among]
    exact (digitValue_upper _ (by omega)).1

/-- The values of what is written for bytes, pair by pair, are the bytes. -/
theorem pairValues_upper (bytes : Bytes) :
    pairValues (bytes.flatMap fun byte => (upperByte byte).toList) = bytes := by
  induction bytes with
  | nil => rfl
  | cons byte later inductionHypothesis =>
    have bound := byte.toNat_lt
    have high := (digitValue_upper (byte.toNat / 16) (by omega)).2
    have low := (digitValue_upper (byte.toNat % 16) (by omega)).2
    rw [List.flatMap_cons, toList_upperByte, List.cons_append, List.cons_append, List.nil_append,
      pairValues, high, low, inductionHypothesis, Nat.div_add_mod, UInt8.ofNat_toNat]

/-- Digits in lower case have the same values pair by pair. -/
theorem pairValues_lower {characters : List Char}
    (digits : ∀ character ∈ characters, IsDigit character) :
    pairValues (characters.map Char.toLower) = pairValues characters := by
  fun_induction pairValues characters with
  | case1 => rfl
  | case2 => rfl
  | case3 high low rest inductionHypothesis =>
    obtain ⟨isHigh, isLow, areDigits⟩ := by simpa only [List.forall_mem_cons] using digits
    rw [List.map_cons, List.map_cons, pairValues, (digitValue_lower high isHigh).2,
      (digitValue_lower low isLow).2, inductionHypothesis areDigits]

/-! ## Reading -/

/-- A digit is written with the one byte of its code. -/
theorem encoded_digit : ∀ character, IsDigit character →
    String.utf8EncodeChar character = [UInt8.ofNat character.toNat] :=
  of_digits (by decide)

/-- Only an ASCII character begins with an ASCII byte, and then this byte is its code. -/
theorem encoded_head (character : Char) :
    ∃ first later, String.utf8EncodeChar character = first :: later ∧
      (first.toNat < 128 → first.toNat = character.toNat) := by
  have number : character.val.toNat = character.toNat := rfl
  unfold String.utf8EncodeChar
  rw [number]
  generalize character.toNat = number
  dsimp only
  split
  case isTrue one => exact ⟨_, _, rfl, fun _ => Lossy.toNat_byte number (by omega)⟩
  -- A longer sequence begins with a byte from 0xc0 on.
  repeat' split
  all_goals
    refine ⟨_, _, rfl, fun small => ?_⟩
    rw [Lossy.toNat_byte _ (by omega)] at small
    omega

/-- A byte is read exactly if its character is a digit, and then for its value. -/
theorem value?_eq (byte : UInt8) :
    value? byte =
      if IsDigit (Char.ofNat byte.toNat) then
        some (UInt8.ofNat (digitValue (Char.ofNat byte.toNat)))
      else none := by
  have all : ∀ number < 256, value? (UInt8.ofNat number) =
      if IsDigit (Char.ofNat number) then some (UInt8.ofNat (digitValue (Char.ofNat number)))
      else none := by decide +kernel
  have here := all byte.toNat byte.toNat_lt
  rwa [UInt8.ofNat_toNat] at here

/-- What is read is the value of a digit. -/
theorem value?_eq_some_iff {byte value : UInt8} :
    value? byte = some value ↔
      IsDigit (Char.ofNat byte.toNat) ∧
        UInt8.ofNat (digitValue (Char.ofNat byte.toNat)) = value := by
  rw [value?_eq]
  by_cases digit : IsDigit (Char.ofNat byte.toNat)
  · simp [digit]
  · simp [digit]

/-- What is not read is no digit. -/
theorem value?_eq_none_iff {byte : UInt8} :
    value? byte = none ↔ ¬IsDigit (Char.ofNat byte.toNat) := by
  rw [value?_eq]
  by_cases digit : IsDigit (Char.ofNat byte.toNat)
  · simp [digit]
  · simp [digit]

/-- A character that is written with a digit first is that digit. -/
theorem isDigit_of_encoded {character : Char}
    (digits : ∀ byte ∈ String.utf8EncodeChar character, IsDigit (Char.ofNat byte.toNat)) :
    IsDigit character := by
  obtain ⟨first, later, encoded, ascii⟩ := encoded_head character
  have small : ∀ number < 256, IsDigit (Char.ofNat number) → number < 128 := by decide +kernel
  have digit := digits first (encoded ▸ List.mem_cons_self)
  rwa [ascii (small first.toNat first.toNat_lt digit), Char.ofNat_toNat] at digit

/-- The first byte whose character is no digit, and its place, if there is one; the first byte of
all stands at `position`. -/
def firstOther? (position : Nat) (text : Bytes) : Option (UInt8 × Nat) :=
  (text.zipIdx position).find? fun entry => ¬IsDigit (Char.ofNat entry.1.toNat)

/-- It is the first byte of all, or the first one behind it. -/
theorem firstOther?_cons (position : Nat) (byte : UInt8) (later : Bytes) :
    firstOther? position (byte :: later) =
      if IsDigit (Char.ofNat byte.toNat) then firstOther? (position + 1) later
      else some (byte, position) := by
  unfold firstOther?
  rw [List.zipIdx_cons, List.find?_cons]
  by_cases digit : IsDigit (Char.ofNat byte.toNat)
  · simp [digit]
  · simp [digit]

/-- There is no such byte exactly if all of them are digits. -/
theorem firstOther?_eq_none_iff {position : Nat} {text : Bytes} :
    firstOther? position text = none ↔ ∀ byte ∈ text, IsDigit (Char.ofNat byte.toNat) := by
  induction text generalizing position with
  | nil => simp [firstOther?]
  | cons byte later inductionHypothesis =>
    rw [firstOther?_cons, List.forall_mem_cons]
    by_cases digit : IsDigit (Char.ofNat byte.toNat)
    · simp [digit, inductionHypothesis]
    · simp [digit]

/-- Bytes that come in pairs are read for the values of their pairs, unless one of them is no digit:
then the first of these is named. The induction follows the pairs. -/
theorem decodeFrom_eq (position : Nat) {text : Bytes} (even : text.length % 2 = 0) :
    decodeFrom position text =
      match firstOther? position text with
      | some (byte, place) => .error (.badDigit byte place)
      | none => .ok (pairValues (text.map fun byte => Char.ofNat byte.toNat)) := by
  fun_induction decodeFrom position text with
  | case1 position high low rest upper lower isLower isUpper inductionHypothesis =>
    have evenRest : rest.length % 2 = 0 := by
      simp only [List.length_cons] at even
      omega
    obtain ⟨highDigit, rfl⟩ := value?_eq_some_iff.mp isUpper
    obtain ⟨lowDigit, rfl⟩ := value?_eq_some_iff.mp isLower
    rw [inductionHypothesis evenRest, firstOther?_cons, if_pos highDigit, firstOther?_cons,
      if_pos lowDigit]
    cases firstOther? (position + 2) rest with
    | some entry => rfl
    | none =>
      simp only [Except.map, List.map_cons, pairValues, UInt8.ofNat_add, UInt8.ofNat_mul,
        UInt8.mul_comm]
      rfl
  | case2 position high low rest upper isLow isUpper =>
    obtain ⟨highDigit, -⟩ := value?_eq_some_iff.mp isUpper
    rw [firstOther?_cons, if_pos highDigit, firstOther?_cons,
      if_neg (value?_eq_none_iff.mp isLow)]
  | case3 position high low rest isHigh =>
    rw [firstOther?_cons, if_neg (value?_eq_none_iff.mp isHigh)]
  | case4 text position short =>
    match text, even, short with
    | [], _, _ => rfl
    | high :: low :: rest, _, short => exact absurd rfl (short high low rest)

/-- A digit is the character of its byte. -/
theorem code_digit : ∀ character, IsDigit character →
    Char.ofNat (UInt8.ofNat character.toNat).toNat = character :=
  of_digits (by decide)

/-- Digits are the characters of their bytes. -/
theorem read_digits {characters : List Char}
    (digits : ∀ character ∈ characters, IsDigit character) :
    ((characters.map fun character => UInt8.ofNat character.toNat).map fun byte =>
      Char.ofNat byte.toNat) = characters := by
  rw [List.map_map]
  refine (List.map_congr_left fun character among => ?_).trans (List.map_id characters)
  exact code_digit character (digits character among)

/-- The bytes of digits are their codes. -/
theorem encoded_digits {characters : List Char}
    (digits : ∀ character ∈ characters, IsDigit character) :
    characters.flatMap String.utf8EncodeChar =
      characters.map fun character => UInt8.ofNat character.toNat := by
  induction characters with
  | nil => rfl
  | cons character later inductionHypothesis =>
    obtain ⟨digit, areDigits⟩ := List.forall_mem_cons.mp digits
    rw [List.flatMap_cons, encoded_digit character digit, inductionHypothesis areDigits]
    rfl

/-- A text of which some bytes are no digits is refused, and one with an odd number of bytes before
that; any other one is read for the values of its pairs. -/
theorem decode_eq (text : Bytes) :
    decode text =
      if text.length % 2 = 1 then .error .oddLength
      else
        match firstOther? 0 text with
        | some (byte, place) => .error (.badDigit byte place)
        | none => .ok (pairValues (text.map fun byte => Char.ofNat byte.toNat)) := by
  unfold decode
  split
  case isTrue => rfl
  case isFalse notOdd => exact decodeFrom_eq 0 (by omega)

/-- A text is read as some bytes exactly if it has an even number of characters, each of them is a
digit, and the bytes are the values of their pairs. -/
theorem decode_ok_iff {text : String} {bytes : Bytes} :
    decode (Bytes.ofText text) = .ok bytes ↔
      text.toList.length % 2 = 0 ∧ (∀ character ∈ text.toList, IsDigit character) ∧
        bytes = pairValues text.toList := by
  rw [Lossy.ofText_eq, decode_eq]
  generalize text.toList = characters
  constructor
  · intro decoded
    split at decoded
    case isTrue odd => cases decoded
    case isFalse notOdd =>
      split at decoded
      case h_1 => cases decoded
      case h_2 none =>
        have digits : ∀ character ∈ characters, IsDigit character := by
          intro character among
          apply isDigit_of_encoded
          intro byte inside
          exact firstOther?_eq_none_iff.mp none byte
            (List.mem_flatMap.mpr ⟨character, among, inside⟩)
        rw [encoded_digits digits, List.length_map] at notOdd
        rw [encoded_digits digits, read_digits digits] at decoded
        exact ⟨by omega, digits, (Except.ok.inj decoded).symm⟩
  · rintro ⟨even, digits, rfl⟩
    have none : firstOther? 0 (characters.flatMap String.utf8EncodeChar) = none := by
      rw [encoded_digits digits, firstOther?_eq_none_iff, List.forall_mem_map]
      intro character among
      rw [code_digit character (digits character among)]
      exact digits character among
    have notOdd : ¬(characters.flatMap String.utf8EncodeChar).length % 2 = 1 := by
      rw [encoded_digits digits, List.length_map]
      omega
    rw [if_neg notOdd, none, encoded_digits digits, read_digits digits]

end MeshLight.Hex

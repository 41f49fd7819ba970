import MeshLight.Identity.Address
import MeshLight.Proofs.Bytes
import MeshLight.Proofs.Text.Hex

/-!
# Addresses are read from twelve digits

Of a text only the characters other than colons and dashes count for the address that is read from
it. They must be twelve digits of either case, and the address is the values of their pairs. So an
address has many spellings: its digits may be in either case, and colons and dashes may stand
anywhere. All of them are read as the same address, its written form among them.
-/

namespace MeshLight.Address

/-! ## Reading -/

/-- The characters of a text but for its colons and dashes. -/
def bare (text : String) : List Char :=
  text.toList.filter fun character => character ≠ ':' ∧ character ≠ '-'

/-- These characters are the digits that are looked at. -/
theorem toList_digits (text : String) : (digits text).toList = bare text := by
  rw [digits, String.toList_ofList, bare]
  apply List.filter_congr
  intro character _
  rw [Bool.eq_iff_iff]
  simp [isSeparator]

/-- Twelve digits fill the six bytes of an address. -/
theorem fitted_pairValues {characters : List Char} (twelve : characters.length = 12) :
    (Bytes.fitted 6 (Hex.pairValues characters)).toList = Hex.pairValues characters := by
  have size := Hex.length_pairValues characters
  rw [Bytes.fitted_toList 6 _ (by omega), List.take_of_length_le (by omega)]

/-- A text is read as an address exactly if it is twelve digits among separators and the bytes of
the address are the values of their pairs. -/
theorem parse_ok_iff {text : String} {address : Address} :
    parse text = .ok address ↔
      (bare text).length = 12 ∧ (∀ character ∈ bare text, Hex.IsDigit character) ∧
        address.bytes.toList = Hex.pairValues (bare text) := by
  have size := Hex.length_pairValues (bare text)
  constructor
  · intro parsed
    unfold parse at parsed
    split at parsed
    case h_1 => cases parsed
    case h_2 bytes decoded =>
      rw [Hex.decode_ok_iff, toList_digits] at decoded
      obtain ⟨even, areDigits, rfl⟩ := decoded
      split at parsed
      case isFalse => cases parsed
      case isTrue six =>
        cases parsed
        have twelve : (bare text).length = 12 := by omega
        exact ⟨twelve, areDigits, fitted_pairValues twelve⟩
  · rintro ⟨twelve, areDigits, bytes⟩
    have decoded : Hex.decode (Bytes.ofText (digits text)) = .ok (Hex.pairValues (bare text)) := by
      rw [Hex.decode_ok_iff, toList_digits]
      exact ⟨by omega, areDigits, rfl⟩
    have six : (Hex.pairValues (bare text)).length = 6 := by omega
    simp only [parse, decoded, six, if_true]
    rw [← bytes, Bytes.fitted_self]

/-- A text is read exactly if it is twelve digits among separators. -/
theorem exists_parse_iff (text : String) :
    (∃ address, parse text = .ok address) ↔
      (bare text).length = 12 ∧ ∀ character ∈ bare text, Hex.IsDigit character := by
  constructor
  · rintro ⟨address, parsed⟩
    obtain ⟨twelve, areDigits, -⟩ := parse_ok_iff.mp parsed
    exact ⟨twelve, areDigits⟩
  · rintro ⟨twelve, areDigits⟩
    exact ⟨_, parse_ok_iff.mpr ⟨twelve, areDigits, fitted_pairValues twelve⟩⟩

/-! ## Spellings -/

/-- Separators between pieces are left out. -/
theorem filter_intercalate {keep : Char → Bool} {separator : List Char}
    (none : ∀ character ∈ separator, keep character = false) (pieces : List (List Char)) :
    (separator.intercalate pieces).filter keep = pieces.flatMap (List.filter keep) := by
  have gone : separator.filter keep = [] := List.filter_eq_nil_iff.mpr (by simpa using none)
  induction pieces with
  | nil => rfl
  | cons piece later inductionHypothesis =>
    by_cases last : later = []
    · subst last
      simp
    · rw [List.intercalate_cons_of_ne_nil last, List.filter_append, List.filter_append, gone,
        List.append_nil, inductionHypothesis, List.flatMap_cons]

/-- Digits are no separators. -/
theorem digit_ne_separator : ∀ character, Hex.IsDigit character →
    character ≠ ':' ∧ character ≠ '-' :=
  Hex.of_digits (by decide)

/-- Of the written form the digits of the bytes count, whatever separates them. -/
theorem bare_joined (address : Address) {separator : String}
    (separates : ∀ character ∈ separator.toList, character = ':' ∨ character = '-') :
    bare (address.joined separator) =
      address.bytes.toList.flatMap fun byte => (Hex.upperByte byte).toList := by
  have none : ∀ character ∈ separator.toList,
      decide (character ≠ ':' ∧ character ≠ '-') = false := by
    intro character among
    rcases separates character among with rfl | rfl
    · rfl
    · rfl
  have kept (byte : UInt8) : (Hex.upperByte byte).toList.filter
      (fun character => character ≠ ':' ∧ character ≠ '-') = (Hex.upperByte byte).toList := by
    rw [List.filter_eq_self]
    intro character among
    exact decide_eq_true (digit_ne_separator character (Hex.isDigit_upperByte byte character among))
  rw [bare, joined, String.toList_intercalate, filter_intercalate none, List.map_map,
    List.flatMap_map]
  simp only [Function.comp_apply, kept]

/-- The written form is read back, with separators of any kind between the pairs. -/
theorem parse_joined (address : Address) {separator : String}
    (separates : ∀ character ∈ separator.toList, character = ':' ∨ character = '-') :
    parse (address.joined separator) = .ok address := by
  rw [parse_ok_iff, bare_joined address separates]
  refine ⟨?_, ?_, ?_⟩
  · simp [List.length_flatMap, Hex.toList_upperByte, List.map_const']
  · intro character among
    obtain ⟨byte, -, inside⟩ := List.mem_flatMap.mp among
    exact Hex.isDigit_upperByte byte character inside
  · exact (Hex.pairValues_upper address.bytes.toList).symm

/-- In lower case a character is a separator exactly if it was one. -/
theorem toLower_eq_iff {character separator : Char}
    (separates : separator = ':' ∨ separator = '-') :
    character.toLower = separator ↔ character = separator := by
  have number : separator.val.toNat = 58 ∨ separator.val.toNat = 45 := by
    rcases separates with rfl | rfl
    · exact .inl rfl
    · exact .inr rfl
  unfold Char.toLower
  split
  case isFalse => rfl
  case isTrue letter =>
    -- An upper-case letter is no separator, and neither is its lower case.
    obtain ⟨low, high⟩ := letter
    have first : 65 ≤ character.val.toNat := UInt32.le_iff_toNat_le.mp low
    have last : character.val.toNat ≤ 90 := UInt32.le_iff_toNat_le.mp high
    simp only [Char.ext_iff, ← UInt32.toNat_inj, UInt32.toNat_add]
    change (character.val.toNat + 32) % 4294967296 = _ ↔ _
    omega

/-- Writing in lower case leaves the separators where they are. -/
theorem bare_lower (text : String) : bare text.toLower = (bare text).map Char.toLower := by
  have characters : text.toLower.toList = text.toList.map Char.toLower := String.toList_map
  rw [bare, bare, characters, List.filter_map]
  congr 2
  funext character
  simp only [Function.comp_apply, ne_eq, toLower_eq_iff (.inl rfl), toLower_eq_iff (.inr rfl)]

/-- A text that is read is read alike in lower case. -/
theorem parse_lower {text : String} {address : Address} (parsed : parse text = .ok address) :
    parse text.toLower = .ok address := by
  rw [parse_ok_iff] at parsed ⊢
  obtain ⟨twelve, areDigits, bytes⟩ := parsed
  rw [bare_lower]
  refine ⟨?_, ?_, ?_⟩
  · rw [List.length_map, twelve]
  · intro character among
    obtain ⟨digit, inside, rfl⟩ := List.mem_map.mp among
    exact (Hex.digitValue_lower digit (areDigits digit inside)).1
  · rw [Hex.pairValues_lower areDigits, bytes]

/-- The language of addresses, and that reading undoes writing.

A text is read exactly if twelve digits of either case are left of it without its colons and
dashes, and the bytes are then the values of their pairs in order. An address is read back from its
pairs of digits joined by colons, which is its written form, by dashes or by nothing, be it in upper
or in lower case. So writing what was read and reading it again gives the same as the first
reading. -/
theorem addresses_read :
    (∀ text : String,
      let characters := text.toList.filter fun character => character ≠ ':' ∧ character ≠ '-'
      ((∃ address, parse text = .ok address) ↔
        characters.length = 12 ∧ ∀ character ∈ characters, Hex.IsDigit character) ∧
      ∀ address, parse text = .ok address →
        address.bytes.toList = Hex.pairValues characters) ∧
    (∀ (address : Address), ∀ separator ∈ [":", "-", ""],
      parse (address.joined separator) = .ok address ∧
        parse (address.joined separator).toLower = .ok address) ∧
    ∀ text : String, (parse text >>= fun address => parse address.text) = parse text := by
  have known : ∀ separator ∈ [":", "-", ""], ∀ character ∈ separator.toList,
      character = ':' ∨ character = '-' := by simp
  refine ⟨?_, ?_, ?_⟩
  · intro text characters
    constructor
    · exact exists_parse_iff text
    · intro address parsed
      exact (parse_ok_iff.mp parsed).2.2
  · intro address separator among
    have read := parse_joined address (known separator among)
    exact ⟨read, parse_lower read⟩
  · intro text
    cases parse text with
    | error fault => rfl
    | ok address =>
      have read : parse address.text = .ok address :=
        parse_joined address (known ":" List.mem_cons_self)
      simp only [bind, Except.bind, read]

end MeshLight.Address

import MeshLight.Text.Lossy

/-!
# Text survives its bytes

Bytes that are UTF-8 are read back as the characters that they were written for. Only the character
zero is written with a byte zero, so the bytes before the first zero are the text before it.
-/

namespace MeshLight.Lossy

/-! ## One character -/

/-- Nothing belongs to a byte that stands alone. -/
theorem belonging_none (first : UInt8) (rest : Bytes) : belonging first 0 rest = [] := by
  cases rest <;> rfl

/-- All the bytes behind a first byte belong to it, if they may stand there. -/
theorem belonging_append {first second : UInt8} {later : Bytes} (rest : Bytes)
    (may : maySecond first second = true) (follow : later.all mayFollow = true) :
    belonging first (later.length + 1) (second :: later ++ rest) = second :: later := by
  have whole : later.takeWhile mayFollow = later := by
    simpa using @List.takeWhile_append_of_pos _ mayFollow later [] (List.all_eq_true.mp follow)
  simp [belonging, may, List.take_left', whole]

/-- A byte that stands alone is a character. -/
theorem characters_single {first : UInt8} (rest : Bytes) (complete : followers? first = some 0) :
    characters (first :: rest) = Char.ofNat first.toNat :: characters rest := by
  rw [characters]
  simp only [complete, belonging_none, List.length_nil, if_true, List.drop_zero]
  rfl

/-- A complete sequence is read as one character. -/
theorem characters_sequence {first second : UInt8} (later rest : Bytes)
    (complete : followers? first = some (later.length + 1))
    (may : maySecond first second = true) (follow : later.all mayFollow = true) :
    characters (first :: second :: later ++ rest) =
      Char.ofNat (point first (second :: later)) :: characters rest := by
  have belongs := belonging_append rest may follow
  rw [List.cons_append, characters]
  simp only [complete, belongs, List.length_cons, if_true]
  rw [← List.length_cons (a := second), List.drop_left]

/-- How many bytes must follow, by the number of the first byte. -/
theorem followers?_eq (first : UInt8) :
    followers? first =
      if first.toNat < 0x80 then some 0
      else if 0xc2 ≤ first.toNat ∧ first.toNat ≤ 0xdf then some 1
      else if 0xe0 ≤ first.toNat ∧ first.toNat ≤ 0xef then some 2
      else if 0xf0 ≤ first.toNat ∧ first.toNat ≤ 0xf4 then some 3
      else none := by
  simp [followers?, UInt8.lt_iff_toNat_lt, UInt8.le_iff_toNat_le]

/-- What may stand second, by the numbers of the two bytes. -/
theorem maySecond_iff (first second : UInt8) :
    maySecond first second = true ↔
      (0x80 ≤ second.toNat ∧ second.toNat ≤ 0xbf) ∧
        (first.toNat = 0xe0 → 0xa0 ≤ second.toNat) ∧
        (first.toNat = 0xed → second.toNat ≤ 0x9f) ∧
        (first.toNat = 0xf0 → 0x90 ≤ second.toNat) ∧
        (first.toNat = 0xf4 → second.toNat ≤ 0x8f) := by
  have opened : maySecond first second =
      if first.toNat = 0xe0 then decide (0xa0 ≤ second.toNat ∧ second.toNat ≤ 0xbf)
      else if first.toNat = 0xed then decide (0x80 ≤ second.toNat ∧ second.toNat ≤ 0x9f)
      else if first.toNat = 0xf0 then decide (0x90 ≤ second.toNat ∧ second.toNat ≤ 0xbf)
      else if first.toNat = 0xf4 then decide (0x80 ≤ second.toNat ∧ second.toNat ≤ 0x8f)
      else decide (0x80 ≤ second.toNat ∧ second.toNat ≤ 0xbf) := by
    simp [maySecond, ← UInt8.toNat_inj, UInt8.le_iff_toNat_le]
  rw [opened]
  repeat' split
  all_goals
    rw [decide_eq_true_iff]
    omega

/-- The number of a byte that was made from a number. -/
theorem toNat_byte (number : Nat) (small : number < 256) : (UInt8.ofNat number).toNat = number :=
  UInt8.toNat_ofNat_of_lt' small

/-- The number of a byte that carries six bits of a number. -/
theorem toNat_trail (number : Nat) :
    (UInt8.ofNat (number % 0x40 + 0x80)).toNat = number % 0x40 + 0x80 :=
  toNat_byte _ (by omega)

/-- Six bits of a number may stand further behind. -/
theorem mayFollow_trail (number : Nat) :
    mayFollow (UInt8.ofNat (number % 0x40 + 0x80)) = true := by
  have small : number % 0x40 < 0x40 := Nat.mod_lt number (by decide)
  simp only [mayFollow, UInt8.le_iff_toNat_le, toNat_trail, decide_eq_true_iff]
  change 0x80 ≤ number % 0x40 + 0x80 ∧ number % 0x40 + 0x80 ≤ 0xbf
  omega

section Lengths

variable {number : Nat} (rest : Bytes)

/-- A sequence of one byte. -/
theorem characters_one (small : number ≤ 0x7f) :
    characters (UInt8.ofNat number :: rest) = Char.ofNat number :: characters rest := by
  have first := toNat_byte number (by omega)
  refine (characters_single rest ?_).trans (by rw [first])
  rw [followers?_eq, first, if_pos (by omega)]

/-- A sequence of two bytes. -/
theorem characters_two (large : 0x7f < number) (small : number ≤ 0x7ff) :
    characters (UInt8.ofNat (number / 64 % 0x20 + 0xc0) :: UInt8.ofNat (number % 0x40 + 0x80) ::
      rest) = Char.ofNat number :: characters rest := by
  have first := toNat_byte (number / 64 % 0x20 + 0xc0) (by omega)
  refine (characters_sequence [] rest ?_ ?_ rfl).trans ?_
  · rw [followers?_eq, first, if_neg (by omega), if_pos (by omega)]
    rfl
  · rw [maySecond_iff, first, toNat_trail]
    omega
  · simp only [point, List.length_cons, List.length_nil, List.foldl_cons, List.foldl_nil, first,
      toNat_trail]
    congr 2
    omega

/-- A sequence of three bytes. No character lies between 0xd7ff and 0xe000. -/
theorem characters_three (large : 0x7ff < number) (small : number ≤ 0xffff)
    (valid : number < 0xd800 ∨ 0xdfff < number) :
    characters (UInt8.ofNat (number / 4096 % 0x10 + 0xe0) ::
      UInt8.ofNat (number / 64 % 0x40 + 0x80) :: UInt8.ofNat (number % 0x40 + 0x80) :: rest) =
        Char.ofNat number :: characters rest := by
  have first := toNat_byte (number / 4096 % 0x10 + 0xe0) (by omega)
  refine (characters_sequence [_] rest ?_ ?_ ?_).trans ?_
  · rw [followers?_eq, first, if_neg (by omega), if_neg (by omega), if_pos (by omega)]
    rfl
  · rw [maySecond_iff, first, toNat_trail]
    omega
  · simp only [List.all_cons, List.all_nil, mayFollow_trail, Bool.and_self]
  · simp only [point, List.length_cons, List.length_nil, List.foldl_cons, List.foldl_nil, first,
      toNat_trail]
    congr 2
    omega

/-- A sequence of four bytes. -/
theorem characters_four (large : 0xffff < number) (small : number < 0x110000) :
    characters (UInt8.ofNat (number / 262144 % 0x08 + 0xf0) ::
      UInt8.ofNat (number / 4096 % 0x40 + 0x80) :: UInt8.ofNat (number / 64 % 0x40 + 0x80) ::
        UInt8.ofNat (number % 0x40 + 0x80) :: rest) = Char.ofNat number :: characters rest := by
  have first := toNat_byte (number / 262144 % 0x08 + 0xf0) (by omega)
  refine (characters_sequence [_, _] rest ?_ ?_ ?_).trans ?_
  · rw [followers?_eq, first, if_neg (by omega), if_neg (by omega), if_neg (by omega),
      if_pos (by omega)]
    rfl
  · rw [maySecond_iff, first, toNat_trail]
    omega
  · simp only [List.all_cons, List.all_nil, mayFollow_trail, Bool.and_self]
  · simp only [point, List.length_cons, List.length_nil, List.foldl_cons, List.foldl_nil, first,
      toNat_trail]
    congr 2
    omega

end Lengths

/-- A character is read back from its bytes. -/
theorem characters_encoded (character : Char) (rest : Bytes) :
    characters (String.utf8EncodeChar character ++ rest) = character :: characters rest := by
  have valid : character.val.toNat < 0xd800 ∨
      0xdfff < character.val.toNat ∧ character.val.toNat < 0x110000 := character.valid
  have back : Char.ofNat character.val.toNat = character := Char.ofNat_toNat character
  unfold String.utf8EncodeChar
  generalize character.val.toNat = number at *
  rw [← back]
  dsimp only
  split
  case isTrue one => exact characters_one rest one
  split
  case isTrue two => exact characters_two rest (by omega) two
  split
  case isTrue three => exact characters_three rest (by omega) three (by omega)
  case isFalse four => exact characters_four rest (by omega) (by omega)

/-- Only the character zero is written with a byte zero. -/
theorem ne_zero_of_encoded {character : Char} (nonzero : character ≠ '\x00') :
    ∀ byte ∈ String.utf8EncodeChar character, byte ≠ 0 := by
  have positive : character.val.toNat ≠ 0 :=
    fun none => nonzero (Char.ext (UInt32.toNat_inj.mp none))
  unfold String.utf8EncodeChar
  generalize character.val.toNat = number at *
  intro byte among is
  subst is
  dsimp only at among
  repeat' split at among
  all_goals
    simp [← UInt8.toNat_inj] at among
    omega

/-! ## Texts -/

/-- The bytes of a text, character by character. -/
theorem ofText_ofList (content : List Char) :
    Bytes.ofText (String.ofList content) = content.flatMap String.utf8EncodeChar := by
  simp only [Bytes.ofText, String.toByteArray_ofList, List.utf8Encode, List.toList_data_toByteArray]

/-- The bytes of a text are those of its characters. -/
theorem ofText_eq (content : String) :
    Bytes.ofText content = content.toList.flatMap String.utf8EncodeChar := by
  rw [← ofText_ofList, String.ofList_toList]

/-- A text is read back from its bytes. -/
theorem text_ofText (content : String) : text (Bytes.ofText content) = content := by
  have read (all : List Char) : characters (all.flatMap String.utf8EncodeChar) = all := by
    induction all with
    | nil => simp [characters]
    | cons character later inductionHypothesis =>
      rw [List.flatMap_cons, characters_encoded, inductionHypothesis]
  rw [ofText_eq, text, read, String.ofList_toList]

/-- A text before its first zero. -/
def untilZero (content : String) : String :=
  String.ofList (content.toList.takeWhile (· ≠ '\x00'))

/-- The bytes before the first zero are the text before it. -/
theorem takeWhile_ofText (content : String) (zeros : Nat) :
    (Bytes.ofText content ++ List.replicate zeros 0).takeWhile (· ≠ 0) =
      Bytes.ofText (untilZero content) := by
  have cut (all : List Char) :
      (all.flatMap String.utf8EncodeChar ++ List.replicate zeros 0).takeWhile (· ≠ 0) =
        (all.takeWhile (· ≠ '\x00')).flatMap String.utf8EncodeChar := by
    induction all with
    | nil => cases zeros <;> simp [List.replicate_succ]
    | cons character later inductionHypothesis =>
      by_cases zero : character = '\x00'
      · subst zero
        rfl
      · have kept := ne_zero_of_encoded zero
        rw [List.flatMap_cons, List.append_assoc,
          List.takeWhile_append_of_pos (by simpa using kept), inductionHypothesis,
          List.takeWhile_cons_of_pos (by simpa using zero), List.flatMap_cons]
  rw [untilZero, ofText_ofList, ← cut, ← ofText_eq]

/-- Whether a text has its zeros at its end only. -/
def ZerosLast (content : String) : Prop :=
  ∀ character ∈ content.toList.dropWhile (· ≠ '\x00'), character = '\x00'

instance (content : String) : Decidable (ZerosLast content) :=
  List.decidableBAll (· = '\x00') (content.toList.dropWhile (· ≠ '\x00'))

/-- Of such a text only zeros are lost. -/
theorem ofText_untilZero {content : String} (last : ZerosLast content) :
    ∃ zeros, Bytes.ofText content =
      Bytes.ofText (untilZero content) ++ List.replicate zeros 0 := by
  have zeros (lost : List Char) (all : ∀ character ∈ lost, character = '\x00') :
      lost.flatMap String.utf8EncodeChar = List.replicate lost.length 0 := by
    induction lost with
    | nil => rfl
    | cons character later inductionHypothesis =>
      rw [List.flatMap_cons, all character List.mem_cons_self,
        inductionHypothesis fun other among => all other (List.mem_cons_of_mem _ among)]
      rfl
  refine ⟨(content.toList.dropWhile (· ≠ '\x00')).length, ?_⟩
  rw [untilZero, ofText_ofList, ← zeros _ last, ← List.flatMap_append,
    List.takeWhile_append_dropWhile, ← ofText_eq]

end MeshLight.Lossy

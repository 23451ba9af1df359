import Jet.Text.Utf8

/-!
# Decoding is the inverse of encoding

Bytes can be decoded exactly if they are the encoding of some text, which then is what they are
decoded as.  Each character is encoded in one to four bytes, by the size of its code point; what is
decoded first is the character whose encoding the bytes begin with.
-/

namespace Jet.Text.Utf8

/-- The bytes that stand for a character. -/
def encodeChar (char : Char) : List Nat :=
  (String.utf8EncodeChar char).map UInt8.toNat

/-- The bytes that stand for a text. -/
def encode (text : String) : List Nat :=
  text.toList.flatMap encodeChar

/-! ## One character -/

section

variable {char : Char}

theorem encodeChar_one (small : char.toNat < 0x80) :
    encodeChar char = [char.toNat] := by
  have known : char.val.toNat ≤ 0x7f := Nat.le_of_lt_succ small
  simp only [encodeChar, String.utf8EncodeChar, if_pos known, List.map_cons, List.map_nil,
    UInt8.toNat_ofNat', Char.toNat] at small ⊢
  congr 1
  omega

theorem encodeChar_two (large : 0x80 ≤ char.toNat) (small : char.toNat < 0x800) :
    encodeChar char = [char.toNat / 0x40 + 0xc0, char.toNat % 0x40 + 0x80] := by
  have notOne : ¬ char.val.toNat ≤ 0x7f := Nat.not_le.mpr large
  have known : char.val.toNat ≤ 0x7ff := Nat.le_of_lt_succ small
  simp only [encodeChar, String.utf8EncodeChar, if_neg notOne, if_pos known, List.map_cons,
    List.map_nil, UInt8.toNat_ofNat', Char.toNat] at small ⊢
  congr 2 <;> omega

theorem encodeChar_three (large : 0x800 ≤ char.toNat) (small : char.toNat < 0x10000) :
    encodeChar char =
      [char.toNat / 0x1000 + 0xe0, char.toNat / 0x40 % 0x40 + 0x80, char.toNat % 0x40 + 0x80] := by
  have notOne : ¬ char.val.toNat ≤ 0x7f := Nat.not_le.mpr (Nat.le_trans (by decide) large)
  have notTwo : ¬ char.val.toNat ≤ 0x7ff := Nat.not_le.mpr large
  have known : char.val.toNat ≤ 0xffff := Nat.le_of_lt_succ small
  simp only [encodeChar, String.utf8EncodeChar, if_neg notOne, if_neg notTwo, if_pos known,
    List.map_cons, List.map_nil, UInt8.toNat_ofNat', Char.toNat] at small ⊢
  congr 3 <;> omega

/-- No character has a code point from `0x110000` on. -/
theorem toNat_lt (char : Char) : char.toNat < 0x110000 := by
  rcases char.valid with low | ⟨_, high⟩
  · exact Nat.lt_trans low (by decide)
  · exact high

theorem encodeChar_four (large : 0x10000 ≤ char.toNat) :
    encodeChar char =
      [char.toNat / 0x40000 + 0xf0, char.toNat / 0x1000 % 0x40 + 0x80,
        char.toNat / 0x40 % 0x40 + 0x80, char.toNat % 0x40 + 0x80] := by
  have notOne : ¬ char.val.toNat ≤ 0x7f := Nat.not_le.mpr (Nat.le_trans (by decide) large)
  have notTwo : ¬ char.val.toNat ≤ 0x7ff := Nat.not_le.mpr (Nat.le_trans (by decide) large)
  have notThree : ¬ char.val.toNat ≤ 0xffff := Nat.not_le.mpr large
  have small := toNat_lt char
  simp only [encodeChar, String.utf8EncodeChar, if_neg notOne, if_neg notTwo, if_neg notThree,
    List.map_cons, List.map_nil, UInt8.toNat_ofNat', Char.toNat] at small ⊢
  congr 4 <;> omega

end

/-- A byte in the middle or at the end of a character, as a range. -/
theorem isContinuation_iff {byte : Nat} :
    isContinuation byte = true ↔ 0x80 ≤ byte ∧ byte < 0xc0 := by
  simp [isContinuation]

theorem isSecond_iff {first second : Nat} :
    isSecond first second = true ↔
      (0x80 ≤ second ∧ second < 0xc0) ∧ (first = 0xe0 → 0xa0 ≤ second) ∧
        (first = 0xed → second < 0xa0) ∧ (first = 0xf0 → 0x90 ≤ second) ∧
          (first = 0xf4 → second < 0x90) := by
  simp [isSecond, isContinuation]
  omega

/-! ## The beginning of some bytes -/

section

variable {a b c d : Nat} {rest : List Nat}

theorem firstChar_one (first : a < 0x80) :
    firstChar (a :: rest) = .ok (a, 1) :=
  if_pos first

theorem firstChar_two (low : 0xc2 ≤ a) (high : a < 0xe0) (second : isSecond a b = true) :
    firstChar (a :: b :: rest) = .ok ((a - 0xc0) * 0x40 + (b - 0x80), 2) := by
  have notOne : ¬ a < 0x80 := by omega
  have starts : ¬ (a < 0xc2 ∨ 0xf5 ≤ a) := by omega
  unfold firstChar
  dsimp only
  rw [if_neg notOne, if_neg starts]
  simp [second, high]

theorem firstChar_three (low : 0xe0 ≤ a) (high : a < 0xf0) (second : isSecond a b = true)
    (third : isContinuation c = true) :
    firstChar (a :: b :: c :: rest) =
      .ok (((a - 0xe0) * 0x40 + (b - 0x80)) * 0x40 + (c - 0x80), 3) := by
  have notOne : ¬ a < 0x80 := by omega
  have notTwo : ¬ a < 0xe0 := by omega
  have starts : ¬ (a < 0xc2 ∨ 0xf5 ≤ a) := by omega
  unfold firstChar
  dsimp only
  rw [if_neg notOne, if_neg starts]
  simp [second, third, notTwo, high]

theorem firstChar_four (low : 0xf0 ≤ a) (high : a < 0xf5) (second : isSecond a b = true)
    (third : isContinuation c = true) (fourth : isContinuation d = true) :
    firstChar (a :: b :: c :: d :: rest) =
      .ok ((((a - 0xf0) * 0x40 + (b - 0x80)) * 0x40 + (c - 0x80)) * 0x40 + (d - 0x80), 4) := by
  have notOne : ¬ a < 0x80 := by omega
  have notTwo : ¬ a < 0xe0 := by omega
  have notThree : ¬ a < 0xf0 := by omega
  have starts : ¬ (a < 0xc2 ∨ 0xf5 ≤ a) := by omega
  unfold firstChar
  dsimp only
  rw [if_neg notOne, if_neg starts]
  simp [second, third, fourth, notTwo, notThree]

/-- What the bytes of a character are in front of is what they are read as. -/
theorem firstChar_encodeChar_append (char : Char) (rest : List Nat) :
    firstChar (encodeChar char ++ rest) = .ok (char.toNat, (encodeChar char).length) := by
  have valid : char.toNat < 0xd800 ∨ 0xdfff < char.toNat ∧ char.toNat < 0x110000 := char.valid
  by_cases one : char.toNat < 0x80
  · rw [encodeChar_one one]
    exact firstChar_one one
  by_cases two : char.toNat < 0x800
  · have code : (char.toNat / 0x40 + 0xc0 - 0xc0) * 0x40 + (char.toNat % 0x40 + 0x80 - 0x80) =
        char.toNat := by omega
    rw [encodeChar_two (Nat.le_of_not_lt one) two, List.cons_append, List.singleton_append,
      firstChar_two (by omega) (by omega) (isSecond_iff.mpr (by omega)), code]
    rfl
  by_cases three : char.toNat < 0x10000
  · have code : ((char.toNat / 0x1000 + 0xe0 - 0xe0) * 0x40 +
          (char.toNat / 0x40 % 0x40 + 0x80 - 0x80)) * 0x40 + (char.toNat % 0x40 + 0x80 - 0x80) =
        char.toNat := by omega
    rw [encodeChar_three (Nat.le_of_not_lt two) three, List.cons_append, List.cons_append,
      List.singleton_append,
      firstChar_three (by omega) (by omega) (isSecond_iff.mpr (by omega))
        (isContinuation_iff.mpr (by omega)), code]
    rfl
  · have code : (((char.toNat / 0x40000 + 0xf0 - 0xf0) * 0x40 +
          (char.toNat / 0x1000 % 0x40 + 0x80 - 0x80)) * 0x40 +
          (char.toNat / 0x40 % 0x40 + 0x80 - 0x80)) * 0x40 + (char.toNat % 0x40 + 0x80 - 0x80) =
        char.toNat := by omega
    rw [encodeChar_four (Nat.le_of_not_lt three), List.cons_append, List.cons_append,
      List.cons_append, List.singleton_append,
      firstChar_four (by omega) (by omega) (isSecond_iff.mpr (by omega))
        (isContinuation_iff.mpr (by omega)) (isContinuation_iff.mpr (by omega)), code]
    rfl

/-- There is a character for every code point that is no surrogate and not too large. -/
theorem exists_char {code : Nat} (valid : code < 0xd800 ∨ 0xdfff < code ∧ code < 0x110000) :
    ∃ char : Char, char.toNat = code :=
  ⟨Char.ofNatAux code valid, rfl⟩

theorem exists_encodeChar_two (low : 0xc2 ≤ a) (high : a < 0xe0) (second : isSecond a b = true) :
    ∃ char : Char, char.toNat = (a - 0xc0) * 0x40 + (b - 0x80) ∧ encodeChar char = [a, b] := by
  have range := isSecond_iff.mp second
  have valid : (a - 0xc0) * 0x40 + (b - 0x80) < 0xd800 := by omega
  rcases exists_char (.inl valid) with ⟨char, code⟩
  have first : char.toNat / 0x40 + 0xc0 = a := by omega
  have last : char.toNat % 0x40 + 0x80 = b := by omega
  refine ⟨char, code, ?_⟩
  rw [encodeChar_two (by omega) (by omega), first, last]

theorem exists_encodeChar_three (low : 0xe0 ≤ a) (high : a < 0xf0) (second : isSecond a b = true)
    (third : isContinuation c = true) :
    ∃ char : Char, char.toNat = ((a - 0xe0) * 0x40 + (b - 0x80)) * 0x40 + (c - 0x80) ∧
      encodeChar char = [a, b, c] := by
  have range := isSecond_iff.mp second
  have lastRange := isContinuation_iff.mp third
  have valid : ((a - 0xe0) * 0x40 + (b - 0x80)) * 0x40 + (c - 0x80) < 0xd800 ∨
      0xdfff < ((a - 0xe0) * 0x40 + (b - 0x80)) * 0x40 + (c - 0x80) ∧
        ((a - 0xe0) * 0x40 + (b - 0x80)) * 0x40 + (c - 0x80) < 0x110000 := by omega
  rcases exists_char valid with ⟨char, code⟩
  have first : char.toNat / 0x1000 + 0xe0 = a := by omega
  have middle : char.toNat / 0x40 % 0x40 + 0x80 = b := by omega
  have last : char.toNat % 0x40 + 0x80 = c := by omega
  refine ⟨char, code, ?_⟩
  rw [encodeChar_three (by omega) (by omega), first, middle, last]

theorem exists_encodeChar_four (low : 0xf0 ≤ a) (high : a < 0xf5) (second : isSecond a b = true)
    (third : isContinuation c = true) (fourth : isContinuation d = true) :
    ∃ char : Char,
      char.toNat = (((a - 0xf0) * 0x40 + (b - 0x80)) * 0x40 + (c - 0x80)) * 0x40 + (d - 0x80) ∧
        encodeChar char = [a, b, c, d] := by
  have range := isSecond_iff.mp second
  have thirdRange := isContinuation_iff.mp third
  have lastRange := isContinuation_iff.mp fourth
  have valid :
      0xdfff < (((a - 0xf0) * 0x40 + (b - 0x80)) * 0x40 + (c - 0x80)) * 0x40 + (d - 0x80) ∧
        (((a - 0xf0) * 0x40 + (b - 0x80)) * 0x40 + (c - 0x80)) * 0x40 + (d - 0x80) < 0x110000 := by
    omega
  rcases exists_char (.inr valid) with ⟨char, code⟩
  have first : char.toNat / 0x40000 + 0xf0 = a := by omega
  have left : char.toNat / 0x1000 % 0x40 + 0x80 = b := by omega
  have right : char.toNat / 0x40 % 0x40 + 0x80 = c := by omega
  have last : char.toNat % 0x40 + 0x80 = d := by omega
  refine ⟨char, code, ?_⟩
  rw [encodeChar_four (by omega), first, left, right, last]

/-- What is read first is a character whose bytes come first; the cases are those of reading. -/
theorem exists_char_of_firstChar {bytes : List Nat} {code size : Nat}
    (read : firstChar bytes = .ok (code, size)) :
    ∃ char : Char, char.toNat = code ∧ encodeChar char <+: bytes := by
  unfold firstChar at read
  split at read
  · cases read
  rename_i a rest
  split at read
  · rename_i one
    cases read
    rcases exists_char (.inl (Nat.lt_trans one (by decide))) with ⟨char, rfl⟩
    exact ⟨char, rfl, rest, congrArg (· ++ rest) (encodeChar_one one)⟩
  rename_i notOne
  split at read
  · cases read
  rename_i starts
  split at read
  · cases read
  rename_i b rest
  split at read
  · cases read
  rename_i continues
  have second : isSecond a b = true := by simpa using continues
  split at read
  · rename_i two
    rcases Prod.mk.inj (Except.ok.inj read) with ⟨rfl, rfl⟩
    rcases exists_encodeChar_two (by omega) two second with ⟨char, code, spelled⟩
    exact ⟨char, code, rest, congrArg (· ++ rest) spelled⟩
  rename_i notTwo
  split at read
  · cases read
  rename_i c rest
  split at read
  · cases read
  rename_i continues
  have third : isContinuation c = true := by simpa using continues
  split at read
  · rename_i three
    rcases Prod.mk.inj (Except.ok.inj read) with ⟨rfl, rfl⟩
    rcases exists_encodeChar_three (by omega) three second third with ⟨char, code, spelled⟩
    exact ⟨char, code, rest, congrArg (· ++ rest) spelled⟩
  rename_i notThree
  split at read
  · cases read
  rename_i d rest
  split at read
  · cases read
  rename_i continues
  have fourth : isContinuation d = true := by simpa using continues
  rcases Prod.mk.inj (Except.ok.inj read) with ⟨rfl, rfl⟩
  rcases exists_encodeChar_four (by omega) (by omega) second third fourth with
    ⟨char, code, spelled⟩
  exact ⟨char, code, rest, congrArg (· ++ rest) spelled⟩

end

/-! ## All characters -/

theorem encodeChar_ne_nil (char : Char) : encodeChar char ≠ [] := by
  refine List.ne_nil_of_length_pos ?_
  rw [encodeChar, List.length_map, String.length_utf8EncodeChar]
  exact char.utf8Size_pos

/-- The bytes of a character that was read are passed over. -/
theorem decodeFrom_pending (front rest : List Nat) (position : Nat) :
    decodeFrom position front.length (front ++ rest) =
      decodeFrom (position + front.length) 0 rest := by
  induction front generalizing position with
  | nil => rfl
  | cons byte front induction =>
      rw [List.length_cons, List.cons_append, decodeFrom, induction, Nat.add_right_comm,
        Nat.add_assoc]

/-- What begins with the bytes of a character is read as this character and the rest. -/
theorem decodeFrom_encodeChar_append (char : Char) (rest : List Nat) (position : Nat) :
    decodeFrom position 0 (encodeChar char ++ rest) =
      (decodeFrom (position + (encodeChar char).length) 0 rest).map (char :: ·) := by
  have read := firstChar_encodeChar_append char rest
  rcases List.exists_cons_of_ne_nil (encodeChar_ne_nil char) with ⟨byte, others, equal⟩
  rw [equal] at read ⊢
  rw [List.cons_append] at read ⊢
  rw [decodeFrom, read]
  dsimp only
  rw [List.length_cons, Nat.add_sub_cancel, decodeFrom_pending, Char.ofNat_toNat,
    Nat.add_right_comm, Nat.add_assoc]

/-- Bytes are decoded as some characters exactly if they encode them. -/
theorem decodeFrom_eq_ok_iff {bytes : List Nat} {chars : List Char} {position : Nat} :
    decodeFrom position 0 bytes = .ok chars ↔ bytes = chars.flatMap encodeChar := by
  constructor
  · intro read
    induction chars generalizing bytes position with
    | nil =>
        rcases bytes with _ | ⟨byte, rest⟩
        · rfl
        rw [decodeFrom] at read
        split at read
        · rename_i code size _
          cases later : decodeFrom (position + 1) (size - 1) rest <;> rw [later] at read <;>
            cases read
        · cases read
    | cons char chars induction =>
        rcases bytes with _ | ⟨byte, rest⟩
        · cases read
        cases begins : firstChar (byte :: rest) with
        | error defect =>
            rw [decodeFrom, begins] at read
            cases read
        | ok first =>
            rcases exists_char_of_firstChar begins with ⟨found, code, behind, equal⟩
            rw [← equal, decodeFrom_encodeChar_append] at read
            cases later : decodeFrom (position + (encodeChar found).length) 0 behind with
            | error failure =>
                rw [later] at read
                cases read
            | ok others =>
                rw [later] at read
                cases read
                rw [← equal, List.flatMap_cons, induction later]
  · rintro rfl
    induction chars generalizing position with
    | nil => rfl
    | cons char chars induction =>
        rw [List.flatMap_cons, decodeFrom_encodeChar_append, induction]
        rfl

/-- A file is decoded as a text exactly if its bytes are the encoding of this text. -/
theorem decode_eq_ok_iff {bytes : List Nat} {text : String} :
    decode bytes = .ok text ↔ bytes = encode text := by
  constructor
  · intro read
    rw [decode] at read
    cases decoded : decodeFrom 0 0 bytes with
    | error failure =>
        rw [decoded] at read
        cases read
    | ok chars =>
        rw [decoded] at read
        cases read
        rw [decodeFrom_eq_ok_iff.mp decoded, encode, String.toList_ofList]
  · intro equal
    rw [decode, decodeFrom_eq_ok_iff.mpr equal]
    exact congrArg Except.ok String.ofList_toList

/-- Whether some bytes are the encoding of a text. -/
def IsEncoding (bytes : List Nat) : Prop :=
  ∃ text, bytes = encode text

/-- Bytes are refused exactly if they are the encoding of no text. -/
theorem exists_failure_iff {bytes : List Nat} :
    (∃ failure, decode bytes = .error failure) ↔ ¬ IsEncoding bytes := by
  constructor
  · rintro ⟨failure, refused⟩ ⟨text, encoded⟩
    rw [decode_eq_ok_iff.mpr encoded] at refused
    cases refused
  · intro noText
    cases decoded : decode bytes with
    | error failure => exact ⟨failure, rfl⟩
    | ok text => exact absurd ⟨text, decode_eq_ok_iff.mp decoded⟩ noText

end Jet.Text.Utf8

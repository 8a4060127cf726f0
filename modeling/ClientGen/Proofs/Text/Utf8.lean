import ClientGen.Text.Utf8

/-!
Decoding undoes encoding: the bytes that are accepted are those that encode a text, and they are read as this text
(`decode_eq_ok_iff`).
-/

namespace ClientGen.Text

open String (utf8EncodeChar)

-- Most proofs below rewrite with the equations of the decoder. They are generated once here, before the proofs are
-- checked side by side and wait for them.
attribute [grind =] decodeFrom

/-! ### The bytes of a text -/

private theorem toList_loop (bytes : ByteArray) (from_ : Nat) (done : List UInt8) :
    ByteArray.toList.loop bytes from_ done = done.reverse ++ bytes.data.toList.drop from_ := by
  fun_induction ByteArray.toList.loop bytes from_ done with
  | case1 i done inside ih =>
    have bound : i < bytes.data.toList.length := by simpa using inside
    rw [ih, List.drop_eq_getElem_cons bound]
    simp [ByteArray.get!, inside]
  | case2 i done behind =>
    rw [List.drop_eq_nil_of_le (by simpa using Nat.le_of_not_lt behind)]
    simp

/-- The bytes of a text are those of its characters, one after the other. -/
theorem encode_ofList (chars : List Char) : encode (String.ofList chars) = chars.flatMap utf8EncodeChar := by
  have bytes : (String.ofList chars).toByteArray = (chars.flatMap utf8EncodeChar).toByteArray :=
    String.toByteArray_ofList
  show ByteArray.toList.loop (String.ofList chars).toByteArray 0 [] = _
  rw [toList_loop, bytes, List.toList_data_toByteArray]
  rfl

/-! ### One character -/

private theorem leadByte_one {b : Nat} (high : b < 0x80) : leadByte b = some (0, b, 0, 0) := by
  simp [leadByte, high]

private theorem leadByte_two {b : Nat} (low : 0xc2 ≤ b) (high : b < 0xe0) :
    leadByte b = some (1, b - 0xc0, 0x80, 0xbf) := by
  grind [leadByte]

private theorem leadByte_three {b : Nat} (low : 0xe0 ≤ b) (high : b < 0xf0) :
    leadByte b = some (2, b - 0xe0, if b = 0xe0 then 0xa0 else 0x80, if b = 0xed then 0x9f else 0xbf) := by
  grind [leadByte]

private theorem leadByte_four {b : Nat} (low : 0xf0 ≤ b) (high : b < 0xf5) :
    leadByte b = some (3, b - 0xf0, if b = 0xf0 then 0x90 else 0x80, if b = 0xf4 then 0x8f else 0xbf) := by
  grind [leadByte]

private theorem leadByte_eq_some {b : Nat} {found : Nat × Nat × Nat × Nat} (begins : leadByte b = some found) :
    b < 0x80 ∨ (0xc2 ≤ b ∧ b < 0xe0) ∨ (0xe0 ≤ b ∧ b < 0xf0) ∨ (0xf0 ≤ b ∧ b < 0xf5) := by
  grind [leadByte]

private theorem le_of_ite_le {a b strict usual x : Nat} (bound : (if a = b then strict else usual) ≤ x)
    (stricter : usual ≤ strict) : usual ≤ x ∧ (a = b → strict ≤ x) := by
  split at bound <;> omega

private theorem le_of_le_ite {a b strict usual x : Nat} (bound : x ≤ if a = b then strict else usual)
    (stricter : strict ≤ usual) : x ≤ usual ∧ (a = b → x ≤ strict) := by
  split at bound <;> omega

private theorem code_ofNat {n : Nat} (valid : n.isValidChar) : (Char.ofNat n).val.toNat = n := by
  rw [Char.ofNat, dif_pos valid]
  rfl

private theorem ofNat_eq {n : Nat} {a : UInt8} (same : a.toNat = n) : UInt8.ofNat n = a := by
  rw [← same, UInt8.ofNat_toNat]

section

variable {n : Nat} {a b c d : UInt8}

private theorem encoded_one (high : n < 0x80) (first : a.toNat = n) : utf8EncodeChar (Char.ofNat n) = [a] := by
  rw [utf8EncodeChar, code_ofNat (by simp only [Nat.isValidChar]; omega), if_pos (by omega), ofNat_eq first]

private theorem encoded_two (low : 0x80 ≤ n) (high : n < 0x800) (first : a.toNat = n / 64 + 0xc0)
    (second : b.toNat = n % 64 + 0x80) : utf8EncodeChar (Char.ofNat n) = [a, b] := by
  rw [utf8EncodeChar, code_ofNat (by simp only [Nat.isValidChar]; omega), if_neg (by omega), if_pos (by omega),
    ofNat_eq (a := a) (by omega), ofNat_eq second]

private theorem encoded_three (valid : n.isValidChar) (low : 0x800 ≤ n) (high : n < 0x10000)
    (first : a.toNat = n / 4096 + 0xe0) (second : b.toNat = n / 64 % 64 + 0x80)
    (third : c.toNat = n % 64 + 0x80) : utf8EncodeChar (Char.ofNat n) = [a, b, c] := by
  rw [utf8EncodeChar, code_ofNat valid, if_neg (by omega), if_neg (by omega), if_pos (by omega),
    ofNat_eq (a := a) (by omega), ofNat_eq second, ofNat_eq third]

private theorem encoded_four (low : 0x10000 ≤ n) (high : n < 0x110000) (first : a.toNat = n / 262144 + 0xf0)
    (second : b.toNat = n / 4096 % 64 + 0x80) (third : c.toNat = n / 64 % 64 + 0x80)
    (fourth : d.toNat = n % 64 + 0x80) : utf8EncodeChar (Char.ofNat n) = [a, b, c, d] := by
  rw [utf8EncodeChar, code_ofNat (by simp only [Nat.isValidChar]; omega), if_neg (by omega), if_neg (by omega),
    if_neg (by omega), ofNat_eq (a := a) (by omega), ofNat_eq second, ofNat_eq third, ofNat_eq fourth]

end

/-- What is accepted of a character that has been begun: one more byte, within the bounds, and then the rest. -/
private theorem decodeFrom_begun {position : Nat} {p : Utf8Partial} {done chars : List Char} {bytes : List UInt8}
    (accepted : decodeFrom position (some p) done bytes = .ok chars) :
    ∃ byte rest, bytes = byte :: rest ∧ p.low ≤ byte.toNat ∧ byte.toNat ≤ p.high ∧
      let code := p.code * 64 + (byte.toNat - 0x80)
      (if p.missing = 1 then decodeFrom (position + 1) none (Char.ofNat code :: done) rest
      else decodeFrom (position + 1) (some ⟨p.first, p.start, p.read + 1, p.missing - 1, code, 0x80, 0xbf⟩) done
        rest) = .ok chars := by
  cases bytes with
  | nil => simp [decodeFrom] at accepted
  | cons byte rest =>
    rw [decodeFrom] at accepted
    split at accepted
    · rename_i within
      exact ⟨byte, rest, rfl, within.1, within.2, accepted⟩
    · simp at accepted

/-- Bytes that are accepted begin with those of a character. -/
private theorem decodeFrom_cons {position : Nat} {done chars : List Char} {byte : UInt8} {rest : List UInt8}
    (accepted : decodeFrom position none done (byte :: rest) = .ok chars) :
    ∃ c behind later, byte :: rest = utf8EncodeChar c ++ behind ∧
      decodeFrom later none (c :: done) behind = .ok chars := by
  rw [decodeFrom] at accepted
  cases begins : leadByte byte.toNat with
  | none => simp [begins] at accepted
  | some found =>
    have bound := byte.toNat_lt
    obtain one | ⟨low, high⟩ | ⟨low, high⟩ | ⟨low, high⟩ := leadByte_eq_some begins
    · rw [leadByte_one one] at accepted
      exact ⟨_, rest, _, by rw [encoded_one one rfl]; rfl, accepted⟩
    · rw [leadByte_two low high] at accepted
      obtain ⟨second, behind, rfl, low₂, high₂, accepted⟩ := decodeFrom_begun accepted
      refine ⟨_, behind, _, ?_, accepted⟩
      dsimp only at low₂ high₂ ⊢
      rw [encoded_two (a := byte) (b := second) (by omega) (by omega) (by omega) (by omega)]
      rfl
    · rw [leadByte_three low high] at accepted
      obtain ⟨second, _, rfl, low₂, high₂, accepted⟩ := decodeFrom_begun accepted
      obtain ⟨third, behind, rfl, low₃, high₃, accepted⟩ := decodeFrom_begun accepted
      have low₂ := le_of_ite_le low₂ (by decide)
      have high₂ := le_of_le_ite high₂ (by decide)
      refine ⟨_, behind, _, ?_, accepted⟩
      dsimp only at low₃ high₃ ⊢
      rw [encoded_three (a := byte) (b := second) (c := third) (by simp only [Nat.isValidChar]; omega) (by omega)
        (by omega) (by omega) (by omega) (by omega)]
      rfl
    · rw [leadByte_four low high] at accepted
      obtain ⟨second, _, rfl, low₂, high₂, accepted⟩ := decodeFrom_begun accepted
      obtain ⟨third, _, rfl, low₃, high₃, accepted⟩ := decodeFrom_begun accepted
      obtain ⟨fourth, behind, rfl, low₄, high₄, accepted⟩ := decodeFrom_begun accepted
      have low₂ := le_of_ite_le low₂ (by decide)
      have high₂ := le_of_le_ite high₂ (by decide)
      refine ⟨_, behind, _, ?_, accepted⟩
      dsimp only at low₃ high₃ low₄ high₄ ⊢
      rw [encoded_four (a := byte) (b := second) (c := third) (d := fourth) (by omega) (by omega) (by omega)
        (by omega) (by omega) (by omega)]
      rfl

section

variable {position first start read missing code low high : Nat} {done : List Char} {byte : UInt8} {rest : List UInt8}

private theorem decodeFrom_lead (begins : leadByte byte.toNat = some (missing + 1, code, low, high)) :
    decodeFrom position none done (byte :: rest) =
      decodeFrom (position + 1) (some ⟨byte.toNat, position, 1, missing + 1, code, low, high⟩) done rest := by
  rw [decodeFrom, begins]
  rfl

private theorem decodeFrom_more (within : low ≤ byte.toNat ∧ byte.toNat ≤ high) :
    decodeFrom position (some ⟨first, start, read, missing + 2, code, low, high⟩) done (byte :: rest) =
      decodeFrom (position + 1)
        (some ⟨first, start, read + 1, missing + 1, code * 64 + (byte.toNat - 0x80), 0x80, 0xbf⟩) done rest := by
  rw [decodeFrom, if_pos within]
  rfl

private theorem decodeFrom_last (within : low ≤ byte.toNat ∧ byte.toNat ≤ high) :
    decodeFrom position (some ⟨first, start, read, 1, code, low, high⟩) done (byte :: rest) =
      decodeFrom (position + 1) none (Char.ofNat (code * 64 + (byte.toNat - 0x80)) :: done) rest := by
  rw [decodeFrom, if_pos within]
  rfl

end

private theorem exists_byte {n : Nat} (small : n < 256) : ∃ byte : UInt8, byte.toNat = n :=
  ⟨.ofNat n, UInt8.toNat_ofNat_of_lt small⟩

/-- The bytes of a character are read as this character. -/
private theorem decodeFrom_character (position : Nat) (done : List Char) (c : Char) (rest : List UInt8) :
    ∃ later, decodeFrom position none done (utf8EncodeChar c ++ rest) = decodeFrom later none (c :: done) rest := by
  obtain ⟨n, valid, rfl⟩ : ∃ n : Nat, n.isValidChar ∧ Char.ofNat n = c := ⟨c.toNat, c.valid, Char.ofNat_toNat c⟩
  have bound : n < 0x110000 := by
    simp only [Nat.isValidChar] at valid
    omega
  by_cases one : n < 0x80
  · obtain ⟨b₁, first⟩ := exists_byte (n := n) (by omega)
    rw [encoded_one one first, List.singleton_append, decodeFrom, first, leadByte_one one]
    exact ⟨_, rfl⟩
  by_cases two : n < 0x800
  · obtain ⟨b₁, first⟩ := exists_byte (n := n / 64 + 0xc0) (by omega)
    obtain ⟨b₂, second⟩ := exists_byte (n := n % 64 + 0x80) (by omega)
    have code : (b₁.toNat - 0xc0) * 64 + (b₂.toNat - 0x80) = n := by omega
    rw [encoded_two (by omega) two first second]
    simp only [List.cons_append, List.nil_append]
    rw [decodeFrom_lead (leadByte_two (by omega) (by omega)), decodeFrom_last (by omega), code]
    exact ⟨_, rfl⟩
  by_cases three : n < 0x10000
  · obtain ⟨b₁, first⟩ := exists_byte (n := n / 4096 + 0xe0) (by omega)
    obtain ⟨b₂, second⟩ := exists_byte (n := n / 64 % 64 + 0x80) (by omega)
    obtain ⟨b₃, third⟩ := exists_byte (n := n % 64 + 0x80) (by omega)
    have code : ((b₁.toNat - 0xe0) * 64 + (b₂.toNat - 0x80)) * 64 + (b₃.toNat - 0x80) = n := by omega
    have within : (if b₁.toNat = 0xe0 then 0xa0 else 0x80) ≤ b₂.toNat ∧
        b₂.toNat ≤ if b₁.toNat = 0xed then 0x9f else 0xbf := by
      simp only [Nat.isValidChar] at valid
      split <;> split <;> omega
    rw [encoded_three valid (by omega) three first second third]
    simp only [List.cons_append, List.nil_append]
    rw [decodeFrom_lead (leadByte_three (by omega) (by omega)), decodeFrom_more within, decodeFrom_last (by omega),
      code]
    exact ⟨_, rfl⟩
  · obtain ⟨b₁, first⟩ := exists_byte (n := n / 262144 + 0xf0) (by omega)
    obtain ⟨b₂, second⟩ := exists_byte (n := n / 4096 % 64 + 0x80) (by omega)
    obtain ⟨b₃, third⟩ := exists_byte (n := n / 64 % 64 + 0x80) (by omega)
    obtain ⟨b₄, fourth⟩ := exists_byte (n := n % 64 + 0x80) (by omega)
    have code : (((b₁.toNat - 0xf0) * 64 + (b₂.toNat - 0x80)) * 64 + (b₃.toNat - 0x80)) * 64 + (b₄.toNat - 0x80) =
        n := by omega
    have within : (if b₁.toNat = 0xf0 then 0x90 else 0x80) ≤ b₂.toNat ∧
        b₂.toNat ≤ if b₁.toNat = 0xf4 then 0x8f else 0xbf := by
      split <;> split <;> omega
    rw [encoded_four (by omega) bound first second third fourth]
    simp only [List.cons_append, List.nil_append]
    rw [decodeFrom_lead (leadByte_four (by omega) (by omega)), decodeFrom_more within, decodeFrom_more (by omega),
      decodeFrom_last (by omega), code]
    exact ⟨_, rfl⟩

/-! ### Whole texts -/

private theorem decodeFrom_encoded (position : Nat) (done read : List Char) :
    decodeFrom position none done (read.flatMap utf8EncodeChar) = .ok (done.reverse ++ read) := by
  induction read generalizing position done with
  | nil => simp [decodeFrom]
  | cons c read ih =>
    rw [List.flatMap_cons]
    obtain ⟨later, read_on⟩ := decodeFrom_character position done c (read.flatMap utf8EncodeChar)
    rw [read_on, ih]
    simp

private theorem of_decodeFrom_ok {position : Nat} {done chars : List Char} {bytes : List UInt8}
    (accepted : decodeFrom position none done bytes = .ok chars) :
    ∃ read, chars = done.reverse ++ read ∧ bytes = read.flatMap utf8EncodeChar := by
  induction length : bytes.length using Nat.strongRecOn generalizing position done bytes with
  | ind n ih =>
    cases bytes with
    | nil =>
      rw [decodeFrom] at accepted
      exact ⟨[], by simpa using accepted.symm, rfl⟩
    | cons byte rest =>
      obtain ⟨c, behind, later, split, accepted⟩ := decodeFrom_cons accepted
      have shorter : behind.length < n := by
        have := congrArg List.length split
        have := c.utf8Size_pos
        simp only [List.length_append, String.length_utf8EncodeChar] at *
        omega
      obtain ⟨read, rfl, rfl⟩ := ih _ shorter accepted rfl
      exact ⟨c :: read, by simp, split⟩

/-- Bytes are accepted as a text exactly if they encode it. -/
theorem decode_eq_ok_iff {bytes : List UInt8} {chars : List Char} :
    decode bytes = .ok chars ↔ bytes = encode (String.ofList chars) := by
  rw [encode_ofList]
  constructor
  · intro accepted
    obtain ⟨read, rfl, encoded⟩ := of_decodeFrom_ok accepted
    exact encoded
  · rintro rfl
    exact decodeFrom_encoded 0 [] chars

/-- Bytes are refused exactly if they encode no text. -/
theorem decode_refuses_iff {bytes : List UInt8} :
    (∃ fault, decode bytes = .error fault) ↔ ∀ text, bytes ≠ encode text := by
  constructor
  · rintro ⟨fault, refused⟩ text rfl
    rw [← String.ofList_toList (s := text), decode_eq_ok_iff.mpr rfl] at refused
    cases refused
  · intro stray
    cases found : decode bytes with
    | error fault => exact ⟨fault, rfl⟩
    | ok chars => exact absurd (decode_eq_ok_iff.mp found) (stray _)

end ClientGen.Text

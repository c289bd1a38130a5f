import Mathlib
import Provisioning.Text.Utf8

/-!
UTF-8 read and written. One step of reading takes the first character of what is left (`Takes`),
and it takes a character just if the bytes begin with what is written for that character: of the
forms of one to four bytes, the ranges of `lead` and `follow` let through those that are written and
no others. By induction on what is left, a byte string is read as a text just if it is what is
written for it (`decode_eq_ok_iff`). What is written are the bytes of the string
(`toByteArray_encode`).
-/

set_option autoImplicit false

namespace Provisioning.Text.Utf8

variable {b : UInt8} {k low high code taken n start : Nat} {bs rest : Bytes} {cs : List Char}

/-! ### First bytes -/

theorem lead_one (h : b.toNat < 0x80) : lead b = some (0, 0, 0, b.toNat) := by
  rw [lead, if_pos h]

theorem lead_two (h : 0xC2 ≤ b.toNat) (h' : b.toNat < 0xE0) :
    lead b = some (1, 0x80, 0xBF, b.toNat - 0xC0) := by
  rw [lead, if_neg (by omega), if_neg (by omega), if_pos h']

/-- The byte after `E0` is not that of a shorter form, and the byte after `ED` not that of a
surrogate. -/
theorem lead_three (h : 0xE0 ≤ b.toNat) (h' : b.toNat < 0xF0) :
    ∃ low high, lead b = some (2, low, high, b.toNat - 0xE0) ∧ ∀ m, low ≤ m ∧ m ≤ high ↔
      (0x80 ≤ m ∧ m ≤ 0xBF) ∧ (b.toNat = 0xE0 → 0xA0 ≤ m) ∧ (b.toNat = 0xED → m ≤ 0x9F) := by
  rw [lead, if_neg (by omega), if_neg (by omega), if_neg (by omega)]
  by_cases hfirst : b.toNat = 0xE0
  · rw [if_pos hfirst]
    exact ⟨_, _, by rw [hfirst], fun m ↦ by omega⟩
  by_cases hsurrogate : b.toNat = 0xED
  · rw [if_neg hfirst, if_pos hsurrogate]
    exact ⟨_, _, by rw [hsurrogate], fun m ↦ by omega⟩
  · rw [if_neg hfirst, if_neg hsurrogate, if_pos h']
    exact ⟨_, _, rfl, fun m ↦ by omega⟩

/-- The byte after `F0` is not that of a shorter form, and that after `F4` not that of a code point
above the last one. -/
theorem lead_four (h : 0xF0 ≤ b.toNat) (h' : b.toNat ≤ 0xF4) :
    ∃ low high, lead b = some (3, low, high, b.toNat - 0xF0) ∧ ∀ m, low ≤ m ∧ m ≤ high ↔
      (0x80 ≤ m ∧ m ≤ 0xBF) ∧ (b.toNat = 0xF0 → 0x90 ≤ m) ∧ (b.toNat = 0xF4 → m ≤ 0x8F) := by
  rw [lead, if_neg (by omega), if_neg (by omega), if_neg (by omega), if_neg (by omega),
    if_neg (by omega), if_neg (by omega)]
  by_cases hfirst : b.toNat = 0xF0
  · rw [if_pos hfirst]
    exact ⟨_, _, by rw [hfirst], fun m ↦ by omega⟩
  by_cases hlast : b.toNat = 0xF4
  · rw [if_neg hfirst, if_neg (by omega), if_pos hlast]
    exact ⟨_, _, by rw [hlast], fun m ↦ by omega⟩
  · rw [if_neg hfirst, if_pos (by omega)]
    exact ⟨_, _, rfl, fun m ↦ by omega⟩

/-- All other bytes begin no character: they continue one, begin a long form of an ASCII character,
or would lead above the last code point. -/
theorem lead_eq_none (h : 0x80 ≤ b.toNat) (h' : b.toNat < 0xC2 ∨ 0xF4 < b.toNat) :
    lead b = none := by
  rw [lead, if_neg (by omega)]
  rcases h' with h' | h'
  · rw [if_pos h']
  · rw [if_neg (by omega), if_neg (by omega), if_neg (by omega), if_neg (by omega),
      if_neg (by omega), if_neg (by omega), if_neg (by omega), if_neg (by omega)]

/-! ### The bytes that follow -/

theorem follow_zero_eq_ok_iff :
    follow 0 low high code taken bs = .ok (n, rest) ↔ code = n ∧ bs = rest := by
  simp [follow]

theorem follow_succ_eq_ok_iff : follow (k + 1) low high code taken bs = .ok (n, rest) ↔
    ∃ b tail, bs = b :: tail ∧ (low ≤ b.toNat ∧ b.toNat ≤ high) ∧
      follow k 0x80 0xBF (code * 0x40 + (b.toNat - 0x80)) (taken + 1) tail = .ok (n, rest) := by
  cases bs with
  | nil => simp [follow]
  | cons b tail =>
    simp only [follow]
    split
    · next h => simp [h]
    · next h => simp [h]

/-! ### One character -/

/-- One step of reading finds the code point `n` and leaves `rest`. -/
def Takes (bs : Bytes) (n : Nat) (rest : Bytes) : Prop :=
  ∃ b tail k low high code, bs = b :: tail ∧ lead b = some (k, low, high, code) ∧
    follow k low high code 1 tail = .ok (n, rest)

theorem toNat_toUInt8 {m : Nat} (h : m < 256) : m.toUInt8.toNat = m :=
  UInt8.toNat_ofNat_of_lt' h

/-- A byte that continues a character holds six bits of it. -/
theorem toNat_continuation (m : Nat) : (0x80 + m % 0x40).toUInt8.toNat = 0x80 + m % 0x40 :=
  toNat_toUInt8 (by omega)

/-- What is written for a character is taken as that character. -/
theorem takes_encodeChar (c : Char) (rest : Bytes) : Takes (encodeChar c ++ rest) c.toNat rest := by
  have hvalid : c.toNat < 0xD800 ∨ 0xDFFF < c.toNat ∧ c.toNat < 0x110000 := c.valid
  have hlast := toNat_continuation c.toNat
  have hinner := toNat_continuation (c.toNat / 0x40)
  have hupper := toNat_continuation (c.toNat / 0x1000)
  simp only [encodeChar]
  split
  · next h =>
    have hfirst : c.toNat.toUInt8.toNat = c.toNat := toNat_toUInt8 (by omega)
    exact ⟨_, _, _, _, _, _, rfl, lead_one (by omega), follow_zero_eq_ok_iff.mpr ⟨hfirst, rfl⟩⟩
  split
  · next h =>
    have hfirst : (0xC0 + c.toNat / 0x40).toUInt8.toNat = 0xC0 + c.toNat / 0x40 :=
      toNat_toUInt8 (by omega)
    refine ⟨_, _, _, _, _, _, rfl, lead_two (by omega) (by omega), ?_⟩
    refine follow_succ_eq_ok_iff.mpr ⟨_, _, rfl, by omega, ?_⟩
    exact follow_zero_eq_ok_iff.mpr ⟨by omega, rfl⟩
  split
  · next h =>
    have hfirst : (0xE0 + c.toNat / 0x1000).toUInt8.toNat = 0xE0 + c.toNat / 0x1000 :=
      toNat_toUInt8 (by omega)
    obtain ⟨low, high, hlead, hrange⟩ :=
      lead_three (b := (0xE0 + c.toNat / 0x1000).toUInt8) (by omega) (by omega)
    refine ⟨_, _, _, _, _, _, rfl, hlead, ?_⟩
    refine follow_succ_eq_ok_iff.mpr ⟨_, _, rfl, (hrange _).mpr (by omega), ?_⟩
    refine follow_succ_eq_ok_iff.mpr ⟨_, _, rfl, by omega, ?_⟩
    exact follow_zero_eq_ok_iff.mpr ⟨by omega, rfl⟩
  · have hfirst : (0xF0 + c.toNat / 0x40000).toUInt8.toNat = 0xF0 + c.toNat / 0x40000 :=
      toNat_toUInt8 (by omega)
    obtain ⟨low, high, hlead, hrange⟩ :=
      lead_four (b := (0xF0 + c.toNat / 0x40000).toUInt8) (by omega) (by omega)
    refine ⟨_, _, _, _, _, _, rfl, hlead, ?_⟩
    refine follow_succ_eq_ok_iff.mpr ⟨_, _, rfl, (hrange _).mpr (by omega), ?_⟩
    refine follow_succ_eq_ok_iff.mpr ⟨_, _, rfl, by omega, ?_⟩
    refine follow_succ_eq_ok_iff.mpr ⟨_, _, rfl, by omega, ?_⟩
    exact follow_zero_eq_ok_iff.mpr ⟨by omega, rfl⟩

theorem exists_toNat_eq (h : n < 0xD800 ∨ 0xDFFF < n ∧ n < 0x110000) : ∃ c : Char, c.toNat = n :=
  ⟨Char.ofNat n, by rw [Char.toNat_ofNat, if_pos h]⟩

/-- What is taken as a character is what is written for it. -/
theorem exists_of_takes (h : Takes bs n rest) : ∃ c, c.toNat = n ∧ bs = encodeChar c ++ rest := by
  obtain ⟨b, tail, k, low, high, code, rfl, hlead, hfollow⟩ := h
  have hbyte {b : UInt8} {m : Nat} (h : m = b.toNat) : m.toUInt8 = b := by
    rw [h]
    exact UInt8.ofNat_toNat
  by_cases hone : b.toNat < 0x80
  · rw [lead_one hone] at hlead
    cases hlead
    obtain ⟨hn, rfl⟩ := follow_zero_eq_ok_iff.mp hfollow
    obtain ⟨c, hc⟩ := exists_toNat_eq (n := n) (by omega)
    refine ⟨c, hc, ?_⟩
    rw [encodeChar, if_pos (by omega), hbyte (hc.trans hn.symm)]
    rfl
  by_cases hnone : b.toNat < 0xC2 ∨ 0xF4 < b.toNat
  · rw [lead_eq_none (by omega) hnone] at hlead
    cases hlead
  by_cases htwo : b.toNat < 0xE0
  · rw [lead_two (by omega) htwo] at hlead
    cases hlead
    obtain ⟨b', tail, rfl, hb', hfollow⟩ := follow_succ_eq_ok_iff.mp hfollow
    obtain ⟨hn, rfl⟩ := follow_zero_eq_ok_iff.mp hfollow
    obtain ⟨c, hc⟩ := exists_toNat_eq (n := n) (by omega)
    have hfirst : (0xC0 + c.toNat / 0x40).toUInt8 = b := hbyte (by omega)
    have hlast : (0x80 + c.toNat % 0x40).toUInt8 = b' := hbyte (by omega)
    refine ⟨c, hc, ?_⟩
    rw [encodeChar, if_neg (by omega), if_pos (by omega), hfirst, hlast]
    rfl
  by_cases hthree : b.toNat < 0xF0
  · obtain ⟨_, _, hthree, hrange⟩ := lead_three (by omega) hthree
    rw [hthree] at hlead
    cases hlead
    obtain ⟨b', tail, rfl, hb', hfollow⟩ := follow_succ_eq_ok_iff.mp hfollow
    obtain ⟨b₂, tail, rfl, hb₂, hfollow⟩ := follow_succ_eq_ok_iff.mp hfollow
    obtain ⟨hn, rfl⟩ := follow_zero_eq_ok_iff.mp hfollow
    have hb' := (hrange _).mp hb'
    obtain ⟨c, hc⟩ := exists_toNat_eq (n := n) (by omega)
    have hfirst : (0xE0 + c.toNat / 0x1000).toUInt8 = b := hbyte (by omega)
    have hinner : (0x80 + c.toNat / 0x40 % 0x40).toUInt8 = b' := hbyte (by omega)
    have hlast : (0x80 + c.toNat % 0x40).toUInt8 = b₂ := hbyte (by omega)
    refine ⟨c, hc, ?_⟩
    rw [encodeChar, if_neg (by omega), if_neg (by omega), if_pos (by omega), hfirst, hinner, hlast]
    rfl
  · obtain ⟨_, _, hfour, hrange⟩ := lead_four (b := b) (by omega) (by omega)
    rw [hfour] at hlead
    cases hlead
    obtain ⟨b', tail, rfl, hb', hfollow⟩ := follow_succ_eq_ok_iff.mp hfollow
    obtain ⟨b₂, tail, rfl, hb₂, hfollow⟩ := follow_succ_eq_ok_iff.mp hfollow
    obtain ⟨b₃, tail, rfl, hb₃, hfollow⟩ := follow_succ_eq_ok_iff.mp hfollow
    obtain ⟨hn, rfl⟩ := follow_zero_eq_ok_iff.mp hfollow
    have hb' := (hrange _).mp hb'
    obtain ⟨c, hc⟩ := exists_toNat_eq (n := n) (by omega)
    have hfirst : (0xF0 + c.toNat / 0x40000).toUInt8 = b := hbyte (by omega)
    have hupper : (0x80 + c.toNat / 0x1000 % 0x40).toUInt8 = b' := hbyte (by omega)
    have hinner : (0x80 + c.toNat / 0x40 % 0x40).toUInt8 = b₂ := hbyte (by omega)
    have hlast : (0x80 + c.toNat % 0x40).toUInt8 = b₃ := hbyte (by omega)
    refine ⟨c, hc, ?_⟩
    rw [encodeChar, if_neg (by omega), if_neg (by omega), if_neg (by omega), hfirst, hupper, hinner,
      hlast]
    rfl

/-! ### Texts -/

/-- After a character has been taken, what is left is read. -/
theorem decodeFrom_of_takes (h : Takes bs n rest) (start : Nat) : ∃ next,
    decodeFrom start bs = (decodeFrom next rest).map (Char.ofNat n :: ·) := by
  obtain ⟨b, tail, k, low, high, code, rfl, hlead, hfollow⟩ := h
  refine ⟨start + (1 + tail.length - rest.length), ?_⟩
  rw [decodeFrom, hlead]
  simp only
  split
  · next taken reason herror =>
    rw [hfollow] at herror
    cases herror
  · next n rest hok =>
    rw [hfollow] at hok
    cases hok
    cases decodeFrom (start + (1 + tail.length - rest.length)) rest <;> rfl

theorem decodeFrom_eq_ok_iff (start : Nat) :
    decodeFrom start bs = .ok cs ↔ bs = cs.flatMap encodeChar := by
  constructor
  · intro h
    fun_induction decodeFrom start bs generalizing cs with
    | case1 =>
      cases h
      rfl
    | case2 | case3 | case5 => cases h
    | case4 start b tail k low high code hlead n rest hfollow chars hchars ih =>
      cases h
      obtain ⟨c, rfl, hbytes⟩ := exists_of_takes ⟨b, tail, k, low, high, code, rfl, hlead, hfollow⟩
      rw [hbytes, ih hchars, Char.ofNat_toNat, List.flatMap_cons]
  · rintro rfl
    induction cs generalizing start with
    | nil => rw [List.flatMap_nil, decodeFrom]
    | cons c cs ih =>
      rw [List.flatMap_cons]
      obtain ⟨next, hnext⟩ := decodeFrom_of_takes (takes_encodeChar c (cs.flatMap encodeChar)) start
      rw [hnext, ih, Char.ofNat_toNat]
      rfl

/-- A byte string is read as a text just if it is what is written for that text. -/
theorem decode_eq_ok_iff {s : String} : decode bs = .ok s ↔ bs = encode s := by
  rw [decode, encode, ← decodeFrom_eq_ok_iff 0]
  cases decodeFrom 0 bs with
  | error fault => constructor <;> intro h <;> cases h
  | ok cs =>
    constructor
    · intro h
      cases h
      rw [String.toList_ofList]
    · intro h
      cases h
      exact congrArg Except.ok String.ofList_toList

/-! ### Strings -/

/-- The bytes of a character are those that stand for it in strings. -/
theorem encodeChar_eq_utf8EncodeChar (c : Char) : encodeChar c = String.utf8EncodeChar c := by
  have hvalid : c.toNat < 0xD800 ∨ 0xDFFF < c.toNat ∧ c.toNat < 0x110000 := c.valid
  have hval : c.val.toNat = c.toNat := rfl
  have hnext (m : Nat) : 0x80 + m % 0x40 = m % 0x40 + 0x80 := Nat.add_comm _ _
  simp only [encodeChar, String.utf8EncodeChar, hval, hnext]
  split
  · rw [if_pos (by omega)]
  split
  · have hfirst : 0xC0 + c.toNat / 0x40 = c.toNat / 64 % 32 + 192 := by omega
    rw [if_neg (by omega), if_pos (by omega), hfirst]
  split
  · have hfirst : 0xE0 + c.toNat / 0x1000 = c.toNat / 4096 % 16 + 224 := by omega
    rw [if_neg (by omega), if_neg (by omega), if_pos (by omega), hfirst]
  · have hfirst : 0xF0 + c.toNat / 0x40000 = c.toNat / 262144 % 8 + 240 := by omega
    rw [if_neg (by omega), if_neg (by omega), if_neg (by omega), hfirst]

/-- What is written for a text are the bytes of the string. -/
theorem toByteArray_encode (s : String) : (encode s).toByteArray = s.toUTF8 := by
  have hchar : encodeChar = String.utf8EncodeChar := funext encodeChar_eq_utf8EncodeChar
  rw [encode, hchar]
  exact String.utf8Encode_toList

theorem length_encode (s : String) : (encode s).length = s.utf8ByteSize := by
  rw [String.utf8ByteSize, ← List.size_toByteArray, toByteArray_encode]
  rfl

end Provisioning.Text.Utf8

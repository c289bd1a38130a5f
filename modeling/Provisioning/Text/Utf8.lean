/-!
UTF-8. `encode` writes a text as bytes; `decode` accepts the shortest forms of the code points that
are not surrogates and refuses everything else, naming the bytes at fault and the reason.
-/

set_option autoImplicit false

namespace Provisioning

/-- Byte strings. -/
abbrev Bytes := List UInt8

namespace Text.Utf8

/-- The bytes of one character, from one to four of them. -/
def encodeChar (c : Char) : Bytes :=
  let n := c.toNat
  if n < 0x80 then [n.toUInt8]
  else if n < 0x800 then [(0xC0 + n / 0x40).toUInt8, (0x80 + n % 0x40).toUInt8]
  else if n < 0x10000 then
    [(0xE0 + n / 0x1000).toUInt8, (0x80 + n / 0x40 % 0x40).toUInt8, (0x80 + n % 0x40).toUInt8]
  else
    [(0xF0 + n / 0x40000).toUInt8, (0x80 + n / 0x1000 % 0x40).toUInt8,
      (0x80 + n / 0x40 % 0x40).toUInt8, (0x80 + n % 0x40).toUInt8]

/-- The bytes of a text. -/
def encode (s : String) : Bytes :=
  s.toList.flatMap encodeChar

theorem encodeChar_ne_nil (c : Char) : encodeChar c ≠ [] := by
  simp only [encodeChar]
  split
  · simp
  · split
    · simp
    · split <;> simp

/-- Only the empty text takes no bytes. -/
theorem encode_eq_nil_iff {s : String} : encode s = [] ↔ s = "" := by
  rw [encode, List.flatMap_eq_nil_iff]
  refine ⟨fun h ↦ ?_, fun h ↦ by simp [h]⟩
  have hnil : s.toList = [] :=
    List.eq_nil_iff_forall_not_mem.mpr fun c hc ↦ encodeChar_ne_nil c (h c hc)
  exact String.toList_inj.mp hnil

/-- Why a byte sequence is refused. -/
inductive Reason
  | startByte
  | continuationByte
  | endOfData
  deriving DecidableEq, Repr

/-- A refused run of bytes: where it starts, the bytes themselves and the reason. -/
structure Fault where
  start : Nat
  bytes : Bytes
  reason : Reason
  deriving DecidableEq, Repr

/-- How many bytes follow a first byte, the range its second byte must lie in, and the bits that
the first byte contributes. The narrowed ranges keep out longer forms of small code points,
surrogates and code points above U+10FFFF. -/
def lead (b : UInt8) : Option (Nat × Nat × Nat × Nat) :=
  let n := b.toNat
  if n < 0x80 then some (0, 0, 0, n)
  else if n < 0xC2 then none
  else if n < 0xE0 then some (1, 0x80, 0xBF, n - 0xC0)
  else if n = 0xE0 then some (2, 0xA0, 0xBF, 0)
  else if n = 0xED then some (2, 0x80, 0x9F, 13)
  else if n < 0xF0 then some (2, 0x80, 0xBF, n - 0xE0)
  else if n = 0xF0 then some (3, 0x90, 0xBF, 0)
  else if n < 0xF4 then some (3, 0x80, 0xBF, n - 0xF0)
  else if n = 0xF4 then some (3, 0x80, 0x8F, 4)
  else none

/-- Reads the `k` bytes that follow a first byte, the next of them between `low` and `high`.
A failure counts the bytes read before it. -/
def follow : (k low high code taken : Nat) → Bytes → Except (Nat × Reason) (Nat × Bytes)
  | 0, _, _, code, _, rest => .ok (code, rest)
  | _ + 1, _, _, _, taken, [] => .error (taken, .endOfData)
  | k + 1, low, high, code, taken, b :: rest =>
    if low ≤ b.toNat ∧ b.toNat ≤ high then
      follow k 0x80 0xBF (code * 0x40 + (b.toNat - 0x80)) (taken + 1) rest
    else .error (taken, .continuationByte)

theorem follow_length {k low high code taken : Nat} {bs : Bytes} {r : Nat × Bytes}
    (h : follow k low high code taken bs = .ok r) : r.2.length ≤ bs.length := by
  induction k generalizing low high code taken bs with
  | zero => simp [follow] at h; simp [← h]
  | succ k ih =>
    cases bs with
    | nil => simp [follow] at h
    | cons b rest =>
      simp only [follow] at h
      split at h
      · exact Nat.le_succ_of_le (ih h)
      · simp at h

/-- The characters of a byte string that starts at offset `start`. -/
def decodeFrom (start : Nat) (bs : Bytes) : Except Fault (List Char) :=
  match bs with
  | [] => .ok []
  | b :: rest =>
    match lead b with
    | none => .error ⟨start, [b], .startByte⟩
    | some (k, low, high, code) =>
      match _h : follow k low high code 1 rest with
      | .error (taken, reason) => .error ⟨start, (b :: rest).take taken, reason⟩
      | .ok (n, rest') =>
        match decodeFrom (start + (1 + rest.length - rest'.length)) rest' with
        | .ok cs => .ok (Char.ofNat n :: cs)
        | .error e => .error e
termination_by bs.length
decreasing_by
  have : rest'.length ≤ rest.length := follow_length _h
  simp only [List.length_cons]
  omega

/-- The text that a byte string is the UTF-8 form of. -/
def decode (bs : Bytes) : Except Fault String :=
  (decodeFrom 0 bs).map String.ofList

end Text.Utf8
end Provisioning

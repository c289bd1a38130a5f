import Provisioning.Proofs.Text.Utf8

/-!
What is wrong with a byte string that is no text. A form is a byte that tells how many more bytes
belong to it, and those bytes; its bits make a number. A byte string is malformed where a form is
longer than it has to be, or makes a number that is no character, where bytes are missing or left
over, and where a byte belongs to no form. UTF-8 keeps in step by itself: wherever in a text there
is a byte that begins a form, a character begins (`exists_encodeChar_append`). Thus there is no such
place anywhere in a text, and a byte string without one is read form by form (`malformed_iff`).
-/

set_option autoImplicit false

namespace Provisioning.Text.Utf8

variable {b b' c : UInt8} {k k' bits bits' n m : Nat} {bs bs' tail tail' rest rest' : Bytes}
  {before after : Bytes} {cs : List Char}

/-! ### Forms -/

/-- A byte that continues a form. It holds six bits. -/
def Continues (b : UInt8) : Prop :=
  0x80 ≤ b.toNat ∧ b.toNat < 0xC0

/-- A byte that begins a form of `k` more bytes, after a mark that tells `k`, and holds the first
bits. -/
def Begins (b : UInt8) (k bits : Nat) : Prop :=
  k = 0 ∧ b.toNat = bits ∧ bits < 0x80 ∨
    k = 1 ∧ b.toNat = 0xC0 + bits ∧ bits < 0x20 ∨
    k = 2 ∧ b.toNat = 0xE0 + bits ∧ bits < 0x10 ∨
    k = 3 ∧ b.toNat = 0xF0 + bits ∧ bits < 0x08

/-- The number that the first bits and those of the bytes that follow make. -/
def number (bits : Nat) : Bytes → Nat
  | [] => bits
  | c :: tail => number (bits * 0x40 + c.toNat % 0x40) tail

/-- A byte that begins a form and as many more as belong to it. Their bits make the number `n`,
which need not be that of a character. -/
def Form (n : Nat) (bs : Bytes) : Prop :=
  ∃ b tail bits, bs = b :: tail ∧ Begins b tail.length bits ∧ (∀ c ∈ tail, Continues c) ∧
    number bits tail = n

/-- Byte strings with something wrong in them, wherever it is. -/
inductive Malformed : Bytes → Prop
  /-- A form of which there is a shorter one that makes the same number. -/
  | overlong (before after : Bytes) {n : Nat} {bs bs' : Bytes} (hform : Form n bs)
    (hshorter : Form n bs') (hlength : bs'.length < bs.length) : Malformed (before ++ (bs ++ after))
  | surrogate (before after : Bytes) {n : Nat} {bs : Bytes} (hform : Form n bs)
    (hnumber : 0xD800 ≤ n ∧ n ≤ 0xDFFF) : Malformed (before ++ (bs ++ after))
  | tooLarge (before after : Bytes) {n : Nat} {bs : Bytes} (hform : Form n bs)
    (hnumber : 0x10FFFF < n) : Malformed (before ++ (bs ++ after))
  /-- A byte that continues a form, at the beginning or after a form that has all its bytes. -/
  | stray (before after : Bytes) {b : UInt8}
    (hbefore : before = [] ∨ ∃ front n bs, Form n bs ∧ before = front ++ bs) (hb : Continues b) :
    Malformed (before ++ b :: after)
  /-- A byte that begins a form, and fewer bytes that continue it than it takes. -/
  | truncated (before after : Bytes) {b : UInt8} {k bits : Nat} {tail : Bytes}
    (hb : Begins b k bits) (htail : ∀ c ∈ tail, Continues c) (hlength : tail.length < k)
    (hafter : ∀ c ∈ after.head?, ¬Continues c) : Malformed (before ++ b :: (tail ++ after))
  /-- A byte that neither begins nor continues a form. -/
  | unused (before after : Bytes) {b : UInt8} (hb : 0xF8 ≤ b.toNat) :
    Malformed (before ++ b :: after)

theorem Begins.unique (h : Begins b k bits) (h' : Begins b k' bits') : k = k' ∧ bits = bits' := by
  simp only [Begins] at h h'
  omega

theorem Begins.eq_of_bits (h : Begins b k bits) (h' : Begins b' k bits) : b = b' := by
  simp only [Begins] at h h'
  exact UInt8.toNat_inj.mp (by omega)

theorem Begins.not_continues (h : Begins b k bits) : ¬Continues b := by
  simp only [Begins] at h
  simp only [Continues]
  omega

/-- A byte that does not continue a form begins one, unless it is of no use. -/
theorem exists_begins (h : ¬Continues b) (hused : b.toNat < 0xF8) : ∃ k bits, Begins b k bits := by
  simp only [Continues] at h
  by_cases hone : b.toNat < 0x80
  · exact ⟨0, b.toNat, .inl ⟨rfl, rfl, hone⟩⟩
  by_cases htwo : b.toNat < 0xE0
  · exact ⟨1, b.toNat - 0xC0, .inr (.inl ⟨rfl, by omega, by omega⟩)⟩
  by_cases hthree : b.toNat < 0xF0
  · exact ⟨2, b.toNat - 0xE0, .inr (.inr (.inl ⟨rfl, by omega, by omega⟩))⟩
  · exact ⟨3, b.toNat - 0xF0, .inr (.inr (.inr ⟨rfl, by omega, by omega⟩))⟩

/-- The bits of the bytes that follow can be read off the number. -/
theorem eq_of_number_eq (hlength : tail.length = tail'.length) (h : ∀ c ∈ tail, Continues c)
    (h' : ∀ c ∈ tail', Continues c) (hnumber : number bits tail = number bits' tail') :
    bits = bits' ∧ tail = tail' := by
  induction tail generalizing tail' bits bits' with
  | nil =>
    obtain rfl := List.length_eq_zero_iff.mp hlength.symm
    exact ⟨hnumber, rfl⟩
  | cons c tail ih =>
    cases tail' with
    | nil => cases hlength
    | cons c' tail' =>
      rw [number, number] at hnumber
      obtain ⟨hc, htail⟩ := List.forall_mem_cons.mp h
      obtain ⟨hc', htail'⟩ := List.forall_mem_cons.mp h'
      obtain ⟨hbits, rfl⟩ := ih (Nat.succ.inj hlength) htail htail' hnumber
      simp only [Continues] at hc hc'
      obtain rfl : c = c' := UInt8.toNat_inj.mp (by omega)
      exact ⟨by omega, rfl⟩

theorem number_lt (h : bits < m) (htail : ∀ c ∈ tail, Continues c) :
    number bits tail < m * 0x40 ^ tail.length := by
  induction tail generalizing bits m with
  | nil => simpa [number] using h
  | cons c tail ih =>
    obtain ⟨⟨hle, hlt⟩, htail⟩ := List.forall_mem_cons.mp htail
    have hbits : bits * 0x40 + c.toNat % 0x40 < m * 0x40 := by omega
    rw [number, List.length_cons, Nat.pow_succ', ← Nat.mul_assoc]
    exact ih hbits htail

/-- Two forms of one length that make the same number are the same. -/
theorem Form.unique (h : Form n bs) (h' : Form n bs') (hlength : bs.length = bs'.length) :
    bs = bs' := by
  obtain ⟨b, tail, bits, rfl, hb, htail, hnumber⟩ := h
  obtain ⟨b', tail', bits', rfl, hb', htail', hnumber'⟩ := h'
  have hlength : tail.length = tail'.length := Nat.succ.inj hlength
  obtain ⟨rfl, rfl⟩ := eq_of_number_eq hlength htail htail' (hnumber.trans hnumber'.symm)
  rw [hb.eq_of_bits hb']

/-- The first byte tells where a form ends. -/
theorem Form.eq_of_append_eq (h : Form n bs) (h' : Form m bs') (heq : bs ++ rest = bs' ++ rest') :
    n = m ∧ bs = bs' ∧ rest = rest' := by
  obtain ⟨b, tail, bits, rfl, hb, -, rfl⟩ := h
  obtain ⟨b', tail', bits', rfl, hb', -, rfl⟩ := h'
  obtain ⟨rfl, htails⟩ := List.cons.inj heq
  obtain ⟨hlength, rfl⟩ := hb.unique hb'
  obtain ⟨rfl, rfl⟩ := List.append_inj htails hlength
  exact ⟨rfl, rfl, rfl⟩

/-- What a form of each length can make. -/
theorem Form.lt_of_length (h : Form n bs) :
    (bs.length = 1 → n < 0x80) ∧ (bs.length = 2 → n < 0x800) ∧ (bs.length = 3 → n < 0x10000) := by
  obtain ⟨b, tail, bits, rfl, hb, htail, rfl⟩ := h
  simp only [Begins] at hb
  have hnumber {m : Nat} (hbits : bits < m) := number_lt hbits htail
  refine ⟨fun hlength ↦ ?_, fun hlength ↦ ?_, fun hlength ↦ ?_⟩
  · rw [Nat.succ.inj hlength] at hb hnumber
    exact hnumber (m := 0x80) (by omega)
  · rw [Nat.succ.inj hlength] at hb hnumber
    exact hnumber (m := 0x20) (by omega)
  · rw [Nat.succ.inj hlength] at hb hnumber
    exact hnumber (m := 0x10) (by omega)

/-! ### Characters -/

theorem begins_of_lead {low high code : Nat} (h : lead b = some (k, low, high, code)) :
    Begins b k code ∧ (0 < k → ∀ m, low ≤ m → m ≤ high → 0x80 ≤ m ∧ m < 0xC0) := by
  simp only [Begins]
  by_cases hone : b.toNat < 0x80
  · rw [lead_one hone] at h
    cases h
    exact ⟨by omega, nofun⟩
  by_cases hnone : b.toNat < 0xC2 ∨ 0xF4 < b.toNat
  · rw [lead_eq_none (by omega) hnone] at h
    cases h
  by_cases htwo : b.toNat < 0xE0
  · rw [lead_two (by omega) htwo] at h
    cases h
    exact ⟨by omega, fun _ m _ _ ↦ by omega⟩
  by_cases hthree : b.toNat < 0xF0
  · obtain ⟨_, _, hlead, hrange⟩ := lead_three (by omega) hthree
    rw [hlead] at h
    cases h
    refine ⟨by omega, fun _ m hlow hhigh ↦ ?_⟩
    have := (hrange m).mp ⟨hlow, hhigh⟩
    omega
  · obtain ⟨_, _, hlead, hrange⟩ := lead_four (b := b) (by omega) (by omega)
    rw [hlead] at h
    cases h
    refine ⟨by omega, fun _ m hlow hhigh ↦ ?_⟩
    have := (hrange m).mp ⟨hlow, hhigh⟩
    omega

theorem exists_of_follow {low high code taken : Nat}
    (h : follow k low high code taken bs = .ok (n, rest))
    (hrange : 0 < k → ∀ m, low ≤ m → m ≤ high → 0x80 ≤ m ∧ m < 0xC0) :
    ∃ tail, bs = tail ++ rest ∧ tail.length = k ∧ (∀ c ∈ tail, Continues c) ∧
      number code tail = n := by
  induction k generalizing low high code taken bs with
  | zero =>
    obtain ⟨rfl, rfl⟩ := follow_zero_eq_ok_iff.mp h
    exact ⟨[], rfl, rfl, nofun, rfl⟩
  | succ k ih =>
    obtain ⟨c, bs, rfl, hc, h⟩ := follow_succ_eq_ok_iff.mp h
    have hc := hrange k.succ_pos _ hc.1 hc.2
    obtain ⟨tail, rfl, hlength, htail, hnumber⟩ := ih h fun _ m hlow hhigh ↦ by omega
    refine ⟨c :: tail, rfl, by rw [List.length_cons, hlength], ?_, ?_⟩
    · exact List.forall_mem_cons.mpr ⟨hc, htail⟩
    · have hbits : c.toNat % 0x40 = c.toNat - 0x80 := by omega
      rw [number, hbits, hnumber]

/-- What is written for a character is a form. -/
theorem form_encodeChar (c : Char) : Form c.toNat (encodeChar c) := by
  obtain ⟨b, bs, k, low, high, code, heq, hlead, hfollow⟩ := takes_encodeChar c []
  obtain ⟨hb, hrange⟩ := begins_of_lead hlead
  obtain ⟨tail, rfl, rfl, htail, hnumber⟩ := exists_of_follow hfollow hrange
  rw [List.append_nil, List.append_nil] at heq
  exact ⟨b, tail, code, heq, hb, htail, hnumber⟩

/-- No form that makes the number of a character is shorter. -/
theorem length_encodeChar_le {c : Char} (h : Form c.toNat bs) :
    (encodeChar c).length ≤ bs.length := by
  obtain ⟨hone, htwo, hthree⟩ := h.lt_of_length
  have hpos : 0 < bs.length := by
    obtain ⟨b, tail, -, rfl, -⟩ := h
    exact Nat.succ_pos _
  simp only [encodeChar]
  split
  · exact hpos
  split
  · simp only [List.length_cons, List.length_nil]
    omega
  split
  · simp only [List.length_cons, List.length_nil]
    omega
  · simp only [List.length_cons, List.length_nil]
    omega

/-- A form of a character is what is written for it, or longer. -/
theorem Form.eq_encodeChar_or {c : Char} (h : Form c.toNat bs) :
    bs = encodeChar c ∨ (encodeChar c).length < bs.length := by
  rcases Nat.lt_or_eq_of_le (length_encodeChar_le h) with hlt | hlength
  · exact .inr hlt
  · exact .inl (h.unique (form_encodeChar c) hlength.symm)

/-! ### Texts -/

/-- UTF-8 keeps in step: a byte of a text that does not continue a character begins one. -/
theorem exists_encodeChar_append (h : before ++ b :: after = cs.flatMap encodeChar)
    (hb : ¬Continues b) :
    ∃ (c : Char) (cs' : List Char), b :: after = encodeChar c ++ cs'.flatMap encodeChar := by
  induction cs generalizing before with
  | nil => simp at h
  | cons c cs ih =>
    rw [List.flatMap_cons] at h
    rcases List.append_eq_append_iff.mp h with ⟨front, hfront, htail⟩ | ⟨front, -, htail⟩
    · obtain ⟨first, tail, bits, hfirst, -, hcontinues, -⟩ := form_encodeChar c
      match before with
      | [] => exact ⟨c, cs, h⟩
      | _ :: before =>
        -- The byte is past the first of the character, so there is nothing of the character left.
        match front with
        | [] =>
          have hrest : [] ++ b :: after = cs.flatMap encodeChar := htail
          exact ih hrest
        | _ :: front =>
          obtain ⟨rfl, -⟩ := List.cons.inj htail
          obtain ⟨-, htail⟩ := List.cons.inj (hfirst.symm.trans hfront)
          exact absurd (hcontinues b (by simp [htail])) hb
    · exact ih htail.symm

/-- Where a text has a form in it, the form is what is written for a character. -/
theorem Form.exists_char (hform : Form n bs)
    (h : before ++ (bs ++ after) = cs.flatMap encodeChar) :
    ∃ (c : Char) (cs' : List Char), c.toNat = n ∧ bs = encodeChar c ∧
      after = cs'.flatMap encodeChar := by
  obtain ⟨b, tail, bits, rfl, hb, -, -⟩ := id hform
  obtain ⟨c, cs', heq⟩ := exists_encodeChar_append h hb.not_continues
  obtain ⟨hn, hbs, hafter⟩ := hform.eq_of_append_eq (form_encodeChar c) heq
  exact ⟨c, cs', hn.symm, hbs, hafter⟩

/-- After a byte of a text that does not continue a form come all the bytes that belong to it. -/
theorem exists_begins_of_eq_flatMap (h : before ++ b :: after = cs.flatMap encodeChar)
    (hb : ¬Continues b) : ∃ tail rest bits, after = tail ++ rest ∧ Begins b tail.length bits ∧
      ∀ c ∈ tail, Continues c := by
  obtain ⟨c, cs', heq⟩ := exists_encodeChar_append h hb
  obtain ⟨first, tail, bits, hfirst, hbegins, hcontinues, -⟩ := form_encodeChar c
  rw [hfirst, List.cons_append] at heq
  obtain ⟨rfl, rfl⟩ := List.cons.inj heq
  exact ⟨tail, _, bits, rfl, hbegins, hcontinues⟩

/-- No byte at the beginning of a text continues a form. -/
theorem not_continues_of_eq_flatMap (h : b :: after = cs.flatMap encodeChar) : ¬Continues b := by
  match cs with
  | [] => cases h
  | c :: cs =>
    obtain ⟨first, tail, bits, hfirst, hbegins, -⟩ := form_encodeChar c
    rw [List.flatMap_cons, hfirst] at h
    obtain ⟨rfl, -⟩ := List.cons.inj h
    exact hbegins.not_continues

/-- There is nothing wrong anywhere in a text. -/
theorem Malformed.ne_flatMap (h : Malformed bs) (cs : List Char) : bs ≠ cs.flatMap encodeChar := by
  intro heq
  cases h with
  | overlong before after hform hshorter hlength =>
    obtain ⟨c, -, rfl, rfl, -⟩ := hform.exists_char heq
    exact absurd (length_encodeChar_le hshorter) (by omega)
  | surrogate before after hform hnumber | tooLarge before after hform hnumber =>
    obtain ⟨c, -, rfl, -, -⟩ := hform.exists_char heq
    have hvalid : c.toNat < 0xD800 ∨ 0xDFFF < c.toNat ∧ c.toNat < 0x110000 := c.valid
    omega
  | stray before after hbefore hb =>
    rcases hbefore with rfl | ⟨front, n, bs, hform, rfl⟩
    · exact not_continues_of_eq_flatMap heq hb
    · rw [List.append_assoc] at heq
      obtain ⟨-, cs', -, -, hafter⟩ := hform.exists_char heq
      exact not_continues_of_eq_flatMap hafter hb
  | @truncated before after b k bits tail hb htail hlength hafter =>
    obtain ⟨tail', rest, bits', htails, hbegins, hcontinues⟩ :=
      exists_begins_of_eq_flatMap heq hb.not_continues
    obtain ⟨rfl, -⟩ := hb.unique hbegins
    rcases List.append_eq_append_iff.mp htails with ⟨more, rfl, rfl⟩ | ⟨more, rfl, -⟩
    · match more with
      | [] => simp at hlength
      | c :: more => exact hafter c rfl (hcontinues c (by simp))
    · simp at hlength
  | @unused before after b hb =>
    have hnot : ¬Continues b := by
      simp only [Continues]
      omega
    obtain ⟨tail, rest, bits, -, hbegins, -⟩ := exists_begins_of_eq_flatMap heq hnot
    simp only [Begins] at hbegins
    omega

/-- What is wrong with the rest of a byte string is wrong with all of it. -/
theorem Malformed.append (h : Malformed bs) (hform : Form n bs') : Malformed (bs' ++ bs) := by
  cases h with
  | overlong before after h h' hlength =>
    simpa using overlong (bs' ++ before) after h h' hlength
  | surrogate before after h hnumber => simpa using surrogate (bs' ++ before) after h hnumber
  | tooLarge before after h hnumber => simpa using tooLarge (bs' ++ before) after h hnumber
  | stray before after hbefore hb =>
    refine List.append_assoc _ _ _ ▸ stray (bs' ++ before) after (.inr ?_) hb
    rcases hbefore with rfl | ⟨front, m, bs, h, rfl⟩
    · exact ⟨[], n, bs', hform, by simp⟩
    · exact ⟨bs' ++ front, m, bs, h, by simp⟩
  | truncated before after hb htail hlength hafter =>
    simpa using truncated (bs' ++ before) after hb htail hlength hafter
  | unused before after hb => simpa using unused (bs' ++ before) after hb

/-- A form at the beginning is what is written for a character, or something is wrong with it. -/
theorem Form.exists_char_or_malformed (h : Form n bs) (after : Bytes) :
    (∃ c, bs = encodeChar c) ∨ Malformed (bs ++ after) := by
  by_cases hsurrogate : 0xD800 ≤ n ∧ n ≤ 0xDFFF
  · exact .inr (.surrogate [] after h hsurrogate)
  by_cases hlarge : 0x10FFFF < n
  · exact .inr (.tooLarge [] after h hlarge)
  obtain ⟨c, rfl⟩ := exists_toNat_eq (n := n) (by omega)
  rcases h.eq_encodeChar_or with heq | hlength
  · exact .inl ⟨c, heq⟩
  · exact .inr (.overlong [] after h (form_encodeChar c) hlength)

/-- Of the bytes that continue a form there are enough, or others stand in their place. -/
theorem exists_run (k : Nat) (bs : Bytes) : ∃ tail after, bs = tail ++ after ∧
    (∀ c ∈ tail, Continues c) ∧
      (tail.length = k ∨ tail.length < k ∧ ∀ c ∈ after.head?, ¬Continues c) := by
  induction k generalizing bs with
  | zero => exact ⟨[], bs, rfl, nofun, .inl rfl⟩
  | succ k ih =>
    match bs with
    | [] => exact ⟨[], [], rfl, nofun, .inr ⟨k.succ_pos, nofun⟩⟩
    | c :: bs =>
      by_cases hc : Continues c
      · obtain ⟨tail, after, rfl, htail, hlength⟩ := ih bs
        refine ⟨c :: tail, after, rfl, List.forall_mem_cons.mpr ⟨hc, htail⟩, ?_⟩
        exact hlength.imp (congrArg Nat.succ) (And.imp_left Nat.succ_lt_succ)
      · refine ⟨[], c :: bs, rfl, nofun, .inr ⟨k.succ_pos, ?_⟩⟩
        rintro _ ⟨⟩
        exact hc

/-- A byte string begins with a form, or something is wrong with its beginning. -/
theorem exists_form_or_malformed (b : UInt8) (bs : Bytes) :
    (∃ n front after, b :: bs = front ++ after ∧ Form n front) ∨ Malformed (b :: bs) := by
  by_cases hcontinues : Continues b
  · exact .inr (.stray [] bs (.inl rfl) hcontinues)
  by_cases hused : b.toNat < 0xF8
  · obtain ⟨k, bits, hb⟩ := exists_begins hcontinues hused
    obtain ⟨tail, after, rfl, htail, rfl | ⟨hlength, hafter⟩⟩ := exists_run k bs
    · exact .inl ⟨_, b :: tail, after, rfl, b, tail, bits, rfl, hb, htail, rfl⟩
    · exact .inr (.truncated [] after hb htail hlength hafter)
  · exact .inr (.unused [] bs (Nat.not_lt.mp hused))

/-- A byte string with nothing wrong in it is a text. -/
theorem exists_of_not_malformed (h : ¬Malformed bs) :
    ∃ cs : List Char, bs = cs.flatMap encodeChar := by
  -- On the length, since a step takes as many bytes as its form has.
  induction hlength : bs.length using Nat.strongRecOn generalizing bs with
  | ind length ih =>
    match bs with
    | [] => exact ⟨[], rfl⟩
    | b :: bs =>
      obtain ⟨n, front, after, heq, hform⟩ := (exists_form_or_malformed b bs).resolve_right h
      rw [heq] at h hlength ⊢
      obtain ⟨c, rfl⟩ := (hform.exists_char_or_malformed after).resolve_right h
      have hpos : 0 < (encodeChar c).length := List.length_pos_iff.mpr (encodeChar_ne_nil c)
      rw [List.length_append] at hlength
      obtain ⟨cs, rfl⟩ := ih after.length (by omega) (fun hafter ↦ h (hafter.append hform)) rfl
      exact ⟨c :: cs, rfl⟩

/-- The byte strings that are malformed are those that are not what is written for a text. -/
theorem malformed_iff : Malformed bs ↔ ∀ s, bs ≠ encode s := by
  refine ⟨fun h s ↦ h.ne_flatMap s.toList, fun h ↦ ?_⟩
  by_contra hnot
  obtain ⟨cs, rfl⟩ := exists_of_not_malformed hnot
  exact h (String.ofList cs) (by rw [encode, String.toList_ofList])

end Provisioning.Text.Utf8

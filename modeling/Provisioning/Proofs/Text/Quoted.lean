import Mathlib
import Provisioning.Text.Quoted

/-!
A quoted byte string gives away every byte. What stands for a byte can be read back without a look
at what follows (`readByte`), so two byte strings that are quoted alike are the same.
-/

set_option autoImplicit false

namespace Provisioning.Text

/-- The value of a hexadecimal digit in small letters. -/
def digitValue (c : Char) : Nat :=
  if c.isDigit then c.toNat - 48 else c.toNat - 87

/-- The byte of an escape without digits. -/
def escapedByte (c : Char) : UInt8 :=
  if c == 't' then 9 else if c == 'n' then 10 else if c == 'r' then 13 else UInt8.ofNat c.toNat

/-- What a backslash and what follows it stand for inside a quoted byte string, and the rest. -/
def readEscape : List Char → Option (UInt8 × List Char)
  | [] => none
  | c :: rest =>
    if c == 'x' then
      match rest with
      | high :: low :: rest => some (UInt8.ofNat (16 * digitValue high + digitValue low), rest)
      | _ => none
    else some (escapedByte c, rest)

/-- The first byte of the inside of a quoted byte string, and the rest. -/
def readByte : List Char → Option (UInt8 × List Char)
  | [] => none
  | c :: rest => if c == '\\' then readEscape rest else some (UInt8.ofNat c.toNat, rest)

theorem readEscape_append {cs rest more : List Char} {b : UInt8}
    (h : readEscape cs = some (b, rest)) : readEscape (cs ++ more) = some (b, rest ++ more) := by
  match cs with
  | [] => cases h
  | c :: cs =>
    simp only [List.cons_append, readEscape] at h ⊢
    split at h
    · next hx =>
      match cs with
      | [] | [_] => cases h
      | _ :: _ :: _ =>
        cases h
        rw [if_pos hx]
        rfl
    · next hx =>
      cases h
      rw [if_neg hx]

theorem readByte_append {cs rest more : List Char} {b : UInt8}
    (h : readByte cs = some (b, rest)) : readByte (cs ++ more) = some (b, rest ++ more) := by
  match cs with
  | [] => cases h
  | c :: cs =>
    rw [List.cons_append, readByte]
    rw [readByte] at h
    split at h
    · next hc => rw [if_pos hc, readEscape_append h]
    · next hc =>
      cases h
      rw [if_neg hc]

/-- A character that has a visible form, or an escape of its own, is read back. -/
theorem readByte_quoteChar {mark c : Char} (hmark : mark = '\'' ∨ mark = '"')
    (hc : (0x20 ≤ c.toNat ∧ c.toNat < 0x7F) ∨ c = '\t' ∨ c = '\n' ∨ c = '\r') :
    readByte (quoteChar mark c).toList = some (UInt8.ofNat c.toNat, []) := by
  by_cases hescaped : c = mark ∨ c = '\\'
  · -- Neither quotes nor the backslash are letters that have a meaning of their own behind one.
    have hread : readByte ['\\', c] = some (UInt8.ofNat c.toNat, []) := by
      rcases hescaped with rfl | rfl
      · rcases hmark with rfl | rfl <;> rfl
      · rfl
    rw [quoteChar, if_pos (by simpa using hescaped), String.toList_ofList, hread]
  · rw [quoteChar, if_neg (by simpa using hescaped)]
    rcases hc with ⟨hle, hlt⟩ | rfl | rfl | rfl
    · have hprintable : isPrintable c = true := by
        simp [isPrintable, invisibleRuns]
        omega
      have hne (d : Char) (hd : d.toNat < 0x20) : ¬(c == d) = true := by
        rw [beq_iff_eq]
        rintro rfl
        omega
      rw [if_neg (hne _ (by decide)), if_neg (hne _ (by decide)), if_neg (hne _ (by decide)),
        if_pos hprintable, Char.toString, String.toList_singleton, readByte,
        if_neg (by simpa using fun hc ↦ hescaped (.inr hc))]
    · rfl
    · rfl
    · rfl

/-- What stands for a byte: a character, behind a backslash or not, or two digits. -/
theorem readByte_quoteByte_self {mark : Char} (hmark : mark = '\'' ∨ mark = '"') (b : UInt8) :
    readByte (quoteByte mark b).toList = some (b, []) := by
  have hlt := b.toNat_lt
  simp only [quoteByte]
  split
  · next hplain =>
    have hb : (Char.ofNat b.toNat).toNat = b.toNat := by
      rw [Char.toNat_ofNat, if_pos (.inl (by omega))]
    rw [readByte_quoteChar hmark (by simpa [hb, or_assoc] using hplain), hb, UInt8.ofNat_toNat]
  · have hdigit : ∀ n < 16, digitValue n.digitChar = n := by decide
    have hread (high low : Char) : readByte ("\\x" ++ String.ofList [high, low]).toList =
        some (UInt8.ofNat (16 * digitValue high + digitValue low), []) := by
      simp only [String.toList_append, String.toList_ofList]
      rfl
    rw [hexByte, hread, hdigit _ (by omega), hdigit _ (by omega), Nat.div_add_mod,
      UInt8.ofNat_toNat]

theorem readByte_quoteByte {mark : Char} (hmark : mark = '\'' ∨ mark = '"') (b : UInt8)
    (rest : List Char) : readByte ((quoteByte mark b).toList ++ rest) = some (b, rest) :=
  readByte_append (readByte_quoteByte_self hmark b)

/-- What stands for one byte after another can be read back. -/
theorem eq_of_join_quoteByte {mark : Char} (hmark : mark = '\'' ∨ mark = '"') {bs bs' : Bytes}
    (h : String.join (bs.map (quoteByte mark)) = String.join (bs'.map (quoteByte mark))) :
    bs = bs' := by
  have htoList (bs : Bytes) : (String.join (bs.map (quoteByte mark))).toList =
      bs.flatMap fun b ↦ (quoteByte mark b).toList := by
    rw [String.toList_join, List.flatMap_map]
  rw [← String.toList_inj, htoList, htoList] at h
  have hread (b : UInt8) (bs : Bytes) :
      readByte ((b :: bs).flatMap fun b ↦ (quoteByte mark b).toList) =
        some (b, bs.flatMap fun b ↦ (quoteByte mark b).toList) := by
    rw [List.flatMap_cons, readByte_quoteByte hmark]
  induction bs generalizing bs' with
  | nil =>
    cases bs' with
    | nil => rfl
    | cons b' bs' =>
      have hb' := hread b' bs'
      rw [← h] at hb'
      cases hb'
  | cons b bs ih =>
    have hb := hread b bs
    rw [h] at hb
    cases bs' with
    | nil => cases hb
    | cons b' bs' =>
      rw [hread, Option.some.injEq, Prod.mk.injEq] at hb
      rw [hb.1, ih hb.2.symm]

/-- Byte strings that are quoted alike are the same. -/
theorem quoteBytes_injective (mayChange : Bool) :
    Function.Injective fun bs ↦ quoteBytes bs mayChange := by
  have hmark (single double : Bool) :
      quoteMark single double = '\'' ∨ quoteMark single double = '"' := by
    cases single <;> cases double <;> decide
  have htoList (bs : Bytes) : ∃ mark, (mark = '\'' ∨ mark = '"') ∧
      (quoteBytes bs mayChange).toList = 'b' :: mark ::
        ((String.join (bs.map (quoteByte (if mayChange then '\'' else mark)))).toList ++ [mark]) := by
    refine ⟨_, hmark (bs.contains 39) (bs.contains 34), ?_⟩
    simp only [quoteBytes, String.toList_append, Char.toString, String.toList_singleton]
    rfl
  intro bs bs' h
  obtain ⟨mark, hbs, hlist⟩ := htoList bs
  obtain ⟨mark', hbs', hlist'⟩ := htoList bs'
  -- The mark around a byte string tells which quotes are escaped inside it.
  have hsame : (quoteBytes bs mayChange).toList = (quoteBytes bs' mayChange).toList :=
    congrArg String.toList h
  rw [hlist, hlist', List.cons.injEq, List.cons.injEq] at hsame
  obtain ⟨-, rfl, hinside⟩ := hsame
  refine eq_of_join_quoteByte ?_ (String.toList_inj.mp (List.append_cancel_right hinside))
  split
  · exact .inl rfl
  · exact hbs

end Provisioning.Text

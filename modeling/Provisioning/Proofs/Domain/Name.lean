import Provisioning.Domain.Name
import Provisioning.Proofs.Text.Pattern

/-!
The grammar of domain names beside the test for them. The test consists of three tests with three
ideas of where a text ends: the length is that without all dots at the end, and both patterns look
past a line break there, but only one of them past a root dot. So it accepts, besides all domain
names, addresses before a root dot and names before a line break (`isName_iff`).
-/

set_option autoImplicit false

namespace Provisioning.Domain

open Text (Pattern)
open Text.Pattern (Reading Concat Chain)

/-- A label has 1 to 63 letters, digits and hyphens, and no hyphen at either end. -/
structure IsLabel (cs : List Char) : Prop where
  ne_nil : cs ≠ []
  length_le : cs.length ≤ maxLabel
  chars : ∀ c ∈ cs, isLabelChar c = true
  head : cs.head? ≠ some '-'
  last : cs.getLast? ≠ some '-'

/-- A number of an address has one to three digits. -/
structure IsNumber (isDigit : Char → Bool) (cs : List Char) : Prop where
  ne_nil : cs ≠ []
  length_le : cs.length ≤ 3
  digits : ∀ c ∈ cs, isDigit c = true

/-- Parts between dots, and how many they are. -/
def Joined (part : List Char → Prop) (count : Nat → Prop) (cs : List Char) : Prop :=
  ∃ parts : List (List Char), count parts.length ∧ (∀ p ∈ parts, part p) ∧
    cs = ['.'].intercalate parts

/-- One or more labels between dots. -/
def IsDotted (cs : List Char) : Prop :=
  Joined IsLabel (0 < ·) cs

/-- Four groups of one to three digits between dots. -/
def IsQuad (cs : List Char) : Prop :=
  Joined (IsNumber Char.isDigit) (· = 4) cs

/-- Domain names: labels between dots, at most 253 characters, which a root dot may follow, and no
address. -/
def IsDomainName (cs : List Char) : Prop :=
  ∃ body root, (root = [] ∨ root = ['.']) ∧ IsDotted body ∧ body.length ≤ maxName ∧ ¬IsQuad body ∧
    cs = body ++ root

/-- What passes for a domain name without being one. -/
inductive Overlooked (cs : List Char) : Prop
  | rootedQuad {quad : List Char} (hquad : IsQuad quad) (hcs : cs = quad ++ ['.'])
  | lineBreak {body root : List Char} (hroot : root = [] ∨ root = ['.']) (hbody : IsDotted body)
    (hquad : root = [] → ¬IsQuad body) (hlength : (body ++ root).length < maxName)
    (hcs : cs = body ++ root ++ ['\n'])

section Joined

variable {part : List Char → Prop} {count : Nat → Prop} {cs : List Char}

theorem intercalate_cons (p : List Char) (ps : List (List Char)) :
    ['.'].intercalate (p :: ps) = p ++ (ps.map ('.' :: ·)).flatten := by
  induction ps generalizing p with
  | nil => simp
  | cons q ps ih => simp [List.intercalate_cons_cons, ih]

/-- A part and then more parts with dots before them. -/
theorem joined_iff (hcount : ¬count 0) : Joined part count cs ↔
    Concat part (Chain (Concat (· = ['.']) part) fun n ↦ count (n + 1)) cs := by
  constructor
  · rintro ⟨parts, hlength, hparts, rfl⟩
    cases parts with
    | nil => exact absurd hlength hcount
    | cons p ps =>
      obtain ⟨hp, hps⟩ := List.forall_mem_cons.mp hparts
      refine ⟨p, _, hp, ⟨ps.map ('.' :: ·), by simpa using hlength, ?_, rfl⟩, intercalate_cons p ps⟩
      intro q hq
      obtain ⟨q, hmem, rfl⟩ := List.mem_map.mp hq
      exact ⟨['.'], q, rfl, hps q hmem, rfl⟩
  · rintro ⟨p, -, hp, ⟨rounds, hlength, hrounds, rfl⟩, rfl⟩
    have hround : ∀ r ∈ rounds, part r.tail ∧ '.' :: r.tail = r := by
      intro r hr
      obtain ⟨-, q, rfl, hq, rfl⟩ := hrounds r hr
      exact ⟨hq, rfl⟩
    refine ⟨p :: rounds.map List.tail, by simpa using hlength, ?_, ?_⟩
    · refine List.forall_mem_cons.mpr ⟨hp, fun q hq ↦ ?_⟩
      obtain ⟨r, hr, rfl⟩ := List.mem_map.mp hq
      exact (hround r hr).1
    · have hmap : rounds.map (('.' :: ·) ∘ List.tail) = rounds.map fun r ↦ r :=
        List.map_congr_left fun r hr ↦ (hround r hr).2
      rw [intercalate_cons, List.map_map, hmap, List.map_id']

theorem mem_intercalate {parts : List (List Char)} {p : List Char} {c : Char} (hp : p ∈ parts)
    (hc : c ∈ p) : c ∈ ['.'].intercalate parts := by
  cases parts with
  | nil => cases hp
  | cons q parts =>
    rw [intercalate_cons, List.mem_append]
    rcases List.mem_cons.mp hp with rfl | hp
    · exact .inl hc
    · exact .inr (List.mem_flatten.mpr
        ⟨'.' :: p, List.mem_map_of_mem hp, List.mem_cons_of_mem _ hc⟩)

/-- Every character is a dot or stands in a part. -/
theorem Joined.forall_mem (h : Joined part count cs) {P : Char → Prop} (hdot : P '.')
    (hpart : ∀ p, part p → ∀ c ∈ p, P c) : ∀ c ∈ cs, P c := by
  obtain ⟨parts, -, hparts, rfl⟩ := h
  cases parts with
  | nil => simp
  | cons p parts =>
    obtain ⟨hp, hparts⟩ := List.forall_mem_cons.mp hparts
    intro c hc
    rw [intercalate_cons, List.mem_append, List.mem_flatten] at hc
    rcases hc with hc | ⟨r, hr, hc⟩
    · exact hpart p hp c hc
    · obtain ⟨q, hq, rfl⟩ := List.mem_map.mp hr
      rcases List.mem_cons.mp hc with rfl | hc
      · exact hdot
      · exact hpart q (hparts q hq) c hc

/-- Parts between dots end like the last part. -/
theorem Joined.exists_last (h : Joined part count cs) (hcount : ¬count 0)
    (hpart : ∀ p, part p → p ≠ []) : ∃ init p, part p ∧ p ≠ [] ∧ cs = init ++ p := by
  obtain ⟨parts, hlength, hparts, rfl⟩ := h
  obtain rfl | ⟨parts, p, rfl⟩ := List.eq_nil_or_concat' parts
  · exact absurd hlength hcount
  · have hp : part p := hparts p (by simp)
    cases parts with
    | nil => exact ⟨[], p, hp, hpart p hp, by simp⟩
    | cons q parts =>
      refine ⟨q ++ (parts.map ('.' :: ·)).flatten ++ ['.'], p, hp, hpart p hp, ?_⟩
      rw [List.cons_append, intercalate_cons]
      simp

/-- Another way to cut the parts. -/
theorem Joined.imp {part' : List Char → Prop} (h : Joined part count cs)
    (hpart : ∀ p, part p → (∀ c ∈ p, c ∈ cs) → part' p) : Joined part' count cs := by
  obtain ⟨parts, hlength, hparts, rfl⟩ := h
  exact ⟨parts, hlength, fun p hp ↦ hpart p (hparts p hp) fun c hc ↦ mem_intercalate hp hc, rfl⟩

end Joined

section Patterns

theorem reading_dot : dot.Reading (· = ['.']) :=
  Pattern.Accepts.congr (Reading.one _) fun run ↦ by simp

theorem reading_number : number.Reading (IsNumber Text.isDecimalDigit) := by
  refine Pattern.Accepts.congr (Reading.times_one _ (by decide)) fun run ↦ ?_
  constructor
  · rintro ⟨⟨hpos, hle⟩, hdigits⟩
    exact ⟨List.length_pos_iff.mp hpos, hle, hdigits⟩
  · rintro ⟨hne, hle, hdigits⟩
    exact ⟨⟨List.length_pos_iff.mpr hne, hle⟩, hdigits⟩

/-- The assertions at both ends of a label look at its own characters. -/
theorem reading_label : label.Reading IsLabel := by
  intro x y
  have hchars := Reading.times_one isLabelChar (by decide : 1 ≤ maxLabel)
  -- With something read, the characters at its ends are those that the assertions look at.
  have hends {run : List Char} (hne : run ≠ []) (hreads : x.Reads run y) :
      x.after.head? = run.head? ∧ y.before.head? = run.getLast? := by
    rw [hreads.1, hreads.2, List.head?_append_of_ne_nil _ hne,
      List.head?_append_of_ne_nil _ (List.reverse_ne_nil_iff.mpr hne), List.head?_reverse]
    exact ⟨rfl, rfl⟩
  have hhyphen (c? : Option Char) : (∀ c ∈ c?, (c == '-') = false) ↔ c? ≠ some '-' := by
    cases c? <;> simp
  simp only [label, Pattern.mem_ends_seq, Pattern.mem_ends_notAhead, Pattern.mem_ends_notBehind,
    hhyphen]
  constructor
  · rintro ⟨z, ⟨rfl, hhead⟩, w, hy, rfl, hlast⟩
    obtain ⟨run, ⟨⟨hpos, hle⟩, hrun⟩, hreads⟩ := (hchars _ _).mp hy
    have hne := List.length_pos_iff.mp hpos
    obtain ⟨hfirst, hfinal⟩ := hends hne hreads
    exact ⟨run, ⟨hne, hle, hrun, hfirst ▸ hhead, hfinal ▸ hlast⟩, hreads⟩
  · rintro ⟨run, hrun, hreads⟩
    obtain ⟨hfirst, hfinal⟩ := hends hrun.ne_nil hreads
    exact ⟨x, ⟨rfl, hfirst ▸ hrun.head⟩, y, (hchars x y).mpr
      ⟨run, ⟨⟨List.length_pos_iff.mpr hrun.ne_nil, hrun.length_le⟩, hrun.chars⟩, hreads⟩, rfl,
      hfinal ▸ hrun.last⟩

theorem chain_dot_iff {root : List Char} :
    Chain (· = ['.']) (fun n ↦ 0 ≤ n ∧ n ≤ 1) root ↔ root = [] ∨ root = ['.'] := by
  constructor
  · rintro ⟨parts, ⟨-, hle⟩, hparts, rfl⟩
    match parts with
    | [] => exact .inl rfl
    | [part] => exact .inr (by simpa using hparts)
    | _ :: _ :: _ => simp at hle
  · rintro (rfl | rfl)
    · exact ⟨[], by simp, by simp, rfl⟩
    · exact ⟨[['.']], by simp, by simp, rfl⟩

/-- The pattern of names reads labels between dots and a root dot, and looks past a line break. -/
theorem fits_name_iff {cs : List Char} : name.fits cs = true ↔
    ∃ body root tail, (root = [] ∨ root = ['.']) ∧ (tail = [] ∨ tail = ['\n']) ∧ IsDotted body ∧
      cs = body ++ root ++ tail := by
  have hround : (dot.seq label).Reading (Concat (· = ['.']) IsLabel) :=
    reading_dot.seq reading_label
  have hreading := reading_label.seq ((hround.many (by rintro - ⟨-, l, rfl, -, rfl⟩; simp)).seq
    (reading_dot.times (Nat.zero_le 1)))
  have hdotted (body : List Char) : IsDotted body ↔
      Concat IsLabel (Chain (Concat (· = ['.']) IsLabel) fun _ ↦ True) body := by
    simp [IsDotted, joined_iff]
  rw [name, Pattern.fits_anchored_iff hreading]
  constructor
  · rintro ⟨-, tail, ⟨l, -, hl, ⟨ls, root, hls, hroot, rfl⟩, rfl⟩, htail, rfl⟩
    exact ⟨l ++ ls, root, tail, chain_dot_iff.mp hroot, htail,
      (hdotted _).mpr ⟨l, ls, hl, hls, rfl⟩, by simp⟩
  · rintro ⟨body, root, tail, hroot, htail, hbody, rfl⟩
    obtain ⟨l, ls, hl, hls, rfl⟩ := (hdotted body).mp hbody
    exact ⟨_, tail, ⟨l, _, hl, ⟨ls, root, hls, chain_dot_iff.mpr hroot, rfl⟩, rfl⟩, htail, by simp⟩

/-- The pattern of addresses reads four numbers between dots, and looks past a line break. -/
theorem fits_address_iff {cs : List Char} : address.fits cs = true ↔
    ∃ quad tail, Joined (IsNumber Text.isDecimalDigit) (· = 4) quad ∧
      (tail = [] ∨ tail = ['\n']) ∧ cs = quad ++ tail := by
  have hreading := reading_number.seq ((reading_dot.seq reading_number).times (le_refl 3))
  have hthree : (fun n ↦ 3 ≤ n ∧ n ≤ 3) = fun n ↦ n + 1 = 4 := by
    funext n
    exact propext (by omega)
  have hquad (quad : List Char) : Joined (IsNumber Text.isDecimalDigit) (· = 4) quad ↔ _ :=
    joined_iff (by decide)
  rw [address, Pattern.fits_anchored_iff hreading]
  simp only [hquad, hthree]

end Patterns

section Ends

variable {body root tail cs : List Char}

theorem IsDotted.forall_mem (h : IsDotted body) :
    ∀ c ∈ body, isLabelChar c = true ∨ c = '.' :=
  Joined.forall_mem h (.inr rfl) fun _ hl c hc ↦ .inl (hl.chars c hc)

/-- Labels between dots end in a character of a label. -/
theorem IsDotted.exists_last (h : IsDotted body) :
    ∃ init c, isLabelChar c = true ∧ body = init ++ [c] := by
  obtain ⟨init, l, hl, hne, rfl⟩ := Joined.exists_last h (lt_irrefl 0) fun l hl ↦ hl.ne_nil
  obtain ⟨front, c, rfl⟩ := (List.eq_nil_or_concat' l).resolve_left hne
  exact ⟨init ++ front, c, hl.chars c (by simp), by simp⟩

theorem dropDots_concat_dot (cs : List Char) : dropDots (cs ++ ['.']) = dropDots cs := by
  simp [dropDots]

theorem dropDots_concat_of_ne {c : Char} (h : c ≠ '.') (cs : List Char) :
    dropDots (cs ++ [c]) = cs ++ [c] := by
  simp [dropDots, h]

theorem toNat_lt_of_isAlphanum {c : Char} (h : c.isAlphanum = true) : c.toNat < 128 := by
  simp only [Char.isAlphanum, Char.isAlpha, Char.isUpper, Char.isLower, Char.isDigit,
    Bool.or_eq_true, Bool.and_eq_true, decide_eq_true_eq, ge_iff_le, UInt32.le_iff_toNat_le] at h
  change c.val.toNat < 128
  rcases h with ((h | h) | h)
  · exact lt_of_le_of_lt h.2 (by decide)
  · exact lt_of_le_of_lt h.2 (by decide)
  · exact lt_of_le_of_lt h.2 (by decide)

/-- Among the characters of names, the decimal digits are those of ASCII. -/
theorem isDigit_of_isDecimalDigit {c : Char} (h : Text.isDecimalDigit c = true)
    (hc : isLabelChar c = true ∨ c = '.') : c.isDigit = true := by
  have hascii : c.toNat < 128 := by
    rcases hc with hc | rfl
    · rcases Bool.or_eq_true_iff.mp hc with hc | hc
      · exact toNat_lt_of_isAlphanum hc
      · rw [eq_of_beq hc]
        decide
    · decide
  have hfar : ∀ run ∈ Text.digitRuns, 128 ≤ run.1 := by decide
  refine (Bool.or_eq_true_iff.mp h).resolve_right fun hany ↦ ?_
  obtain ⟨run, hrun, hin⟩ := List.any_eq_true.mp hany
  have hfirst : run.1 ≤ c.toNat := by simpa using (Bool.and_eq_true_iff.mp hin).1
  exact absurd (hfar run hrun) (by omega)

theorem isDigit_ne {c : Char} (h : Text.isDecimalDigit c = true) : c ≠ '.' ∧ c ≠ '\n' := by
  constructor
  · rintro rfl
    revert h
    decide
  · rintro rfl
    revert h
    decide

/-- A text without line breaks is known from itself with a line break that may follow it. -/
theorem eq_of_append_lineBreak {cs' tail' : List Char} (hcs : '\n' ∉ cs) (hcs' : '\n' ∉ cs')
    (htail : tail = [] ∨ tail = ['\n']) (htail' : tail' = [] ∨ tail' = ['\n'])
    (h : cs ++ tail = cs' ++ tail') : cs = cs' := by
  rcases htail with rfl | rfl <;> rcases htail' with rfl | rfl
  · simpa using h
  · rw [List.append_nil] at h
    exact absurd (h ▸ List.mem_append_right cs' (List.mem_singleton_self _)) hcs
  · rw [List.append_nil] at h
    exact absurd (h ▸ List.mem_append_right cs (List.mem_singleton_self _)) hcs'
  · exact List.append_cancel_right h

theorem IsDotted.lineBreak_notMem (h : IsDotted body) (hroot : root = [] ∨ root = ['.']) :
    '\n' ∉ body ++ root := by
  intro hmem
  rcases List.mem_append.mp hmem with hmem | hmem
  · rcases h.forall_mem _ hmem with hc | hc <;> revert hc <;> decide
  · rcases hroot with rfl | rfl <;> revert hmem <;> decide

/-- Between labels, the pattern of addresses finds the quads, unless a root dot follows. -/
theorem fits_address_of_isDotted (hbody : IsDotted body) (hroot : root = [] ∨ root = ['.'])
    (htail : tail = [] ∨ tail = ['\n']) :
    address.fits (body ++ root ++ tail) = true ↔ root = [] ∧ IsQuad body := by
  rw [fits_address_iff]
  constructor
  · rintro ⟨quad, tail', hquad, htail', heq⟩
    have hchars : ∀ c ∈ quad, c ≠ '\n' :=
      hquad.forall_mem (by decide) fun n hn c hc ↦ (isDigit_ne (hn.digits c hc)).2
    have hsame : body ++ root = quad := eq_of_append_lineBreak (hbody.lineBreak_notMem hroot)
      (fun hmem ↦ hchars _ hmem rfl) htail htail' heq
    obtain ⟨init, n, hn, hne, hlast⟩ := hquad.exists_last (by decide) fun n hn ↦ hn.ne_nil
    rcases hroot with rfl | rfl
    · rw [List.append_nil] at hsame
      subst hsame
      refine ⟨rfl, hquad.imp fun n hn hin ↦ ⟨hn.ne_nil, hn.length_le, fun c hc ↦ ?_⟩⟩
      exact isDigit_of_isDecimalDigit (hn.digits c hc) (hbody.forall_mem c (hin c hc))
    · -- An address ends in a digit.
      obtain ⟨front, c, rfl⟩ := (List.eq_nil_or_concat' n).resolve_left hne
      rw [hlast, ← List.append_assoc] at hsame
      have hc : '.' = c := List.singleton_inj.mp (List.append_inj_right' hsame rfl)
      exact absurd hc.symm (isDigit_ne (hn.digits c (by simp))).1
  · rintro ⟨rfl, hquad⟩
    refine ⟨body, tail, hquad.imp fun n hn _ ↦ ⟨hn.ne_nil, hn.length_le, fun c hc ↦ ?_⟩, htail,
      by simp⟩
    rw [Text.isDecimalDigit, hn.digits c hc, Bool.true_or]

theorem IsNumber.isLabel (h : IsNumber Char.isDigit cs) : IsLabel cs := by
  have hhyphen : '-' ∉ cs := fun hmem ↦ absurd (h.digits _ hmem) (by decide)
  refine ⟨h.ne_nil, h.length_le.trans (by decide), fun c hc ↦ ?_,
    fun hhead ↦ hhyphen (List.mem_of_head? hhead), fun hlast ↦ hhyphen (List.mem_of_getLast? hlast)⟩
  simp [isLabelChar, Char.isAlphanum, h.digits c hc]

theorem IsQuad.isDotted (h : IsQuad cs) : IsDotted cs := by
  obtain ⟨numbers, hcount, hnumbers, rfl⟩ := h
  exact ⟨numbers, by omega, fun n hn ↦ (hnumbers n hn).isLabel, rfl⟩

theorem IsQuad.length_le (h : IsQuad cs) : cs.length ≤ 15 := by
  obtain ⟨numbers, hcount, hnumbers, rfl⟩ := h
  match numbers with
  | [a, b, c, d] =>
    simp only [List.forall_mem_cons] at hnumbers
    obtain ⟨ha, hb, hc, hd, -⟩ := hnumbers
    have := ha.length_le
    have := hb.length_le
    have := hc.length_le
    have := hd.length_le
    simp [List.intercalate_cons_cons]
    omega

theorem dropDots_of_isDotted (h : IsDotted body) (hroot : root = [] ∨ root = ['.']) :
    dropDots (body ++ root) = body := by
  obtain ⟨init, c, hc, rfl⟩ := h.exists_last
  have hne : c ≠ '.' := by
    rintro rfl
    revert hc
    decide
  rcases hroot with rfl | rfl
  · rw [List.append_nil, dropDots_concat_of_ne hne]
  · rw [dropDots_concat_dot, dropDots_concat_of_ne hne]

end Ends

/-- What the three tests come to together. -/
theorem isName_iff_exists {d : String} : isName d = true ↔
    ∃ body root tail, (root = [] ∨ root = ['.']) ∧ (tail = [] ∨ tail = ['\n']) ∧ IsDotted body ∧
      ¬(root = [] ∧ IsQuad body) ∧ (dropDots (body ++ root ++ tail)).length ≤ maxName ∧
      d.toList = body ++ root ++ tail := by
  have hstep : isName d = true ↔ d.toList ≠ [] ∧ (dropDots d.toList).length ≤ maxName ∧
      address.fits d.toList ≠ true ∧ name.fits d.toList = true := by
    simp [isName, and_assoc]
  rw [hstep, fits_name_iff]
  constructor
  · rintro ⟨-, hlength, haddress, body, root, tail, hroot, htail, hbody, hd⟩
    rw [hd] at hlength haddress
    exact ⟨body, root, tail, hroot, htail, hbody,
      mt (fits_address_of_isDotted hbody hroot htail).mpr haddress, hlength, hd⟩
  · rintro ⟨body, root, tail, hroot, htail, hbody, hquad, hlength, hd⟩
    obtain ⟨init, c, -, rfl⟩ := hbody.exists_last
    refine ⟨by simp [hd], hd ▸ hlength, ?_, _, root, tail, hroot, htail, hbody, hd⟩
    rw [hd]
    exact mt (fits_address_of_isDotted hbody hroot htail).mp hquad

theorem Overlooked.not_isDomainName {cs : List Char} (h : Overlooked cs) : ¬IsDomainName cs := by
  rintro ⟨body, root, hroot, hbody, -, hquad, hcs⟩
  cases h with
  | rootedQuad hquad' hcs' =>
    have hsame : dropDots cs = body := hcs ▸ dropDots_of_isDotted hbody hroot
    rw [hcs', dropDots_of_isDotted hquad'.isDotted (.inr rfl)] at hsame
    exact hquad (hsame ▸ hquad')
  | lineBreak _ _ _ _ hcs' =>
    have hmem : '\n' ∈ cs := hcs' ▸ List.mem_append_right _ (List.mem_singleton_self _)
    exact hbody.lineBreak_notMem hroot (hcs ▸ hmem)

/-- The test accepts the domain names and, besides them, addresses before a root dot and names before
a line break. An accepted text has no other characters than those of names and that line break. -/
theorem isName_iff (d : String) :
    (isName d = true ↔ IsDomainName d.toList ∨ Overlooked d.toList) ∧
      (Overlooked d.toList → ¬IsDomainName d.toList) ∧
      (isName d = true → ∃ text tail, (tail = [] ∨ tail = ['\n']) ∧ d.toList = text ++ tail ∧
        ∀ c ∈ text, isLabelChar c = true ∨ c = '.') := by
  refine ⟨?_, Overlooked.not_isDomainName, fun h ↦ ?_⟩
  · rw [isName_iff_exists]
    constructor
    · rintro ⟨body, root, tail, hroot, rfl | rfl, hbody, hquad, hlength, hd⟩
      · rw [List.append_nil, dropDots_of_isDotted hbody hroot] at hlength
        rw [List.append_nil] at hd
        by_cases hq : IsQuad body
        · rw [hroot.resolve_left fun hroot ↦ hquad ⟨hroot, hq⟩] at hd
          exact .inr (.rootedQuad hq hd)
        · exact .inl ⟨body, root, hroot, hbody, hlength, hq, hd⟩
      · rw [dropDots_concat_of_ne (by decide), List.length_append] at hlength
        exact .inr (.lineBreak hroot hbody (fun hr hq ↦ hquad ⟨hr, hq⟩) hlength hd)
    · rintro (⟨body, root, hroot, hbody, hlength, hquad, hd⟩ | hover)
      · refine ⟨body, root, [], hroot, .inl rfl, hbody, fun h ↦ hquad h.2, ?_, by simpa using hd⟩
        rwa [List.append_nil, dropDots_of_isDotted hbody hroot]
      · cases hover with
        | @rootedQuad quad hquad hd =>
          refine ⟨quad, ['.'], [], .inr rfl, .inl rfl, hquad.isDotted, by simp, ?_,
            by simpa using hd⟩
          rw [List.append_nil, dropDots_of_isDotted hquad.isDotted (.inr rfl)]
          exact hquad.length_le.trans (by decide)
        | @lineBreak body root hroot hbody hquad hlength hd =>
          refine ⟨body, root, ['\n'], hroot, .inr rfl, hbody, fun h ↦ hquad h.1 h.2, ?_, hd⟩
          rw [dropDots_concat_of_ne (by decide), List.length_append]
          exact hlength
  · obtain ⟨body, root, tail, hroot, htail, hbody, -, -, hd⟩ := isName_iff_exists.mp h
    refine ⟨body ++ root, tail, htail, hd, fun c hc ↦ ?_⟩
    rcases List.mem_append.mp hc with hc | hc
    · exact hbody.forall_mem c hc
    · rcases hroot with rfl | rfl
      · cases hc
      · exact .inr (List.mem_singleton.mp hc)

/-- A name with a line break behind it and an address with a root dot pass the test. -/
theorem not_isDomainName_of_isName :
    (isName "example.com\n" = true ∧ ¬IsDomainName "example.com\n".toList) ∧
      isName "127.0.0.1." = true ∧ ¬IsDomainName "127.0.0.1.".toList := by
  have hquad : IsQuad "127.0.0.1".toList :=
    ⟨[['1', '2', '7'], ['0'], ['0'], ['1']], rfl, by
      simp only [List.forall_mem_cons]
      refine ⟨?_, ?_, ?_, ?_, by simp⟩ <;> exact ⟨by simp, by simp, List.all_eq_true.mp rfl⟩, rfl⟩
  refine ⟨⟨by decide, ?_⟩, by decide, (Overlooked.rootedQuad hquad rfl).not_isDomainName⟩
  rintro ⟨body, root, hroot, hbody, -, -, hd⟩
  exact hbody.lineBreak_notMem hroot (hd ▸ by decide)

end Provisioning.Domain

import Provisioning.Domain.Suffix
import Provisioning.Proofs.Domain.Name
import Provisioning.Proofs.Text.Case

/-!
Spellings of a domain name. Neither the case of ASCII letters nor a root dot decides whether a name
has a public suffix. The tests behind this each see something else: that for addresses sees the root
dot, while the length and the suffix do not. So an address before a root dot passes for a name, and
only the suffix list turns it down.
-/

set_option autoImplicit false

namespace Provisioning.Domain

open Text (Pattern apply_toLower toList_toLower)

section Case

theorem toLower_beq {d : Char}
    (h : ∀ n < 26, (Char.ofNat (97 + n) == d) = (Char.ofNat (65 + n) == d)) (c : Char) :
    (c.toLower == d) = (c == d) :=
  apply_toLower (p := (· == d)) h c

theorem ignores_name : name.Ignores Char.toLower := by
  have hchar (c : Char) : isLabelChar c.toLower = isLabelChar c := apply_toLower (by decide) c
  have hhyphen (c : Char) : (c.toLower == '-') = (c == '-') := toLower_beq (by decide) c
  have hdot (c : Char) : (c.toLower == '.') = (c == '.') := toLower_beq (by decide) c
  simp [name, label, dot, Pattern.anchored, Pattern.Ignores, hchar, hhyphen, hdot]

theorem ignores_address : address.Ignores Char.toLower := by
  have hdigit (c : Char) : Text.isDecimalDigit c.toLower = Text.isDecimalDigit c :=
    apply_toLower (by decide) c
  have hdot (c : Char) : (c.toLower == '.') = (c == '.') := toLower_beq (by decide) c
  simp [address, number, dot, Pattern.anchored, Pattern.Ignores, hdigit, hdot]

theorem dropDots_toLower (cs : List Char) :
    dropDots (cs.map Char.toLower) = (dropDots cs).map Char.toLower := by
  have hdot : (· == '.') ∘ Char.toLower = (· == '.') := funext (toLower_beq (by decide))
  rw [dropDots, ← List.map_reverse, List.dropWhile_map, hdot, ← List.map_reverse, dropDots]

theorem isName_toLower (d : String) : isName d.toLower = isName d := by
  have hbreak (c : Char) : c.toLower = '\n' ↔ c = '\n' := by
    rw [← beq_iff_eq, toLower_beq (by decide), beq_iff_eq]
  simp only [isName, toList_toLower, List.isEmpty_map, dropDots_toLower, List.length_map,
    Pattern.fits_map hbreak ignores_address, Pattern.fits_map hbreak ignores_name]

variable [SuffixList]

theorem publicSuffix_toLower (d : String) : publicSuffix d.toLower = publicSuffix d := by
  have hname : String.ofList (dropDots d.toLower.toList) =
      (String.ofList (dropDots d.toList)).toLower := by
    rw [← String.toList_inj, toList_toLower, String.toList_ofList, toList_toLower,
      String.toList_ofList, dropDots_toLower]
  rw [publicSuffix, hname, Text.toLower_toLower, publicSuffix]

theorem hasPublicSuffix_toLower (d : String) : hasPublicSuffix d.toLower = hasPublicSuffix d := by
  rw [hasPublicSuffix, isName_toLower, publicSuffix_toLower, hasPublicSuffix]

end Case

section Root

variable {d : String}

/-- Labels with a root dot pass, even if they are an address. -/
theorem isName_append_dot :
    isName (d ++ ".") = true ↔ IsDotted d.toList ∧ d.toList.length ≤ maxName := by
  have htoList : (d ++ ".").toList = d.toList ++ ['.'] := String.toList_append
  rw [isName_iff_exists, htoList]
  constructor
  · rintro ⟨body, root, tail, hroot, rfl | rfl, hbody, -, hlength, hd⟩
    · rw [List.append_nil] at hlength hd
      rw [dropDots_of_isDotted hbody hroot] at hlength
      rcases hroot with rfl | rfl
      · -- Labels do not end in a dot.
        obtain ⟨init, c, hc, rfl⟩ := hbody.exists_last
        rw [List.append_nil] at hd
        cases List.singleton_inj.mp (List.append_inj_right' hd rfl)
        exact absurd hc (by decide)
      · rw [List.append_cancel_right hd]
        exact ⟨hbody, hlength⟩
    · exact absurd (List.singleton_inj.mp (List.append_inj_right' hd rfl)) (by decide)
  · rintro ⟨hbody, hlength⟩
    refine ⟨d.toList, ['.'], [], .inr rfl, .inl rfl, hbody, by simp, ?_, by simp⟩
    rwa [List.append_nil, dropDots_of_isDotted hbody (.inr rfl)]

theorem isName_of_getLast?_ne (h : d.toList.getLast? ≠ some '.')
    (hbreak : d.toList.getLast? ≠ some '\n') :
    isName d = true ↔ IsDotted d.toList ∧ d.toList.length ≤ maxName ∧ ¬IsQuad d.toList := by
  rw [isName_iff_exists]
  constructor
  · rintro ⟨body, root, tail, hroot, rfl | rfl, hbody, hquad, hlength, hd⟩
    · rw [List.append_nil] at hlength hd
      rw [dropDots_of_isDotted hbody hroot] at hlength
      rcases hroot with rfl | rfl
      · rw [List.append_nil] at hd
        rw [hd]
        exact ⟨hbody, hlength, fun hq ↦ hquad ⟨rfl, hq⟩⟩
      · exact absurd (by rw [hd, List.getLast?_concat]) h
    · exact absurd (by rw [hd, List.getLast?_concat]) hbreak
  · rintro ⟨hbody, hlength, hquad⟩
    refine ⟨d.toList, [], [], .inl rfl, .inl rfl, hbody, fun hq ↦ hquad hq.2, ?_, by simp⟩
    rwa [List.append_nil, dropDots_of_isDotted hbody (.inl rfl)]

variable [SuffixList]

theorem publicSuffix_append_dot (d : String) : publicSuffix (d ++ ".") = publicSuffix d := by
  have htoList : (d ++ ".").toList = d.toList ++ ['.'] := String.toList_append
  rw [publicSuffix, htoList, dropDots_concat_dot, publicSuffix]

/-- An address is looked up as it is. -/
theorem publicSuffix_of_isQuad (h : IsQuad d.toList) : publicSuffix d = SuffixList.suffix d := by
  have hdrop : dropDots d.toList = d.toList := by
    have hbody : dropDots (d.toList ++ []) = d.toList := dropDots_of_isDotted h.isDotted (.inl rfl)
    rwa [List.append_nil] at hbody
  have hsmall : ∀ c ∈ d.toList, c ≠ 'Σ' ∧ Text.lowerChar c = [c] := by
    refine Joined.forall_mem h (by decide +kernel) fun number hnumber c hc ↦ ?_
    have hdigit := hnumber.digits c hc
    have hbounds : 48 ≤ c.toNat ∧ c.toNat ≤ 57 := by
      simpa [Char.isDigit, UInt32.le_iff_toNat_le] using hdigit
    obtain ⟨n, hn, rfl⟩ : ∃ n < 10, c = Char.ofNat (48 + n) :=
      ⟨c.toNat - 48, by omega, by rw [Nat.add_sub_cancel' hbounds.1, Char.ofNat_toNat]⟩
    have hall : ∀ n < 10, Char.ofNat (48 + n) ≠ 'Σ' ∧
        Text.lowerChar (Char.ofNat (48 + n)) = [Char.ofNat (48 + n)] := by decide +kernel
    exact hall n hn
  rw [publicSuffix, hdrop, String.ofList_toList, Text.toLower_eq_self hsmall]

theorem hasPublicSuffix_append_dot
    (hquad : ∀ quad : String, IsQuad quad.toList → SuffixList.suffix quad = "")
    (h : d.toList.getLast? ≠ some '.') (hbreak : d.toList.getLast? ≠ some '\n') :
    hasPublicSuffix (d ++ ".") = hasPublicSuffix d := by
  rw [hasPublicSuffix, publicSuffix_append_dot, hasPublicSuffix]
  by_cases hq : IsQuad d.toList
  · have hnone : (!"".isEmpty) = false := rfl
    rw [publicSuffix_of_isQuad hq, hquad d hq, hnone, Bool.and_false, Bool.and_false]
  · have hname : isName (d ++ ".") = isName d := by
      rw [Bool.eq_iff_iff, isName_append_dot, isName_of_getLast?_ne h hbreak]
      simp [hq]
    rw [hname]

end Root

section BuiltIn

theorem mem_of_mem_splitDots {cs part : List Char} (hpart : part ∈ splitDots cs) :
    ∀ c ∈ part, c ∈ cs ∧ c ≠ '.' := by
  induction cs generalizing part with
  | nil =>
    rw [List.mem_singleton.mp hpart]
    exact fun _ ↦ nofun
  | cons d cs ih =>
    have hrest {part : List Char} (hpart : part ∈ splitDots cs) :
        ∀ c ∈ part, c ∈ d :: cs ∧ c ≠ '.' :=
      fun c hc ↦ ⟨List.mem_cons_of_mem d (ih hpart c hc).1, (ih hpart c hc).2⟩
    simp only [splitDots] at hpart
    split at hpart
    · rcases List.mem_cons.mp hpart with rfl | hpart
      · exact fun _ ↦ nofun
      · exact hrest hpart
    · next hdot =>
      have hd : d ∈ d :: cs ∧ d ≠ '.' := ⟨List.mem_cons_self, by simpa using hdot⟩
      split at hpart
      · rw [List.mem_singleton.mp hpart]
        exact List.forall_mem_singleton.mpr hd
      · next first rest hsplit =>
        rw [hsplit] at hrest
        rcases List.mem_cons.mp hpart with rfl | hpart
        · exact List.forall_mem_cons.mpr ⟨hd, hrest List.mem_cons_self⟩
        · exact hrest (List.mem_cons_of_mem first hpart)

theorem mem_of_mem_trim {p : Char → Bool} {s : String} {c : Char} (h : c ∈ (Text.trim p s).toList) :
    c ∈ s.toList := by
  simp only [Text.trim, Text.trimEnd, Text.trimStart, String.toList_ofList, List.mem_reverse] at h
  exact List.dropWhile_subset _ (List.mem_reverse.mp (List.dropWhile_subset _ h))

theorem mem_of_mem_dropDots {cs : List Char} {c : Char} (h : c ∈ dropDots cs) : c ∈ cs :=
  List.mem_reverse.mp (List.dropWhile_subset _ (List.mem_reverse.mp h))

/-- No rule ends in a label of digits. -/
theorem isSpelled_digits {label : String} (h : ∀ c ∈ label.toList, c.isDigit = true) :
    isSpelled [label] = false := by
  have hrules : ∀ r ∈ rules, r.labels.getLast?.any (fun l ↦ !l.toList.all Char.isDigit) = true := by
    decide
  have hlast {r : Rule} (hr : r ∈ rules) : ¬[label] <:+ r.labels := by
    rintro ⟨front, hlabels⟩
    have hrule := hrules r hr
    rw [← hlabels, List.getLast?_concat, Option.any_some, List.all_eq_true.mpr h] at hrule
    cases hrule
  refine List.any_eq_false.mpr fun r hr hspelled ↦ hlast hr ?_
  cases r with
  | plain ls | wildcard ls => exact List.isSuffixOf_iff_suffix.mp hspelled
  | exception l ls => exact (List.isSuffixOf_iff_suffix.mp hspelled).trans (List.suffix_cons l ls)

/-- The built-in list finds no suffix in an address. -/
theorem suffix_builtIn_of_isQuad {quad : String} (h : IsQuad quad.toList) :
    builtIn.suffix quad = "" := by
  have hlabels : ∀ label ∈ lookupLabels quad, ∀ c ∈ label.toList, c.isDigit = true := by
    intro label hlabel c hc
    obtain ⟨part, hpart, rfl⟩ := List.mem_map.mp hlabel
    rw [String.toList_ofList] at hc
    obtain ⟨hmem, hdot⟩ := mem_of_mem_splitDots hpart c hc
    have hdigits : ∀ c ∈ quad.toList, c ≠ '.' → c.isDigit = true :=
      Joined.forall_mem h (absurd rfl) fun _ hnumber c hc _ ↦ hnumber.digits c hc
    exact hdigits c (mem_of_mem_trim (mem_of_mem_dropDots hmem)) hdot
  have hfound : followRules [] [] (lookupLabels quad).reverse = [] := by
    cases hreverse : (lookupLabels quad).reverse with
    | nil => rfl
    | cons label rest =>
      have hlabel := isSpelled_digits (hlabels label
        (List.mem_reverse.mp (hreverse ▸ List.mem_cons_self)))
      have hwildcard : rules.contains (.wildcard []) = false := by decide
      rw [followRules, hlabel, hwildcard]
      rfl
  change ".".intercalate (followRules [] [] (lookupLabels quad).reverse) = ""
  rw [hfound]
  rfl

end BuiltIn

/-- Whether a name has a public suffix depends neither on the case of its ASCII letters nor on a
root dot, with any suffix list that finds no suffix in an address. -/
theorem hasPublicSuffix_spellings [SuffixList]
    (hquad : ∀ quad : String, IsQuad quad.toList → SuffixList.suffix quad = "") (d : String) :
    (∀ d' : String, d'.toLower = d.toLower → hasPublicSuffix d' = hasPublicSuffix d) ∧
      (d.toList.getLast? ≠ some '.' → d.toList.getLast? ≠ some '\n' →
        hasPublicSuffix (d ++ ".") = hasPublicSuffix d) := by
  refine ⟨fun d' hd' ↦ ?_, hasPublicSuffix_append_dot hquad⟩
  rw [← hasPublicSuffix_toLower d', hd', hasPublicSuffix_toLower]

/-- A name in capital letters, and an address with a root dot, which passes for a name. -/
theorem hasPublicSuffix_spellings_builtIn :
    (hasPublicSuffix "WWW.Example.COM" = hasPublicSuffix "www.example.com" ∧
        hasPublicSuffix "www.example.com" = true) ∧
      hasPublicSuffix ("127.0.0.1" ++ ".") = hasPublicSuffix "127.0.0.1" ∧
      isName ("127.0.0.1" ++ ".") ≠ isName "127.0.0.1" := by
  have hlower : "WWW.Example.COM".toLower = "www.example.com".toLower := by
    rw [← String.toList_inj, toList_toLower, toList_toLower]
    decide
  have hspellings := hasPublicSuffix_spellings fun _ ↦ suffix_builtIn_of_isQuad
  obtain ⟨hcase, -⟩ := hspellings "www.example.com"
  obtain ⟨-, hroot⟩ := hspellings "127.0.0.1"
  exact ⟨⟨hcase "WWW.Example.COM" hlower, by decide +kernel⟩, hroot (by decide) (by decide),
    by decide +kernel⟩

end Provisioning.Domain

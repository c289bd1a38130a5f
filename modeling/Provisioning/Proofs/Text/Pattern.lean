import Mathlib
import Provisioning.Text.Pattern

/-!
Patterns whose assertions do not depend on where they are tried read a language of their own: from
every place they lead just behind the texts of that language. Sequence and repetition go over to
concatenation, so the language of a pattern is put together from those of its parts. Where a pattern
ignores a translation of characters, it fits the texts whose translations it fits.
-/

set_option autoImplicit false

namespace Provisioning.Text

/-- The way from one place to another is a text. -/
def Place.Reads (x : Place) (run : List Char) (y : Place) : Prop :=
  x.after = run ++ y.after ∧ y.before = run.reverse ++ x.before

namespace Place

variable {x y z : Place} {run rest : List Char}

theorem reads_nil_iff : x.Reads [] y ↔ y = x := by
  obtain ⟨b, a⟩ := x
  obtain ⟨b', a'⟩ := y
  simp only [Reads, List.nil_append, List.reverse_nil, mk.injEq]
  exact ⟨fun h ↦ ⟨h.2, h.1.symm⟩, fun h ↦ ⟨h.2.symm, h.1⟩⟩

theorem reads_append_iff : x.Reads (run ++ rest) z ↔ ∃ y, x.Reads run y ∧ y.Reads rest z := by
  constructor
  · rintro ⟨hafter, hbefore⟩
    refine ⟨⟨run.reverse ++ x.before, rest ++ z.after⟩, ⟨?_, rfl⟩, rfl, ?_⟩
    · rw [hafter, List.append_assoc]
    · rw [hbefore, List.reverse_append, List.append_assoc]
  · rintro ⟨y, ⟨hafter, hbefore⟩, hafter', hbefore'⟩
    refine ⟨?_, ?_⟩
    · rw [hafter, hafter', List.append_assoc]
    · rw [hbefore', hbefore, List.reverse_append, List.append_assoc]

theorem length_le_of_reads (h : x.Reads run y) : run.length ≤ x.after.length := by
  rw [h.1, List.length_append]
  exact Nat.le_add_right _ _

end Place

namespace Pattern

/-- From every place the way leads just behind the texts of a language. -/
def Accepts (round : Place → List Place) (language : List Char → Prop) : Prop :=
  ∀ x y, y ∈ round x ↔ ∃ run, language run ∧ x.Reads run y

/-- A text of one language and then one of another. -/
def Concat (first second : List Char → Prop) (run : List Char) : Prop :=
  ∃ front back, first front ∧ second back ∧ run = front ++ back

/-- Some texts of a language, one after another, and how many there are. -/
def Chain (language : List Char → Prop) (count : Nat → Prop) (run : List Char) : Prop :=
  ∃ parts : List (List Char), count parts.length ∧ (∀ part ∈ parts, language part) ∧
    run = parts.flatten

section Rounds

variable {round next : Place → List Place} {language other : List Char → Prop}
  {count : Nat → Prop} {run : List Char}

theorem chain_iff (run : List Char) : Chain language count run ↔
    (count 0 ∧ run = []) ∨ Concat language (Chain language fun n ↦ count (n + 1)) run := by
  constructor
  · rintro ⟨parts, hcount, hparts, rfl⟩
    cases parts with
    | nil => exact .inl ⟨hcount, rfl⟩
    | cons part parts =>
      obtain ⟨hpart, hparts⟩ := List.forall_mem_cons.mp hparts
      exact .inr ⟨part, parts.flatten, hpart, ⟨parts, hcount, hparts, rfl⟩, rfl⟩
  · rintro (⟨hcount, rfl⟩ | ⟨part, -, hpart, ⟨parts, hcount, hparts, rfl⟩, rfl⟩)
    · exact ⟨[], hcount, by simp, rfl⟩
    · exact ⟨part :: parts, hcount, List.forall_mem_cons.mpr ⟨hpart, hparts⟩, rfl⟩

theorem Accepts.congr (h : Accepts round language) (hiff : ∀ run, language run ↔ other run) :
    Accepts round other := fun x y ↦
  (h x y).trans (exists_congr fun run ↦ and_congr_left fun _ ↦ hiff run)

theorem accepts_singleton : Accepts (fun x ↦ [x]) (· = []) := fun x y ↦ by
  simp [Place.reads_nil_iff]

theorem Accepts.flatMap (h : Accepts round language) (hnext : Accepts next other) :
    Accepts (fun x ↦ (round x).flatMap next) (Concat language other) := by
  intro x z
  rw [List.mem_flatMap]
  constructor
  · rintro ⟨y, hy, hz⟩
    obtain ⟨front, hfront, hxy⟩ := (h x y).mp hy
    obtain ⟨back, hback, hyz⟩ := (hnext y z).mp hz
    exact ⟨front ++ back, ⟨front, back, hfront, hback, rfl⟩,
      Place.reads_append_iff.mpr ⟨y, hxy, hyz⟩⟩
  · rintro ⟨run, ⟨front, back, hfront, hback, rfl⟩, hxz⟩
    obtain ⟨y, hxy, hyz⟩ := Place.reads_append_iff.mp hxz
    exact ⟨y, (h x y).mpr ⟨front, hfront, hxy⟩, (hnext y z).mpr ⟨back, hback, hyz⟩⟩

theorem Accepts.exactly (h : Accepts round language) (n : Nat) :
    Accepts (exactly round n) (Chain language (· = n)) := by
  induction n with
  | zero => exact accepts_singleton.congr fun run ↦ by simp [Chain]
  | succ n ih => exact (h.flatMap ih).congr fun run ↦ by simp [chain_iff run]

theorem Accepts.atMost (h : Accepts round language) (n : Nat) :
    Accepts (atMost round n) (Chain language (· ≤ n)) := by
  induction n with
  | zero => exact accepts_singleton.congr fun run ↦ by simp [Chain]
  | succ n ih =>
    intro x z
    have hmem : z ∈ Pattern.atMost round (n + 1) x ↔
        z ∈ (round x).flatMap (Pattern.atMost round n) ∨ z ∈ [x] := List.mem_append
    rw [hmem, h.flatMap ih x z, accepts_singleton x z, ← exists_or]
    simp only [← or_and_right]
    refine exists_congr fun run ↦ and_congr_left fun _ ↦ ?_
    simp [chain_iff run, or_comm]

theorem chain_one_iff {p : Char → Bool} :
    Chain (fun run ↦ ∃ c, p c = true ∧ run = [c]) count run ↔
      count run.length ∧ ∀ c ∈ run, p c = true := by
  constructor
  · rintro ⟨parts, hcount, hparts, rfl⟩
    obtain ⟨cs, hcs, rfl⟩ :
        ∃ cs : List Char, (∀ c ∈ cs, p c = true) ∧ parts = cs.map fun c ↦ [c] := by
      clear hcount
      induction parts with
      | nil => exact ⟨[], by simp, rfl⟩
      | cons part parts ih =>
        obtain ⟨⟨c, hc, rfl⟩, hrest⟩ := List.forall_mem_cons.mp hparts
        obtain ⟨cs, hcs, rfl⟩ := ih hrest
        exact ⟨c :: cs, List.forall_mem_cons.mpr ⟨hc, hcs⟩, rfl⟩
    rw [List.length_map] at hcount
    rw [← List.flatMap_def, List.flatMap_singleton']
    exact ⟨hcount, hcs⟩
  · rintro ⟨hcount, hrun⟩
    refine ⟨run.map fun c ↦ [c], by simpa using hcount, fun part hpart ↦ ?_, ?_⟩
    · obtain ⟨c, hc, rfl⟩ := List.mem_map.mp hpart
      exact ⟨c, hrun c hc, rfl⟩
    · rw [← List.flatMap_def, List.flatMap_singleton']

end Rounds

/-- The texts that a pattern reads, from whatever place. -/
def Reading (pattern : Pattern) (language : List Char → Prop) : Prop :=
  Accepts pattern.ends language

namespace Reading

variable {a b : Pattern} {P Q : List Char → Prop}

theorem one (p : Char → Bool) : (Pattern.one p).Reading fun run ↦ ∃ c, p c = true ∧ run = [c] := by
  rintro ⟨before, after⟩ y
  cases after with
  | nil => simp [ends, Place.Reads]
  | cons c after =>
    have hreads : (∃ run, (∃ c, p c = true ∧ run = [c]) ∧ Place.Reads ⟨before, c :: after⟩ run y) ↔
        p c = true ∧ y = ⟨c :: before, after⟩ := by
      obtain ⟨before', after'⟩ := y
      simp only [Place.Reads, Place.mk.injEq]
      constructor
      · rintro ⟨-, ⟨d, hd, rfl⟩, hafter, hbefore⟩
        obtain ⟨rfl, rfl⟩ := List.cons.inj hafter
        exact ⟨hd, hbefore, rfl⟩
      · rintro ⟨hc, rfl, rfl⟩
        exact ⟨[c], ⟨c, hc, rfl⟩, rfl, rfl⟩
    rw [hreads, ends]
    split
    · next hp => simp [hp]
    · next hp => simp [hp]

theorem seq (ha : a.Reading P) (hb : b.Reading Q) : (a.seq b).Reading (Concat P Q) :=
  Accepts.flatMap ha hb

theorem times (ha : a.Reading P) {least most : Nat} (hle : least ≤ most) :
    (Pattern.times least most a).Reading (Chain P fun n ↦ least ≤ n ∧ n ≤ most) := by
  refine ((Accepts.exactly ha least).flatMap (Accepts.atMost ha (most - least))).congr fun run ↦ ?_
  constructor
  · rintro ⟨-, -, ⟨parts, hcount, hparts, rfl⟩, ⟨more, hmore, hparts', rfl⟩, rfl⟩
    refine ⟨parts ++ more, ?_, fun part h ↦ ?_, List.flatten_append.symm⟩
    · rw [List.length_append]
      omega
    · exact (List.mem_append.mp h).elim (hparts part) (hparts' part)
  · rintro ⟨parts, hcount, hparts, rfl⟩
    refine ⟨(parts.take least).flatten, (parts.drop least).flatten,
      ⟨_, by simpa using hcount.1, fun part h ↦ hparts part (List.mem_of_mem_take h), rfl⟩,
      ⟨_, by rw [List.length_drop]; omega, fun part h ↦ hparts part (List.mem_of_mem_drop h), rfl⟩,
      ?_⟩
    rw [← List.flatten_append, List.take_append_drop]

theorem times_one (p : Char → Bool) {least most : Nat} (hle : least ≤ most) :
    (Pattern.times least most (.one p)).Reading fun run ↦
      (least ≤ run.length ∧ run.length ≤ most) ∧ ∀ c ∈ run, p c = true :=
  Accepts.congr (times (one p) hle) fun _ ↦ chain_one_iff

/-- Where every round reads a character, there are no more rounds than characters. -/
theorem many (ha : a.Reading P) (hne : ∀ run, P run → run ≠ []) :
    (Pattern.many a).Reading (Chain P fun _ ↦ True) := by
  intro x y
  rw [ends, Accepts.atMost ha x.after.length x y]
  refine exists_congr fun run ↦ and_congr_left fun hxy ↦ ?_
  constructor
  · rintro ⟨parts, -, hparts⟩
    exact ⟨parts, trivial, hparts⟩
  · rintro ⟨parts, -, hparts, rfl⟩
    refine ⟨parts, le_trans ?_ (Place.length_le_of_reads hxy), hparts, rfl⟩
    rw [List.length_flatten]
    have hone : ∀ n ∈ parts.map List.length, 1 ≤ n := by
      intro n hn
      obtain ⟨part, hpart, rfl⟩ := List.mem_map.mp hn
      exact List.length_pos_iff.mpr (hne part (hparts part hpart))
    simpa using List.card_nsmul_le_sum (parts.map List.length) 1 hone

end Reading

section Assertions

variable {a b : Pattern} {p : Char → Bool} {x y : Place}

theorem mem_ends_seq : y ∈ (seq a b).ends x ↔ ∃ z ∈ a.ends x, y ∈ b.ends z :=
  List.mem_flatMap

theorem mem_ends_notAhead : y ∈ (notAhead p).ends x ↔ y = x ∧ ∀ c ∈ x.after.head?, p c = false := by
  rw [ends]
  cases x.after.head? with
  | none => simp
  | some c => cases h : p c <;> simp [h]

theorem mem_ends_notBehind :
    y ∈ (notBehind p).ends x ↔ y = x ∧ ∀ c ∈ x.before.head?, p c = false := by
  rw [ends]
  cases x.before.head? with
  | none => simp
  | some c => cases h : p c <;> simp [h]

theorem mem_ends_finish : y ∈ finish.ends x ↔ y = x ∧ (x.after = [] ∨ x.after = ['\n']) := by
  rw [ends]
  split
  · next h => exact List.mem_singleton.trans (and_iff_left (by simpa using h)).symm
  · next h => exact iff_of_false List.not_mem_nil fun hy ↦ h (by simpa using hy.2)

end Assertions

/-- A text that is to be read as a whole may end in a line break all the same. -/
theorem fits_anchored_iff {a : Pattern} {language : List Char → Prop} (h : a.Reading language)
    {cs : List Char} : (anchored a).fits cs = true ↔
      ∃ run tail, language run ∧ (tail = [] ∨ tail = ['\n']) ∧ cs = run ++ tail := by
  have hfits : (anchored a).fits cs = true ↔
      ∃ y ∈ a.ends ⟨[], cs⟩, y.after = [] ∨ y.after = ['\n'] := by
    have hends : (anchored a).ends ⟨[], cs⟩ = (a.ends ⟨[], cs⟩).flatMap finish.ends := by
      simp [anchored, ends]
    rw [fits, hends, Bool.not_eq_true', List.isEmpty_eq_false_iff_exists_mem]
    simp only [List.mem_flatMap, mem_ends_finish]
    constructor
    · rintro ⟨-, y, hy, -, htail⟩
      exact ⟨y, hy, htail⟩
    · rintro ⟨y, hy, htail⟩
      exact ⟨y, y, hy, rfl, htail⟩
  rw [hfits]
  constructor
  · rintro ⟨y, hy, htail⟩
    obtain ⟨run, hrun, hreads⟩ := (h _ y).mp hy
    exact ⟨run, y.after, hrun, htail, hreads.1⟩
  · rintro ⟨run, tail, hrun, htail, rfl⟩
    exact ⟨⟨run.reverse, tail⟩, (h _ _).mpr ⟨run, hrun, rfl, (List.append_nil _).symm⟩, htail⟩

/-! ### Translated texts -/

/-- A place in a text of which every character is translated. -/
def translate (f : Char → Char) (x : Place) : Place :=
  ⟨x.before.map f, x.after.map f⟩

/-- No character is told from its translation. -/
def Ignores (f : Char → Char) : Pattern → Prop
  | start | finish => True
  | one p | notAhead p | notBehind p => ∀ c, p (f c) = p c
  | seq first second => first.Ignores f ∧ second.Ignores f
  | times _ _ part | many part => part.Ignores f

section Translated

variable {f : Char → Char} {round next : Place → List Place} {a : Pattern}

/-- Rounds lead through a translated text as through the text. -/
def Commutes (f : Char → Char) (round : Place → List Place) : Prop :=
  ∀ x, round (translate f x) = (round x).map (translate f)

theorem Commutes.flatMap (h : Commutes f round) (hnext : Commutes f next) :
    Commutes f fun x ↦ (round x).flatMap next := by
  intro x
  change (round (translate f x)).flatMap next = ((round x).flatMap next).map (translate f)
  rw [h x, List.flatMap_map, List.map_flatMap]
  exact congrArg (fun g ↦ (round x).flatMap g) (funext hnext)

theorem Commutes.exactly (h : Commutes f round) (n : Nat) : Commutes f (exactly round n) := by
  induction n with
  | zero => exact fun _ ↦ rfl
  | succ n ih => exact h.flatMap ih

theorem Commutes.atMost (h : Commutes f round) (n : Nat) : Commutes f (atMost round n) := by
  induction n with
  | zero => exact fun _ ↦ rfl
  | succ n ih =>
    intro x
    have hmore := h.flatMap ih x
    refine (congrArg (· ++ [translate f x]) hmore).trans ?_
    rw [Pattern.atMost, List.map_append, List.map_singleton]

/-- An assertion that holds in a translated text just if it holds in the text. -/
theorem commutes_assertion {p : Place → Bool} (hp : ∀ x, p (translate f x) = p x) :
    (Commutes f fun x ↦ if p x then [x] else []) ∧ Commutes f fun x ↦ if p x then [] else [x] := by
  constructor <;> intro x <;> simp only [hp] <;> split <;> rfl

theorem commutes_ends (hbreak : ∀ c, f c = '\n' ↔ c = '\n') (h : a.Ignores f) :
    Commutes f a.ends := by
  have hhead {p : Char → Bool} (hp : ∀ c, p (f c) = p c) (cs : List Char) :
      (cs.map f).head?.any p = cs.head?.any p := by
    rw [List.head?_map, Option.any_map]
    simp only [hp]
  induction a with
  | start => exact (commutes_assertion fun x ↦ List.isEmpty_map).1
  | finish =>
    refine (commutes_assertion fun x ↦ ?_).1
    have hlast : (x.after.map f == ['\n']) = (x.after == ['\n']) := by
      rw [Bool.eq_iff_iff, beq_iff_eq, beq_iff_eq]
      simp [List.map_eq_cons_iff, hbreak]
    rw [translate, List.isEmpty_map, hlast]
  | one p =>
    rintro ⟨before, - | ⟨c, after⟩⟩
    · rfl
    · simp only [translate, ends, List.map_cons, h c]
      split <;> rfl
  | notAhead p => exact (commutes_assertion fun x ↦ hhead h x.after).2
  | notBehind p => exact (commutes_assertion fun x ↦ hhead h x.before).2
  | seq first second ih ih' => exact (ih h.1).flatMap (ih' h.2)
  | times least most part ih => exact ((ih h).exactly least).flatMap ((ih h).atMost _)
  | many part ih =>
    intro x
    have hlength : (translate f x).after.length = x.after.length := List.length_map f
    rw [ends, hlength]
    exact (ih h).atMost x.after.length x

/-- Where a pattern ignores a translation, a text fits it just if its translation does. -/
theorem fits_map (hbreak : ∀ c, f c = '\n' ↔ c = '\n') (h : a.Ignores f) (cs : List Char) :
    a.fits (cs.map f) = a.fits cs := by
  have hends : a.ends ⟨[], cs.map f⟩ = (a.ends ⟨[], cs⟩).map (translate f) :=
    commutes_ends hbreak h ⟨[], cs⟩
  rw [fits, hends, List.isEmpty_map, fits]

end Translated

end Pattern
end Provisioning.Text

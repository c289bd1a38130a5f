import Provisioning.Proofs.Decimal.Exact
import Provisioning.Value.Basic

/-!
Sameness of values. Values without parts are the same if they stand for the same atom, where numbers
of all kinds are compared by the amount; all others are compared part by part. So sameness is
reflexive and transitive, and on values that can be keys it is symmetric. Equality is sameness but for
what is not a number, and the same values either all equal themselves or none does.
-/

set_option autoImplicit false

namespace Provisioning.Value

open Decimal (Amount amount? amount?_eq_none_iff beq_iff_amount? compareInt? compareInt?_eq_eq_iff)

/-- What a value without parts stands for. -/
inductive Atom
  | null
  | number (a : Amount)
  | notANumber
  | text (s : String)
  | date (d : Date)
  | octets (b : Bytes)

/-- What a value stands for, unless it has parts. -/
def atom? : Value → Option Atom
  | null => some .null
  | bool b => some (.number (.finite (if b then 1 else 0)))
  | int n => some (.number (.finite n))
  | float x => some ((amount? x).elim .notANumber .number)
  | text s => some (.text s)
  | date d => some (.date d)
  | bytes b | buffer b | view b => some (.octets b)
  | list _ | tuple _ | dict _ | payload _ _ => none

variable {u v w : Value}

theorem atom?_null_iff : v.atom? = some .null ↔ v = null := by
  cases v with
  | float x => cases h : amount? x <;> simp [atom?, h]
  | _ => simp [atom?]

theorem atom?_text_iff {s : String} : v.atom? = some (.text s) ↔ v = text s := by
  cases v with
  | float x => cases h : amount? x <;> simp [atom?, h]
  | _ => simp [atom?]

theorem atom?_date_iff {d : Date} : v.atom? = some (.date d) ↔ v = date d := by
  cases v with
  | float x => cases h : amount? x <;> simp [atom?, h]
  | _ => simp [atom?]

theorem atom?_octets_iff {b : Bytes} : v.atom? = some (.octets b) ↔ v.octets? = some b := by
  cases v with
  | float x => cases h : amount? x <;> simp [atom?, octets?, h]
  | _ => simp [atom?, octets?]

theorem atom?_notANumber_iff :
    v.atom? = some .notANumber ↔ ∃ x : Float, v = float x ∧ x.isNaN = true := by
  cases v with
  | float x =>
    simp only [float.injEq, exists_eq_left', ← amount?_eq_none_iff]
    cases h : amount? x <;> simp [atom?, h]
  | _ => simp [atom?]

theorem atom?_float_iff {x : Float} {a : Amount} :
    (float x).atom? = some (.number a) ↔ amount? x = some a := by
  cases h : amount? x <;> simp [atom?, h]

theorem atom?_number_iff {a : Amount} (hv : ∀ x, v ≠ float x) :
    v.atom? = some (.number a) ↔ ∃ n : Int, v.whole? = some n ∧ Amount.finite n = a := by
  cases v with
  | float x => exact absurd rfl (hv x)
  | bool b => cases b <;> simp [atom?, whole?]
  | int n => simp [atom?, whole?]
  | _ => simp [atom?, whole?]

theorem atom?_float_cases {x : Float} {a : Atom} (h : (float x).atom? = some a) :
    (∃ m, a = .number m) ∨ a = .notANumber := by
  obtain rfl := Option.some.inj h
  cases amount? x with
  | none => exact .inr rfl
  | some m => exact .inl ⟨m, rfl⟩

/-- A double equals a whole number if it stands for it. -/
theorem compareInt?_whole?_iff {x : Float} (hw : ∀ y, w ≠ float y) :
    ((w.whole?.bind fun n ↦ compareInt? n x) == some .eq) = true ↔
      ∃ a, (float x).atom? = some a ∧ w.atom? = some a := by
  simp only [beq_iff_eq, Option.bind_eq_some_iff, compareInt?_eq_eq_iff]
  constructor
  · rintro ⟨n, hn, hx⟩
    exact ⟨_, atom?_float_iff.mpr hx, (atom?_number_iff hw).mpr ⟨n, hn, rfl⟩⟩
  · rintro ⟨a, hx, ha⟩
    rcases atom?_float_cases hx with ⟨m, rfl⟩ | rfl
    · obtain ⟨n, hn, rfl⟩ := (atom?_number_iff hw).mp ha
      exact ⟨n, hn, atom?_float_iff.mp hx⟩
    · obtain ⟨y, rfl, -⟩ := atom?_notANumber_iff.mp ha
      exact absurd rfl (hw y)

/-- Values without parts are the same if they stand for the same. -/
theorem sameAtom_iff : sameAtom v w = true ↔ ∃ a, v.atom? = some a ∧ w.atom? = some a := by
  fun_cases sameAtom v w with
  | case1 => simp [atom?]
  | case2 s t => simpa [atom?] using eq_comm
  | case3 d e => simpa [atom?] using eq_comm
  | case4 x y =>
    rw [Bool.or_eq_true, Bool.and_eq_true, beq_iff_amount?]
    constructor
    · rintro (⟨a, hx, hy⟩ | ⟨hx, hy⟩)
      · exact ⟨_, atom?_float_iff.mpr hx, atom?_float_iff.mpr hy⟩
      · exact ⟨_, atom?_notANumber_iff.mpr ⟨x, rfl, hx⟩, atom?_notANumber_iff.mpr ⟨y, rfl, hy⟩⟩
    · rintro ⟨a, hx, hy⟩
      rcases atom?_float_cases hx with ⟨m, rfl⟩ | rfl
      · exact .inl ⟨m, atom?_float_iff.mp hx, atom?_float_iff.mp hy⟩
      · obtain ⟨_, ⟨⟩, hx⟩ := atom?_notANumber_iff.mp hx
        obtain ⟨_, ⟨⟩, hy⟩ := atom?_notANumber_iff.mp hy
        exact .inr ⟨hx, hy⟩
  | case5 =>
    rename_i hw
    exact compareInt?_whole?_iff hw
  | case6 =>
    rename_i hv
    simpa only [and_comm] using compareInt?_whole?_iff hv
  | case7 =>
    rename_i hv hm hw hn _ _ _ _
    rw [(atom?_number_iff hv).mpr ⟨_, hm, rfl⟩, (atom?_number_iff hw).mpr ⟨_, hn, rfl⟩]
    simpa using eq_comm
  | case8 =>
    rename_i _ _ ha _ _ hb _ _ _ _
    rw [atom?_octets_iff.mpr ha, atom?_octets_iff.mpr hb]
    simpa using eq_comm
  | case9 =>
    rename_i hv hm hw _ hnull htext hdate _ hoctets
    refine iff_of_false Bool.false_ne_true ?_
    rintro ⟨a, ha, hb⟩
    cases a with
    | null => exact hnull (atom?_null_iff.mp ha) (atom?_null_iff.mp hb)
    | text s => exact htext s s (atom?_text_iff.mp ha) (atom?_text_iff.mp hb)
    | date d => exact hdate d d (atom?_date_iff.mp ha) (atom?_date_iff.mp hb)
    | octets b => exact hoctets b b (atom?_octets_iff.mp ha) (atom?_octets_iff.mp hb)
    | notANumber =>
      obtain ⟨x, rfl, -⟩ := atom?_notANumber_iff.mp ha
      exact hv x rfl
    | number m =>
      obtain ⟨n, hn, -⟩ := (atom?_number_iff hv).mp ha
      rw [hm] at hn
      cases hn
  | case10 =>
    rename_i hv hw hnull htext hdate _ hwhole hother
    refine iff_of_false Bool.false_ne_true ?_
    rintro ⟨a, ha, hb⟩
    cases hm : v.whole? with
    | some m =>
      rw [(atom?_number_iff hv).mpr ⟨m, hm, rfl⟩] at ha
      cases ha
      obtain ⟨n, hn, -⟩ := (atom?_number_iff hw).mp hb
      exact hwhole m n hm hn
    | none =>
      cases hn : w.whole? with
      | none => exact hother hm hn
      | some n =>
        rw [(atom?_number_iff hw).mpr ⟨n, hn, rfl⟩] at hb
        cases hb
        obtain ⟨m, hsome, -⟩ := (atom?_number_iff hv).mp ha
        rw [hm] at hsome
        cases hsome

/-- Whether a value has no parts. -/
def isAtomic : Value → Bool
  | list _ | tuple _ | dict _ | payload _ _ => false
  | _ => true

theorem same_iff_of_isAtomic (hv : v.isAtomic = true) :
    same v w = true ↔ ∃ a, v.atom? = some a ∧ w.atom? = some a := by
  have hsame : same v w = sameAtom v w := by
    cases v with
    | list _ | tuple _ | dict _ | payload _ _ => cases hv
    | _ => simp only [same]
  rw [hsame, sameAtom_iff]

theorem isAtomic_of_atom? {a : Atom} (h : v.atom? = some a) : v.isAtomic = true := by
  cases v with
  | list _ | tuple _ | dict _ | payload _ _ => cases h
  | _ => rfl

theorem same_iff_of_atom? {a : Atom} (h : v.atom? = some a) :
    same v w = true ↔ w.atom? = some a := by
  simp [same_iff_of_isAtomic (isAtomic_of_atom? h), h]

theorem same_refl_of_isAtomic (hv : v.isAtomic = true) : same v v = true := by
  rw [same_iff_of_isAtomic hv]
  cases v with
  | list _ | tuple _ | dict _ | payload _ _ => cases hv
  | _ => exact ⟨_, rfl, rfl⟩

theorem same_symm_of_isAtomic (hv : v.isAtomic = true) (h : same v w = true) :
    same w v = true := by
  obtain ⟨a, ha, hb⟩ := (same_iff_of_isAtomic hv).mp h
  exact (same_iff_of_atom? hb).mpr ha

/-! ### Values with parts -/

theorem same_list_iff {xs : List Value} :
    same (list xs) w = true ↔ ∃ ys, w = list ys ∧ sameItems xs ys = true := by
  cases w <;> simp [same]

theorem same_tuple_iff {xs : List Value} :
    same (tuple xs) w = true ↔ ∃ ys, w = tuple ys ∧ sameItems xs ys = true := by
  cases w <;> simp [same]

theorem same_payload_iff {b : Bytes} {c : Value} :
    same (payload b c) w = true ↔ ∃ d, w = payload b d ∧ same c d = true := by
  cases w with
  | payload b' d =>
    rw [same, Bool.and_eq_true, beq_iff_eq]
    constructor
    · rintro ⟨rfl, hc⟩
      exact ⟨d, rfl, hc⟩
    · rintro ⟨d', ⟨⟩, hc⟩
      exact ⟨rfl, hc⟩
  | _ => simp [same]

theorem sameEntries_iff {es fs : List (Value × Value)} : sameEntries es fs = true ↔
    ∀ e ∈ es, ∃ f ∈ fs, same e.1 f.1 = true ∧ same e.2 f.2 = true := by
  induction es with
  | nil => simp [sameEntries]
  | cons e es ih => simp [sameEntries, ih]

theorem same_dict_iff {es : List (Value × Value)} : same (dict es) w = true ↔
    ∃ fs, w = dict fs ∧ es.length = fs.length ∧ sameEntries es fs = true := by
  cases w <;> simp [same]

mutual

theorem same_refl (v : Value) : same v v = true := by
  cases v with
  | list xs => exact same_list_iff.mpr ⟨xs, rfl, sameItems_refl xs⟩
  | tuple xs => exact same_tuple_iff.mpr ⟨xs, rfl, sameItems_refl xs⟩
  | dict es => exact same_dict_iff.mpr ⟨es, rfl, rfl, sameEntries_of_subset (List.Subset.refl es)⟩
  | payload b c => exact same_payload_iff.mpr ⟨c, rfl, same_refl c⟩
  | _ => exact same_refl_of_isAtomic rfl
termination_by sizeOf v

theorem sameItems_refl (vs : List Value) : sameItems vs vs = true := by
  match vs with
  | [] => rfl
  | v :: vs => exact Bool.and_eq_true_iff.mpr ⟨same_refl v, sameItems_refl vs⟩
termination_by sizeOf vs

theorem sameEntries_of_subset {es fs : List (Value × Value)} (h : es ⊆ fs) :
    sameEntries es fs = true := by
  match es with
  | [] => rfl
  | (k, v) :: es =>
    obtain ⟨hmem, hes⟩ := List.cons_subset.mp h
    have hrest : sameEntries es fs = true := sameEntries_of_subset hes
    refine sameEntries_iff.mpr (List.forall_mem_cons.mpr ⟨?_, sameEntries_iff.mp hrest⟩)
    exact ⟨(k, v), hmem, same_refl k, same_refl v⟩
termination_by sizeOf es

end

mutual

/-- Sameness is transitive, whatever the values are. -/
theorem same_trans {u v w : Value} (huv : same u v = true) (hvw : same v w = true) :
    same u w = true := by
  cases u with
  | list us =>
    obtain ⟨vs, rfl, hus⟩ := same_list_iff.mp huv
    obtain ⟨ws, rfl, hvs⟩ := same_list_iff.mp hvw
    exact same_list_iff.mpr ⟨ws, rfl, sameItems_trans hus hvs⟩
  | tuple us =>
    obtain ⟨vs, rfl, hus⟩ := same_tuple_iff.mp huv
    obtain ⟨ws, rfl, hvs⟩ := same_tuple_iff.mp hvw
    exact same_tuple_iff.mpr ⟨ws, rfl, sameItems_trans hus hvs⟩
  | dict es =>
    obtain ⟨fs, rfl, hes, huv⟩ := same_dict_iff.mp huv
    obtain ⟨gs, rfl, hfs, hvw⟩ := same_dict_iff.mp hvw
    exact same_dict_iff.mpr ⟨gs, rfl, hes.trans hfs, sameEntries_trans huv hvw⟩
  | payload b c =>
    obtain ⟨d, rfl, hc⟩ := same_payload_iff.mp huv
    obtain ⟨e, rfl, hd⟩ := same_payload_iff.mp hvw
    exact same_payload_iff.mpr ⟨e, rfl, same_trans hc hd⟩
  | _ =>
    obtain ⟨a, ha, hb⟩ := (same_iff_of_isAtomic rfl).mp huv
    exact (same_iff_of_atom? ha).mpr ((same_iff_of_atom? hb).mp hvw)
termination_by sizeOf u

theorem sameItems_trans {us vs ws : List Value} (huv : sameItems us vs = true)
    (hvw : sameItems vs ws = true) : sameItems us ws = true := by
  match us, vs, ws with
  | [], [], [] => rfl
  | u :: us, v :: vs, w :: ws =>
    obtain ⟨hhead, htail⟩ := Bool.and_eq_true_iff.mp huv
    obtain ⟨hhead', htail'⟩ := Bool.and_eq_true_iff.mp hvw
    exact Bool.and_eq_true_iff.mpr ⟨same_trans hhead hhead', sameItems_trans htail htail'⟩
  | [], _ :: _, _ | _ :: _, [], _ => cases huv
  | [], [], _ :: _ | _ :: _, _ :: _, [] => cases hvw
termination_by sizeOf us

theorem sameEntries_trans {es fs gs : List (Value × Value)} (hef : sameEntries es fs = true)
    (hfg : sameEntries fs gs = true) : sameEntries es gs = true := by
  match es with
  | [] => rfl
  | (k, v) :: es =>
    obtain ⟨hhead, htail⟩ := List.forall_mem_cons.mp (sameEntries_iff.mp hef)
    obtain ⟨f, hf, hkey, hvalue⟩ := hhead
    obtain ⟨g, hg, hkey', hvalue'⟩ := sameEntries_iff.mp hfg f hf
    have hrest : sameEntries es gs = true := sameEntries_trans (sameEntries_iff.mpr htail) hfg
    refine sameEntries_iff.mpr (List.forall_mem_cons.mpr ⟨⟨g, hg, ?_, ?_⟩, ?_⟩)
    · exact same_trans hkey hkey'
    · exact same_trans hvalue hvalue'
    · exact sameEntries_iff.mp hrest
termination_by sizeOf es

end

/-! ### Keys -/

/-- A value that can be a key: no part of it may change. -/
def IsKey (v : Value) : Prop :=
  v.unhashable? = none

instance (v : Value) : Decidable (IsKey v) :=
  inferInstanceAs (Decidable (_ = none))

theorem unhashableAmong?_cons_iff {vs : List Value} :
    unhashableAmong? (v :: vs) = none ↔ IsKey v ∧ unhashableAmong? vs = none := by
  rw [unhashableAmong?, Option.or_eq_none_iff]
  rfl

mutual

theorem same_symm {v w : Value} (hv : IsKey v) (h : same v w = true) : same w v = true := by
  cases v with
  | list xs | dict es => cases hv
  | tuple xs =>
    obtain ⟨ys, rfl, hitems⟩ := same_tuple_iff.mp h
    exact same_tuple_iff.mpr ⟨xs, rfl, sameItems_symm hv hitems⟩
  | payload b c =>
    obtain ⟨d, rfl, hc⟩ := same_payload_iff.mp h
    exact same_payload_iff.mpr ⟨c, rfl, same_symm hv hc⟩
  | _ => exact same_symm_of_isAtomic rfl h
termination_by sizeOf v

theorem sameItems_symm {vs ws : List Value} (hkeys : unhashableAmong? vs = none)
    (h : sameItems vs ws = true) : sameItems ws vs = true := by
  match vs, ws with
  | [], [] => rfl
  | v :: vs, w :: ws =>
    obtain ⟨hv, hvs⟩ := unhashableAmong?_cons_iff.mp hkeys
    obtain ⟨hhead, htail⟩ := Bool.and_eq_true_iff.mp h
    exact Bool.and_eq_true_iff.mpr ⟨same_symm hv hhead, sameItems_symm hvs htail⟩
  | [], _ :: _ | _ :: _, [] => cases h
termination_by sizeOf vs

end

/-! ### Values that equal themselves -/

theorem equalsItself_iff_of_isAtomic (hv : v.isAtomic = true) :
    v.equalsItself = true ↔ v.atom? ≠ some .notANumber := by
  rw [ne_eq, atom?_notANumber_iff]
  cases v with
  | list _ | tuple _ | dict _ | payload _ _ => cases hv
  | _ => simp [equalsItself]

/-- Of two values that are the same, both equal themselves or neither does. -/
theorem equalsItself_congr {v w : Value} (h : same v w = true) :
    v.equalsItself = w.equalsItself := by
  cases v with
  | list xs =>
    obtain ⟨ys, rfl, -⟩ := same_list_iff.mp h
    rfl
  | tuple xs =>
    obtain ⟨ys, rfl, -⟩ := same_tuple_iff.mp h
    rfl
  | dict es =>
    obtain ⟨fs, rfl, -⟩ := same_dict_iff.mp h
    rfl
  | payload b c =>
    obtain ⟨d, rfl, hc⟩ := same_payload_iff.mp h
    change c.equalsItself = d.equalsItself
    exact equalsItself_congr hc
  | _ =>
    obtain ⟨a, ha, hb⟩ := (same_iff_of_isAtomic rfl).mp h
    rw [Bool.eq_iff_iff, equalsItself_iff_of_isAtomic rfl,
      equalsItself_iff_of_isAtomic (isAtomic_of_atom? hb), ha, hb]
termination_by sizeOf v

theorem equals_self_iff : v.equals v = true ↔ v.equalsItself = true := by
  rw [equals, same_refl, Bool.true_and]

end Provisioning.Value

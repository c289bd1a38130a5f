import Provisioning.Proofs.Session.WellFormed
import Provisioning.Proofs.Template.Spec
import Provisioning.Proofs.Value.Written
import Provisioning.Script.Template
import Provisioning.Validation.Lax

/-!
The prices that options hold. The check of a price refuses what is below or equal to zero, which is
not the same as to let through what is above it: a double that is not a number passes. Everything
else about prices is as it should be, so a price that is held is above zero unless some operation has
handed over such a double, and a specification that has been read from a dictionary never does.
-/

set_option autoImplicit false

namespace Provisioning

open Provisioning.Action
open Options (Change Field Kind Mutation Offer Pool Setter)

namespace Options

variable {p : Prop} {o : Options}

/-- If the options hold a price, it is above zero, or it is not a number and `p` holds. -/
def Bids (p : Prop) (o : Options) : Prop :=
  ∀ price, o.get? .spotPrice = some (some price) →
    0 < price.value ∨ (price.value.isNaN = true ∧ p)

/-- A call hands over a price that is not a number. -/
def Mutation.HandsNaN : Mutation → Prop
  | spotPrice price _ => ∃ x : Float, price = .float x ∧ x.isNaN = true
  | _ => False

theorem bids_fresh (k : Kind) : (fresh k).Bids p := by
  intro price hprice
  cases k <;> cases hprice

theorem Bids.freeze (h : o.Bids p) : o.freeze.Bids p := by
  intro price hprice
  exact h price ((get?_withFrozen o true .spotPrice).symm.trans hprice)

/-- Options bid what they are set to bid, and what they did if something else is set. -/
theorem Bids.set (h : o.Bids p) {f : Field} {x : f.Content}
    (hx : ∀ price, (⟨f, x⟩ : Sigma Field.Content) = ⟨.spotPrice, some price⟩ →
      0 < price.value ∨ (price.value.isNaN = true ∧ p)) : (o.set f x).Bids p := by
  intro price hprice
  by_cases hf : f = .spotPrice
  · subst hf
    rw [get?_set_self, Option.map_eq_some_iff] at hprice
    obtain ⟨_, _, rfl⟩ := hprice
    exact hx price rfl
  · rw [get?_set_of_ne hf] at hprice
    exact h price hprice

/-! ### Calls -/

variable [Domain.SuffixList]

/-- Only a call that hands over what is not a number can bring such a price in. -/
theorem Mutation.perform_bids {m : Mutation} (hm : m.HandsNaN → p) :
    m.perform.Preserves (Bids p) := by
  intro o ho
  rcases m.perform_cases o with ⟨_, _, hsame⟩ | ⟨c, hcheck, _, _, _, hafter⟩
  · rwa [hsame]
  rw [hafter]
  by_cases hsetter : m.setter = .spotPrice
  · cases m with
    | spotPrice price mark =>
      simp only [check, Outcome.result_bind_eq_ok_iff, Outcome.liftM_eq, Outcome.result_lift]
        at hcheck
      obtain ⟨offer, hoffer, hc⟩ := hcheck
      cases hc
      rw [Change.after_write_spotPrice]
      cases hamount : offer.amount with
      | error e => exact ho
      | ok amount =>
        refine ho.set ?_
        rintro price ⟨⟩
        exact (amount_of_checkPrice hoffer hamount).imp_right
          fun h ↦ ⟨h.1, hm ⟨amount, h.2, h.1⟩⟩
    | _ => cases hsetter
  · have hfree : Field.spotPrice ∉ m.setter.fields := by
      revert hsetter
      cases m.setter <;> decide
    intro price hprice
    exact ho price (((write_frames hcheck).2.2 .spotPrice hfree).symm.trans hprice)

/-- A call by name that sets the price and answers the options themselves. -/
def StoresPrice (a : Arguments Value) (mark : Nat) (o : Options) (amount : Float) : Prop :=
  (invoke "spot_price" a mark).result o = .ok .itself ∧
    (invoke "spot_price" a mark).after o = o.set .spotPrice (some ⟨amount, mark⟩)

/-- A call by name that fails to set the price and leaves the options as they were. -/
def RefusesPrice (a : Arguments Value) (mark : Nat) (o : Options) (e : Error) : Prop :=
  (invoke "spot_price" a mark).result o = .error e ∧ (invoke "spot_price" a mark).after o = o

/-- What becomes of a price is for its check to say, and for the double that is nearest to it. -/
theorem invoke_spotPrice {a : Arguments Value} {v : Value} (mark : Nat) (hkind : o.kind = .awsEc2)
    (hfrozen : o.frozen = false) (hv : a.only? "price" = some v) :
    (∀ e, checkPrice v = .error e → RefusesPrice a mark o e) ∧
      ∀ offer, checkPrice v = .ok offer →
        (∀ e, offer.amount = .error e → RefusesPrice a mark o e) ∧
          ∀ amount, offer.amount = .ok amount → StoresPrice a mark o amount := by
  have hm : Setter.spotPrice.mutation? a mark = some (.spotPrice v mark) := by
    rw [Setter.mutation?, hv]
    rfl
  have howner : o.kind.extends? Setter.spotPrice.owner = true := by
    rw [hkind]
    rfl
  have hmutable : o.checkMutable = .ok () := by simp [checkMutable, hfrozen]
  have hresult : (invoke "spot_price" a mark).result o =
      (checkPrice v >>= Offer.amount).map fun _ ↦ .itself := by
    refine (result_invoke howner hm).trans ?_
    rw [Mutation.result_perform howner, hmutable, Mutation.check]
    cases checkPrice v with
    | error e => rfl
    | ok offer =>
      change ((Change.spotPrice offer mark).write.result o).map _ = offer.amount.map _
      rw [Change.result_write_spotPrice]
      cases offer.amount <;> rfl
  have hrefuses (e : Error) (he : (invoke "spot_price" a mark).result o = .error e) :
      RefusesPrice a mark o e := by
    rcases invoke_cases .spotPrice a mark o with ⟨_, _, hsame⟩ | ⟨_, _, _, _, _, hok, _⟩
    · exact ⟨he, hsame⟩
    · cases he.symm.trans hok
  refine ⟨fun e he ↦ hrefuses e ?_, fun offer hoffer ↦ ⟨fun e he ↦ hrefuses e ?_, fun x hx ↦ ?_⟩⟩
  · rw [hresult, he]
    rfl
  · have hbind : (checkPrice v >>= Offer.amount) = .error e := by
      rw [hoffer]
      exact he
    rw [hresult, hbind]
    rfl
  · have hok : (invoke "spot_price" a mark).result o = .ok .itself := by
      rw [hresult, bind_eq_ok_iff.mpr ⟨offer, hoffer, hx⟩]
      rfl
    refine ⟨hok, ?_⟩
    rcases invoke_cases .spotPrice a mark o with ⟨e, he, _⟩ | ⟨m, c, hm', hcheck, _, _, hwritten⟩
    · cases hok.symm.trans he
    · obtain rfl : m = .spotPrice v mark := Option.some.inj (hm'.symm.trans hm)
      rw [Mutation.check, hoffer] at hcheck
      cases hcheck
      refine hwritten.trans ?_
      rw [Change.after_write_spotPrice, hx]

/-! ### Copies -/

variable {source : Options}

omit [Domain.SuffixList] in
theorem copyFields_bids (hsource : source.Bids p) (fs : List Field) :
    (source.copyFields fs).Preserves (Bids p) := by
  induction fs with
  | nil => exact (readsOnly_ofOutcome _).preserves _
  | cons f rest ih =>
    rw [copyFields]
    split
    · next content hcontent =>
      refine Preserves.bind (fun o ho ↦ ho.set ?_) fun _ ↦ ih
      rintro price ⟨⟩
      exact hsource price hcontent
    · exact ih

/-- A copy brings in no other price than that of its source. -/
theorem copy_bids (hsource : source.Bids p) : source.copy.Preserves (Bids p) := by
  have hdeclared (k : Kind) : (source.copyDeclared k).Preserves (Bids p) := by
    refine (readsOnly_state.preserves _).bind fun o ↦ ?_
    split
    · exact copyFields_bids hsource _
    · exact (readsOnly_ofOutcome _).preserves _
  refine Preserves.bind ?_ fun _ ↦ ?_
  · refine (readsOnly_state.preserves _).bind fun o ↦ ?_
    exact ((readsOnly_ofOutcome _).preserves _).bind fun _ ↦ copyFields_bids hsource _
  · split
    · exact (readsOnly_ofOutcome _).preserves _
    · refine (readsOnly_state.preserves _).bind fun o ↦ ?_
      split
      · exact Mutation.perform_bids nofun
      · exact (readsOnly_ofOutcome _).preserves _
    · exact hdeclared .ec2
    · exact (hdeclared .ec2).bind fun _ ↦ hdeclared .awsEc2

theorem stable_bids : Pool.Stable (Bids p) := by
  refine ⟨fun o ho ↦ ho.freeze, fun s c hs hc ↦ ?_, fun s t hs ht ↦ copy_bids hs t ht⟩
  obtain ⟨q, hq, rfl⟩ := Outcome.exists_of_return hc
  rw [result_settle] at hq
  obtain ⟨_, _, hq⟩ := bind_eq_ok_iff.mp hq
  cases hq
  exact copy_bids hs _ (bids_fresh s.kind)

end Options

/-! ### Specifications -/

namespace Template.Spec

/-- The only price that a specification hands over is its own. -/
theorem exists_spotPrice_of_handsNaN [Script.Engine] {s : Spec} {now : Nat} {st : Step}
    (hst : st ∈ s.steps now) {m : Mutation} (hm : st.mutation = .ok m) (hnan : m.HandsNaN) :
    ∃ x ∈ s.spotPrice, x.isNaN = true := by
  obtain ⟨price, mark, rfl⟩ : ∃ price mark, m = .spotPrice price mark := by
    cases m with
    | spotPrice price mark => exact ⟨price, mark, rfl⟩
    | _ => cases hnan
  obtain ⟨k, mutation⟩ := st
  cases hm
  have hscript (script : String) : s.scriptStep now script ≠ ⟨k, .ok (.spotPrice price mark)⟩ := by
    intro h
    have hmap := congrArg Step.mutation h
    simp only [scriptStep] at hmap
    cases hp : Payload.ofTemplate script s.bindings now <;> rw [hp] at hmap <;> cases hmap
  simp [steps, commonSteps, softLayerSteps, ec2Steps, awsSteps, stepFor, stepForAll, stepIf,
    Step.always, Step.on, hscript] at hst
  obtain ⟨x, hx, -, rfl, -⟩ := hst
  obtain ⟨y, hy, hnan⟩ := hnan
  cases hy
  exact ⟨x, hx, hnan⟩

end Template.Spec

namespace Session

/-! ### Operations -/

/-- An operation hands over a price that is not a number. -/
def Operation.HandsNaN : Operation → Prop
  | .step (.call _ .spotPrice a) | .shortcut _ .spotPrice a =>
    ∃ x, a.only? "price" = some (.float x) ∧ x.isNaN = true
  | .apply _ spec => ∃ x ∈ spec.spotPrice, x.isNaN = true
  | _ => False

theorem Operation.handsNaN_of_makes [Script.Engine] {operation : Operation} {m : Mutation}
    (hm : operation.Makes m) (hnan : m.HandsNaN) : operation.HandsNaN := by
  have hcall {setter : Setter} {a : Arguments Value}
      (h : ∃ mark, setter.mutation? a mark = some m) :
      setter = .spotPrice ∧ ∃ x, a.only? "price" = some (.float x) ∧ x.isNaN = true := by
    obtain ⟨mark, h⟩ := h
    cases m with
    | spotPrice price mark' =>
      obtain rfl := Setter.setter_of_mutation? h
      obtain ⟨v, hv, hm⟩ := Option.map_eq_some_iff.mp h
      cases hm
      obtain ⟨x, rfl, hx⟩ := hnan
      exact ⟨rfl, x, hv, hx⟩
    | _ => cases hnan
  cases operation with
  | step s =>
    cases s with
    | call target setter a =>
      obtain ⟨rfl, hprice⟩ := hcall hm
      exact hprice
    | _ => cases hm
  | create kind => cases hm
  | shortcut kind setter a =>
    obtain ⟨rfl, hprice⟩ := hcall hm
    exact hprice
  | provide provider settings =>
    cases m with
    | spotPrice price mark =>
      have hlayered : Setter.spotPrice ∈ Provider.Blueprint.layered := hm
      exact absurd hlayered (by decide)
    | _ => cases hnan
  | apply place spec =>
    obtain ⟨_, st, hst, hm⟩ := hm
    exact Template.Spec.exists_spotPrice_of_handsNaN hst hm hnan

/-- A specification that has been read from a dictionary hands over a price above zero or none. -/
theorem Operation.not_handsNaN_apply [Validation.Reader] {es : List (Value × Value)}
    {s : Template.Spec} (h : Template.Spec.ofEntries es = .ok s) (place : Nat) :
    ¬(Operation.apply place s).HandsNaN := by
  rintro ⟨x, hx, hnan⟩
  have hpos : 0 < x := (Template.Spec.reads_of_ofEntries h).spotPrice_pos x hx
  exact Decimal.not_isNaN_of_pos hpos hnan

section Runs

variable [Domain.SuffixList] [Script.Engine]

/-- Whatever a program does, each price that its options hold is above zero, or it is not a number
and the program has handed over such a price. -/
theorem bids_run (operations : List Operation) :
    (run start operations).All (Options.Bids (∃ operation ∈ operations, operation.HandsNaN)) := by
  refine run_preserves (fun operation hmem ↦ ?_) (fun _ hp ↦ hp) fun o ho ↦ ?_
  · refine operation.perform_preserves_all Options.stable_bids Options.bids_fresh fun m hm ↦ ?_
    exact Mutation.perform_bids fun hnan ↦ ⟨operation, hmem, Operation.handsNaN_of_makes hm hnan⟩
  · obtain ⟨k, _, rfl⟩ := List.mem_map.mp ho
    exact (Options.bids_fresh k).freeze

/-- Whatever a program does, a price that is held is above zero, or it is not a number and the
program has handed over such a price, which no specification read from a dictionary does. A call with
a whole number or a double sets a price above zero or fails and changes nothing, but for a double
that is not a number, which is set. A whole number that no double is near to fails by an error that
does not blame it, and so does one that is not above zero and has too many digits to be shown. -/
theorem spotPrice_of_run_and_call [Validation.Reader] (operations : List Operation) :
    (∀ o ∈ (run start operations).objects, ∀ price, o.get? .spotPrice = some (some price) →
      0 < price.value ∨
        (price.value.isNaN = true ∧ ∃ operation ∈ operations, operation.HandsNaN)) ∧
      (∀ es s place, Template.Spec.ofEntries es = .ok s → ¬(Operation.apply place s).HandsNaN) ∧
      ∀ (o : Options) (a : Arguments Value) (mark : Nat), o.kind = .awsEc2 → o.frozen = false →
        (∀ n : Int, a.only? "price" = some (.int n) →
          (n ≤ 0 → n.natAbs < 10 ^ Decimal.maxDigits →
              o.RefusesPrice a mark (.argument (.priceNotPositive (.int n)))) ∧
            (n ≤ 0 → 10 ^ Decimal.maxDigits ≤ n.natAbs → o.RefusesPrice a mark .numberTooLong) ∧
            (0 < n → ∀ x, Decimal.ofInt? n = some x → 0 < x ∧ o.StoresPrice a mark x) ∧
            (0 < n → Decimal.ofInt? n = none → o.RefusesPrice a mark .priceTooLarge)) ∧
          ∀ x : Float, a.only? "price" = some (.float x) →
            (x ≤ 0 → o.RefusesPrice a mark (.argument (.priceNotPositive (.float x)))) ∧
              (¬x ≤ 0 → (0 < x ∨ x.isNaN = true) ∧ o.StoresPrice a mark x) := by
  refine ⟨bids_run operations, fun es s place h ↦ Operation.not_handsNaN_apply h place, ?_⟩
  intro o a mark hkind hfrozen
  refine ⟨fun n hn ↦ ?_, fun x hx ↦ ?_⟩
  · obtain ⟨hrefuses, hoffer⟩ := Options.invoke_spotPrice mark hkind hfrozen hn
    have hcheck (hpos : 0 < n) : Options.checkPrice (.int n) = .ok (.whole n) :=
      if_neg (Int.not_le.mpr hpos)
    have hrefused (hle : n ≤ 0) :
        Options.checkPrice (.int n) = .error (ArgumentFault.priceNotPositive (.int n)).error :=
      if_pos hle
    refine ⟨fun hle hshort ↦ ?_, fun hle hlong ↦ ?_, fun hpos x hx ↦ ?_, fun hpos hnone ↦ ?_⟩
    · refine hrefuses _ ((hrefused hle).trans (congrArg _ (if_pos ?_)))
      exact Value.isWritable_int_iff.mpr hshort
    · refine hrefuses _ ((hrefused hle).trans (congrArg _ (if_neg fun hwritable ↦ ?_)))
      exact Nat.not_lt.mpr hlong (Value.isWritable_int_iff.mp hwritable)
    · exact ⟨Decimal.pos_of_ofInt? hpos hx,
        (hoffer _ (hcheck hpos)).2 x (by simp [Offer.amount, hx])⟩
    · exact (hoffer _ (hcheck hpos)).1 _ (by simp [Offer.amount, hnone])
  · obtain ⟨hrefuses, hoffer⟩ := Options.invoke_spotPrice mark hkind hfrozen hx
    refine ⟨fun hle ↦ hrefuses _ (if_pos hle), fun hnot ↦ ⟨Decimal.not_le_zero_iff.mp hnot, ?_⟩⟩
    exact (hoffer (.double x) (if_neg hnot)).2 x rfl

end Runs

/-- A price of a quarter is held, and the price 0 is refused, as is one that is far below it. -/
theorem spotPrice_of_quarter :
    let quarter := Float.ofBits 0x3FD0000000000000
    let operations : List Operation :=
      [.create .awsEc2, .step (.call 4 .spotPrice ⟨[.float quarter], []⟩)]
    (∃ o ∈ (run start operations).objects, ∃ price, o.get? .spotPrice = some (some price) ∧
      price.value = quarter ∧ 0 < price.value) ∧
      (Options.fresh .awsEc2).StoresPrice ⟨[.float quarter], []⟩ 0 quarter ∧
      (Options.fresh .awsEc2).RefusesPrice ⟨[.int 0], []⟩ 0
        (.argument (.priceNotPositive (.int 0))) ∧
      (Options.fresh .awsEc2).RefusesPrice ⟨[.int (-(10 ^ 4300))], []⟩ 0 .numberTooLong := by
  intro quarter operations
  obtain ⟨hheld, -, hcall⟩ := spotPrice_of_run_and_call operations
  have hstores (mark : Nat) :
      (Options.fresh .awsEc2).StoresPrice ⟨[.float quarter], []⟩ mark quarter :=
    (((hcall (.fresh .awsEc2) ⟨[.float quarter], []⟩ mark rfl rfl).2 quarter rfl).2 (by decide)).2
  obtain ⟨hzero, -⟩ := (hcall (.fresh .awsEc2) ⟨[.int 0], []⟩ 0 rfl rfl).1 0 rfl
  obtain ⟨-, hbelow, -⟩ :=
    (hcall (.fresh .awsEc2) ⟨[.int (-(10 ^ 4300))], []⟩ 0 rfl rfl).1 (-(10 ^ 4300)) rfl
  refine ⟨?_, hstores 0, hzero le_rfl (Nat.pow_pos (by decide)),
    hbelow (by decide +kernel) (by decide +kernel)⟩
  have hmem : (Options.invoke "spot_price" ⟨[.float quarter], []⟩ 1).after (.fresh .awsEc2) ∈
      (run start operations).objects := List.mem_of_getElem? (i := 4) rfl
  have hprice : ((Options.invoke "spot_price" ⟨[.float quarter], []⟩ 1).after
      (.fresh .awsEc2)).get? .spotPrice = some (some ⟨quarter, 1⟩) := by
    rw [(hstores 1).2]
    rfl
  have hnan : ¬quarter.isNaN = true := by decide
  exact ⟨_, hmem, _, hprice, rfl, (hheld _ hmem _ hprice).resolve_right fun h ↦ hnan h.1⟩

/-- A price that is not a number is held, although it is not above zero. -/
theorem spotPrice_of_notANumber :
    let nan := Float.ofBits 0x7FF8000000000000
    let operations : List Operation :=
      [.create .awsEc2, .step (.call 4 .spotPrice ⟨[.float nan], []⟩)]
    ∃ o ∈ (run start operations).objects, ∃ price, o.get? .spotPrice = some (some price) ∧
      ¬0 < price.value := by
  intro nan operations
  have hcheck : Options.checkPrice (.float nan) = .ok (.double nan) := if_neg (by decide)
  have hstores : (Options.fresh .awsEc2).StoresPrice ⟨[.float nan], []⟩ 1 nan :=
    ((Options.invoke_spotPrice 1 rfl rfl rfl).2 _ hcheck).2 nan rfl
  refine ⟨(Options.invoke "spot_price" ⟨[.float nan], []⟩ 1).after (.fresh .awsEc2),
    List.mem_of_getElem? (i := 4) rfl, ⟨nan, 1⟩, ?_, by decide⟩
  rw [hstores.2]
  rfl

end Session
end Provisioning

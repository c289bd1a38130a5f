import Provisioning.Proofs.Options.Copy
import Provisioning.Proofs.Session.WellFormed
import Provisioning.Proofs.Template.Application
import Provisioning.Proofs.Template.Script

/-!
Specifications that are applied once more. A specification agrees with what it has itself brought
about, and no field changes when it is updated with the same again (`updated_updated`), so a second
application succeeds and leaves everything as it is but the script (`applyTo_again`). On a clone an
application ends as on the original, for a clone of options that are not frozen is nothing but these
options. A script that gives the same again stays as well; one that changes its variables need not
give a text again (`applyTo_again_may_fail`).
-/

set_option autoImplicit false

/-- Options that have all fields but one in common with others are these with the one field set. -/
theorem Provisioning.Options.eq_set_of_get? {o p : Options} {f : Field} {x : f.Content}
    (hkind : p.kind = o.kind) (hfrozen : p.frozen = o.frozen) (hf : p.get? f = some x)
    (hother : ∀ g, g ≠ f → p.get? g = o.get? g) : p = o.set f x := by
  refine ext_get? (hkind.trans (kind_set o f x).symm) (hfrozen.trans (frozen_set o f x).symm)
    fun g ↦ ?_
  by_cases h : f = g
  · subst h
    have hsome : (o.get? f).isSome = true := by
      rw [isSome_get?, ← hkind, ← isSome_get?, hf]
      rfl
    obtain ⟨y, hy⟩ := Option.isSome_iff_exists.mp hsome
    rw [get?_set_self, hf, hy]
    rfl
  · rw [get?_set_of_ne h, hother g (Ne.symm h)]

namespace Provisioning.Template.Spec

open Options (Field)

section Application

variable [Script.Engine] {s : Spec} {o o' : Options} {now : Nat}

/-- A field that is updated with the same again stays as it is. -/
theorem updated_updated (hvalid : s.Valid) (f : Field) (x : f.Content) :
    s.updated now f (s.updated now f x) = s.updated now f x := by
  have hor {α : Type} (new old : Option α) : new.or (new.or old) = new.or old := by
    cases new <;> rfl
  have hflag (new old : Bool) : (new || (new || old)) = (new || old) := by
    cases new <;> rfl
  have hite {α : Type} {p : Prop} [Decidable p] (old new : α) :
      (if p then if p then old else new else new) = if p then old else new := by
    split <;> rfl
  cases f with
  | inboundPorts | securityGroups | securityGroupIds => exact hite _ _
  | userMetadata => exact Table.putAll_putAll_self hvalid.userMetadata
  | includeMetadata | noKeyPair | monitoringEnabled => exact hflag _ _
  | domainName => cases h : s.domainName <;> simp [updated, h]
  | _ => exact hor _ _

variable [Domain.SuffixList]

/-- A specification that fits the options agrees with them after it has been applied. -/
theorem Agrees.of_filled (hfits : s.Fits now o.kind) (hagrees : s.Agrees o)
    (h : Filled s now o Field.all o') : s.Agrees o' := by
  have hkept {f : Field} (hf : ∀ x, s.updated now f x = x) : o'.get? f = o.get? f := by
    rw [h.get?_all f, funext hf, Option.map_id']
  constructor
  · intro name hname
    have hwanted : s.noKeyPair = false := by
      refine Bool.eq_false_iff.mpr fun hwanted ↦ ?_
      rw [(hfits.toFitsEc2.noKeyPair hwanted).2] at hname
      cases hname
    have hsame := hkept (f := .noKeyPair) fun x ↦ by simp [updated, hwanted]
    exact (Options.rulesOutKeyPair_congr hsame).trans (hagrees.keyPair name hname)
  · intro hwanted
    have hnone := (hfits.toFitsEc2.noKeyPair hwanted).2
    have hsame := hkept (f := .keyPair) fun x ↦ by simp [updated, hnone]
    rw [← Option.not_isSome_iff_eq_none, Options.isSome_keyPair?_congr hsame,
      hagrees.noKeyPair hwanted]
    exact Bool.false_ne_true

theorem applyTo_filled (hvalid : s.Valid) (hfrozen : o.frozen = false)
    (hok : (s.applyTo o now).2.result = .ok ()) : Filled s now o Field.all (s.applyTo o now).1 := by
  obtain ⟨hdecides, hfilled⟩ := applyTo_spec hvalid hfrozen now
  exact hfilled (hdecides.eq_ok_iff.mp hok)

/-- The script of a specification, if it has one, can be made at a time, and is not empty. -/
def Renders (s : Spec) (now : Nat) : Prop :=
  ∀ script ∈ s.runScript, ∃ text, s.scriptText now script = .ok text ∧ text ≠ ""

/-- The script of a specification, if it has one, gives the same payload or the same error at a later
time, with whatever its variables are then. -/
def Repeats (s : Spec) (now later : Nat) (vs : Variables) : Prop :=
  ∀ script ∈ s.runScript,
    Payload.ofTemplate script vs later = Payload.ofTemplate script s.bindings now

/-- A specification that has been applied can be applied again if its script can be made again. No
field changes but the script, nor does the script if it is made at the same time. -/
theorem applyTo_again (hvalid : s.Valid) (hfrozen : o.frozen = false)
    (hok : (s.applyTo o now).2.result = .ok ()) {later : Nat} {vs : Variables}
    (hrenders : { s with bindings := vs }.Renders later) :
    ({ s with bindings := vs }.applyTo (s.applyTo o now).1 later).2.result = .ok () ∧
      Filled { s with bindings := vs } later (s.applyTo o now).1 Field.all
        ({ s with bindings := vs }.applyTo (s.applyTo o now).1 later).1 ∧
      ∀ f, (f = .runScript → vs = s.bindings ∧ later = now) →
        ({ s with bindings := vs }.applyTo (s.applyTo o now).1 later).1.get? f =
          (s.applyTo o now).1.get? f := by
  obtain ⟨hdecides, hfilled⟩ := applyTo_spec hvalid hfrozen now
  obtain ⟨hfits, hagrees⟩ := hdecides.eq_ok_iff.mp hok
  have hfirst := hfilled ⟨hfits, hagrees⟩
  have hvalid' : { s with bindings := vs }.Valid := { hvalid with }
  obtain ⟨hdecides', hfilled'⟩ := applyTo_spec hvalid' hfirst.frozen later
  have hfits' : { s with bindings := vs }.Fits later (s.applyTo o now).1.kind :=
    hfirst.kind.symm ▸ { hfits with runScript := hrenders }
  have hagrees' : { s with bindings := vs }.Agrees (s.applyTo o now).1 :=
    { hagrees.of_filled hfits hfirst with }
  have hsecond := hfilled' ⟨hfits', hagrees'⟩
  refine ⟨hdecides'.eq_ok_iff.mpr ⟨hfits', hagrees'⟩, hsecond, fun f hf ↦ ?_⟩
  have hsame : updated { s with bindings := vs } later f = s.updated now f := by
    cases f with
    | runScript =>
      obtain ⟨rfl, rfl⟩ := hf rfl
      rfl
    | _ => rfl
  have htwice : s.updated now f ∘ s.updated now f = s.updated now f :=
    funext (updated_updated hvalid f)
  rw [hsecond.get?_all f, hfirst.get?_all f, Option.map_map, hsame, htwice]

/-- A specification that has been applied can be applied again with the same script, which changes
nothing. -/
theorem applyTo_again_same (hvalid : s.Valid) (hfrozen : o.frozen = false)
    (hok : (s.applyTo o now).2.result = .ok ()) :
    (s.applyTo (s.applyTo o now).1 now).2.result = .ok () ∧
      (s.applyTo (s.applyTo o now).1 now).1 = (s.applyTo o now).1 := by
  -- The variables get a name of their own, so that rewriting can see them.
  obtain ⟨vs, hvs⟩ : ∃ vs, vs = s.bindings := ⟨_, rfl⟩
  have hsame : { s with bindings := vs } = s := by rw [hvs]
  have hrenders : { s with bindings := vs }.Renders now := by
    rw [hsame]
    exact ((applyTo_spec hvalid hfrozen now).1.eq_ok_iff.mp hok).1.runScript
  obtain ⟨hagain, hsecond, hget⟩ := applyTo_again hvalid hfrozen hok hrenders
  rw [hsame] at hagain hsecond hget
  have hfirst := (applyTo_filled hvalid hfrozen hok).frozen
  exact ⟨hagain, Options.ext_get? hsecond.kind (hsecond.frozen.trans hfirst.symm)
    fun f ↦ hget f fun _ ↦ ⟨hvs, rfl⟩⟩

/-- An application leaves well-formed options well formed, even if it fails. -/
theorem wellFormed_applyTo (ho : o.WellFormed) (now : Nat) : (s.applyTo o now).1.WellFormed :=
  Step.performAll_preserves (fun _ _ m _ ↦ m.perform_preserves) o ho

/-- Whatever a program has done, a validated specification that could be applied to some of its
options can be applied once more if its script can be made once more, and then no field changes but
the script, nor does the order of the metadata; the script stays as well if it is made the same. On a
clone of the options an application with the same script ends as on the options themselves, also if it
fails: with the same result, and with equal options, however far it got. The variables may have
changed in between. -/
theorem reapplication [Validation.Reader] {es : List (Value × Value)} (hs : ofEntries es = .ok s)
    (hdefault : Domain.publicSuffix Options.defaultDomain ≠ "")
    (operations : List Session.Operation)
    (ho : o ∈ (Session.run Session.start operations).objects) (hfrozen : o.frozen = false)
    (now later : Nat) (vs : Variables) :
    ((s.applyTo o now).2.result = .ok () → { s with bindings := vs }.Renders later →
      ({ s with bindings := vs }.applyTo (s.applyTo o now).1 later).2.result = .ok () ∧
        ∃ script, ({ s with bindings := vs }.applyTo (s.applyTo o now).1 later).1 =
          (s.applyTo o now).1.set .runScript script) ∧
    (s.Repeats now later vs →
      ((s.applyTo o now).2.result = .ok () →
        ({ s with bindings := vs }.applyTo (s.applyTo o now).1 later).2.result = .ok () ∧
          ({ s with bindings := vs }.applyTo (s.applyTo o now).1 later).1 = (s.applyTo o now).1) ∧
      ∃ c, o.clone.result = .ok c ∧ c.frozen = false ∧
        ({ s with bindings := vs }.applyTo c later).2 = (s.applyTo o now).2 ∧
          (({ s with bindings := vs }.applyTo c later).1 == (s.applyTo o now).1) = true) := by
  have hvalid := valid_of_ofEntries hs
  refine ⟨fun hok hrenders ↦ ?_, fun hrepeats ↦ ?_⟩
  · obtain ⟨hagain, hsecond, hget⟩ := applyTo_again hvalid hfrozen hok hrenders
    have hfirst : (s.applyTo o now).1.frozen = false :=
      (applyTo_filled hvalid hfrozen hok).frozen
    exact ⟨hagain, _, Options.eq_set_of_get? (f := .runScript) hsecond.kind
      (hsecond.frozen.trans hfirst.symm) rfl fun f hf ↦ hget f fun h ↦ absurd h hf⟩
  · have hlater (o : Options) : { s with bindings := vs }.applyTo o later = s.applyTo o now :=
      applyTo_congr hrepeats
    simp only [hlater]
    have hwell : o.WellFormed := Session.wellFormed_run hdefault operations o ho
    have hclone := Options.clone_spec fun name hname ↦ hwell.admits .domainName name hname
    have hself : ({ o with frozen := false } : Options) = o := by rw [← hfrozen]
    rw [hself] at hclone
    refine ⟨applyTo_again_same hvalid hfrozen, o, hclone, hfrozen, rfl, ?_⟩
    obtain ⟨hnodup, -⟩ := (wellFormed_applyTo (s := s) hwell now).admits .userMetadata _ rfl
    generalize (s.applyTo o now).1 = after at hnodup ⊢
    exact Options.withFrozen_beq_self hnodup after.frozen

end Application

/-- Two sets of EC2 options, of which the second rules out a key pair. -/
def ec2Pair : List Session.Operation :=
  [.create .ec2, .step (.call 4 .userMetadata ⟨[.text "tier", .text "web"], []⟩), .create .ec2,
    .step (.call 5 .noKeyPair ⟨[], []⟩)]

/-- A specification with a key pair and a metadata entry. -/
def opsKey : Spec :=
  { name := "web", keyPair := some "ops", userMetadata := [("env", "prod")] }

/-- The first options take the key pair and the entry, and take them once more. The second ones refuse
the key pair when the entry has been added, and so does a clone of them. -/
theorem reapplication_ec2Pair :
    ofEntries [(.text "name", .text "web"), (.text "key_pair", .text "ops"),
        (.text "user_metadata", .dict [(.text "env", .text "prod")])] = .ok opsKey ∧
      Domain.publicSuffix Options.defaultDomain ≠ "" ∧
      (∃ o ∈ (Session.run Session.start ec2Pair).objects, o.frozen = false ∧
        (opsKey.applyTo (opsKey.applyTo o 0).1 1).2.result = .ok () ∧
        (opsKey.applyTo (opsKey.applyTo o 0).1 1).1.common.userMetadata =
          [("tier", "web"), ("env", "prod")]) ∧
      ∃ o ∈ (Session.run Session.start ec2Pair).objects, o.frozen = false ∧
        (opsKey.applyTo o 0).1.common.userMetadata = [("env", "prod")] ∧
        ∃ c, o.clone.result = .ok c ∧
          (opsKey.applyTo c 1).2.result = .error (.argument .keyPairConflict) ∧
          ((opsKey.applyTo c 1).1 == (opsKey.applyTo o 0).1) = true := by
  have hs : ofEntries [(.text "name", .text "web"), (.text "key_pair", .text "ops"),
      (.text "user_metadata", .dict [(.text "env", .text "prod")])] = .ok opsKey := rfl
  have hdefault : Domain.publicSuffix Options.defaultDomain ≠ "" := by decide
  have hrepeats : opsKey.Repeats 0 1 opsKey.bindings := fun _ _ ↦ rfl
  let first : Options := (Options.fresh .ec2).set .userMetadata [("tier", "web")]
  let second : Options := (Options.fresh .ec2).set .noKeyPair true
  have hfirst : first ∈ (Session.run Session.start ec2Pair).objects :=
    List.mem_of_getElem? (i := 4) rfl
  have hsecond : second ∈ (Session.run Session.start ec2Pair).objects :=
    List.mem_of_getElem? (i := 5) rfl
  have hagain := reapplication hs hdefault ec2Pair hfirst rfl 0 1 opsKey.bindings
  obtain ⟨hresult, hafter⟩ := (hagain.2 hrepeats).1 rfl
  have hclones := reapplication hs hdefault ec2Pair hsecond rfl 0 1 opsKey.bindings
  obtain ⟨c, hclone, -, hsame, hequal⟩ := (hclones.2 hrepeats).2
  refine ⟨hs, hdefault, ⟨first, hfirst, rfl, hresult, ?_⟩, second, hsecond, rfl, rfl, c, hclone, ?_,
    hequal⟩
  · exact congrArg (·.common.userMetadata) hafter
  · rw [hsame]
    rfl

/-! ### A script that changes its variables -/

open Script (Token)

/-- A script that divides by one less the length of a list, and then appends to the list. -/
def onceScript : String :=
  "\x7b\x7b 1 // (1 - xs|length) \x7d\x7d\x7b\x7b xs.append(1) \x7d\x7d"

/-- The tokens of the script. -/
def onceTokens : List Token :=
  [⟨.openPrint, 1⟩, ⟨.whole 1, 1⟩, ⟨.sign "//", 1⟩, ⟨.sign "(", 1⟩, ⟨.whole 1, 1⟩, ⟨.sign "-", 1⟩,
    ⟨.name "xs", 1⟩, ⟨.sign "|", 1⟩, ⟨.name "length", 1⟩, ⟨.sign ")", 1⟩, ⟨.closePrint, 1⟩,
    ⟨.openPrint, 1⟩, ⟨.name "xs", 1⟩, ⟨.sign ".", 1⟩, ⟨.name "append", 1⟩, ⟨.sign "(", 1⟩,
    ⟨.whole 1, 1⟩, ⟨.sign ")", 1⟩, ⟨.closePrint, 1⟩]

/-- The statements of the script. -/
def onceStmts : List Script.Stmt :=
  [.print (.binary .floorDivide (.const (.int 1))
      (.binary .subtract (.const (.int 1)) (.filter (.name "xs") "length" [] []))),
    .print (.call (.member (.name "xs") "append") [.const (.int 1)] [])]

/-- A specification with the script, and with the items that its list holds. -/
def once (items : List Value) : Spec :=
  { name := "web"
    runScript := some onceScript
    bindings := [("xs", .list items)] }

theorem read_onceScript :
    Script.Engine.read onceScript = .ok (⟨onceStmts⟩ : Script.Template) := by
  have htokens : Token.ofText onceScript = .ok onceTokens := rfl
  have hstmts : (Script.statements (20 * onceTokens.length + 20) []).run onceTokens =
      .ok (onceStmts, []) := rfl
  exact congrArg (Except.mapError Script.Fault.raised)
    (Script.Template.read_of_tokens htokens hstmts rfl)

theorem render_once (items : List Value) (now : Nat) :
    Script.render onceScript (once items).bindings now =
      ((⟨onceStmts⟩ : Script.Template).fill (once items).bindings).mapError Script.Fault.raised := by
  rw [Script.render, read_onceScript]
  rfl

/-- While the list is empty, the script gives a text. -/
theorem applyTo_once {o : Options} (hfrozen : o.frozen = false) (now : Nat) :
    ((once []).applyTo o now).2.result = .ok () ∧
      ((once []).applyTo o now).1 =
        o.set .runScript (some ⟨⟨Text.Utf8.encode "1None", Payload.shellScript⟩, 0⟩) :=
  applyTo_of_script rfl (by decide) (render_once [] now) (by decide) hfrozen

/-- When the list has an item, the script divides by zero. -/
theorem applyTo_once_again (o : Options) (now : Nat) :
    ((once [.int 1]).applyTo o now).2.result =
      .error (.script ⟨"ZeroDivisionError", none, "integer division or modulo by zero"⟩) :=
  result_applyTo_of_script rfl (by decide) (render_once [.int 1] now) o

/-- The item that the script appends is still there the next time. -/
theorem left_once (now : Nat) : (once []).left now = once [.int 1] := by
  have hleft : Variables.left (once []).bindings onceScript now = (once [.int 1]).bindings := by
    rw [Variables.left, read_onceScript]
    rfl
  rw [left]
  exact congrArg (fun vs ↦ { once [] with bindings := vs }) hleft

/-- A script that appends to a list among its variables may be one that can be made once and no more,
and then it cannot be applied again. -/
theorem applyTo_again_may_fail :
    ¬∀ (es : List (Value × Value)) (s : Spec) (operations : List Session.Operation) (o : Options)
        (now later : Nat),
      ofEntries es = .ok s → o ∈ (Session.run Session.start operations).objects →
      o.frozen = false → (s.applyTo o now).2.result = .ok () →
      ((s.left now).applyTo (s.applyTo o now).1 later).2.result = .ok () := by
  intro hall
  have hagain := hall
    [(.text "name", .text "web"), (.text "run_script", .text onceScript),
      (.text "variables", .dict [(.text "xs", .list [])])]
    (once []) [.create .base] (.fresh .base) 0 1 rfl (List.mem_of_getElem? (i := 4) rfl) rfl
    (applyTo_once rfl 0).1
  rw [left_once, applyTo_once_again] at hagain
  cases hagain

end Provisioning.Template.Spec

import Provisioning.Proofs.Options.Acceptance
import Provisioning.Proofs.Options.Forms
import Provisioning.Proofs.Value.Written

/-!
Settings that are lists: the open ports and the security groups, by name or by id. Their setters
take any number of elements, check each, leave out those that come again, and put the rest in place
of what was there. A call is accepted just if every element is valid, and otherwise refused for the
first that is not. What is stored are the elements in the order in which they first occur
(`FirstOccurrences`), so that elements that are there already change nothing (`collects`).
-/

set_option autoImplicit false

namespace Provisioning

/-! ### Elements in the order in which they first occur -/

section Occurrences

variable {α β : Type} {xs ys more : List α} {x y : α}

/-- Some beginning of a list holds `x` and not `y`. -/
def Precedes (xs : List α) (x y : α) : Prop :=
  ∃ front, front <+: xs ∧ x ∈ front ∧ y ∉ front

/-- The elements of `xs`, each once, in the order in which they first occur. -/
structure FirstOccurrences (xs ys : List α) : Prop where
  nodup : ys.Nodup
  mem_iff : ∀ x, x ∈ ys ↔ x ∈ xs
  ordered : ys.Pairwise (Precedes xs)

theorem Precedes.append (h : Precedes xs x y) (more : List α) : Precedes (xs ++ more) x y := by
  obtain ⟨front, hfront, hx, hy⟩ := h
  exact ⟨front, hfront.trans (List.prefix_append xs more), hx, hy⟩

theorem Precedes.map {f : α → β} (hf : Function.Injective f) (h : Precedes xs x y) :
    Precedes (xs.map f) (f x) (f y) := by
  obtain ⟨front, hfront, hx, hy⟩ := h
  refine ⟨front.map f, hfront.map f, List.mem_map_of_mem hx, fun hmem ↦ hy ?_⟩
  exact (List.mem_map_of_injective hf).mp hmem

theorem FirstOccurrences.map {f : α → β} (hf : Function.Injective f) (h : FirstOccurrences xs ys) :
    FirstOccurrences (xs.map f) (ys.map f) := by
  refine ⟨h.nodup.map hf, fun y ↦ ?_, ?_⟩
  · simp only [List.mem_map, h.mem_iff]
  · exact List.pairwise_map.mpr (h.ordered.imp fun hprecedes ↦ hprecedes.map hf)

variable [BEq α] [LawfulBEq α]

theorem distinct_append_singleton (xs : List α) (x : α) :
    distinct (xs ++ [x]) = if x ∈ xs then distinct xs else distinct xs ++ [x] := by
  have hmem : (distinct xs).contains x = true ↔ x ∈ xs :=
    List.contains_iff_mem.trans mem_distinct
  rw [distinct, List.foldl_append, ← distinct]
  simp only [List.foldl_cons, List.foldl_nil, hmem]

theorem distinct_append_of_subset (h : more ⊆ xs) : distinct (xs ++ more) = distinct xs := by
  induction more using List.reverseRecOn with
  | nil => rw [List.append_nil]
  | append_singleton more x ih =>
    obtain ⟨hmore, hx⟩ := List.append_subset.mp h
    have hmem : x ∈ xs ++ more := List.mem_append_left more (hx List.mem_cons_self)
    rw [← List.append_assoc, distinct_append_singleton, if_pos hmem, ih hmore]

/-- Leaving out what comes again keeps the order in which the elements first occur. -/
theorem firstOccurrences_distinct (xs : List α) : FirstOccurrences xs (distinct xs) := by
  refine ⟨nodup_distinct xs, fun x ↦ mem_distinct, ?_⟩
  induction xs using List.reverseRecOn with
  | nil => exact List.Pairwise.nil
  | append_singleton xs x ih =>
    have hold : (distinct xs).Pairwise (Precedes (xs ++ [x])) := ih.imp fun h ↦ h.append [x]
    rw [distinct_append_singleton]
    split
    · exact hold
    · next hx =>
      refine List.pairwise_append.mpr ⟨hold, List.pairwise_singleton _ _, fun y hy z hz ↦ ?_⟩
      obtain rfl := List.mem_singleton.mp hz
      exact ⟨xs, List.prefix_append xs [z], mem_distinct.mp hy, hx⟩

end Occurrences

namespace Options

/-- A field that is set twice holds what it was set to last. -/
theorem set_set (o : Options) (f : Field) (x y : f.Content) : (o.set f x).set f y = o.set f y := by
  refine ext_get? (by simp) (by simp) fun g ↦ ?_
  by_cases hg : f = g
  · subst hg
    rw [get?_set_self, get?_set_self, get?_set_self, Option.map_map]
    rfl
  · rw [get?_set_of_ne hg, get?_set_of_ne hg, get?_set_of_ne hg]

/-- The settings that are lists. -/
inductive Listing
  | inboundPorts
  | securityGroups
  | securityGroupIds
  deriving DecidableEq, Repr

namespace Listing

/-! ### The settings -/

/-- The setter of a list. -/
def setter : Listing → Setter
  | inboundPorts => .inboundPorts
  | securityGroups => .securityGroups
  | securityGroupIds => .securityGroupIds

/-- The field that holds a list. -/
def field : Listing → Field
  | inboundPorts => .inboundPorts
  | securityGroups => .securityGroups
  | securityGroupIds => .securityGroupIds

/-- What an element must be: a number of a port, or a text that is not empty. -/
def Valid : Listing → Value → Prop
  | inboundPorts, v => ∃ n : Nat, v = .int n ∧ n ≤ maxPort
  | securityGroups, v | securityGroupIds, v => ∃ s, v = .text s ∧ s ≠ ""

/-- What is wrong with a name that is not a text, or empty. -/
def nameFault (what : String) : Value → ArgumentFault
  | .null => .absent what
  | v => .notText what v

/-- What is wrong with an element that is not valid. -/
def fault : Listing → Value → ArgumentFault
  | inboundPorts, .int n => .notPort "port" n
  | inboundPorts, v => .notInteger "port" v
  | securityGroups, v => nameFault "security group" v
  | securityGroupIds, v => nameFault "security group id" v

/-- Lists that may be given to the setter: only the list of ports may be empty. -/
def Takes (l : Listing) (xs : List Value) : Prop :=
  l = inboundPorts ∨ xs ≠ []

/-- Options whose field holds the tuple of `ys`. -/
def Stored (l : Listing) (o : Options) (ys : List Value) : Prop :=
  (o.get? l.field).map l.field.toValue = some (.tuple ys)

/-! ### Elements -/

/-- What elements are once they have been checked. -/
abbrev Element : Listing → Type
  | inboundPorts => Nat
  | securityGroups | securityGroupIds => String

instance (l : Listing) : DecidableEq l.Element :=
  match l with
  | inboundPorts => inferInstanceAs (DecidableEq Nat)
  | securityGroups | securityGroupIds => inferInstanceAs (DecidableEq String)

/-- An element as a value. -/
def value : (l : Listing) → l.Element → Value
  | inboundPorts, n => .int (n : Nat)
  | securityGroups, s | securityGroupIds, s => .text s

/-- The check of an element. -/
def checkElement : (l : Listing) → Value → Except Error l.Element
  | inboundPorts => checkPort "port"
  | securityGroups => checkText "security group"
  | securityGroupIds => checkText "security group id"

/-- The elements of a list that is accepted, each once. -/
def collect (l : Listing) (xs : List Value) : Except Error (List l.Element) := do
  return distinct (← xs.mapM l.checkElement)

/-- The call with a list. -/
def mutation : Listing → List Value → Mutation
  | inboundPorts => .inboundPorts
  | securityGroups => .securityGroups
  | securityGroupIds => .securityGroupIds

/-- The change to a list. -/
def change : (l : Listing) → List l.Element → Change
  | inboundPorts => .inboundPorts
  | securityGroups => .securityGroups
  | securityGroupIds => .securityGroupIds

/-- A list as the content of its field. -/
def content : (l : Listing) → List l.Element → l.field.Content
  | inboundPorts, ports => ports
  | securityGroups, names | securityGroupIds, names => names

variable {l : Listing} {v : Value} {xs xs' front : List Value} {ys : List l.Element}
  {o : Options}

theorem Takes.mono (h : l.Takes xs) (hsubset : xs ⊆ xs') : l.Takes xs' := by
  refine h.imp_right fun hne ↦ ?_
  rintro rfl
  exact hne (List.subset_nil.mp hsubset)

theorem owner_field (l : Listing) : l.field.owner = l.setter.owner := by
  cases l <;> rfl

theorem value_injective (l : Listing) : Function.Injective l.value := by
  cases l with
  | inboundPorts => exact fun m n h ↦ Int.ofNat.inj (Value.int.inj h)
  | securityGroups | securityGroupIds => exact fun s t h ↦ Value.text.inj h

theorem toValue_content (l : Listing) (ys : List l.Element) :
    l.field.toValue (l.content ys) = .tuple (ys.map l.value) := by
  cases l <;> rfl

/-- A valid element passes its check. -/
theorem exists_of_valid (h : l.Valid v) : ∃ x, l.value x = v ∧ l.checkElement v = .ok x := by
  cases l with
  | inboundPorts =>
    obtain ⟨n, rfl, hn⟩ := h
    exact ⟨n, rfl, (decides_checkPort "port" n).ok hn⟩
  | securityGroups | securityGroupIds =>
    obtain ⟨s, rfl, hs⟩ := h
    exact ⟨s, rfl, (decides_checkText _ s).ok hs⟩

theorem checkText_of_not_valid (what : String) (h : ¬∃ s, v = .text s ∧ s ≠ "") :
    checkText what v = .error (nameFault what v).error := by
  cases v with
  | text s =>
    have hs : s = "" := by_contra fun hs ↦ h ⟨s, rfl, hs⟩
    rw [hs]
    rfl
  | _ => rfl

/-- An element that is not valid is refused for what is wrong with it. -/
theorem checkElement_of_not_valid (h : ¬l.Valid v) :
    l.checkElement v = .error (l.fault v).error := by
  cases l with
  | inboundPorts =>
    cases v with
    | int n =>
      have hn : ¬(0 ≤ n ∧ n ≤ maxPort) := by
        rintro ⟨hpos, hle⟩
        exact h ⟨n.toNat, by rw [Int.toNat_of_nonneg hpos], by omega⟩
      exact if_neg hn
    | _ => rfl
  | securityGroups | securityGroupIds => exact checkText_of_not_valid _ h

/-! ### Lists -/

theorem decides_checkElement (x : l.Element) :
    Decides (l.checkElement (l.value x)) (l.Valid (l.value x)) x := by
  refine ⟨fun h ↦ ?_, fun h ↦ ⟨_, checkElement_of_not_valid h⟩⟩
  obtain ⟨y, hy, hcheck⟩ := exists_of_valid h
  rwa [l.value_injective hy] at hcheck

theorem decides_collect (ys : List l.Element) :
    Decides (l.collect (ys.map l.value)) (∀ y ∈ ys, l.Valid (l.value y)) (distinct ys) :=
  (Decides.mapM decides_checkElement ys).map distinct

theorem exists_map_of_valid (h : ∀ x ∈ xs, l.Valid x) : ∃ ys : List l.Element,
    ys.map l.value = xs ∧ ∀ y ∈ ys, l.Valid (l.value y) := by
  induction xs with
  | nil => exact ⟨[], rfl, nofun⟩
  | cons x xs ih =>
    obtain ⟨hx, hxs⟩ := List.forall_mem_cons.mp h
    obtain ⟨y, rfl, -⟩ := exists_of_valid hx
    obtain ⟨ys, rfl, hys⟩ := ih hxs
    exact ⟨y :: ys, rfl, List.forall_mem_cons.mpr ⟨hx, hys⟩⟩

/-- A list is refused for the first element that is not valid. -/
theorem collect_eq_error (hfront : ∀ x ∈ front, l.Valid x) (hv : ¬l.Valid v)
    (rest : List Value) : l.collect (front ++ v :: rest) = .error (l.fault v).error := by
  obtain ⟨ys, rfl, hys⟩ := exists_map_of_valid hfront
  have hchecked := (Decides.mapM decides_checkElement ys).ok hys
  rw [collect, List.mapM_append, hchecked, List.mapM_cons, checkElement_of_not_valid hv]
  rfl

/-- In a list that is not valid throughout there is a first element that is not. -/
theorem exists_first_of_not_valid (h : ¬∀ x ∈ xs, l.Valid x) :
    ∃ front v rest, xs = front ++ v :: rest ∧ (∀ x ∈ front, l.Valid x) ∧ ¬l.Valid v := by
  induction xs with
  | nil => exact absurd nofun h
  | cons x xs ih =>
    by_cases hx : l.Valid x
    · have hxs : ¬∀ y ∈ xs, l.Valid y := fun hxs ↦ h (List.forall_mem_cons.mpr ⟨hx, hxs⟩)
      obtain ⟨front, v, rest, rfl, hfront, hv⟩ := ih hxs
      exact ⟨x :: front, v, rest, rfl, List.forall_mem_cons.mpr ⟨hx, hfront⟩, hv⟩
    · exact ⟨[], x, xs, rfl, nofun, hx⟩

/-! ### Calls -/

theorem mutation?_setter (l : Listing) (xs : List Value) (mark : Nat) :
    l.setter.mutation? ⟨xs, []⟩ mark = some (l.mutation xs) := by
  cases l <;> rfl

theorem write_change (l : Listing) (ys : List l.Element) :
    (l.change ys).write = assign l.field (l.content ys) := by
  cases l <;> rfl

theorem checkNames_of_ne_nil (what : String) (h : xs ≠ []) :
    checkNames what xs = do return distinct (← xs.mapM (checkText what)) :=
  if_neg (by simpa using h)

theorem stored_set (howner : o.kind.extends? l.setter.owner = true) (ys : List l.Element) :
    l.Stored (o.set l.field (l.content ys)) (ys.map l.value) := by
  obtain ⟨x, hx⟩ := Option.isSome_iff_exists.mp ((isSome_get? o l.field).trans
    (l.owner_field ▸ howner))
  rw [Stored, get?_set_self, hx, Option.map_some, Option.map_some, toValue_content]

section Calls

variable [Domain.SuffixList]

/-- The call of the setter of a list. -/
def call (l : Listing) (xs : List Value) (mark : Nat) : Action Options Answer :=
  invoke l.setter.label ⟨xs, []⟩ mark

/-- The check of a call collects the elements. -/
theorem check_mutation (hxs : l.Takes xs) (o : Options) : (l.mutation xs).check o =
    (Outcome.lift (l.collect xs)).andThen fun ys ↦ .ok (l.change ys) := by
  cases l with
  | inboundPorts => rfl
  | securityGroups | securityGroupIds =>
    have hne : xs ≠ [] := hxs.resolve_left (by decide)
    simp only [mutation, Mutation.check, checkNames_of_ne_nil _ hne]
    rfl

/-- What a call does on options that have the setter and are not frozen. -/
theorem run_call (howner : o.kind.extends? l.setter.owner = true) (hfrozen : o.frozen = false)
    (hxs : l.Takes xs) (mark : Nat) : (l.call xs mark).run o = match l.collect xs with
      | .ok ys => (o.set l.field (l.content ys), .ok .itself)
      | .error e => (o, .fail e) := by
  have hmutable : o.checkMutable = .ok () := by simp [checkMutable, hfrozen]
  rw [call, run_invoke howner (mutation?_setter l xs mark), check_mutation hxs]
  cases l.collect xs with
  | error e => rfl
  | ok ys =>
    have hchange : (Outcome.lift (.ok ys)).andThen (fun ys ↦ .ok (l.change ys)) =
        Outcome.ok (l.change ys) := Outcome.ok_andThen ys _
    rw [hchange, ← Outcome.pure_eq]
    change (pure (l.change ys) >>= o.carryOut : Action Options Answer).run o = _
    rw [Action.pure_bind, carryOut, hmutable, write_change]
    rfl

theorem run_call_map {ys : List l.Element} (howner : o.kind.extends? l.setter.owner = true)
    (hfrozen : o.frozen = false) (hys : ∀ y ∈ ys, l.Valid (l.value y))
    (htakes : l.Takes (ys.map l.value)) (mark : Nat) : (l.call (ys.map l.value) mark).run o =
      (o.set l.field (l.content (distinct ys)), .ok .itself) := by
  rw [run_call howner hfrozen htakes, (decides_collect ys).ok hys]

theorem run_call_of_not_valid (howner : o.kind.extends? l.setter.owner = true)
    (hfrozen : o.frozen = false) (hfront : ∀ x ∈ front, l.Valid x) (hv : ¬l.Valid v)
    (rest : List Value) (mark : Nat) : (l.call (front ++ v :: rest) mark).run o =
      (o, .fail (l.fault v).error) := by
  have htakes : l.Takes (front ++ v :: rest) := .inr (by simp)
  rw [run_call howner hfrozen htakes, collect_eq_error hfront hv]

/-- A call on options that have the setter and are not frozen is accepted just if every element of
the list is valid. What is stored then are the elements in the order in which they first occur, each
once. Nothing else would be stored with elements added that are there already, and handing over again
what is stored changes nothing. If some element is not valid, nothing is stored, and the error is the
one for the first of them, which blames it unless it is a whole number that has too many digits for
the text. -/
theorem collects (l : Listing) (xs : List Value) (mark : Nat)
    (howner : o.kind.extends? l.setter.owner = true) (hfrozen : o.frozen = false)
    (hxs : l.Takes xs) :
    ((l.call xs mark).result o = .ok .itself ↔ ∀ x ∈ xs, l.Valid x) ∧
      ((∀ x ∈ xs, l.Valid x) → ∃ ys, l.Stored ((l.call xs mark).after o) ys ∧
        FirstOccurrences xs ys ∧
          (∀ more ⊆ xs, (l.call (xs ++ more) mark).run o = (l.call xs mark).run o) ∧
            (l.call ys mark).run ((l.call xs mark).after o) =
              ((l.call xs mark).after o, .ok .itself)) ∧
        ∀ front x rest, xs = front ++ x :: rest → (∀ y ∈ front, l.Valid y) → ¬l.Valid x →
          (l.call xs mark).run o = (o, .fail (l.fault x).error) := by
  refine ⟨⟨fun hok ↦ ?_, fun hvalid ↦ ?_⟩, fun hvalid ↦ ?_, ?_⟩
  · by_contra hnot
    obtain ⟨front, v, rest, rfl, hfront, hv⟩ := exists_first_of_not_valid hnot
    rw [Action.result, run_call_of_not_valid howner hfrozen hfront hv] at hok
    cases hok
  · obtain ⟨ys, rfl, hys⟩ := exists_map_of_valid hvalid
    rw [Action.result, run_call_map howner hfrozen hys hxs]
    rfl
  · obtain ⟨ys, rfl, hys⟩ := exists_map_of_valid hvalid
    have hrun := run_call_map howner hfrozen hys hxs mark
    rw [Action.after, hrun]
    refine ⟨(distinct ys).map l.value, stored_set howner _,
      (firstOccurrences_distinct ys).map l.value_injective, fun more hmore ↦ ?_, ?_⟩
    · obtain ⟨zs, rfl, hzs⟩ := exists_map_of_valid fun x hx ↦ hvalid x (hmore hx)
      have hsubset : zs ⊆ ys := fun z hz ↦
        (List.mem_map_of_injective l.value_injective).mp (hmore (List.mem_map_of_mem hz))
      have htakes : l.Takes ((ys ++ zs).map l.value) :=
        hxs.mono (List.map_subset _ (List.subset_append_left ys zs))
      rw [← List.map_append, run_call_map howner hfrozen
        (List.forall_mem_append.mpr ⟨hys, hzs⟩) htakes, distinct_append_of_subset hsubset]
    · have hagain : ∀ y ∈ distinct ys, l.Valid (l.value y) := fun y hy ↦ hys y (mem_distinct.mp hy)
      have htakes : l.Takes ((distinct ys).map l.value) :=
        hxs.mono (List.map_subset _ fun y hy ↦ mem_distinct.mpr hy)
      rw [run_call_map (by rwa [kind_set]) (by rwa [frozen_set]) hagain htakes,
        distinct_of_nodup (nodup_distinct ys), set_set]
  · rintro front x rest rfl hfront hx
    exact run_call_of_not_valid howner hfrozen hfront hx rest mark

end Calls

/-- Two groups of which one is given again, a port that is too large before a truth value, and one
that has too many digits to be shown. -/
theorem collects_repeated :
    (∃ ys, securityGroups.Stored
        ((securityGroups.call [.text "web", .text "db", .text "web"] 0).after (fresh .awsEc2)) ys ∧
      FirstOccurrences [.text "web", .text "db", .text "web"] ys) ∧
      (inboundPorts.call [.int 22, .int 70000, .bool true] 0).run (fresh .base) =
        (fresh .base, .fail (.argument (.notPort "port" 70000))) ∧
      (inboundPorts.call [.int (10 ^ 4300)] 0).run (fresh .base) =
        (fresh .base, .fail .numberTooLong) := by
  have hvalid : ∀ x ∈ [Value.text "web", .text "db", .text "web"], securityGroups.Valid x := by
    simp [Valid]
  obtain ⟨-, hstored, -⟩ := collects (o := fresh .awsEc2) securityGroups
    [.text "web", .text "db", .text "web"] 0 rfl rfl (.inr (List.cons_ne_nil _ _))
  obtain ⟨-, -, hrefused⟩ := collects (o := fresh .base) inboundPorts
    [.int 22, .int 70000, .bool true] 0 rfl rfl (.inl rfl)
  obtain ⟨ys, hys, hfirst, -⟩ := hstored hvalid
  have hport : ∀ x ∈ [Value.int 22], inboundPorts.Valid x := by
    rintro _ (_ | ⟨_, ⟨⟩⟩)
    exact ⟨22, rfl, by decide⟩
  have hlarge : ¬inboundPorts.Valid (.int 70000) := by
    rintro ⟨n, hn, hle⟩
    have hn : (70000 : Int) = n := Value.int.inj hn
    simp only [maxPort] at hle
    omega
  have hdigits : ¬inboundPorts.Valid (.int (10 ^ 4300)) := by
    rintro ⟨n, hn, hle⟩
    have hn : (10 ^ 4300 : Int) = n := Value.int.inj hn
    have hbound : (maxPort : Int) < 10 ^ 4300 := by decide +kernel
    omega
  have hlong : (inboundPorts.fault (.int (10 ^ 4300))).error = .numberTooLong := by
    refine if_neg fun h ↦ ?_
    exact absurd (Value.isWritable_int_iff.mp h) (by decide +kernel)
  obtain ⟨-, -, hrefused'⟩ := collects (o := fresh .base) inboundPorts [.int (10 ^ 4300)] 0 rfl rfl
    (.inl rfl)
  exact ⟨⟨ys, hys, hfirst⟩, hrefused [.int 22] (.int 70000) [.bool true] rfl hport hlarge,
    hlong ▸ hrefused' [] (.int (10 ^ 4300)) [] rfl (List.forall_mem_nil _) hdigits⟩

end Listing
end Options
end Provisioning

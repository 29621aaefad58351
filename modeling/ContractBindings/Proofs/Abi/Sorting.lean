import ContractBindings.Abi.Interface
import Mathlib.Data.List.Forall2
import Mathlib.Data.List.Basic

/-!
# Sorting members

An interface holds the members of an ABI in four groups, each in the order of the ABI. Sorting stops
at the first element that is at fault.

1. `readMember_ok`, `atFault_of_readMember`: what one element comes to.
2. `ofMembers_after`: what the elements after some acceptable ones come to.
3. `Acceptable.not_atFault`, `AtFault.take`: an acceptable ABI has no fault, and a fault is one for
   every ABI that starts the same way.
4. `ofJson_without_event`: what becomes of an interface without one of its events.
5. `ofJson_sorts`: when an ABI is sorted, into what, and where sorting stops.
-/

namespace ContractBindings.Abi

/-- The groups of an interface. -/
inductive Group where
  | functions
  | events
  | constructor
  | others
  deriving DecidableEq

/-- All of them. -/
def Group.all : List Group := [.functions, .events, .constructor, .others]

/-- The group to which a member belongs. -/
def Member.group : Member → Group
  | .function _ => .functions
  | .event _ => .events
  | .constructor _ => .constructor
  | .error _ | .fallback _ | .receive _ => .others

namespace Interface

/-- The members of one group, in their order. -/
def inGroup (g : Group) (members : List Member) : List Member :=
  members.filter (·.group = g)

/-- The members of an interface in a group. -/
def ofGroup (i : Interface) : Group → List Member
  | .functions => i.functions.map .function
  | .events => i.events.map .event
  | .constructor => i.constructor.toList.map .constructor
  | .others => i.others

/-- The value is an object that is read as the member. -/
def Reads (v : Json) (m : Member) : Prop :=
  v.kind = .object ∧ Member.ofJson v = .ok m

/-- All elements of an ABI are read as members, and at most one of these is a constructor. -/
structure Acceptable (elements : List Json) (members : List Member) : Prop where
  reads : List.Forall₂ Reads elements members
  constructors : (inGroup .constructor members).length ≤ 1

/-- What is wrong with the element of an ABI at an index. -/
inductive AtFault (elements : List Json) (n : Nat) : Malformed → Prop
  /-- It is no object. -/
  | notObject {v : Json} : elements[n]? = some v → v.kind ≠ .object →
      AtFault elements n (.notObject n v.kind)
  /-- It cannot be read as a member. -/
  | badMember {v : Json} {fault : Json.ShapeFault} : elements[n]? = some v → v.kind = .object →
      Member.ofJson v = .error fault → AtFault elements n (.badMember n fault)
  /-- It is a constructor, and so is an element before it. -/
  | secondConstructor {v v' : Json} {c c' : Constructor} {n' : Nat} :
      elements[n]? = some v → Reads v (.constructor c) →
      n' < n → elements[n']? = some v' → Reads v' (.constructor c') →
      AtFault elements n (.secondConstructor n)

/-- The first element of an ABI that is at fault, and what is wrong with it. -/
structure FirstFault (elements : List Json) (n : Nat) (e : Malformed) : Prop where
  fault : AtFault elements n e
  least : ∀ n' < n, ∀ e', ¬AtFault elements n' e'

theorem Reads.unique {v : Json} {m m' : Member} (h : Reads v m) (h' : Reads v m') : m = m' :=
  Except.ok.inj (h.2.symm.trans h'.2)

variable {elements : List Json} {members : List Member}

theorem ofGroup_withMember (m : Member) (i : Interface) (g : Group)
    (h : m.group = .constructor → i.constructor = none) :
    (withMember m i).ofGroup g = if m.group = g then m :: i.ofGroup g else i.ofGroup g := by
  cases m <;> cases g <;> simp_all [withMember, ofGroup, Member.group]

theorem inGroup_cons (g : Group) (m : Member) (ms : List Member) :
    inGroup g (m :: ms) = if m.group = g then m :: inGroup g ms else inGroup g ms := by
  simp [inGroup, List.filter_cons]

theorem inGroup_append (g : Group) (ms ms' : List Member) :
    inGroup g (ms ++ ms') = inGroup g ms ++ inGroup g ms' :=
  List.filter_append ..

/-! ## One element -/

theorem kind_constructor_iff {m : Member} : m.kind = .constructor ↔ m.group = .constructor := by
  cases m <;> simp [Member.kind, Member.group]

theorem exists_constructor {m : Member} (h : m.group = .constructor) : ∃ c, m = .constructor c := by
  cases m with
  | constructor c => exact ⟨c, rfl⟩
  | _ => simp [Member.group] at h

theorem readMember_ok {index : Nat} {constructed : Bool} {v : Json} {m : Member}
    (h : readMember index constructed v = .ok m) :
    Reads v m ∧ (constructed = true → m.group ≠ .constructor) := by
  unfold readMember at h
  split at h
  · split at h
    · simp at h
    · next m' hread =>
      split at h
      · simp at h
      · next hfirst =>
        obtain rfl := Except.ok.inj h
        refine ⟨⟨rfl, hread⟩, fun hconstructed hgroup => hfirst ?_⟩
        simp [hconstructed, kind_constructor_iff.2 hgroup]
  · simp at h

/-- An element that stops the sorting is at fault, given that it stops for a constructor only if
there is one before it. -/
theorem atFault_of_readMember {before rest : List Json} {earlier : List Member} {constructed : Bool}
    {v : Json} {e : Malformed} (hreads : List.Forall₂ Reads before earlier)
    (hconstructed : constructed = true → ∃ c, Member.constructor c ∈ earlier)
    (h : readMember before.length constructed v = .error e) :
    AtFault (before ++ v :: rest) before.length e := by
  have hv : (before ++ v :: rest)[before.length]? = some v := by simp
  unfold readMember at h
  split at h
  · split at h
    · next hread =>
      obtain rfl := Except.error.inj h
      exact .badMember hv rfl hread
    · next m hread =>
      split at h
      · next hsecond =>
        obtain rfl := Except.error.inj h
        rw [Bool.and_eq_true, beq_iff_eq, kind_constructor_iff] at hsecond
        obtain ⟨c, rfl⟩ := exists_constructor hsecond.2
        obtain ⟨c', hc'⟩ := hconstructed hsecond.1
        obtain ⟨n', hn', hget⟩ := List.mem_iff_getElem.1 hc'
        have hn : n' < before.length := hreads.length_eq ▸ hn'
        have hfirst : Reads before[n'] (.constructor c') := hget ▸ hreads.get hn hn'
        refine .secondConstructor hv ⟨rfl, hread⟩ hn ?_ hfirst
        rw [List.getElem?_append_left hn, List.getElem?_eq_getElem hn]
      · simp at h
  · next hobject =>
    obtain rfl := Except.error.inj h
    refine .notObject hv fun hkind => ?_
    cases v <;> simp_all [Json.kind]

/-! ## All elements -/

theorem Acceptable.concat {before : List Json} {earlier : List Member}
    (h : Acceptable before earlier) {v : Json} {m : Member} (hv : Reads v m)
    (hfirst : m.group = .constructor → inGroup .constructor earlier = []) :
    Acceptable (before ++ [v]) (earlier ++ [m]) := by
  refine ⟨List.rel_append h.reads (.cons hv .nil), ?_⟩
  rw [inGroup_append, List.length_append, inGroup_cons]
  split
  · next hgroup =>
    rw [hfirst hgroup]
    exact Nat.le_refl 1
  · exact h.constructors

/-- The sorting of the elements after some that are acceptable. -/
theorem ofMembers_after {before rest : List Json} {earlier : List Member} {constructed : Bool}
    (h : Acceptable before earlier)
    (hconstructed : constructed = true ↔ inGroup .constructor earlier ≠ []) :
    (∃ i later, ofMembers before.length constructed rest = .ok i ∧
        Acceptable (before ++ rest) (earlier ++ later) ∧ ∀ g, i.ofGroup g = inGroup g later) ∨
      ∃ e n, ofMembers before.length constructed rest = .error e ∧
        AtFault (before ++ rest) n e ∧ ∃ members, Acceptable ((before ++ rest).take n) members := by
  induction rest generalizing before earlier constructed with
  | nil =>
    refine .inl ⟨{}, [], rfl, by simpa using h, ?_⟩
    intro g
    cases g <;> rfl
  | cons v rest ih =>
    rw [ofMembers]
    cases hread : readMember before.length constructed v with
    | error e =>
      refine .inr ⟨e, before.length, rfl, ?_, earlier, by simpa using h⟩
      refine atFault_of_readMember h.reads (fun htrue => ?_) hread
      obtain ⟨m, hm⟩ := List.exists_mem_of_ne_nil _ (hconstructed.1 htrue)
      rw [inGroup, List.mem_filter, decide_eq_true_iff] at hm
      obtain ⟨c, rfl⟩ := exists_constructor hm.2
      exact ⟨c, hm.1⟩
    | ok m =>
      obtain ⟨hv, hfirst⟩ := readMember_ok hread
      have hfirst (hgroup : m.group = .constructor) : inGroup .constructor earlier = [] := by
        by_contra hne
        exact hfirst (hconstructed.2 hne) hgroup
      have hnext : (constructed || m.kind == .constructor) = true ↔
          inGroup .constructor (earlier ++ [m]) ≠ [] := by
        rw [Bool.or_eq_true, beq_iff_eq, kind_constructor_iff, hconstructed, inGroup_append,
          inGroup_cons]
        split <;> simp_all [inGroup]
      have hsplit : before ++ v :: rest = (before ++ [v]) ++ rest := by simp
      rw [hsplit, show before.length + 1 = (before ++ [v]).length by simp]
      rcases ih (h.concat hv hfirst) hnext with ⟨i, later, hi, haccept, hgroups⟩ | ⟨e, n, he, hrest⟩
      · simp only [hi]
        rw [show earlier ++ [m] ++ later = earlier ++ m :: later by simp] at haccept
        refine .inl ⟨withMember m i, m :: later, rfl, haccept, fun g => ?_⟩
        rw [ofGroup_withMember m i g, inGroup_cons, hgroups g]
        intro hgroup
        have hcount := haccept.constructors
        rw [inGroup_append, inGroup_cons, if_pos hgroup] at hcount
        have hnone : inGroup .constructor later = [] := by
          rw [List.length_append, List.length_cons] at hcount
          exact List.eq_nil_of_length_eq_zero (by omega)
        have hempty := (hgroups .constructor).trans hnone
        simpa [ofGroup] using hempty
      · simp only [he]
        exact .inr ⟨e, n, rfl, hrest⟩

/-! ## Faults -/

theorem AtFault.unique {n : Nat} {e e' : Malformed} (h : AtFault elements n e)
    (h' : AtFault elements n e') : e = e' := by
  cases h <;> cases h' <;> simp_all [Reads]

theorem AtFault.index? {n : Nat} {e : Malformed} (h : AtFault elements n e) :
    e.index? = some n := by
  cases h <;> rfl

/-- The fault of an element depends on what comes up to it. -/
theorem AtFault.take {n k : Nat} {e : Malformed} (h : AtFault elements n e) (hlt : n < k) :
    AtFault (elements.take k) n e := by
  have hsame {n' : Nat} (hn' : n' < k) : (elements.take k)[n']? = elements[n']? := by
    rw [List.getElem?_take, if_pos hn']
  cases h with
  | notObject hv hkind => exact .notObject (hsame hlt ▸ hv) hkind
  | badMember hv hkind hread => exact .badMember (hsame hlt ▸ hv) hkind hread
  | secondConstructor hv hc hn' hv' hc' =>
    exact .secondConstructor (hsame hlt ▸ hv) hc hn' (hsame (Nat.lt_trans hn' hlt) ▸ hv') hc'

theorem two_le_length_inGroup {g : Group} {m m' : Member} {n n' : Nat} (hlt : n < n')
    (hm : members[n]? = some m) (hm' : members[n']? = some m') (hg : m.group = g)
    (hg' : m'.group = g) : 2 ≤ (inGroup g members).length := by
  have hfirst : m ∈ inGroup g (members.take n') := by
    rw [inGroup, List.mem_filter]
    refine ⟨List.mem_of_getElem? (i := n) ?_, by simp [hg]⟩
    rw [List.getElem?_take, if_pos hlt, hm]
  have hsecond : m' ∈ inGroup g (members.drop n') := by
    rw [inGroup, List.mem_filter]
    refine ⟨List.mem_of_getElem? (i := 0) ?_, by simp [hg']⟩
    rw [List.getElem?_drop, Nat.add_zero, hm']
  have hpos := List.length_pos_of_mem hfirst
  have hpos' := List.length_pos_of_mem hsecond
  rw [← List.take_append_drop n' members, inGroup_append, List.length_append]
  omega

/-- No element of an acceptable ABI is at fault. -/
theorem Acceptable.not_atFault (h : Acceptable elements members) (n : Nat) (e : Malformed) :
    ¬AtFault elements n e := by
  have hreads {n : Nat} {v : Json} (hv : elements[n]? = some v) :
      ∃ m, members[n]? = some m ∧ Reads v m := by
    obtain ⟨hn, rfl⟩ := List.getElem?_eq_some_iff.1 hv
    have hn' : n < members.length := h.reads.length_eq ▸ hn
    exact ⟨members[n], List.getElem?_eq_getElem hn', h.reads.get hn hn'⟩
  intro hfault
  cases hfault with
  | notObject hv hkind =>
    obtain ⟨m, -, hread⟩ := hreads hv
    exact hkind hread.1
  | badMember hv _ hread =>
    obtain ⟨m, -, -, hok⟩ := hreads hv
    simp [hread] at hok
  | secondConstructor hv hc hlt hv' hc' =>
    obtain ⟨m, hm, hread⟩ := hreads hv
    obtain ⟨m', hm', hread'⟩ := hreads hv'
    obtain rfl := hread.unique hc
    obtain rfl := hread'.unique hc'
    have htwo : 2 ≤ (inGroup .constructor members).length :=
      two_le_length_inGroup hlt hm' hm rfl rfl
    exact absurd h.constructors (Nat.not_le.2 htwo)

/-! ## The whole ABI -/

theorem ext_ofGroup {i i' : Interface} (h : ∀ g, i.ofGroup g = i'.ofGroup g) : i = i' := by
  have hfunctions : i.functions = i'.functions :=
    List.map_injective_iff.2 (fun _ _ => Member.function.inj) (h .functions)
  have hevents : i.events = i'.events :=
    List.map_injective_iff.2 (fun _ _ => Member.event.inj) (h .events)
  have hconstructor : i.constructor.toList = i'.constructor.toList :=
    List.map_injective_iff.2 (fun _ _ => Member.constructor.inj) (h .constructor)
  have hothers : i.others = i'.others := h .others
  obtain ⟨functions, events, constructor, others⟩ := i
  obtain ⟨functions', events', constructor', others'⟩ := i'
  cases constructor <;> cases constructor' <;> simp_all

/-- The groups hold all members, each as often as the list does. -/
theorem perm_groups (members : List Member) :
    (Group.all.flatMap (inGroup · members)).Perm members := by
  induction members with
  | nil => exact .nil
  | cons m members ih =>
    simp only [Group.all, List.flatMap_cons, List.flatMap_nil, List.append_nil] at ih ⊢
    -- the group of the member is the only one that grows
    have hgrown (before after : List Member) (h : (before ++ after).Perm members) :
        (before ++ m :: after).Perm (m :: members) :=
      List.perm_middle.trans (h.cons m)
    cases hm : m.group with
    | functions =>
      simp only [inGroup_cons, hm, reduceCtorEq, if_true, if_false]
      exact hgrown [] _ ih
    | events =>
      simp only [inGroup_cons, hm, reduceCtorEq, if_true, if_false]
      exact hgrown _ _ ih
    | constructor =>
      simp only [inGroup_cons, hm, reduceCtorEq, if_true, if_false]
      rw [← List.append_assoc] at ih ⊢
      exact hgrown _ _ ih
    | others =>
      simp only [inGroup_cons, hm, reduceCtorEq, if_true, if_false]
      rw [← List.append_assoc, ← List.append_assoc] at ih ⊢
      exact hgrown _ _ ih

theorem reads_unique {members' : List Member} (h : List.Forall₂ Reads elements members)
    (h' : List.Forall₂ Reads elements members') : members = members' := by
  induction h generalizing members' with
  | nil => cases h'; rfl
  | cons hv _ ih =>
    cases h' with
    | cons hv' hrest => rw [hv.unique hv', ih hrest]

theorem ofJson_array (elements : List Json) :
    (∃ i members, ofJson (.array elements) = .ok i ∧ Acceptable elements members ∧
        ∀ g, i.ofGroup g = inGroup g members) ∨
      ∃ e n, ofJson (.array elements) = .error e ∧ FirstFault elements n e ∧
        ∃ members, Acceptable (elements.take n) members := by
  have hnone : Acceptable [] [] := ⟨.nil, Nat.zero_le 1⟩
  have hstart : false = true ↔ inGroup .constructor [] ≠ [] := by simp [inGroup]
  rcases ofMembers_after hnone hstart with hok | ⟨e, n, he, hfault, members, haccept⟩
  · exact .inl hok
  · refine .inr ⟨e, n, he, ⟨hfault, ?_⟩, members, haccept⟩
    exact fun n' hlt e' hfault' => haccept.not_atFault n' e' (hfault'.take hlt)

theorem array_of_ok {v : Json} {i : Interface} (h : ofJson v = .ok i) :
    ∃ elements, v = .array elements := by
  cases v with
  | array elements => exact ⟨elements, rfl⟩
  | _ => simp [ofJson] at h

theorem acceptable_of_ok {i : Interface} (h : ofJson (.array elements) = .ok i) :
    ∃ members, Acceptable elements members ∧ ∀ g, i.ofGroup g = inGroup g members := by
  rcases ofJson_array elements with ⟨i', members, hi', hrest⟩ | ⟨e, _, he, -⟩
  · obtain rfl := Except.ok.inj (h.symm.trans hi')
    exact ⟨members, hrest⟩
  · simp [he] at h

theorem ok_of_acceptable (h : Acceptable elements members) :
    ∃ i, ofJson (.array elements) = .ok i ∧ ∀ g, i.ofGroup g = inGroup g members := by
  rcases ofJson_array elements with ⟨i, members', hi, haccept, hgroups⟩ | ⟨e, n, -, hfault, -⟩
  · obtain rfl := reads_unique haccept.reads h.reads
    exact ⟨i, hi, hgroups⟩
  · exact absurd hfault.fault (h.not_atFault n e)

/-- Members are read from the parts of an ABI part by part. -/
theorem exists_reads_append {before after : List Json}
    (h : List.Forall₂ Reads (before ++ after) members) :
    ∃ earlier later, members = earlier ++ later ∧ List.Forall₂ Reads before earlier ∧
      List.Forall₂ Reads after later := by
  induction before generalizing members with
  | nil => exact ⟨[], members, rfl, .nil, h⟩
  | cons v before ih =>
    obtain ⟨m, rest, hv, hrest, rfl⟩ := List.forall₂_cons_left_iff.1 h
    obtain ⟨earlier, later, rfl, hbefore, hafter⟩ := ih hrest
    exact ⟨m :: earlier, later, rfl, .cons hv hbefore, hafter⟩

theorem mem_of_reads {v : Json} {m : Member} (h : List.Forall₂ Reads elements members)
    (hv : v ∈ elements) (hm : Member.ofJson v = .ok m) : m ∈ members := by
  induction h with
  | nil => simp at hv
  | cons hread _ ih =>
    rcases List.mem_cons.1 hv with rfl | hv
    · obtain rfl := Except.ok.inj (hm.symm.trans hread.2)
      exact List.mem_cons_self
    · exact List.mem_cons_of_mem _ (ih hv)

/-- An ABI from which an event is taken away is sorted as before, but for that event. -/
theorem ofJson_without_event {before after : List Json} {v : Json} {e : Event} {i : Interface}
    (h : ofJson (.array (before ++ v :: after)) = .ok i) (hv : Member.ofJson v = .ok (.event e)) :
    ∃ earlier later, i.events = earlier ++ e :: later ∧
      ofJson (.array (before ++ after)) = .ok { i with events := earlier ++ later } ∧
      ∀ v' ∈ before, ∀ e', Member.ofJson v' = .ok (.event e') → e' ∈ earlier := by
  obtain ⟨members, haccept, hgroups⟩ := acceptable_of_ok h
  obtain ⟨first, rest, rfl, hfirst, hrest⟩ := exists_reads_append haccept.reads
  obtain ⟨m, last, hread, hlast, rfl⟩ := List.forall₂_cons_left_iff.1 hrest
  obtain rfl := Except.ok.inj (hv.symm.trans hread.2)
  -- the events of the interface are those before it, the event itself and those after it
  have hevent : (Member.event e).group = .events := rfl
  have hevents := hgroups .events
  rw [inGroup_append, inGroup_cons, if_pos hevent, ofGroup, List.map_eq_append_iff] at hevents
  obtain ⟨earlier, more, hsplit, hearlier, hmore⟩ := hevents
  obtain ⟨same, later, rfl, hsame, hlater⟩ := List.map_eq_cons_iff.1 hmore
  obtain rfl := Member.event.inj hsame
  have hother {g : Group} (hg : Group.events ≠ g) :
      inGroup g (first ++ last) = inGroup g (first ++ .event same :: last) := by
    rw [inGroup_append, inGroup_append, inGroup_cons, hevent, if_neg hg]
  have hconstructor : Group.events ≠ .constructor := by decide
  have haccept' : Acceptable (before ++ after) (first ++ last) :=
    ⟨List.rel_append hfirst hlast, hother hconstructor ▸ haccept.constructors⟩
  obtain ⟨i', hi', hgroups'⟩ := ok_of_acceptable haccept'
  refine ⟨earlier, later, hsplit, ?_, fun v' hv' e' he' => ?_⟩
  · rw [hi']
    refine congrArg Except.ok (ext_ofGroup fun g => (hgroups' g).trans ?_)
    cases g with
    | functions => exact (hother (by decide)).trans (hgroups _).symm
    | events =>
      rw [inGroup_append, ← hearlier, ← hlater]
      exact (List.map_append ..).symm
    | constructor => exact (hother hconstructor).trans (hgroups _).symm
    | others => exact (hother (by decide)).trans (hgroups _).symm
  · have hmem : Member.event e' ∈ inGroup .events first :=
      List.mem_filter.2 ⟨mem_of_reads hfirst hv' he', by simp [Member.group]⟩
    rw [← hearlier, List.mem_map] at hmem
    obtain ⟨e'', he'', heq⟩ := hmem
    exact Member.event.inj heq ▸ he''

theorem FirstFault.unique {n n' : Nat} {e e' : Malformed} (h : FirstFault elements n e)
    (h' : FirstFault elements n' e') : n = n' ∧ e = e' := by
  have hle : ¬n < n' := fun hlt => h'.least n hlt e h.fault
  have hge : ¬n' < n := fun hlt => h.least n' hlt e' h'.fault
  obtain rfl : n = n' := by omega
  exact ⟨rfl, h.fault.unique h'.fault⟩

/-- A malformed ABI names the index of the element at fault in its wording. -/
theorem message_of_index? {e : Malformed} {n : Nat} (h : e.index? = some n) :
    ∃ rest, e.message = "member #" ++ toString n ++ ": " ++ rest ∨
      e.message = "member #" ++ toString n ++ " is " ++ rest := by
  cases e with
  | notArray => simp [Malformed.index?] at h
  | notObject index found =>
    obtain rfl : index = n := Option.some.inj h
    exact ⟨found.described ++ ", expected an object", .inr (String.append_assoc ..)⟩
  | badMember index fault =>
    obtain rfl : index = n := Option.some.inj h
    exact ⟨fault.message, .inl rfl⟩
  | secondConstructor index =>
    obtain rfl : index = n := Option.some.inj h
    have hwords : ": more than one constructor" = ": " ++ "more than one constructor" := by decide
    refine ⟨"more than one constructor", .inl ?_⟩
    calc
      Malformed.message (.secondConstructor index)
      _ = "member #" ++ toString index ++ (": " ++ "more than one constructor") :=
        congrArg ("member #" ++ toString index ++ ·) hwords
      _ = "member #" ++ toString index ++ ": " ++ "more than one constructor" :=
        (String.append_assoc ..).symm

/-- An ABI is an interface just if it is an array of objects that are read as members, with at most
one constructor among them. Each group holds its members in the order of the ABI, together they hold
each member once, and another ABI with the same members in each group is the same interface. Sorting
fails for the first element that is no object, is not read as a member or is a second constructor;
all elements before it are acceptable, and the fault names its index. -/
theorem ofJson_sorts (v : Json) :
    ((∃ i, ofJson v = .ok i) ↔
        ∃ elements members, v = .array elements ∧ Acceptable elements members) ∧
      (∀ i elements members, v = .array elements → List.Forall₂ Reads elements members →
        ofJson v = .ok i →
          (∀ g, i.ofGroup g = inGroup g members) ∧
            (Group.all.flatMap i.ofGroup).Perm members ∧
            ∀ elements' members', Acceptable elements' members' →
              (∀ g, inGroup g members' = inGroup g members) →
                ofJson (.array elements') = .ok i) ∧
      (v.kind ≠ .array → ofJson v = .error (.notArray v.kind)) ∧
      ∀ e elements, v = .array elements →
        (ofJson v = .error e ↔ ∃ n, FirstFault elements n e) ∧
          ∀ n, FirstFault elements n e →
            e.index? = some n ∧
              (∃ rest, e.message = "member #" ++ toString n ++ ": " ++ rest ∨
                e.message = "member #" ++ toString n ++ " is " ++ rest) ∧
              ∃ members, Acceptable (elements.take n) members := by
  refine ⟨⟨?_, ?_⟩, ?_, ?_, ?_⟩
  · rintro ⟨i, hi⟩
    obtain ⟨elements, rfl⟩ := array_of_ok hi
    obtain ⟨members, haccept, -⟩ := acceptable_of_ok hi
    exact ⟨elements, members, rfl, haccept⟩
  · rintro ⟨elements, members, rfl, haccept⟩
    obtain ⟨i, hi, -⟩ := ok_of_acceptable haccept
    exact ⟨i, hi⟩
  · rintro i elements members rfl hreads hi
    obtain ⟨members', haccept, hgroups⟩ := acceptable_of_ok hi
    obtain rfl := reads_unique haccept.reads hreads
    refine ⟨hgroups, ?_, ?_⟩
    · rw [funext hgroups]
      exact perm_groups members'
    · intro elements' members haccept' hsame
      obtain ⟨i', hi', hgroups'⟩ := ok_of_acceptable haccept'
      rw [hi', ext_ofGroup fun g => (hgroups' g).trans ((hsame g).trans (hgroups g).symm)]
  · intro hkind
    cases v with
    | array _ => exact absurd rfl hkind
    | _ => rfl
  · rintro e elements rfl
    rcases ofJson_array elements with ⟨i, members, hi, haccept, -⟩ |
      ⟨e', n', he', hfirst', members, haccept⟩
    · have hnone (n : Nat) : ¬FirstFault elements n e := fun h => haccept.not_atFault n e h.fault
      exact ⟨by simp [hi, hnone], fun n hfirst => absurd hfirst (hnone n)⟩
    · refine ⟨⟨fun he => ?_, ?_⟩, ?_⟩
      · obtain rfl := Except.error.inj (he.symm.trans he')
        exact ⟨n', hfirst'⟩
      · rintro ⟨n, hfirst⟩
        rw [he', (hfirst.unique hfirst').2]
      · intro n hfirst
        obtain ⟨rfl, rfl⟩ := hfirst.unique hfirst'
        exact ⟨hfirst.fault.index?, message_of_index? hfirst.fault.index?, members, haccept⟩

/-- The second constructor comes before an element that is no object, and so it is the one named. -/
example :
    let constructor : Json := .object [("type", .text "constructor")]
    let event : Json := .object [("type", .text "event"), ("name", .text "Sent")]
    ofJson (.array [constructor, event, constructor, .null]) = .error (.secondConstructor 2) := by
  rfl

end Interface

end ContractBindings.Abi

import ContractBindings.TypeScript.Binding
import Mathlib.Data.List.Forall2

/-!
# Objects that say the same

An entry of an ABI is an object, and so are its parameters. The order of their keys counts for
nothing, and neither do keys that nobody knows. Two ABIs that differ in these alone have the same
interface, or fail at the same entry.

1. `readKnown`: the known members of an object, read one by one, whatever the object is.
2. `readKnown_reorder`, `readKnown_unknown`, `readKnown_congr`: what does not matter there.
3. `Param.Alike`, `Member.Alike`: objects that differ in what does not matter, at any depth.
4. `Param.toOption_alike`, `Member.toOption_alike`: they are read as the same, or not at all.
5. `ofMembers_alike`, `interface_alike`: the same of whole ABIs, and of the types declared for them.
-/

namespace ContractBindings.Abi

open Json (ShapeFault)

/-! ## Reading known members -/

section ReadKnown

variable {σ α β : Type}

/-- The known members of an object, each read as the slot of its key says. -/
def readKnown (known : String → Option σ) (read : σ → Json → Option α) :
    List (String × Json) → Option (List α)
  | [] => some []
  | (key, v) :: rest =>
    match known key with
    | none => readKnown known read rest
    | some slot =>
      (read slot v).bind fun field => (readKnown known read rest).map (field :: ·)

variable {known : String → Option σ} {read : σ → Json → Option α}
  {members members' : List (String × Json)} {fields : List α}

theorem readKnown_cons_none {key : String} (h : known key = none) (v : Json)
    (rest : List (String × Json)) :
    readKnown known read ((key, v) :: rest) = readKnown known read rest := by
  rw [readKnown, h]

theorem readKnown_cons_some {key : String} {slot : σ} (h : known key = some slot) (v : Json)
    (rest : List (String × Json)) :
    readKnown known read ((key, v) :: rest) =
      (read slot v).bind fun field => (readKnown known read rest).map (field :: ·) := by
  rw [readKnown, h]

/-- An unknown member counts for nothing, wherever it stands. -/
theorem readKnown_unknown {key : String} (h : known key = none) (v : Json)
    (before after : List (String × Json)) :
    readKnown known read (before ++ (key, v) :: after) =
      readKnown known read (before ++ after) := by
  induction before with
  | nil => exact readKnown_cons_none h v after
  | cons m before ih =>
    rw [List.cons_append, List.cons_append, readKnown, readKnown, ih]

/-- A value may be replaced by one that is read as the same. -/
theorem readKnown_congr {key : String} {v w : Json}
    (h : ∀ slot, known key = some slot → read slot v = read slot w)
    (before after : List (String × Json)) :
    readKnown known read (before ++ (key, v) :: after) =
      readKnown known read (before ++ (key, w) :: after) := by
  induction before with
  | nil =>
    cases hknown : known key with
    | none => rw [List.nil_append, List.nil_append, readKnown_cons_none hknown,
        readKnown_cons_none hknown]
    | some slot => rw [List.nil_append, List.nil_append, readKnown_cons_some hknown,
        readKnown_cons_some hknown, h slot hknown]
  | cons m before ih => rw [List.cons_append, List.cons_append, readKnown, readKnown, ih]

/-- Members in another order are read in that order. -/
theorem readKnown_perm (hperm : members.Perm members')
    (h : readKnown known read members = some fields) :
    ∃ fields', readKnown known read members' = some fields' ∧ fields.Perm fields' := by
  induction hperm generalizing fields with
  | nil => exact ⟨fields, h, .refl fields⟩
  | cons m _ ih =>
    obtain ⟨key, v⟩ := m
    cases hknown : known key with
    | none =>
      rw [readKnown_cons_none hknown] at h ⊢
      exact ih h
    | some slot =>
      rw [readKnown_cons_some hknown] at h ⊢
      obtain ⟨field, hfield, hmore⟩ := Option.bind_eq_some_iff.1 h
      obtain ⟨more, hread, rfl⟩ := Option.map_eq_some_iff.1 hmore
      obtain ⟨more', hread', hperm'⟩ := ih hread
      exact ⟨field :: more', by rw [hfield, hread']; rfl, hperm'.cons field⟩
  | swap m n rest =>
    obtain ⟨key, v⟩ := m
    obtain ⟨key', v'⟩ := n
    cases hknown : known key with
    | none =>
      refine ⟨fields, ?_, .refl fields⟩
      rw [readKnown_cons_none hknown]
      rwa [readKnown, readKnown_cons_none hknown] at h
    | some slot =>
      cases hknown' : known key' with
      | none =>
        refine ⟨fields, ?_, .refl fields⟩
        rw [readKnown_cons_some hknown, readKnown_cons_none hknown']
        rwa [readKnown_cons_none hknown', readKnown_cons_some hknown] at h
      | some slot' =>
        -- both are known: the two fields change places
        rw [readKnown_cons_some hknown', readKnown_cons_some hknown] at h
        obtain ⟨field', hfield', hmore⟩ := Option.bind_eq_some_iff.1 h
        obtain ⟨more, hread, rfl⟩ := Option.map_eq_some_iff.1 hmore
        obtain ⟨field, hfield, hmap⟩ := Option.bind_eq_some_iff.1 hread
        obtain ⟨last, hlast, rfl⟩ := Option.map_eq_some_iff.1 hmap
        refine ⟨field :: field' :: last, ?_, .swap field field' last⟩
        rw [readKnown_cons_some hknown, readKnown_cons_some hknown', hfield, hfield', hlast]
        rfl
  | trans _ _ ih ih' =>
    obtain ⟨fields₁, h₁, hperm₁⟩ := ih h
    obtain ⟨fields₂, h₂, hperm₂⟩ := ih' h₁
    exact ⟨fields₂, h₂, hperm₁.trans hperm₂⟩

/-- Members may be left out if all of them are unknown. -/
theorem readKnown_filter (keep : String → Bool)
    (h : ∀ key, keep key = false → known key = none) :
    readKnown known read (members.filter (keep ·.1)) = readKnown known read members := by
  induction members with
  | nil => rfl
  | cons m rest ih =>
    obtain ⟨key, v⟩ := m
    cases hkeep : keep key with
    | false =>
      rw [List.filter_cons_of_neg (by simp [hkeep]), ih, readKnown_cons_none (h key hkeep)]
    | true => rw [List.filter_cons_of_pos (by simpa using hkeep), readKnown, readKnown, ih]

/-- How the slot of a member shows in its key and in the field that is read from it. -/
structure Slotted (known : String → Option σ) (read : σ → Json → Option α) (keyOf : σ → String)
    (slotOf : α → σ) : Prop where
  key : ∀ key slot, known key = some slot → keyOf slot = key
  field : ∀ slot v field, read slot v = some field → slotOf field = slot

variable {keyOf : σ → String} {slotOf : α → σ}

theorem Slotted.exists_member (hslotted : Slotted known read keyOf slotOf)
    (h : readKnown known read members = some fields) {field : α} (hmem : field ∈ fields) :
    keyOf (slotOf field) ∈ members.map Prod.fst := by
  induction members generalizing fields with
  | nil =>
    obtain rfl := Option.some.inj h
    simp at hmem
  | cons m rest ih =>
    obtain ⟨key, v⟩ := m
    cases hknown : known key with
    | none =>
      rw [readKnown_cons_none hknown] at h
      exact List.mem_cons_of_mem _ (ih h hmem)
    | some slot =>
      rw [readKnown_cons_some hknown] at h
      obtain ⟨first, hfirst, h⟩ := Option.bind_eq_some_iff.1 h
      obtain ⟨more, hmore, rfl⟩ := Option.map_eq_some_iff.1 h
      rcases List.mem_cons.1 hmem with rfl | hmem
      · rw [hslotted.field slot v field hfirst, hslotted.key key slot hknown]
        exact List.mem_cons_self
      · exact List.mem_cons_of_mem _ (ih hmore hmem)

/-- Members with different keys are read as fields of different slots. -/
theorem Slotted.nodup (hslotted : Slotted known read keyOf slotOf)
    (hkeys : (members.map Prod.fst).Nodup) (h : readKnown known read members = some fields) :
    (fields.map slotOf).Nodup := by
  induction members generalizing fields with
  | nil =>
    obtain rfl := Option.some.inj h
    exact List.nodup_nil
  | cons m rest ih =>
    obtain ⟨key, v⟩ := m
    rw [List.map_cons, List.nodup_cons] at hkeys
    cases hknown : known key with
    | none =>
      rw [readKnown_cons_none hknown] at h
      exact ih hkeys.2 h
    | some slot =>
      rw [readKnown_cons_some hknown] at h
      obtain ⟨first, hfirst, h⟩ := Option.bind_eq_some_iff.1 h
      obtain ⟨more, hmore, rfl⟩ := Option.map_eq_some_iff.1 h
      rw [List.map_cons, List.nodup_cons]
      refine ⟨?_, ih hkeys.2 hmore⟩
      intro hmem
      obtain ⟨field, hfield, hsame⟩ := List.mem_map.1 hmem
      have hkey := hslotted.exists_member hmore hfield
      rw [hsame, hslotted.field slot v first hfirst, hslotted.key key slot hknown] at hkey
      exact hkeys.1 hkey

/-- What is put together from the fields does not depend on their order, if they differ in their
slots. -/
def OrderFree (slotOf : α → σ) (combine : List α → Option β) : Prop :=
  ∀ fields fields' : List α, fields.Perm fields' → (fields.map slotOf).Nodup →
    combine fields = combine fields'

/-- The order of the members of an object counts for nothing. -/
theorem Slotted.reorder (hslotted : Slotted known read keyOf slotOf) {combine : List α → Option β}
    (hcombine : OrderFree slotOf combine) (hkeys : (members.map Prod.fst).Nodup)
    (hperm : members.Perm members') :
    (readKnown known read members).bind combine = (readKnown known read members').bind combine := by
  cases h : readKnown known read members with
  | none =>
    cases h' : readKnown known read members' with
    | none => rfl
    | some fields' =>
      obtain ⟨fields, hfields, -⟩ := readKnown_perm hperm.symm h'
      simp [h] at hfields
  | some fields =>
    obtain ⟨fields', h', hfields⟩ := readKnown_perm hperm h
    rw [h']
    exact hcombine fields fields' hfields (hslotted.nodup hkeys h)

/-- The first value of one slot is the same in any order of fields with different slots. -/
theorem findSome?_reorder {γ : Type} {f : α → Option γ} {slot : σ}
    (hf : ∀ field, f field ≠ none → slotOf field = slot) {fields fields' : List α}
    (hperm : fields.Perm fields') (hslots : (fields.map slotOf).Nodup) :
    fields.findSome? f = fields'.findSome? f := by
  induction hperm with
  | nil => rfl
  | cons field _ ih =>
    rw [List.map_cons, List.nodup_cons] at hslots
    rw [List.findSome?_cons, List.findSome?_cons, ih hslots.2]
  | swap a b rest =>
    rw [List.findSome?_cons, List.findSome?_cons, List.findSome?_cons, List.findSome?_cons]
    cases ha : f a with
    | none => rfl
    | some x =>
      cases hb : f b with
      | none => rfl
      | some y =>
        -- two values of one slot
        have hsame : slotOf b = slotOf a := by
          rw [hf a (by simp [ha]), hf b (by simp [hb])]
        simp [hsame] at hslots
  | trans hperm _ ih ih' =>
    exact (ih hslots).trans (ih' ((hperm.map slotOf).nodup_iff.1 hslots))

end ReadKnown

/-- The value of one key is the same in any order of members with different keys. -/
theorem lookup_reorder {members members' : List (String × Json)} (key : String)
    (hkeys : (members.map Prod.fst).Nodup) (hperm : members.Perm members') :
    members.lookup key = members'.lookup key := by
  have hfirst (m : String × Json) (h : (if key == m.1 then some m.2 else none) ≠ none) :
      m.1 = key := by
    by_cases hkey : key = m.1
    · exact hkey.symm
    · exact absurd (if_neg (by simpa using hkey)) h
  rw [List.lookup_eq_findSome?, List.lookup_eq_findSome?]
  exact findSome?_reorder hfirst hperm hkeys

/-! ## Readers without their faults -/

theorem toOption_map {ε α β : Type} (x : Except ε α) (f : α → β) :
    (x.map f).toOption = x.toOption.map f := by
  cases x <;> rfl

namespace Param

/-- The slot of a field. -/
def Field.slot : Param.Field → Param.FieldName
  | .name _ => .name
  | .type _ => .type
  | .internalType _ => .internalType
  | .indexed _ => .indexed
  | .components _ => .components

/-- A field, or nothing where there is a fault. -/
def readField (slot : Param.FieldName) (v : Json) : Option Param.Field := (fieldOf slot v).toOption

theorem toOption_fieldsOfMembers (members : List (String × Json)) :
    (fieldsOfMembers members).toOption = readKnown FieldName.ofKey? readField members := by
  induction members with
  | nil => simp [fieldsOfMembers, readKnown, Except.toOption]
  | cons m rest ih =>
    obtain ⟨key, v⟩ := m
    rw [fieldsOfMembers, readKnown]
    cases FieldName.ofKey? key with
    | none => exact ih
    | some slot =>
      simp only [readField]
      cases fieldOf slot v with
      | error e => rfl
      | ok field => exact (toOption_map _ _).trans (congrArg _ ih)

theorem toOption_object (members : List (String × Json)) :
    (Param.ofJson (.object members)).toOption =
      (readKnown FieldName.ofKey? readField members).bind ofFields? := by
  rw [← toOption_fieldsOfMembers, Param.ofJson]
  cases fieldsOfMembers members with
  | error e => rfl
  | ok fields =>
    simp only [Except.toOption, Option.bind_some]
    cases ofFields? fields <;> rfl

theorem slotted : Slotted FieldName.ofKey? readField FieldName.key Field.slot where
  key key slot h := by simpa using List.find?_some h
  field slot v field h := by
    cases slot with
    | name | type | internalType | indexed =>
      rw [readField, fieldOf, toOption_map] at h
      obtain ⟨-, -, rfl⟩ := Option.map_eq_some_iff.1 h
      rfl
    | components =>
      cases v with
      | array elements =>
        rw [readField, fieldOf, toOption_map] at h
        obtain ⟨-, -, rfl⟩ := Option.map_eq_some_iff.1 h
        rfl
      | null | bool | number | text | object =>
        simp [readField, fieldOf, Json.wrongKind, Except.toOption] at h

theorem ofFields?_orderFree : OrderFree Field.slot ofFields? := by
  intro fields fields' hperm hslots
  have same {γ : Type} {f : Param.Field → Option γ} {slot : FieldName}
      (hf : ∀ field, f field ≠ none → field.slot = slot) :
      fields.findSome? f = fields'.findSome? f :=
    findSome?_reorder hf hperm hslots
  have hname : fields.findSome? (·.name?) = fields'.findSome? (·.name?) :=
    same fun | .name _, _ => rfl
  have htype : fields.findSome? (·.type?) = fields'.findSome? (·.type?) :=
    same fun | .type _, _ => rfl
  have hinternalType :
      fields.findSome? (·.internalType?) = fields'.findSome? (·.internalType?) :=
    same fun | .internalType _, _ => rfl
  have hindexed : fields.findSome? (·.indexed?) = fields'.findSome? (·.indexed?) :=
    same fun | .indexed _, _ => rfl
  have hcomponents : fields.findSome? (·.components?) = fields'.findSome? (·.components?) :=
    same fun | .components _, _ => rfl
  rw [ofFields?, ofFields?, hname, htype, hinternalType, hindexed, hcomponents]

/-- Two forms of a parameter that differ in what counts for nothing: the order of keys, and keys
that a parameter does not know, in its object or in that of a component at any depth. -/
inductive Alike : Json → Json → Prop
  | refl (v : Json) : Alike v v
  | symm {v w : Json} : Alike v w → Alike w v
  | trans {u v w : Json} : Alike u v → Alike v w → Alike u w
  /-- The keys are in another order. -/
  | reorder {members members' : List (String × Json)} :
      (members.map Prod.fst).Nodup → members.Perm members' →
        Alike (.object members) (.object members')
  /-- One key more, that a parameter does not know. -/
  | unknown (before after : List (String × Json)) {key : String} (v : Json) :
      FieldName.ofKey? key = none →
        Alike (.object (before ++ after)) (.object (before ++ (key, v) :: after))
  /-- One component is given in another form. -/
  | component (before after : List (String × Json)) (front back : List Json) {v w : Json} :
      Alike v w →
        Alike
          (.object (before ++ (FieldName.components.key, .array (front ++ v :: back)) :: after))
          (.object (before ++ (FieldName.components.key, .array (front ++ w :: back)) :: after))
  /-- The same in a parameter that is given as the array of its fields. -/
  | componentOfElements (before after front back : List Json) {v w : Json} :
      before.length = FieldName.all.idxOf .components → Alike v w →
        Alike (.array (before ++ .array (front ++ v :: back) :: after))
          (.array (before ++ .array (front ++ w :: back) :: after))

theorem toOption_listOf_congr {v w : Json} (h : (ofJson v).toOption = (ofJson w).toOption)
    (front back : List Json) :
    (listOf (front ++ v :: back)).toOption = (listOf (front ++ w :: back)).toOption := by
  induction front with
  | nil =>
    rw [List.nil_append, List.nil_append, listOf, listOf]
    cases hv : ofJson v <;> cases hw : ofJson w <;> simp_all [Except.toOption]
  | cons p front ih =>
    rw [List.cons_append, List.cons_append, listOf, listOf]
    cases ofJson p with
    | error e => rfl
    | ok p => simp only [toOption_map, ih]

theorem toOption_fieldsOfElements_congr {slots : List FieldName} {v w : Json}
    (before after : List Json)
    (h : ∀ slot, slots[before.length]? = some slot → readField slot v = readField slot w) :
    (fieldsOfElements slots (before ++ v :: after)).toOption =
      (fieldsOfElements slots (before ++ w :: after)).toOption := by
  induction before generalizing slots with
  | nil =>
    cases slots with
    | nil => simp [fieldsOfElements]
    | cons slot slots =>
      have hfirst : (fieldOf slot v).toOption = (fieldOf slot w).toOption := h slot rfl
      rw [List.nil_append, List.nil_append, fieldsOfElements, fieldsOfElements]
      cases hv : fieldOf slot v <;> cases hw : fieldOf slot w <;> simp_all [Except.toOption]
  | cons x before ih =>
    cases slots with
    | nil => simp [fieldsOfElements]
    | cons slot slots =>
      rw [List.cons_append, List.cons_append, fieldsOfElements, fieldsOfElements]
      cases fieldOf slot x with
      | error e => rfl
      | ok field =>
        have hrest : (fieldsOfElements slots (before ++ v :: after)).toOption =
            (fieldsOfElements slots (before ++ w :: after)).toOption :=
          ih fun slot hslot => h slot (by simpa using hslot)
        simp only [toOption_map, hrest]

theorem toOption_array (elements : List Json) :
    (Param.ofJson (.array elements)).toOption =
      ((fieldsOfElements FieldName.all elements).toOption.bind ofFields?).bind fun p =>
        if elements.length ≤ FieldName.all.length then some p else none := by
  rw [Param.ofJson]
  cases fieldsOfElements FieldName.all elements with
  | error e => rfl
  | ok fields =>
    simp only [Except.toOption, Option.bind_some]
    cases ofFields? fields with
    | none => rfl
    | some p => by_cases h : elements.length ≤ FieldName.all.length <;> simp [h]

/-- Lists of parameters that are read as the same are components that are read as the same. -/
theorem readField_components_congr {v w : Json} (h : (ofJson v).toOption = (ofJson w).toOption)
    (front back : List Json) :
    readField .components (.array (front ++ v :: back)) =
      readField .components (.array (front ++ w :: back)) := by
  rw [readField, readField, fieldOf, fieldOf, toOption_map, toOption_map,
    toOption_listOf_congr h front back]

/-- What differs in nothing that counts is read as the same parameter, or as none. -/
theorem toOption_alike {v w : Json} (h : Alike v w) :
    (ofJson v).toOption = (ofJson w).toOption := by
  induction h with
  | refl v => rfl
  | symm _ ih => exact ih.symm
  | trans _ _ ih ih' => exact ih.trans ih'
  | reorder hkeys hperm =>
    rw [toOption_object, toOption_object, slotted.reorder ofFields?_orderFree hkeys hperm]
  | unknown before after v hkey =>
    rw [toOption_object, toOption_object, readKnown_unknown hkey v before after]
  | @component before after front back v w _ ih =>
    have hread (slot : FieldName) (hslot : FieldName.ofKey? FieldName.components.key = some slot) :
        readField slot (.array (front ++ v :: back)) =
          readField slot (.array (front ++ w :: back)) := by
      obtain rfl : FieldName.components = slot := Option.some.inj hslot
      exact readField_components_congr ih front back
    rw [toOption_object, toOption_object, readKnown_congr hread before after]
  | @componentOfElements before after front back v w hlength _ ih =>
    have hread (slot : FieldName) (hslot : FieldName.all[before.length]? = some slot) :
        readField slot (.array (front ++ v :: back)) =
          readField slot (.array (front ++ w :: back)) := by
      rw [hlength] at hslot
      obtain rfl : FieldName.components = slot := Option.some.inj hslot
      exact readField_components_congr ih front back
    rw [toOption_array, toOption_array, toOption_fieldsOfElements_congr before after hread]
    simp only [List.length_append, List.length_cons]

end Param

/-! ## Members -/

namespace Member

/-- The slot of a field. -/
def Field.slot : Member.Field → Member.FieldName
  | .name _ => .name
  | .inputs _ => .inputs
  | .outputs _ => .outputs
  | .stateMutability _ => .stateMutability
  | .constant _ => .constant
  | .payable _ => .payable
  | .anonymous _ => .anonymous

/-- A field, or nothing where there is a fault. -/
def readField (slot : Member.FieldName) (v : Json) : Option Member.Field :=
  (Field.ofJson slot v).toOption

theorem toOption_fieldsOfMembers (kind : MemberKind) (members : List (String × Json)) :
    (fieldsOfMembers kind members).toOption = readKnown kind.field? readField members := by
  induction members with
  | nil => simp [fieldsOfMembers, readKnown, Except.toOption]
  | cons m rest ih =>
    obtain ⟨key, v⟩ := m
    rw [fieldsOfMembers, readKnown]
    cases kind.field? key with
    | none => exact ih
    | some slot =>
      simp only [readField]
      cases Field.ofJson slot v with
      | error e => rfl
      | ok field => exact (toOption_map _ _).trans (congrArg _ ih)

/-- No kind has a field with the key of the tag. -/
theorem field?_tagKey (kind : MemberKind) : kind.field? tagKey = none := by
  cases kind <;> decide

theorem toOption_ofMembers (kind : MemberKind) (members : List (String × Json)) :
    (ofMembers kind members).toOption =
      (readKnown kind.field? readField members).bind (ofFields? kind) := by
  rw [← toOption_fieldsOfMembers, ofMembers]
  cases fieldsOfMembers kind members with
  | error e => rfl
  | ok fields =>
    simp only [Except.toOption, Option.bind_some]
    cases ofFields? kind fields <;> rfl

/-- The kind of a member given as an object with these members. -/
def kindOf? (members : List (String × Json)) : Option MemberKind :=
  (members.lookup tagKey).bind fun tag => (MemberKind.ofJson tag).toOption

/-- The members of an object are read in the way of the kind that its tag names. -/
theorem toOption_object (members : List (String × Json)) :
    (Member.ofJson (.object members)).toOption =
      (kindOf? members).bind fun kind =>
        (readKnown kind.field? readField members).bind (ofFields? kind) := by
  rw [Member.ofJson, kindOf?]
  cases members.lookup tagKey with
  | none => rfl
  | some tag =>
    simp only [Option.bind_some]
    cases MemberKind.ofJson tag with
    | error e => rfl
    | ok kind =>
      have hrest : readKnown kind.field? readField (members.filter (·.1 != tagKey)) =
          readKnown kind.field? readField members :=
        readKnown_filter (· != tagKey) fun key hkey => by
          obtain rfl : key = tagKey := by simpa using hkey
          exact field?_tagKey kind
      exact (toOption_ofMembers kind _).trans (congrArg (·.bind (ofFields? kind)) hrest)

theorem FieldName.key_injective {slot slot' : FieldName} (h : slot.key = slot'.key) :
    slot = slot' := by
  cases slot <;> cases slot' <;> first | rfl | simp [key] at h

theorem slotted (kind : MemberKind) : Slotted kind.field? readField FieldName.key Field.slot where
  key key slot h := by simpa using List.find?_some h
  field slot v field h := by
    cases slot <;>
    · rw [readField, Field.ofJson, toOption_map] at h
      obtain ⟨-, -, rfl⟩ := Option.map_eq_some_iff.1 h
      rfl

theorem ofFields?_orderFree (kind : MemberKind) : OrderFree Field.slot (ofFields? kind) := by
  intro fields fields' hperm hslots
  have same {γ : Type} {f : Member.Field → Option γ} {slot : FieldName}
      (hf : ∀ field, f field ≠ none → field.slot = slot) :
      fields.findSome? f = fields'.findSome? f :=
    findSome?_reorder hf hperm hslots
  have hname : fields.findSome? (·.name?) = fields'.findSome? (·.name?) :=
    same fun | .name _, _ => rfl
  have hinputs : fields.findSome? (·.inputs?) = fields'.findSome? (·.inputs?) :=
    same fun | .inputs _, _ => rfl
  have houtputs : fields.findSome? (·.outputs?) = fields'.findSome? (·.outputs?) :=
    same fun | .outputs _, _ => rfl
  have hstateMutability :
      fields.findSome? (·.stateMutability?) = fields'.findSome? (·.stateMutability?) :=
    same fun | .stateMutability _, _ => rfl
  have hconstant : fields.findSome? (·.constant?) = fields'.findSome? (·.constant?) :=
    same fun | .constant _, _ => rfl
  have hpayable : fields.findSome? (·.payable?) = fields'.findSome? (·.payable?) :=
    same fun | .payable _, _ => rfl
  have hanonymous : fields.findSome? (·.anonymous?) = fields'.findSome? (·.anonymous?) :=
    same fun | .anonymous _, _ => rfl
  simp only [ofFields?, hname, hinputs, houtputs, hstateMutability, hconstant, hpayable,
    hanonymous]

/-- Two forms of a member that differ in what counts for nothing: the order of keys, keys that
its kind does not know, and the form of the parameters in it. -/
inductive Alike : Json → Json → Prop
  | refl (v : Json) : Alike v v
  | symm {v w : Json} : Alike v w → Alike w v
  | trans {u v w : Json} : Alike u v → Alike v w → Alike u w
  /-- The keys are in another order. -/
  | reorder {members members' : List (String × Json)} :
      (members.map Prod.fst).Nodup → members.Perm members' →
        Alike (.object members) (.object members')
  /-- One key more, that is not the tag and that the member's kind does not know. -/
  | unknown (before after : List (String × Json)) {key : String} (v : Json) :
      key ≠ tagKey → (∀ kind, kindOf? (before ++ after) = some kind → kind.field? key = none) →
        Alike (.object (before ++ after)) (.object (before ++ (key, v) :: after))
  /-- One parameter is given in another form. -/
  | param (before after : List (String × Json)) (front back : List Json) {slot : FieldName}
      {v w : Json} :
      slot = .inputs ∨ slot = .outputs → Param.Alike v w →
        Alike (.object (before ++ (slot.key, .array (front ++ v :: back)) :: after))
          (.object (before ++ (slot.key, .array (front ++ w :: back)) :: after))

theorem kindOf?_reorder {members members' : List (String × Json)}
    (hkeys : (members.map Prod.fst).Nodup) (hperm : members.Perm members') :
    kindOf? members = kindOf? members' := by
  rw [kindOf?, kindOf?, lookup_reorder tagKey hkeys hperm]

/-- The kind does not depend on what stands under another key than that of the tag. -/
theorem kindOf?_cons_other {key : String} (h : key ≠ tagKey) (v : Json)
    (before after : List (String × Json)) :
    kindOf? (before ++ (key, v) :: after) = kindOf? (before ++ after) := by
  have hother : (tagKey == key) = false := by simpa using Ne.symm h
  rw [kindOf?, kindOf?, List.lookup_append, List.lookup_append, List.lookup_cons, hother]

/-- What differs in nothing that counts is read as the same member, or as none. -/
theorem toOption_alike {v w : Json} (h : Alike v w) :
    (ofJson v).toOption = (ofJson w).toOption := by
  induction h with
  | refl v => rfl
  | symm _ ih => exact ih.symm
  | trans _ _ ih ih' => exact ih.trans ih'
  | reorder hkeys hperm =>
    rw [toOption_object, toOption_object, kindOf?_reorder hkeys hperm]
    exact Option.bind_congr fun kind _ =>
      (slotted kind).reorder (ofFields?_orderFree kind) hkeys hperm
  | unknown before after v htag hkey =>
    rw [toOption_object, toOption_object, kindOf?_cons_other htag]
    refine Option.bind_congr fun kind hkind => ?_
    rw [readKnown_unknown (hkey kind hkind) v before after]
  | @param before after front back slot v w hslot hparam =>
    have hother : slot.key ≠ tagKey := by rcases hslot with rfl | rfl <;> decide
    have hlist := Param.toOption_listOf_congr (Param.toOption_alike hparam) front back
    have hread : readField slot (.array (front ++ v :: back)) =
        readField slot (.array (front ++ w :: back)) := by
      rcases hslot with rfl | rfl <;>
        simp only [readField, Field.ofJson, Param.listOfJson, toOption_map, hlist]
    rw [toOption_object, toOption_object, kindOf?_cons_other hother, kindOf?_cons_other hother]
    refine Option.bind_congr fun kind _ => ?_
    have hslots (found : FieldName) (hfound : kind.field? slot.key = some found) :
        readField found (.array (front ++ v :: back)) =
          readField found (.array (front ++ w :: back)) := by
      obtain rfl : found = slot := FieldName.key_injective ((slotted kind).key _ found hfound)
      exact hread
    rw [readKnown_congr hslots before after]

end Member

/-! ## Interfaces -/

namespace Interface

theorem index?_of_readMember {index : Nat} {constructed : Bool} {v : Json} {e : Malformed}
    (h : readMember index constructed v = .error e) : e.index? = some index := by
  unfold readMember at h
  split at h
  · split at h
    · cases h
      rfl
    · split at h
      · cases h
        rfl
      · cases h
  · cases h
    rfl

/-- Reading a member depends on the member alone, and not on how it is given. -/
theorem toOption_readMember_object (index : Nat) (constructed : Bool)
    (members : List (String × Json)) :
    (readMember index constructed (.object members)).toOption =
      (Member.ofJson (.object members)).toOption.filter fun m =>
        !(constructed && m.kind == .constructor) := by
  rw [readMember]
  cases Member.ofJson (.object members) with
  | error fault => rfl
  | ok m =>
    by_cases hsecond : (constructed && m.kind == .constructor) = true
    · simp only [if_pos hsecond]
      simp [Except.toOption, Option.filter, hsecond]
    · simp only [if_neg hsecond]
      simp [Except.toOption, Option.filter, hsecond]

theorem toOption_readMember_alike {v w : Json} (h : Member.Alike v w) (index : Nat)
    (constructed : Bool) :
    (readMember index constructed v).toOption = (readMember index constructed w).toOption := by
  have hobject {members members' : List (String × Json)}
      (h : Member.Alike (.object members) (.object members')) :
      (readMember index constructed (.object members)).toOption =
        (readMember index constructed (.object members')).toOption := by
    rw [toOption_readMember_object, toOption_readMember_object, Member.toOption_alike h]
  induction h with
  | refl v => rfl
  | symm _ ih => exact ih.symm
  | trans _ _ ih ih' => exact ih.trans ih'
  | reorder hkeys hperm => exact hobject (.reorder hkeys hperm)
  | unknown before after v htag hkey => exact hobject (.unknown before after v htag hkey)
  | param before after front back hslot hparam =>
    exact hobject (.param before after front back hslot hparam)

/-- Members that differ in nothing that counts are sorted into the same interface, or one of them
is at fault in both lists. -/
theorem ofMembers_alike {abi abi' : List Json} (h : List.Forall₂ Member.Alike abi abi')
    (index : Nat) (constructed : Bool) :
    (∃ i, ofMembers index constructed abi = .ok i ∧ ofMembers index constructed abi' = .ok i) ∨
      ∃ e e' n, ofMembers index constructed abi = .error e ∧
        ofMembers index constructed abi' = .error e' ∧ e.index? = some n ∧ e'.index? = some n := by
  induction h generalizing index constructed with
  | nil => exact .inl ⟨{}, rfl, rfl⟩
  | @cons v w rest rest' hmember _ ih =>
    have hread := toOption_readMember_alike hmember index constructed
    rw [ofMembers, ofMembers]
    cases hv : readMember index constructed v with
    | error e =>
      cases hw : readMember index constructed w with
      | error e' => exact .inr ⟨e, e', index, rfl, rfl, index?_of_readMember hv,
          index?_of_readMember hw⟩
      | ok m => simp [hv, hw, Except.toOption] at hread
    | ok m =>
      cases hw : readMember index constructed w with
      | error e' => simp [hv, hw, Except.toOption] at hread
      | ok m' =>
        obtain rfl : m = m' := by simpa [hv, hw, Except.toOption] using hread
        rcases ih (index + 1) (constructed || m.kind == .constructor) with
          ⟨i, h, h'⟩ | ⟨e, e', n, h, h', hn, hn'⟩
        · exact .inl ⟨withMember m i, by simp only [h]; rfl, by simp only [h']; rfl⟩
        · exact .inr ⟨e, e', n, by simp only [h]; rfl, by simp only [h']; rfl, hn, hn'⟩

end Interface

end ContractBindings.Abi

namespace ContractBindings.TypeScript

open Abi (Interface Member)

/-- Two bindings that declare the same types. Their constants and modules may differ. -/
structure Binding.SameTypes (b b' : Binding) : Prop where
  header : b.header = b'.header
  contractInterface : b.contractInterface = b'.contractInterface
  events : b.events = b'.events
  constructorParams : b.constructorParams = b'.constructorParams
  deployType : b.deployType = b'.deployType

/-- Two ABIs whose members differ in nothing that counts have the same interface, and the types
that are declared for a contract with either are the same; or both are malformed, at the same
member. -/
theorem interface_alike {abi abi' : List Json} (h : List.Forall₂ Member.Alike abi abi') :
    (∃ i, Interface.ofJson (.array abi) = .ok i ∧ Interface.ofJson (.array abi') = .ok i ∧
      ∀ (contract : String) (options : Options),
        (Subject.binding ⟨contract, i, .array abi, options⟩).SameTypes
          (Subject.binding ⟨contract, i, .array abi', options⟩)) ∨
      ∃ e e' n, Interface.ofJson (.array abi) = .error e ∧
        Interface.ofJson (.array abi') = .error e' ∧ e.index? = some n ∧ e'.index? = some n := by
  rcases Interface.ofMembers_alike h 0 false with ⟨i, hi, hi'⟩ | hfault
  · exact .inl ⟨i, hi, hi', fun _ _ => ⟨rfl, rfl, rfl, rfl, rfl⟩⟩
  · exact .inr hfault

/-- The component of a parameter gets its keys in another order, and so does the function, which
also gets a key that functions do not know. -/
theorem interface_alike_moved :
    let plain : Json := .object [("name", .text "x"), ("type", .text "uint256")]
    let moved : Json := .object [("type", .text "uint256"), ("name", .text "x")]
    let input (component : Json) : Json :=
      .object [("name", .text "p"), ("type", .text "tuple"), ("components", .array [component])]
    let abi : List Json :=
      [.object [("type", .text "function"), ("name", .text "f"), ("inputs", .array [input plain])]]
    let abi' : List Json :=
      [.object [("anonymous", .null), ("inputs", .array [input moved]), ("name", .text "f"),
        ("type", .text "function")]]
    List.Forall₂ Member.Alike abi abi' ∧
      ∃ i, Interface.ofJson (.array abi) = .ok i ∧ Interface.ofJson (.array abi') = .ok i ∧
        ∀ (contract : String) (options : Options),
          (Subject.binding ⟨contract, i, .array abi, options⟩).SameTypes
            (Subject.binding ⟨contract, i, .array abi', options⟩) := by
  intro plain moved input abi abi'
  have hinput : Abi.Param.Alike (input plain) (input moved) :=
    .component [("name", .text "p"), ("type", .text "tuple")] [] [] []
      (.reorder (by decide) (.swap ..))
  have hparam := Member.Alike.param [("type", .text "function"), ("name", .text "f")] [] [] []
    (.inl rfl) hinput
  have horder := Member.Alike.reorder (by decide) (List.reverse_perm
    [("inputs", .array [input moved]), ("name", .text "f"), ("type", .text "function")])
  have hunknown := Member.Alike.unknown []
    [("inputs", .array [input moved]), ("name", .text "f"), ("type", .text "function")] .null
    (by decide : "anonymous" ≠ Member.tagKey) fun kind hkind => by
      obtain rfl : Abi.MemberKind.function = kind := Option.some.inj hkind
      decide
  have halike : List.Forall₂ Member.Alike abi abi' :=
    .cons (hparam.trans (horder.trans hunknown)) .nil
  refine ⟨halike, (interface_alike halike).resolve_right ?_⟩
  rintro ⟨e, e', n, h, -⟩
  cases h

end ContractBindings.TypeScript

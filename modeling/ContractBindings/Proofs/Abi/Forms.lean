import ContractBindings.Proofs.Abi.Alike

/-!
# The forms of a member

A member can be given in several ways: what it holds nothing for is left out or written out, a
parameter is an object or the array of its fields, a mutability is a name or an object with that
name as its key. Every one of them is read as the same member.

1. `Member.Form`: the forms of a member. Those of a parameter, `Param.Form`, follow its components,
   so that each of them may have a form of its own.
2. `exists_readKnown`, `Slotted.findSome?`: the members of an object are read if the known ones are,
   and a slot has the value that stands under its key.
3. `Param.ofJson_of_form`: a parameter is read from each of its forms, by induction on its
   components.
4. `Member.ofFields?_eq`: the fields that are read are put together as the member.
5. `Member.eq_of_form`: a member is read from each of its forms.
-/

namespace ContractBindings.Abi

open Json (ShapeFault)

/-! ## Forms -/

/-- What an object has under a key is of a form, or the key is missing where it may be. -/
def Under (members : List (String × Json)) (key : String) (omissible : Prop)
    (form : Json → Prop) : Prop :=
  match members.lookup key with
  | none => omissible
  | some v => form v

/-- The forms of what need not be given: `null` if it is not, and its own form if it is. -/
def Nullable {α : Type} (form : α → Json → Prop) : Option α → Json → Prop
  | none, v => v = .null
  | some a, v => form a v

/-- The form of a text. -/
def TextForm (s : String) (v : Json) : Prop := v = .text s

/-- The form of a truth value. -/
def BooleanForm (b : Bool) (v : Json) : Prop := v = .bool b

/-- The forms of a mutability: its name, or an object with its name as the only key. -/
def MutabilityForm (m : Mutability) (v : Json) : Prop :=
  v = .text m.name ∨ v = .object [(m.name, .null)] ∨ v = .object [(m.name, .object [])]

/-- The values of a record by key: given as an object, or as an array that holds the first of them
in the order of the keys. -/
inductive Record (keys : List String) : Json → List (String × Json) → Prop
  | object {members : List (String × Json)} : (members.map Prod.fst).Nodup →
      Record keys (.object members) members
  | array {elements : List Json} : elements.length ≤ keys.length →
      Record keys (.array elements) (keys.zip elements)

mutual

/-- The forms of a parameter. -/
def Param.Form : Param → Json → Prop
  | .mk name type internalType indexed components, v =>
    ∃ members, Record ["name", "type", "internalType", "indexed", "components"] v members ∧
      Under members "name" (name = "") (TextForm name) ∧
      Under members "type" False (TextForm type) ∧
      Under members "internalType" (internalType = none) (Nullable TextForm internalType) ∧
      Under members "indexed" (indexed = none) (Nullable BooleanForm indexed) ∧
      Under members "components" (components = []) fun v =>
        ∃ elements, v = .array elements ∧ Param.Forms components elements

/-- The forms of several parameters, one by one. -/
def Param.Forms : List Param → List Json → Prop
  | [], [] => True
  | p :: ps, v :: vs => Param.Form p v ∧ Param.Forms ps vs
  | [], _ :: _ => False
  | _ :: _, [] => False

end

/-- The form of a list of parameters. -/
def ParamsForm (ps : List Param) (v : Json) : Prop :=
  ∃ elements, v = .array elements ∧ Param.Forms ps elements

/-- What a member holds, field by field. -/
def Member.fields : Member → List Member.Field
  | .function f => [.name f.name, .inputs f.inputs, .outputs f.outputs,
      .stateMutability f.stateMutability, .constant f.constant, .payable f.payable]
  | .event e => [.name e.name, .inputs e.inputs, .anonymous e.anonymous]
  | .constructor c => [.inputs c.inputs, .stateMutability c.stateMutability]
  | .error e => [.name e.name, .inputs e.inputs]
  | .fallback m | .receive m => [.stateMutability m]

namespace Member.Field

/-- The key of a field in JSON. -/
def key : Member.Field → String
  | .name _ => "name"
  | .inputs _ => "inputs"
  | .outputs _ => "outputs"
  | .stateMutability _ => "stateMutability"
  | .constant _ => "constant"
  | .payable _ => "payable"
  | .anonymous _ => "anonymous"

/-- The field may be left out: it holds nothing. -/
def Omissible : Member.Field → Prop
  | .name _ => False
  | .inputs ps | .outputs ps => ps = []
  | .stateMutability m => m = none
  | .constant b | .payable b => b = none
  | .anonymous b => b = false

/-- The forms of the value of a field. -/
def Form : Member.Field → Json → Prop
  | .name s => TextForm s
  | .inputs ps | .outputs ps => ParamsForm ps
  | .stateMutability m => Nullable MutabilityForm m
  | .constant b | .payable b => Nullable BooleanForm b
  | .anonymous b => BooleanForm b

end Member.Field

/-- The forms of a member: objects that have its tag, and each of its fields in one of its forms. -/
def Member.Form (m : Member) (v : Json) : Prop :=
  ∃ members, v = .object members ∧ (members.map Prod.fst).Nodup ∧
    Under members "type" False (TextForm m.kind.tag) ∧
    ∀ field ∈ m.fields, Under members field.key field.Omissible field.Form

/-! ## Values by key -/

theorem Under.imp {members : List (String × Json)} {key : String} {omissible : Prop}
    {form form' : Json → Prop} (h : Under members key omissible form)
    (himp : ∀ v, form v → form' v) : Under members key omissible form' := by
  unfold Under at h ⊢
  split
  · next hnone => simpa [hnone] using h
  · next v hv => exact himp v (by simpa [hv] using h)

theorem Under.of_lookup {members : List (String × Json)} {key : String} {omissible : Prop}
    {form : Json → Prop} (h : Under members key omissible form) {v : Json}
    (hv : members.lookup key = some v) : form v := by
  simpa [Under, hv] using h

section Slots

variable {σ α γ : Type} {known : String → Option σ} {read : σ → Json → Option α}
  {members : List (String × Json)} {fields : List α} {keyOf : σ → String} {slotOf : α → σ}
  {slot : σ}

/-- An object can be read if the value of each known key can be. -/
theorem exists_readKnown (hkeys : (members.map Prod.fst).Nodup)
    (h : ∀ key slot v, known key = some slot → members.lookup key = some v →
      ∃ field, read slot v = some field) :
    ∃ fields, readKnown known read members = some fields := by
  induction members with
  | nil => exact ⟨[], rfl⟩
  | cons m rest ih =>
    obtain ⟨key, v⟩ := m
    rw [List.map_cons, List.nodup_cons] at hkeys
    have hrest : ∀ key slot v, known key = some slot → rest.lookup key = some v →
        ∃ field, read slot v = some field := by
      intro key' slot v' hknown hv'
      refine h key' slot v' hknown ?_
      have hmem : key' ∈ rest.map Prod.fst := by
        obtain ⟨before, after, rfl, -⟩ := List.lookup_eq_some_iff.1 hv'
        simp
      have hne : (key' == key) = false := by
        refine beq_false_of_ne fun heq => ?_
        exact hkeys.1 (heq ▸ hmem)
      rw [List.lookup_cons, hne, hv']
    obtain ⟨fields, hfields⟩ := ih hkeys.2 hrest
    cases hknown : known key with
    | none => exact ⟨fields, by rw [readKnown_cons_none hknown, hfields]⟩
    | some slot =>
      obtain ⟨field, hfield⟩ := h key slot v hknown List.lookup_cons_self
      exact ⟨field :: fields, by rw [readKnown_cons_some hknown, hfield, hfields]; rfl⟩

/-- The value of a slot is the one that is read under its key. -/
theorem Slotted.findSome? (hslotted : Slotted known read keyOf slotOf)
    (h : readKnown known read members = some fields) (hknown : known (keyOf slot) = some slot)
    [DecidableEq σ] {f : α → Option γ}
    (hf : ∀ field, (f field).isSome = decide (slotOf field = slot)) :
    fields.findSome? f =
      (members.lookup (keyOf slot)).bind fun v => (read slot v).bind f := by
  induction members generalizing fields with
  | nil =>
    obtain rfl := Option.some.inj h
    rfl
  | cons m rest ih =>
    obtain ⟨key, v⟩ := m
    have hother (hne : key ≠ keyOf slot) :
        ((key, v) :: rest).lookup (keyOf slot) = rest.lookup (keyOf slot) := by
      rw [List.lookup_cons, beq_false_of_ne hne.symm]
    cases hkey : known key with
    | none =>
      rw [readKnown_cons_none hkey] at h
      have hne : key ≠ keyOf slot := by
        rintro rfl
        simp [hknown] at hkey
      rw [hother hne, ih h]
    | some slot' =>
      rw [readKnown_cons_some hkey] at h
      obtain ⟨field, hfield, hmore⟩ := Option.bind_eq_some_iff.1 h
      obtain ⟨more, hread, rfl⟩ := Option.map_eq_some_iff.1 hmore
      have hslot : slotOf field = slot' := hslotted.field slot' v field hfield
      by_cases hsame : slot' = slot
      · subst hsame
        obtain rfl := hslotted.key key slot' hkey
        obtain ⟨x, hx⟩ := Option.isSome_iff_exists.1 ((hf field).trans (decide_eq_true hslot))
        rw [List.findSome?_cons, hx, List.lookup_cons_self, Option.bind_some, hfield,
          Option.bind_some, hx]
      · have hne : key ≠ keyOf slot := by
          rintro rfl
          exact hsame (Option.some.inj (hkey.symm.trans hknown))
        have hnone : f field = none := by simpa [hslot, hsame] using hf field
        rw [List.findSome?_cons, hnone, hother hne, ih hread]

/-- A slot has the value that is given for it, or none where it may be left out. -/
theorem Slotted.findSome?_under (hslotted : Slotted known read keyOf slotOf)
    (h : readKnown known read members = some fields) (hknown : known (keyOf slot) = some slot)
    [DecidableEq σ] {f : α → Option γ}
    (hf : ∀ field, (f field).isSome = decide (slotOf field = slot)) {field : α} {x : γ}
    {omissible : Prop} (hfield : f field = some x)
    (hunder : Under members (keyOf slot) omissible fun v => read slot v = some field) :
    fields.findSome? f = some x ∨ omissible ∧ fields.findSome? f = none := by
  rw [hslotted.findSome? h hknown hf]
  unfold Under at hunder
  split at hunder
  · next hnone => exact .inr ⟨hunder, by rw [hnone]; rfl⟩
  · next v hv => exact .inl (by rw [hv, Option.bind_some, hunder, Option.bind_some, hfield])

theorem Slotted.known_of_mem (hslotted : Slotted known read keyOf slotOf)
    (h : readKnown known read members = some fields) {field : α} (hmem : field ∈ fields) :
    ∃ key, known key = some (slotOf field) := by
  induction members generalizing fields with
  | nil =>
    obtain rfl := Option.some.inj h
    simp at hmem
  | cons m rest ih =>
    obtain ⟨key, v⟩ := m
    cases hkey : known key with
    | none =>
      rw [readKnown_cons_none hkey] at h
      exact ih h hmem
    | some slot =>
      rw [readKnown_cons_some hkey] at h
      obtain ⟨first, hfirst, hmore⟩ := Option.bind_eq_some_iff.1 h
      obtain ⟨more, hread, rfl⟩ := Option.map_eq_some_iff.1 hmore
      rcases List.mem_cons.1 hmem with rfl | hmem
      · exact ⟨key, by rw [hkey, hslotted.field slot v field hfirst]⟩
      · exact ih hread hmem

theorem getD_of_under {found : Option γ} {x d : γ} (h : found = some x ∨ x = d ∧ found = none) :
    found.getD d = x := by
  rcases h with rfl | ⟨rfl, rfl⟩ <;> rfl

end Slots

/-! ## Texts, truth values, mutabilities -/

theorem ok_of_toOption {ε α : Type} {x : Except ε α} {a : α} (h : x.toOption = some a) :
    x = .ok a := by
  cases x with
  | error _ => simp [Except.toOption] at h
  | ok _ => exact congrArg Except.ok (Option.some.inj h)

theorem toText_of_form {s : String} {v : Json} (h : TextForm s v) : v.toText = .ok s := by
  subst h
  rfl

theorem toBoolean_of_form {b : Bool} {v : Json} (h : BooleanForm b v) : v.toBoolean = .ok b := by
  subst h
  rfl

theorem mutability_of_form {m : Mutability} {v : Json} (h : MutabilityForm m v) :
    Mutability.ofJson v = .ok m := by
  rcases h with rfl | rfl | rfl <;> cases m <;> rfl

/-- What need not be given is read as given, if its own forms are, and `null` is none of them. -/
theorem toOptional_of_form {α : Type} {form : α → Json → Prop}
    {reader : Json → Except ShapeFault α} (hread : ∀ a v, form a v → reader v = .ok a)
    (hnull : ∀ a, ¬form a .null) {o : Option α} {v : Json} (h : Nullable form o v) :
    v.toOptional reader = .ok o := by
  cases o with
  | none =>
    obtain rfl : v = .null := h
    rfl
  | some a =>
    have hform : form a v := h
    have hok := hread a v hform
    cases v with
    | null => exact absurd hform (hnull a)
    | _ => simp only [Json.toOptional, hok, Except.map]

theorem toOptional_text {o : Option String} {v : Json} (h : Nullable TextForm o v) :
    v.toOptional Json.toText = .ok o := by
  refine toOptional_of_form ?_ ?_ h
  · exact fun _ _ => toText_of_form
  · simp [TextForm]

theorem toOptional_boolean {o : Option Bool} {v : Json} (h : Nullable BooleanForm o v) :
    v.toOptional Json.toBoolean = .ok o := by
  refine toOptional_of_form ?_ ?_ h
  · exact fun _ _ => toBoolean_of_form
  · simp [BooleanForm]

theorem toOptional_mutability {o : Option Mutability} {v : Json}
    (h : Nullable MutabilityForm o v) : v.toOptional Mutability.ofJson = .ok o := by
  refine toOptional_of_form ?_ ?_ h
  · exact fun _ _ => mutability_of_form
  · simp [MutabilityForm]

/-! ## Parameters -/

namespace Param

theorem fieldsOfElements_eq (slots : List FieldName) (elements : List Json) :
    fieldsOfElements slots elements = fieldsOfMembers ((slots.map FieldName.key).zip elements) := by
  induction slots generalizing elements with
  | nil => simp [fieldsOfElements, fieldsOfMembers]
  | cons slot slots ih =>
    cases elements with
    | nil => simp [fieldsOfElements, fieldsOfMembers]
    | cons v rest =>
      have hkey : FieldName.ofKey? slot.key = some slot := by cases slot <;> rfl
      rw [List.map_cons, List.zip_cons_cons, fieldsOfElements, fieldsOfMembers, hkey, ih]

/-- A record is read in the same way in both of its forms. -/
theorem toOption_record {v : Json} {members : List (String × Json)}
    (h : Record (FieldName.all.map FieldName.key) v members) :
    (members.map Prod.fst).Nodup ∧
      (ofJson v).toOption = (readKnown FieldName.ofKey? readField members).bind ofFields? := by
  cases h with
  | object hkeys => exact ⟨hkeys, toOption_object members⟩
  | @array elements hlength =>
    refine ⟨?_, ?_⟩
    · rw [List.zip_eq_zip_take_min, List.map_fst_zip (by simp)]
      exact List.Nodup.sublist (List.take_sublist ..) (by decide)
    · have hfits : elements.length ≤ FieldName.all.length := by simpa using hlength
      rw [toOption_array, fieldsOfElements_eq, toOption_fieldsOfMembers]
      simp [hfits]

/-- A parameter is put together from the values under its keys. -/
theorem readKnown_eq {name type : String} {internalType : Option String} {indexed : Option Bool}
    {components : List Param} {members : List (String × Json)}
    (hkeys : (members.map Prod.fst).Nodup)
    (hname : Under members "name" (name = "") fun v => readField .name v = some (.name name))
    (htype : Under members "type" False fun v => readField .type v = some (.type type))
    (hinternalType : Under members "internalType" (internalType = none) fun v =>
      readField .internalType v = some (.internalType internalType))
    (hindexed : Under members "indexed" (indexed = none) fun v =>
      readField .indexed v = some (.indexed indexed))
    (hcomponents : Under members "components" (components = []) fun v =>
      readField .components v = some (.components components)) :
    (readKnown FieldName.ofKey? readField members).bind ofFields? =
      some (.mk name type internalType indexed components) := by
  obtain ⟨fields, hfields⟩ :
      ∃ fields, readKnown FieldName.ofKey? readField members = some fields := by
    refine exists_readKnown hkeys fun key slot v hknown hv => ?_
    obtain rfl := slotted.key key slot hknown
    cases slot with
    | name => exact ⟨_, hname.of_lookup hv⟩
    | type => exact ⟨_, htype.of_lookup hv⟩
    | internalType => exact ⟨_, hinternalType.of_lookup hv⟩
    | indexed => exact ⟨_, hindexed.of_lookup hv⟩
    | components => exact ⟨_, hcomponents.of_lookup hv⟩
  have found {γ : Type} (slot : FieldName) {f : Field → Option γ} {field : Field} {x : γ}
      {omissible : Prop} (hf : ∀ field, (f field).isSome = decide (field.slot = slot))
      (hfield : f field = some x)
      (hunder : Under members slot.key omissible fun v => readField slot v = some field) :
      fields.findSome? f = some x ∨ omissible ∧ fields.findSome? f = none :=
    slotted.findSome?_under hfields (by cases slot <;> rfl) hf hfield hunder
  have hname : fields.findSome? (·.name?) = some name ∨ _ :=
    found .name (fun field => by cases field <;> rfl) rfl hname
  have htype : fields.findSome? (·.type?) = some type ∨ _ :=
    found .type (fun field => by cases field <;> rfl) rfl htype
  have hinternalType : fields.findSome? (·.internalType?) = some internalType ∨ _ :=
    found .internalType (fun field => by cases field <;> rfl) rfl hinternalType
  have hindexed : fields.findSome? (·.indexed?) = some indexed ∨ _ :=
    found .indexed (fun field => by cases field <;> rfl) rfl hindexed
  have hcomponents : fields.findSome? (·.components?) = some components ∨ _ :=
    found .components (fun field => by cases field <;> rfl) rfl hcomponents
  rw [hfields, Option.bind_some, ofFields?, htype.resolve_right And.left, getD_of_under hname,
    getD_of_under hinternalType, getD_of_under hindexed, getD_of_under hcomponents]
  rfl

theorem readField_components {ps : List Param} {v : Json}
    (h : ∃ elements, v = .array elements ∧ listOf elements = .ok ps) :
    readField .components v = some (.components ps) := by
  obtain ⟨elements, rfl, hread⟩ := h
  rw [readField, fieldOf, hread]
  rfl

mutual

/-- A parameter is read from each of its forms. -/
theorem ofJson_of_form : ∀ (p : Param) (v : Json), Form p v → ofJson v = .ok p
  | .mk name type internalType indexed components, v, h => by
    rw [Form] at h
    obtain ⟨members, hrecord, hname, htype, hinternalType, hindexed, hcomponents⟩ := h
    obtain ⟨hkeys, hread⟩ := toOption_record hrecord
    refine ok_of_toOption (hread.trans (readKnown_eq hkeys ?_ ?_ ?_ ?_ ?_))
    · refine hname.imp fun v hv => ?_
      rw [readField, fieldOf, toText_of_form hv]
      rfl
    · refine htype.imp fun v hv => ?_
      rw [readField, fieldOf, toText_of_form hv]
      rfl
    · refine hinternalType.imp fun v hv => ?_
      rw [readField, fieldOf, toOptional_text hv]
      rfl
    · refine hindexed.imp fun v hv => ?_
      rw [readField, fieldOf, toOptional_boolean hv]
      rfl
    · refine hcomponents.imp fun v hv => ?_
      obtain ⟨elements, rfl, hforms⟩ := hv
      exact readField_components ⟨elements, rfl, listOf_of_forms components elements hforms⟩

theorem listOf_of_forms :
    ∀ (ps : List Param) (elements : List Json), Forms ps elements → listOf elements = .ok ps
  | [], [], _ => by rw [listOf]
  | p :: ps, v :: elements, h => by
    rw [Forms] at h
    rw [listOf, ofJson_of_form p v h.1, listOf_of_forms ps elements h.2]
    rfl
  | [], _ :: _, h => by simp [Forms] at h
  | _ :: _, [], h => by simp [Forms] at h

end

theorem listOfJson_of_form {ps : List Param} {v : Json} (h : ParamsForm ps v) :
    listOfJson v = .ok ps := by
  obtain ⟨elements, rfl, hforms⟩ := h
  exact listOf_of_forms ps elements hforms

end Param

/-! ## Members -/

namespace Member

theorem readField_of_form {field : Member.Field} {v : Json} (h : field.Form v) :
    readField field.slot v = some field := by
  cases field with
  | name s => rw [Field.slot, readField, Field.ofJson, toText_of_form h]; rfl
  | inputs ps => rw [Field.slot, readField, Field.ofJson, Param.listOfJson_of_form h]; rfl
  | outputs ps => rw [Field.slot, readField, Field.ofJson, Param.listOfJson_of_form h]; rfl
  | stateMutability m => rw [Field.slot, readField, Field.ofJson, toOptional_mutability h]; rfl
  | constant b => rw [Field.slot, readField, Field.ofJson, toOptional_boolean h]; rfl
  | payable b => rw [Field.slot, readField, Field.ofJson, toOptional_boolean h]; rfl
  | anonymous b => rw [Field.slot, readField, Field.ofJson, toBoolean_of_form h]; rfl

theorem Field.key_slot (field : Member.Field) : field.slot.key = field.key := by
  cases field <;> rfl

theorem slots_fields (m : Member) : m.fields.map Field.slot = m.kind.fields := by
  cases m <;> rfl

theorem field?_key {kind : MemberKind} {slot : FieldName} (h : slot ∈ kind.fields) :
    kind.field? slot.key = some slot := by
  cases hfound : kind.field? slot.key with
  | none =>
    have hother := List.find?_eq_none.1 hfound slot h
    simp at hother
  | some found =>
    have hkey : found.key = slot.key := (slotted kind).key slot.key found hfound
    rw [FieldName.key_injective hkey]

section Fields

variable {m : Member} {members : List (String × Json)} {fields : List Member.Field}

/-- What an object has under the key of a field of a member is read as that field. -/
theorem under_slot (h : ∀ field ∈ m.fields, Under members field.key field.Omissible field.Form)
    {field : Member.Field} (hfield : field ∈ m.fields) :
    Under members field.slot.key field.Omissible fun v => readField field.slot v = some field := by
  rw [Field.key_slot]
  exact (h field hfield).imp fun v hv => readField_of_form hv

theorem exists_fields (hkeys : (members.map Prod.fst).Nodup)
    (h : ∀ field ∈ m.fields, Under members field.key field.Omissible field.Form) :
    ∃ fields, readKnown m.kind.field? readField members = some fields := by
  refine exists_readKnown hkeys fun key slot v hknown hv => ?_
  obtain rfl := (slotted m.kind).key key slot hknown
  have hslot : slot ∈ m.kind.fields := List.mem_of_find?_eq_some hknown
  rw [← slots_fields] at hslot
  obtain ⟨field, hfield, rfl⟩ := List.mem_map.1 hslot
  exact ⟨field, (under_slot h hfield).of_lookup hv⟩

/-- The value of a slot is read as the member has it, if it is not left out. -/
theorem findSome?_fields
    (h : ∀ field ∈ m.fields, Under members field.key field.Omissible field.Form)
    (hfields : readKnown m.kind.field? readField members = some fields) {γ : Type}
    (slot : FieldName) {f : Member.Field → Option γ}
    (hf : ∀ field, (f field).isSome = decide (field.slot = slot)) :
    fields.findSome? f = m.fields.findSome? f ∨
      fields.findSome? f = none ∧
        ∃ field x, field.Omissible ∧ f field = some x ∧ m.fields.findSome? f = some x := by
  cases hfound : m.fields.findSome? f with
  | some x =>
    obtain ⟨field, hfield, hx⟩ := List.exists_of_findSome?_eq_some hfound
    obtain rfl : field.slot = slot := by simpa [hx] using hf field
    have hmem : field.slot ∈ m.kind.fields := slots_fields m ▸ List.mem_map_of_mem hfield
    rcases (slotted m.kind).findSome?_under hfields (field?_key hmem) hf hx (under_slot h hfield)
      with hsome | ⟨homit, hnone⟩
    · exact .inl hsome
    · exact .inr ⟨hnone, field, x, homit, hx, rfl⟩
  | none =>
    -- the fields of the kind are those of the member, and none of them is of the slot
    left
    rw [List.findSome?_eq_none_iff] at hfound ⊢
    intro field hfield
    obtain ⟨key, hkey⟩ := (slotted m.kind).known_of_mem hfields hfield
    have hslot : field.slot ∈ m.kind.fields := List.mem_of_find?_eq_some hkey
    rw [← slots_fields] at hslot
    obtain ⟨own, hown, hsame⟩ := List.mem_map.1 hslot
    have hnone : decide (own.slot = slot) = false := by rw [← hf own, hfound own hown]; rfl
    rw [hsame, ← hf field] at hnone
    exact Option.isNone_iff_eq_none.1 (by simpa using hnone)

/-- A slot has the value of the member's field, where what is left out has a default value. -/
theorem getD_findSome?_fields
    (h : ∀ field ∈ m.fields, Under members field.key field.Omissible field.Form)
    (hfields : readKnown m.kind.field? readField members = some fields) {γ : Type}
    (slot : FieldName) {f : Member.Field → Option γ}
    (hf : ∀ field, (f field).isSome = decide (field.slot = slot)) {d : γ}
    (hd : ∀ field x, field.Omissible → f field = some x → x = d) :
    (fields.findSome? f).getD d = (m.fields.findSome? f).getD d := by
  rcases findSome?_fields h hfields slot hf with hsame | ⟨hnone, field, x, homit, hx, hfound⟩
  · rw [hsame]
  · rw [hnone, hfound, hd field x homit hx]
    rfl

/-- The fields that are read are put together as the member. -/
theorem ofFields?_eq (h : ∀ field ∈ m.fields, Under members field.key field.Omissible field.Form)
    (hfields : readKnown m.kind.field? readField members = some fields) :
    ofFields? m.kind fields = some m := by
  have hname : fields.findSome? (·.name?) = m.fields.findSome? (·.name?) := by
    have hslot (field : Member.Field) : field.name?.isSome = decide (field.slot = .name) := by
      cases field <;> rfl
    rcases findSome?_fields h hfields .name hslot with hsame | ⟨-, field, x, homit, hx, -⟩
    · exact hsame
    · cases field <;> simp_all [Field.Omissible, Field.name?]
  have hinputs :
      (fields.findSome? (·.inputs?)).getD [] = (m.fields.findSome? (·.inputs?)).getD [] :=
    getD_findSome?_fields h hfields .inputs (fun field => by cases field <;> rfl)
      fun field ps homit hps => by cases field <;> simp_all [Field.Omissible, Field.inputs?]
  have houtputs :
      (fields.findSome? (·.outputs?)).getD [] = (m.fields.findSome? (·.outputs?)).getD [] :=
    getD_findSome?_fields h hfields .outputs (fun field => by cases field <;> rfl)
      fun field ps homit hps => by cases field <;> simp_all [Field.Omissible, Field.outputs?]
  have hstateMutability : (fields.findSome? (·.stateMutability?)).getD none =
      (m.fields.findSome? (·.stateMutability?)).getD none :=
    getD_findSome?_fields h hfields .stateMutability (fun field => by cases field <;> rfl)
      fun field x homit hx => by
        cases field <;> simp_all [Field.Omissible, Field.stateMutability?]
  have hconstant : (fields.findSome? (·.constant?)).getD none =
      (m.fields.findSome? (·.constant?)).getD none :=
    getD_findSome?_fields h hfields .constant (fun field => by cases field <;> rfl)
      fun field x homit hx => by cases field <;> simp_all [Field.Omissible, Field.constant?]
  have hpayable : (fields.findSome? (·.payable?)).getD none =
      (m.fields.findSome? (·.payable?)).getD none :=
    getD_findSome?_fields h hfields .payable (fun field => by cases field <;> rfl)
      fun field x homit hx => by cases field <;> simp_all [Field.Omissible, Field.payable?]
  have hanonymous : (fields.findSome? (·.anonymous?)).getD false =
      (m.fields.findSome? (·.anonymous?)).getD false :=
    getD_findSome?_fields h hfields .anonymous (fun field => by cases field <;> rfl)
      fun field b homit hb => by cases field <;> simp_all [Field.Omissible, Field.anonymous?]
  have hsame : ofFields? m.kind fields = ofFields? m.kind m.fields := by
    simp only [ofFields?, hname, hinputs, houtputs, hstateMutability, hconstant, hpayable,
      hanonymous]
  rw [hsame]
  cases m <;> rfl

end Fields

theorem kindOf?_of_under {members : List (String × Json)} {kind : MemberKind}
    (h : Under members tagKey False (TextForm kind.tag)) : kindOf? members = some kind := by
  unfold Under at h
  split at h
  · exact h.elim
  · next v hv =>
    rw [kindOf?, hv, Option.bind_some, h]
    cases kind <;> rfl

/-- A member is read from each of its forms: no field is lost, and none is taken for another. -/
theorem eq_of_form (m : Member) (v : Json) (h : m.Form v) : Member.ofJson v = .ok m := by
  obtain ⟨members, rfl, hkeys, htag, hforms⟩ := h
  obtain ⟨fields, hfields⟩ := exists_fields hkeys hforms
  refine ok_of_toOption ?_
  rw [toOption_object, kindOf?_of_under htag, Option.bind_some, hfields, Option.bind_some,
    ofFields?_eq hforms hfields]

end Member

/-- A function whose one input is a tuple. -/
def Member.tupled : Member :=
  .function ⟨"store", [.mk "p" "tuple" none none [.mk "" "bool" none none []]], [], some .view,
    none, none⟩

/-- A form of it, with keys in another order and one key more, the tuple as an array and its
component as an object, and of the fields without a value one as `null` and the others left out. -/
def Member.tupledForm : Json :=
  .object [("stateMutability", .object [("view", .null)]), ("gas", .text "low"),
    ("constant", .null), ("type", .text "function"),
    ("inputs", .array [.array [.text "p", .text "tuple", .null, .null,
      .array [.object [("type", .text "bool")]]]]),
    ("name", .text "store")]

theorem Param.form_tuple :
    Param.Form (.mk "p" "tuple" none none [.mk "" "bool" none none []])
      (.array [.text "p", .text "tuple", .null, .null,
        .array [.object [("type", .text "bool")]]]) := by
  have hbool : Param.Form (.mk "" "bool" none none []) (.object [("type", .text "bool")]) := by
    rw [Param.Form]
    exact ⟨_, .object (by decide), rfl, rfl, rfl, rfl, rfl⟩
  rw [Param.Form]
  refine ⟨_, .array (by decide), rfl, rfl, rfl, rfl, _, rfl, ?_⟩
  rw [Param.Forms, Param.Forms]
  exact ⟨hbool, trivial⟩

theorem Member.eq_of_form_tupled :
    Member.tupled.Form Member.tupledForm ∧
      Member.ofJson Member.tupledForm = .ok Member.tupled := by
  have hform : Member.tupled.Form Member.tupledForm := by
    refine ⟨_, rfl, by decide, rfl, ?_⟩
    intro field hfield
    simp only [Member.fields, Member.tupled, List.mem_cons, List.not_mem_nil, or_false] at hfield
    rcases hfield with rfl | rfl | rfl | rfl | rfl | rfl
    · exact (rfl : TextForm "store" _)
    · refine ⟨_, rfl, ?_⟩
      rw [Param.Forms, Param.Forms]
      exact ⟨Param.form_tuple, trivial⟩
    · exact (rfl : ([] : List Param) = [])
    · exact .inr (.inl rfl)
    · exact (rfl : Json.null = .null)
    · exact (rfl : (none : Option Bool) = none)
  exact ⟨hform, Member.eq_of_form _ _ hform⟩

end ContractBindings.Abi

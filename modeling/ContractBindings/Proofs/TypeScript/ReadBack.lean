import ContractBindings.Proofs.TypeScript.Fields

/-!
# Reading declarations back

The declarations of a contract say all that they were made from: names, fields and outcomes of its
functions, names and fields of its events, and the fields of its constructor. Two interfaces with
the same declarations differ in none of these.

1. `cut`: two equal texts that are cut at a mark are cut into equal pieces.
2. `typeText_injective`, `fieldText_injective`, `fieldList_injective`, `outcomeText_injective`: the
   pieces are the texts of one type, field, list or outcome only.
3. `lines_injective`: a block of lines is made up of its lines in one way only.
4. `declarations_injective`: the same holds of all declarations of an interface whose functions and
   events are called by identifiers.
-/

namespace ContractBindings.TypeScript

open Naming (isIdentifier not_mem_identifier)

/-! ## Cutting texts -/

/-- Where a mark first stands in two equal texts, the pieces before and after it are equal. -/
theorem cut {mark : Char} {s s' rest rest' : List Char} (hs : mark ∉ s) (hs' : mark ∉ s')
    (h : s ++ mark :: rest = s' ++ mark :: rest') : s = s' ∧ rest = rest' := by
  induction s generalizing s' with
  | nil =>
    cases s' with
    | nil => exact ⟨rfl, (List.cons.inj h).2⟩
    | cons c' s' => exact absurd ((List.cons.inj h).1 ▸ List.mem_cons_self) hs'
  | cons c s ih =>
    cases s' with
    | nil => exact absurd ((List.cons.inj h).1 ▸ List.mem_cons_self) hs
    | cons c' s' =>
      obtain ⟨rfl, htail⟩ := List.cons.inj h
      obtain ⟨rfl, hrest⟩ := ih (fun hmem => hs (List.mem_cons_of_mem _ hmem))
        (fun hmem => hs' (List.mem_cons_of_mem _ hmem)) htail
      exact ⟨rfl, hrest⟩

/-- All characters of joined pieces stand in a piece or in the separator. -/
theorem mem_of_mem_intercalate {sep : List Char} {xs : List (List Char)} {c : Char}
    (h : c ∈ sep.intercalate xs) : c ∈ sep ∨ ∃ x ∈ xs, c ∈ x := by
  induction xs with
  | nil => simp at h
  | cons x xs ih =>
    cases xs with
    | nil => exact .inr ⟨x, List.mem_cons_self, by simpa using h⟩
    | cons y xs =>
      rw [List.intercalate_cons_cons, List.append_assoc, List.mem_append, List.mem_append] at h
      rcases h with hfirst | hsep | hrest
      · exact .inr ⟨x, List.mem_cons_self, hfirst⟩
      · exact .inl hsep
      · exact (ih hrest).imp_right fun ⟨z, hz, hc⟩ => ⟨z, List.mem_cons_of_mem _ hz, hc⟩

/-- Pieces without a mark, and with something in each, are known from the text in which a separator
parts them that starts with the mark. -/
theorem intercalate_injective {mark : Char} {sep : List Char} {xs ys : List (List Char)}
    (hxs : ∀ x ∈ xs, x ≠ [] ∧ mark ∉ x) (hys : ∀ y ∈ ys, y ≠ [] ∧ mark ∉ y)
    (h : (mark :: sep).intercalate xs = (mark :: sep).intercalate ys) : xs = ys := by
  have more (x y : List Char) (rest : List (List Char)) :
      (mark :: sep).intercalate (x :: y :: rest) =
        x ++ mark :: (sep ++ (mark :: sep).intercalate (y :: rest)) := by
    simp [List.intercalate_cons_cons]
  induction xs generalizing ys with
  | nil =>
    cases ys with
    | nil => rfl
    | cons y ys =>
      -- a first piece would have something in it
      have hy := (hys y List.mem_cons_self).1
      cases ys <;> simp_all
  | cons x xs ih =>
    rw [List.forall_mem_cons] at hxs
    cases ys with
    | nil =>
      cases xs <;> simp_all
    | cons y ys =>
      rw [List.forall_mem_cons] at hys
      cases xs with
      | nil =>
        cases ys with
        | nil => simpa using h
        | cons y' ys =>
          rw [List.intercalate_singleton, more] at h
          exact absurd (h ▸ by simp) hxs.1.2
      | cons x' xs =>
        cases ys with
        | nil =>
          rw [List.intercalate_singleton, more] at h
          exact absurd (h ▸ by simp) hys.1.2
        | cons y' ys =>
          rw [more, more] at h
          obtain ⟨hfirst, hrest⟩ := cut hxs.1.2 hys.1.2 h
          rw [hfirst, ih hxs.2 hys.2 (List.append_cancel_left hrest)]

/-! ## Types and fields -/

theorem arrayText_ne {element : TsType} {text : String} (h : text.toList.getLast? ≠ some ']') :
    (TsType.array element).text ≠ text := by
  rintro rfl
  exact h (by simp [TsType.text])

theorem typeText_injective {t t' : TsType} (h : t.text = t'.text) : t = t' := by
  induction t generalizing t' with
  | array element ih =>
    cases t' with
    | array element' =>
      have hlist := congrArg String.toList h
      rw [TsType.text, TsType.text, String.toList_append, String.toList_append] at hlist
      rw [ih (String.toList_inj.1 (List.append_cancel_right hlist))]
    | _ => exact absurd h (arrayText_ne (by decide))
  | _ =>
    cases t' with
    | array element' => exact absurd h.symm (arrayText_ne (by decide))
    | _ =>
      revert h
      decide

/-- A mark that is neither a letter nor a bracket is in no type. -/
theorem not_mem_typeText (t : TsType) {mark : Char} (hletter : mark.isAlpha = false)
    (hopen : mark ≠ '[') (hclose : mark ≠ ']') : mark ∉ t.text.toList := by
  intro hmem
  rcases mem_typeText hmem with h | h | h
  · simp [hletter] at h
  · exact hopen h
  · exact hclose h

/-- A field is known from its text, since a type has no blank. -/
theorem fieldText_injective {f f' : Field} (h : f.text = f'.text) : f = f' := by
  have blank (t : TsType) : ' ' ∉ t.text.toList.reverse := fun hmem =>
    not_mem_typeText t (by decide) (by decide) (by decide) (List.mem_reverse.1 hmem)
  have hlist := congrArg (fun text : String => text.toList.reverse) h
  simp only [toList_text, List.reverse_append, List.reverse_cons, List.append_assoc,
    List.cons_append, List.nil_append] at hlist
  obtain ⟨htype, hname⟩ := cut (blank f.type) (blank f'.type) hlist
  obtain ⟨name, type⟩ := f
  obtain ⟨name', type'⟩ := f'
  rw [Field.mk.injEq]
  refine ⟨String.toList_inj.1 ?_, typeText_injective (String.toList_inj.1 ?_)⟩
  · simpa using hname
  · simpa using htype

/-- A list of fields that are called by identifiers is known from its text. -/
theorem fieldList_injective {fs fs' : List Field}
    (hfs : ∀ f ∈ fs, isIdentifier f.name = true) (hfs' : ∀ f ∈ fs', isIdentifier f.name = true)
    (h : fieldList fs = fieldList fs') : fs = fs' := by
  have pieces {fs : List Field} (hfs : ∀ f ∈ fs, isIdentifier f.name = true) :
      ∀ x ∈ fs.map fun f => f.text.toList, x ≠ [] ∧ ',' ∉ x := by
    refine List.forall_mem_map.2 fun f hf => ⟨by simp [toList_text], fun hcomma => ?_⟩
    exact absurd (isFieldChar_of_mem (hfs f hf) hcomma) (by decide)
  have hlist := congrArg String.toList h
  rw [fieldList, fieldList, String.toList_intercalate, String.toList_intercalate, List.map_map,
    List.map_map] at hlist
  have htexts := intercalate_injective (pieces hfs) (pieces hfs') hlist
  refine (List.map_inj_right ?_).1 htexts
  exact fun f f' hsame => fieldText_injective (String.toList_inj.1 hsame)

/-- A mark that is in no field, and is no comma, is not in a list of them. -/
theorem not_mem_fieldList (params : List Abi.Param) {mark : Char} (h : isFieldChar mark = false)
    (hcomma : mark ≠ ',') : mark ∉ (fieldList (fields params)).toList := by
  intro hmem
  have hfield : isFieldChar mark = true := by
    rw [fieldList, String.toList_intercalate, List.map_map] at hmem
    rcases mem_of_mem_intercalate hmem with hsep | ⟨text, htext, hmem⟩
    · have : mark = ',' ∨ mark = ' ' := by simpa using hsep
      rw [this.resolve_left hcomma]
      rfl
    · obtain ⟨f, hf, rfl⟩ := List.mem_map.1 htext
      exact isFieldChar_of_mem (isIdentifier_of_mem_fields hf) hmem
  simp [h] at hfield

/-! ## Outcomes -/

/-- The first character of an outcome's text, where it is not that of a type. -/
def Outcome.mark : Outcome → Option Char
  | .transaction => some 'e'
  | .void => some 'v'
  | .single _ => none
  | .several _ => some '['

theorem head_typeText (t : TsType) : ∃ c ∈ ['b', 's', 'a'], t.text.toList.head? = some c := by
  induction t with
  | array element ih =>
    obtain ⟨c, hc, hhead⟩ := ih
    refine ⟨c, hc, ?_⟩
    rw [TsType.text, String.toList_append, List.head?_append, hhead]
    rfl
  | bigInt | boolean => exact ⟨'b', by decide, by decide⟩
  | string => exact ⟨'s', by decide, by decide⟩
  | any => exact ⟨'a', by decide, by decide⟩

theorem mark_eq (o : Outcome) :
    o.mark = o.text.toList.head?.filter (['e', 'v', '['].contains ·) := by
  cases o with
  | transaction => decide
  | void => decide
  | single type =>
    obtain ⟨c, hc, hhead⟩ := head_typeText type
    have hnot : ['e', 'v', '['].contains c = false := by
      simp only [List.mem_cons, List.not_mem_nil, or_false] at hc
      rcases hc with rfl | rfl | rfl <;> decide
    rw [Outcome.text, hhead, Outcome.mark, Option.filter_some, hnot]
    rfl
  | several types =>
    rw [Outcome.text, String.toList_append, String.toList_append]
    rfl

theorem typesText_injective {ts ts' : List TsType}
    (h : (", ".intercalate (ts.map TsType.text)) = ", ".intercalate (ts'.map TsType.text)) :
    ts = ts' := by
  have pieces (ts : List TsType) : ∀ x ∈ ts.map fun t => t.text.toList, x ≠ [] ∧ ',' ∉ x := by
    refine List.forall_mem_map.2 fun t _ => ⟨?_, ?_⟩
    · obtain ⟨c, -, hhead⟩ := head_typeText t
      rintro hnil
      simp [hnil] at hhead
    · exact not_mem_typeText t (by decide) (by decide) (by decide)
  have hlist := congrArg String.toList h
  rw [String.toList_intercalate, String.toList_intercalate, List.map_map, List.map_map] at hlist
  have htexts := intercalate_injective (pieces ts) (pieces ts') hlist
  refine (List.map_inj_right ?_).1 htexts
  exact fun t t' hsame => typeText_injective (String.toList_inj.1 hsame)

theorem outcomeText_injective {o o' : Outcome} (h : o.text = o'.text) : o = o' := by
  have hmark : o.mark = o'.mark := by rw [mark_eq, mark_eq, h]
  cases o with
  | transaction =>
    cases o' with
    | transaction => rfl
    | _ => simp [Outcome.mark] at hmark
  | void =>
    cases o' with
    | void => rfl
    | _ => simp [Outcome.mark] at hmark
  | single type =>
    cases o' with
    | single type' => rw [typeText_injective h]
    | _ => simp [Outcome.mark] at hmark
  | several types =>
    cases o' with
    | several types' =>
      have hlist := congrArg String.toList h
      simp only [Outcome.text, String.toList_append, List.append_assoc] at hlist
      have htypes := List.append_cancel_right (List.append_cancel_left hlist)
      rw [typesText_injective (String.toList_inj.1 htypes)]
    | _ => simp [Outcome.mark] at hmark

theorem not_mem_outcomeText (o : Outcome) : '>' ∉ o.text.toList := by
  have type (t : TsType) : '>' ∉ t.text.toList :=
    not_mem_typeText t (by decide) (by decide) (by decide)
  cases o with
  | transaction => decide
  | void => decide
  | single t => exact type t
  | several types =>
    have hlist : '>' ∉ (", ".intercalate (types.map TsType.text)).toList := by
      rw [String.toList_intercalate, List.map_map]
      intro hmem
      rcases mem_of_mem_intercalate hmem with hsep | ⟨text, htext, hmem⟩
      · exact absurd hsep (by decide)
      · obtain ⟨t, -, rfl⟩ := List.mem_map.1 htext
        exact type t hmem
    rw [Outcome.text, String.toList_append, String.toList_append, List.mem_append, List.mem_append]
    rintro ((hopen | hmem) | hclose)
    · exact absurd hopen (by decide)
    · exact hlist hmem
    · exact absurd hclose (by decide)

/-! ## Lines -/

/-- Lines that start with a blank, up to a closing brace, are known from their text if each of them
is known from the text that starts with it. -/
theorem lines_injective {α β : Type} {line : α → List Char} {view : α → β} {as as' : List α}
    {rest rest' : List Char} (hstart : ∀ a, ∃ more, line a = ' ' :: more)
    (hline : ∀ a ∈ as, ∀ a' ∈ as', ∀ rest rest', line a ++ rest = line a' ++ rest' →
      view a = view a' ∧ rest = rest')
    (h : as.flatMap line ++ '\x7d' :: rest = as'.flatMap line ++ '\x7d' :: rest') :
    as.map view = as'.map view := by
  induction as generalizing as' with
  | nil =>
    cases as' with
    | nil => rfl
    | cons a' as' =>
      obtain ⟨more, hmore⟩ := hstart a'
      simp [hmore] at h
  | cons a as ih =>
    cases as' with
    | nil =>
      obtain ⟨more, hmore⟩ := hstart a
      simp [hmore] at h
    | cons a' as' =>
      rw [List.flatMap_cons, List.flatMap_cons, List.append_assoc, List.append_assoc] at h
      obtain ⟨hview, hrest⟩ := hline a List.mem_cons_self a' List.mem_cons_self _ _ h
      rw [List.map_cons, List.map_cons, hview, ih ?_ hrest]
      exact fun a ha a' ha' => hline a (List.mem_cons_of_mem _ ha) a' (List.mem_cons_of_mem _ ha')

/-- What the signature of a function says. -/
structure Signature where
  name : String
  params : List Field
  outcome : Outcome
  deriving DecidableEq, Repr

/-- What the signature of this function says. -/
def Signature.of (f : Abi.Function) : Signature := ⟨f.name, fields f.inputs, Outcome.of f⟩

theorem toList_signature (f : Abi.Function) :
    (signature f).toList =
      ' ' :: ' ' :: (f.name.toList ++ '(' :: ((fieldList (fields f.inputs)).toList ++ ')' ::
        (": Promise<".toList ++ ((Outcome.of f).text.toList ++ '>' :: ";\n".toList)))) := by
  simp [signature]

theorem signature_injective {f f' : Abi.Function} (hf : isIdentifier f.name = true)
    (hf' : isIdentifier f'.name = true) {rest rest' : List Char}
    (h : (signature f).toList ++ rest = (signature f').toList ++ rest') :
    Signature.of f = Signature.of f' ∧ rest = rest' := by
  simp only [toList_signature, List.cons_append, List.append_assoc, List.cons.injEq,
    true_and] at h
  -- the name ends at the first bracket, its fields at the next one, and the outcome at `>`
  obtain ⟨hname, h⟩ := cut (not_mem_identifier hf (by decide))
    (not_mem_identifier hf' (by decide)) h
  obtain ⟨hfields, h⟩ := cut (not_mem_fieldList f.inputs (by decide) (by decide))
    (not_mem_fieldList f'.inputs (by decide) (by decide)) h
  obtain ⟨houtcome, h⟩ := cut (not_mem_outcomeText _) (not_mem_outcomeText _)
    (List.append_cancel_left h)
  refine ⟨?_, List.append_cancel_left h⟩
  rw [Signature.of, Signature.of, String.toList_inj.1 hname,
    outcomeText_injective (String.toList_inj.1 houtcome),
    fieldList_injective (fun _ => isIdentifier_of_mem_fields) (fun _ => isIdentifier_of_mem_fields)
      (String.toList_inj.1 hfields)]

/-- What the entry of an event says. -/
structure Entry where
  name : String
  payload : List Field
  deriving DecidableEq, Repr

/-- What the entry of this event says. -/
def Entry.of (e : Abi.Event) : Entry := ⟨e.name, fields e.inputs⟩

/-- What stands between the braces of an event's entry. -/
def payloadText (params : List Abi.Param) : String :=
  if params.isEmpty then "" else " " ++ fieldList (fields params) ++ " "

theorem toList_eventEntry (e : Abi.Event) :
    (eventEntry e).toList =
      ' ' :: ' ' :: (e.name.toList ++ ':' :: ' ' :: '\x7b' ::
        ((payloadText e.inputs).toList ++ '\x7d' :: ";\n".toList)) := by
  rw [eventEntry, payloadText]
  simp

theorem payloadText_injective {params params' : List Abi.Param}
    (h : payloadText params = payloadText params') : fields params = fields params' := by
  unfold payloadText at h
  cases params with
  | nil =>
    cases params' with
    | nil => rfl
    | cons p' params' =>
      have hlist := congrArg String.toList h
      simp at hlist
  | cons p params =>
    cases params' with
    | nil =>
      have hlist := congrArg String.toList h
      simp at hlist
    | cons p' params' =>
      have hlist := congrArg String.toList h
      simp only [List.isEmpty_cons, Bool.false_eq_true, if_false, String.toList_append,
        List.append_assoc] at hlist
      have hfields := List.append_cancel_right (List.append_cancel_left hlist)
      exact fieldList_injective (fun _ => isIdentifier_of_mem_fields)
        (fun _ => isIdentifier_of_mem_fields) (String.toList_inj.1 hfields)

theorem not_mem_payloadText (params : List Abi.Param) : '\x7d' ∉ (payloadText params).toList := by
  have hfields : '\x7d' ∉ (fieldList (fields params)).toList :=
    not_mem_fieldList params (by decide) (by decide)
  unfold payloadText
  split
  · simp
  · simp [hfields]

theorem eventEntry_injective {e e' : Abi.Event} (he : isIdentifier e.name = true)
    (he' : isIdentifier e'.name = true) {rest rest' : List Char}
    (h : (eventEntry e).toList ++ rest = (eventEntry e').toList ++ rest') :
    Entry.of e = Entry.of e' ∧ rest = rest' := by
  simp only [toList_eventEntry, List.cons_append, List.append_assoc, List.cons.injEq,
    true_and] at h
  obtain ⟨hname, h⟩ := cut (not_mem_identifier he (by decide))
    (not_mem_identifier he' (by decide)) h
  simp only [List.cons.injEq, true_and] at h
  obtain ⟨hpayload, h⟩ := cut (not_mem_payloadText _) (not_mem_payloadText _) h
  refine ⟨?_, List.append_cancel_left h⟩
  rw [Entry.of, Entry.of, String.toList_inj.1 hname,
    payloadText_injective (String.toList_inj.1 hpayload)]

/-- The line of a field among the parameters of a constructor. -/
def fieldLine (f : Field) : String := "  " ++ f.text ++ ";\n"

theorem fieldLine_injective {f f' : Field} (hf : isIdentifier f.name = true)
    (hf' : isIdentifier f'.name = true) {rest rest' : List Char}
    (h : (fieldLine f).toList ++ rest = (fieldLine f').toList ++ rest') :
    f = f' ∧ rest = rest' := by
  have line (f : Field) :
      (fieldLine f).toList = ' ' :: ' ' :: (f.text.toList ++ ';' :: "\n".toList) := by
    simp [fieldLine]
  have semicolon {f : Field} (hf : isIdentifier f.name = true) : ';' ∉ f.text.toList :=
    fun hmem => absurd (isFieldChar_of_mem hf hmem) (by decide)
  simp only [line, List.cons_append, List.append_assoc, List.cons.injEq, true_and] at h
  obtain ⟨htext, h⟩ := cut (semicolon hf) (semicolon hf') h
  exact ⟨fieldText_injective (String.toList_inj.1 htext), List.append_cancel_left h⟩

/-! ## Blocks -/

/-- Functions and events of the interface are called by identifiers. -/
structure Called (i : Abi.Interface) : Prop where
  functions : ∀ f ∈ i.functions, isIdentifier f.name = true
  events : ∀ e ∈ i.events, isIdentifier e.name = true

variable {s s' : Subject}

theorem exporting_congr (h : s.options = s'.options) : s.exporting = s'.exporting := by
  rw [Subject.exporting, Subject.exporting, h]

theorem names_congr (h : s.contract = s'.contract) : s.names = s'.names := by
  rw [Subject.names, Subject.names, h]

theorem contractInterface_injective (hcontract : s.contract = s'.contract)
    (hoptions : s.options = s'.options) (hs : Called s.interface) (hs' : Called s'.interface)
    (h : s.contractInterface = s'.contractInterface) :
    s.interface.functions.map Signature.of = s'.interface.functions.map Signature.of := by
  have hlist := congrArg String.toList h
  rw [Subject.contractInterface, Subject.contractInterface, exporting_congr hoptions,
    names_congr hcontract] at hlist
  simp only [String.toList_append, List.append_assoc, List.append_cancel_left_eq,
    String.toList_join, List.flatMap_map] at hlist
  refine lines_injective (fun f => ⟨_, toList_signature f⟩) ?_ hlist
  exact fun f hf f' hf' _ _ =>
    signature_injective (hs.functions f hf) (hs'.functions f' hf')

theorem mem_of_mem_firstEvents {events : List Abi.Event} {e : Abi.Event}
    (h : e ∈ firstEvents events) : e ∈ events := by
  suffices hfrom : ∀ seen, e ∈ firstEventsFrom seen events → e ∈ events from hfrom [] h
  clear h
  induction events with
  | nil => simp [firstEventsFrom]
  | cons first rest ih =>
    intro seen h
    rw [firstEventsFrom] at h
    split at h
    · exact List.mem_cons_of_mem _ (ih _ h)
    · rcases List.mem_cons.1 h with rfl | hrest
      · exact List.mem_cons_self
      · exact List.mem_cons_of_mem _ (ih _ hrest)

theorem events_injective (hcontract : s.contract = s'.contract)
    (hoptions : s.options = s'.options) (hs : Called s.interface) (hs' : Called s'.interface)
    (h : s.events = s'.events) :
    (firstEvents s.interface.events).map Entry.of =
      (firstEvents s'.interface.events).map Entry.of := by
  rw [Subject.events, Subject.events, exporting_congr hoptions, names_congr hcontract] at h
  split at h
  · next hempty =>
    split at h
    · next hempty' =>
      rw [List.isEmpty_iff.1 hempty, List.isEmpty_iff.1 hempty']
    · simp at h
  · split at h
    · simp at h
    · have hlist := congrArg String.toList (Option.some.inj h)
      simp only [String.toList_append, List.append_assoc, List.append_cancel_left_eq,
        String.toList_join, List.flatMap_map] at hlist
      refine lines_injective (fun e => ⟨_, toList_eventEntry e⟩) ?_ hlist
      exact fun e he e' he' _ _ => eventEntry_injective
        (hs.events e (mem_of_mem_firstEvents he)) (hs'.events e' (mem_of_mem_firstEvents he'))

/-- What stands between the braces of the parameters of a constructor. -/
def constructorText (params : List Abi.Param) : String :=
  if params.isEmpty then "" else "\n" ++ String.join ((fields params).map fieldLine)

theorem constructorText_injective {params params' : List Abi.Param} {rest rest' : List Char}
    (h : (constructorText params).toList ++ '\x7d' :: rest =
      (constructorText params').toList ++ '\x7d' :: rest') : fields params = fields params' := by
  unfold constructorText at h
  cases params with
  | nil =>
    cases params' with
    | nil => rfl
    | cons p' params' => simp at h
  | cons p params =>
    cases params' with
    | nil => simp at h
    | cons p' params' =>
      simp only [List.isEmpty_cons, Bool.false_eq_true, if_false, String.toList_append,
        List.append_assoc, List.append_cancel_left_eq, String.toList_join, List.flatMap_map] at h
      have hlines : (fields (p :: params)).map id = (fields (p' :: params')).map id := by
        refine lines_injective ?_ ?_ h
        · exact fun f => ⟨_, by simp [fieldLine]; rfl⟩
        · exact fun f hf f' hf' _ _ =>
            fieldLine_injective (isIdentifier_of_mem_fields hf) (isIdentifier_of_mem_fields hf')
      simpa using hlines

theorem constructorParams_injective (hcontract : s.contract = s'.contract)
    (hoptions : s.options = s'.options) (h : s.constructorParams = s'.constructorParams) :
    s.interface.constructor.map (fun c => fields c.inputs) =
      s'.interface.constructor.map (fun c => fields c.inputs) := by
  rw [Subject.constructorParams, Subject.constructorParams, exporting_congr hoptions,
    names_congr hcontract] at h
  cases hc : s.interface.constructor with
  | none =>
    cases hc' : s'.interface.constructor with
    | none => rfl
    | some c' => simp [hc, hc'] at h
  | some c =>
    cases hc' : s'.interface.constructor with
    | none => simp [hc, hc'] at h
    | some c' =>
      rw [hc, hc'] at h
      have hlist := congrArg String.toList (Option.some.inj h)
      simp only [String.toList_append, List.append_assoc, List.append_cancel_left_eq] at hlist
      exact congrArg some (constructorText_injective hlist)

/-- Declarations can be read back. Let the functions and the events of two interfaces be called by
identifiers, and let their declarations be the same, for one contract and with the same options.
Then the two have as many functions, which agree one by one in their names, the names and types of
their parameters, and their outcomes; their events of different names agree so too, in the order of
their first occurrences; and both have a constructor with the same fields, or none. -/
theorem declarations_injective (hcontract : s.contract = s'.contract)
    (hoptions : s.options = s'.options) (hs : Called s.interface) (hs' : Called s'.interface)
    (hinterface : s.binding.contractInterface = s'.binding.contractInterface)
    (hevents : s.binding.events = s'.binding.events)
    (hconstructor : s.binding.constructorParams = s'.binding.constructorParams) :
    s.interface.functions.map Signature.of = s'.interface.functions.map Signature.of ∧
      (firstEvents s.interface.events).map Entry.of =
        (firstEvents s'.interface.events).map Entry.of ∧
      s.interface.constructor.map (fun c => fields c.inputs) =
        s'.interface.constructor.map (fun c => fields c.inputs) :=
  ⟨contractInterface_injective hcontract hoptions hs hs' hinterface,
    events_injective hcontract hoptions hs hs' hevents,
    constructorParams_injective hcontract hoptions hconstructor⟩

/-- Two interfaces whose differences do not show: other names for what is named by its position,
other types with the same values, an event that is left out. -/
theorem declarations_injective_hidden :
    let one : Abi.Interface :=
      { functions :=
          [{ name := "f"
             inputs := [.mk "" "uint8" none none []]
             outputs := [.mk "" "bytes" none none []]
             stateMutability := some .pure }]
        events := [{ name := "E" }, { name := "E", anonymous := true }]
        constructor := some { stateMutability := some .payable } }
    let other : Abi.Interface :=
      { functions :=
          [{ name := "f"
             inputs := [.mk "arg0" "int" none none []]
             outputs := [.mk "r" "string" none none []]
             stateMutability := some .view }]
        events := [{ name := "E" }]
        constructor := some {} }
    let s : Subject := { contract := "T", interface := one, abi := .null }
    let s' : Subject := { contract := "T", interface := other, abi := .array [] }
    s.binding.contractInterface = s'.binding.contractInterface ∧
      one.functions.map Signature.of = other.functions.map Signature.of ∧
      (firstEvents one.events).map Entry.of = (firstEvents other.events).map Entry.of := by
  intro one other s s'
  have htypes : TsType.ofAbi "uint8" = .bigInt ∧ TsType.ofAbi "int" = .bigInt ∧
      TsType.ofAbi "bytes" = .string ∧ TsType.ofAbi "string" = .string :=
    ⟨(ofAbi_scalar (by decide)).trans (by decide), (ofAbi_scalar (by decide)).trans (by decide),
      (ofAbi_scalar (by decide)).trans (by decide), (ofAbi_scalar (by decide)).trans (by decide)⟩
  have hinterface : s.contractInterface = s'.contractInterface := by
    simp only [Subject.contractInterface, s, s', one, other, signature, fields, Outcome.of,
      List.map_cons, List.map_nil, Abi.Param.type, htypes]
    rfl
  have hs : Called one := ⟨by decide, by decide⟩
  have hs' : Called other := ⟨by decide, by decide⟩
  have hcontract : s.contract = s'.contract := rfl
  have hoptions : s.options = s'.options := rfl
  have hsame : s.binding.events = s'.binding.events := rfl
  have hconstructor : s.binding.constructorParams = s'.binding.constructorParams := rfl
  obtain ⟨hfunctions, hevents, -⟩ :=
    declarations_injective hcontract hoptions hs hs' hinterface hsame hconstructor
  exact ⟨hinterface, hfunctions, hevents⟩

end ContractBindings.TypeScript

import ContractBindings.Log.Binding
import ContractBindings.Proofs.Abi.Sorting
import ContractBindings.Proofs.Naming.Parameters
import Mathlib

/-!
# The map of events

A map can hold one entry for each name. Of several events with one name the first gets the entry,
and each of the others is worth a warning.

1. `names_firstEvents`, `find?_of_mem_firstEvents`: the events with an entry are the first ones of
   their names, in the order in which the names first occur.
2. `repeatedEvents_eq`: the events without an entry are those that follow one of their name.
3. `firstEvents_remove`: such an event can be taken away.
4. `eventEntry_eq`: what an entry says.
5. `events_mapped`: what the block of events and the warnings are.
-/

namespace ContractBindings.TypeScript

open Abi (Event Interface Member)

/-! ## Events with an entry -/

/-- The names of the events that are kept are those that are new, each where it first occurs. -/
theorem names_firstEventsFrom (seen : List String) (events : List Event) :
    (firstEventsFrom seen events).map (·.name) =
      ((events.map (·.name)).filter (· ∉ seen)).eraseDups := by
  induction events generalizing seen with
  | nil => rfl
  | cons e rest ih =>
    rw [firstEventsFrom, List.map_cons, List.filter_cons]
    by_cases h : e.name ∈ seen
    · simp only [h, if_true, not_true_eq_false, decide_false, Bool.false_eq_true, if_false, ih]
    · simp only [h, if_false, not_false_eq_true, decide_true, if_true, List.map_cons, ih,
        List.eraseDups_cons, List.filter_filter]
      -- what is new after `e` is new before it and has another name
      congr 2
      refine List.filter_congr fun name _ => ?_
      by_cases hname : name = e.name <;> simp [hname]

theorem names_firstEvents (events : List Event) :
    (firstEvents events).map (·.name) = (events.map (·.name)).eraseDups := by
  rw [firstEvents, names_firstEventsFrom]
  simp

theorem find?_of_mem_firstEventsFrom {seen : List String} {events : List Event} {e : Event}
    (h : e ∈ firstEventsFrom seen events) :
    e.name ∉ seen ∧ events.find? (·.name == e.name) = some e := by
  induction events generalizing seen with
  | nil => simp [firstEventsFrom] at h
  | cons first rest ih =>
    rw [firstEventsFrom] at h
    split at h
    · next hseen =>
      obtain ⟨hnew, hfind⟩ := ih h
      have hne : (first.name == e.name) = false :=
        beq_false_of_ne fun heq => hnew (heq ▸ hseen)
      exact ⟨hnew, by rw [List.find?_cons, hne, hfind]⟩
    · next hfirst =>
      rcases List.mem_cons.1 h with rfl | hrest
      · exact ⟨hfirst, by simp⟩
      · obtain ⟨hnew, hfind⟩ := ih hrest
        rw [List.mem_cons, not_or] at hnew
        have hne : (first.name == e.name) = false := beq_false_of_ne fun heq => hnew.1 heq.symm
        exact ⟨hnew.2, by rw [List.find?_cons, hne, hfind]⟩

/-- An event with an entry is the first one of its name. -/
theorem find?_of_mem_firstEvents {events : List Event} {e : Event} (h : e ∈ firstEvents events) :
    events.find? (·.name == e.name) = some e :=
  (find?_of_mem_firstEventsFrom h).2

/-- The entries, told by the names: one for each, of the first event that has it. -/
theorem firstEvents_eq (events : List Event) :
    (firstEvents events).map some =
      (events.map (·.name)).eraseDups.map fun name => events.find? (·.name == name) := by
  rw [← names_firstEvents, List.map_map]
  exact List.map_congr_left fun e he => (find?_of_mem_firstEvents he).symm

/-! ## Events without an entry -/

/-- The events of the list that have the name of one before their position. -/
def repetitions (events : List Event) : List Event :=
  (events.zipIdx.filter fun p => p.1.name ∈ (events.take p.2).map (·.name)).map (·.1)

theorem repeatedEventsFrom_eq {before : List Event} {seen : List String}
    (h : ∀ name, name ∈ seen ↔ name ∈ before.map (·.name)) (rest : List Event) :
    repeatedEventsFrom seen rest =
      ((rest.zipIdx before.length).filter fun p =>
        p.1.name ∈ ((before ++ rest).take p.2).map (·.name)).map (·.1) := by
  induction rest generalizing before seen with
  | nil => rfl
  | cons e rest ih =>
    have hsplit : before ++ e :: rest = (before ++ [e]) ++ rest := by simp
    have hlength : before.length + 1 = (before ++ [e]).length := by simp
    rw [repeatedEventsFrom, List.zipIdx_cons, List.filter_cons]
    simp only [List.take_left, ← h]
    by_cases hseen : e.name ∈ seen
    · have hnext (name : String) : name ∈ seen ↔ name ∈ (before ++ [e]).map (·.name) := by
        rw [List.map_append, List.mem_append, ← h]
        simp only [List.map_cons, List.map_nil, List.mem_singleton, iff_self_or]
        rintro rfl
        exact hseen
      rw [if_pos hseen, if_pos (decide_eq_true hseen), List.map_cons, ih hnext, hsplit, hlength]
    · have hnext (name : String) :
          name ∈ e.name :: seen ↔ name ∈ (before ++ [e]).map (·.name) := by
        rw [List.map_append, List.mem_append, ← h, List.mem_cons, or_comm]
        simp
      rw [if_neg hseen, if_neg (by simpa using hseen), ih hnext, hsplit, hlength]

/-- The events without an entry are those with the name of an earlier one. -/
theorem repeatedEvents_eq (events : List Event) : repeatedEvents events = repetitions events := by
  have hnone (name : String) : name ∈ [] ↔ name ∈ ([] : List Event).map (·.name) := by simp
  exact repeatedEventsFrom_eq hnone events

theorem length_firstEventsFrom (seen : List String) (events : List Event) :
    (firstEventsFrom seen events).length + (repeatedEventsFrom seen events).length =
      events.length := by
  induction events generalizing seen with
  | nil => rfl
  | cons e rest ih =>
    rw [firstEventsFrom, repeatedEventsFrom]
    split
    · rw [List.length_cons, List.length_cons, ← Nat.add_assoc, ih]
    · rw [List.length_cons, List.length_cons, Nat.add_right_comm, ih]

/-- Each event has an entry or is left out. -/
theorem length_repetitions (events : List Event) :
    (repetitions events).length = events.length - (events.map (·.name)).eraseDups.length := by
  have hlength := length_firstEventsFrom [] events
  rw [← repeatedEvents_eq, ← names_firstEvents, List.length_map, firstEvents, repeatedEvents]
  omega

/-! ## Events taken away -/

theorem firstEventsFrom_remove {seen : List String} {before after : List Event} {e : Event}
    (h : e.name ∈ seen ∨ e.name ∈ before.map (·.name)) :
    firstEventsFrom seen (before ++ e :: after) = firstEventsFrom seen (before ++ after) := by
  induction before generalizing seen with
  | nil =>
    have hseen : e.name ∈ seen := by simpa using h
    rw [List.nil_append, List.nil_append, firstEventsFrom, if_pos hseen]
  | cons first before ih =>
    rw [List.map_cons, List.mem_cons] at h
    rw [List.cons_append, List.cons_append, firstEventsFrom, firstEventsFrom]
    split
    · next hfirst =>
      refine ih ?_
      rcases h with hseen | heq | hbefore
      · exact .inl hseen
      · exact .inl (heq ▸ hfirst)
      · exact .inr hbefore
    · rw [ih]
      rcases h with hseen | heq | hbefore
      · exact .inl (List.mem_cons_of_mem _ hseen)
      · exact .inl (heq ▸ List.mem_cons_self)
      · exact .inr hbefore

/-- An event that follows one of its name has no part in the map. -/
theorem firstEvents_remove {before after : List Event} {e : Event}
    (h : e.name ∈ before.map (·.name)) :
    firstEvents (before ++ e :: after) = firstEvents (before ++ after) :=
  firstEventsFrom_remove (.inr h)

theorem isEmpty_firstEvents (events : List Event) :
    (firstEvents events).isEmpty = events.isEmpty := by
  cases events <;> rfl

/-- The block of events follows from the events with an entry. -/
theorem events_congr {s s' : Subject} (hcontract : s.contract = s'.contract)
    (hoptions : s.options = s'.options)
    (h : firstEvents s.interface.events = firstEvents s'.interface.events) :
    s.events = s'.events := by
  rw [Subject.events, Subject.events, Subject.exporting, Subject.exporting, Subject.names,
    Subject.names, hcontract, hoptions, h, ← isEmpty_firstEvents, h, isEmpty_firstEvents]

/-! ## The text of an entry -/

theorem texts_fields (params : List Abi.Param) :
    (fields params).map Field.text =
      List.zipWith (fun name p => name ++ ": " ++ (TsType.ofAbi p.type).text)
        (Naming.paramNames params) params := by
  rw [fields, List.map_zipWith, List.zipWith_map_right]
  rfl

/-- The entry has the name of the event and, with commas between them, its inputs under their names
in generated code, each with the type to which its own is mapped. -/
theorem eventEntry_eq (e : Event) :
    eventEntry e = "  " ++ e.name ++ ": \x7b" ++
      (if e.inputs = [] then ""
        else " " ++ String.intercalate ", "
          (List.zipWith (fun name p => name ++ ": " ++ (TsType.ofAbi p.type).text)
            (Naming.paramNames e.inputs) e.inputs) ++ " ") ++ "\x7d;\n" := by
  rw [eventEntry, fieldList, texts_fields]
  simp only [List.isEmpty_iff]

/-! ## The block and the warnings -/

/-- The warnings about events that are left out. -/
def skips (s : Subject) : List Log.Entry :=
  (Log.ofBinding s).filter fun entry =>
    entry.level = .warn ∧ entry.message = "skipping overloaded event in events map"

theorem skips_eq (s : Subject) :
    skips s = (repetitions s.interface.events).map fun e => Log.Entry.repeatedEvent e.name := by
  rw [skips, Log.ofBinding, List.filter_append, repeatedEvents_eq, List.filter_eq_self.2]
  · simp [Log.Entry.level]
  · simp [Log.Entry.level, Log.Entry.message]

/-- The block of events is missing if there are none. Otherwise it has an entry for each name, in
the order in which the names first occur, of the first event with that name: it says the name and,
for each input in its order, a name of its own and the type to which the declared one is mapped.
Each of the other events, which has the name of an earlier one, is worth a warning, in the order of
the events; so there are as many warnings as there are events more than names. Taking such an event
away, from the interface or from the ABI, leaves the block as it was. -/
theorem events_mapped (s : Subject) :
    (s.events = none ↔ s.interface.events = []) ∧
      (s.interface.events ≠ [] → ∃ entries : List Event,
        s.events = some ((if s.options.exported then "export " else "") ++ "interface " ++
          s.names.events ++ " \x7b\n" ++
          String.join (entries.map fun e => "  " ++ e.name ++ ": \x7b" ++
            (if e.inputs = [] then ""
              else " " ++ String.intercalate ", "
                (List.zipWith (fun name p => name ++ ": " ++ (TsType.ofAbi p.type).text)
                  (Naming.paramNames e.inputs) e.inputs) ++ " ") ++ "\x7d;\n") ++ "\x7d\n") ∧
        (entries.map some = (s.interface.events.map (·.name)).eraseDups.map
          fun name => s.interface.events.find? (·.name == name)) ∧
        ∀ e ∈ entries, (Naming.paramNames e.inputs).length = e.inputs.length) ∧
      skips s = (repetitions s.interface.events).map (fun e => .repeatedEvent e.name) ∧
      (skips s).length =
        s.interface.events.length - (s.interface.events.map (·.name)).eraseDups.length ∧
      (∀ before e after, s.interface.events = before ++ e :: after →
        e.name ∈ before.map (·.name) →
          let interface := { s.interface with events := before ++ after }
          { s with interface : Subject }.events = s.events) ∧
      ∀ before v after e v' e', s.abi = .array (before ++ v :: after) →
        Interface.ofJson s.abi = .ok s.interface → Member.ofJson v = .ok (.event e) →
        v' ∈ before → Member.ofJson v' = .ok (.event e') → e'.name = e.name →
          let abi := .array (before ++ after)
          ∃ interface, Interface.ofJson abi = .ok interface ∧
            { s with interface, abi : Subject }.events = s.events := by
  refine ⟨?_, ?_, skips_eq s, ?_, ?_, ?_⟩
  · rw [Subject.events]
    split
    · next hempty => simp [List.isEmpty_iff.1 hempty]
    · next hsome => simpa using hsome
  · intro hsome
    refine ⟨firstEvents s.interface.events, ?_, firstEvents_eq _,
      fun e _ => Naming.length_paramNames e.inputs⟩
    rw [Subject.events, if_neg (by simpa using hsome), ← funext eventEntry_eq]
    rfl
  · rw [skips_eq, List.length_map, length_repetitions]
  · intro before e after hevents hname
    refine events_congr rfl rfl ?_
    rw [hevents, firstEvents_remove hname]
  · intro before v after e v' e' habi hok hv hv' he' hname
    obtain ⟨earlier, later, hevents, hok', hearlier⟩ :=
      Interface.ofJson_without_event (habi ▸ hok) hv
    refine ⟨_, hok', events_congr rfl rfl ?_⟩
    have hmem : e.name ∈ earlier.map (·.name) :=
      hname ▸ List.mem_map_of_mem (hearlier v' hv' e' he')
    rw [hevents, firstEvents_remove hmem]

/-- The second event called `Log` has no entry. -/
example :
    let events : List Event :=
      [{ name := "Log" }, { name := "Sent" }, { name := "Log", anonymous := true }]
    (firstEvents events).map (fun e => (e.name, e.anonymous)) = [("Log", false), ("Sent", false)] ∧
      (repetitions events).map (fun e => (e.name, e.anonymous)) = [("Log", true)] := by
  decide

end ContractBindings.TypeScript

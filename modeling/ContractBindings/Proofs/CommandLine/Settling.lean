import ContractBindings.CommandLine.Parser
import ContractBindings.Proofs.Json.Fits

/-!
# What waits between two arguments

A value waits until the next argument is looked at. What the arguments come to in the end is the
same if it is settled at once.

1. `settled_ok`, `step_eq`, `step_error`: what settling does, and that each argument may come after
   it.
2. `read_settled`: what waits may be settled first, whatever comes then.
3. `switched_flag`, `switched_valued`, `assigned_ok`, `plain_kept`: what an option and a plain
   argument leave as they were.
-/

namespace ContractBindings.CommandLine

variable {s t u : State} {e : Usage} {o : Valued} {x : Switch} {c : Char} {names rest : List Char}
  {argument name : String} {value : Option String} {arguments : List String}

/-! ## Reading to the end -/

/-- What is read of arguments in the end, if nothing is wrong with them. -/
def State.read (s : State) (arguments : List String) : Option State :=
  ((s.steps arguments).bind State.settled).toOption

theorem toOption_eq_some {x : Except Usage State} : x.toOption = some t ↔ x = .ok t := by
  cases x <;> simp [Except.toOption]

theorem read_nil (s : State) : s.read [] = s.settled.toOption := rfl

theorem read_cons (s : State) (argument : String) (arguments : List String) :
    s.read (argument :: arguments) = (s.step argument).toOption.bind (·.read arguments) := by
  rw [State.read, State.steps]
  cases s.step argument <;> rfl

theorem read_nil_iff : s.read [] = some t ↔ s.settled = .ok t := toOption_eq_some

theorem read_cons_iff :
    s.read (argument :: arguments) = some t ↔
      ∃ u, s.step argument = .ok u ∧ u.read arguments = some t := by
  rw [read_cons, Option.bind_eq_some_iff]
  simp only [toOption_eq_some]

/-! ## Forms -/

theorem form_separator_iff : Form.of argument = .separator ↔ argument = "--" := by
  constructor
  · intro h
    unfold Form.of at h
    split at h
    · next hlist => exact String.toList_injective hlist
    all_goals cases h
  · rintro rfl
    rfl

theorem eq_of_form_short (h : Form.of argument = .short names) :
    argument = String.ofList ('-' :: names) := by
  unfold Form.of at h
  split at h
  all_goals cases h
  next hlist => exact String.toList_injective (by rw [hlist, String.toList_ofList])

theorem form_names_ne (h : Form.of argument = .short names) : names ≠ [] := by
  unfold Form.of at h
  split at h
  all_goals cases h
  exact List.cons_ne_nil _ _

theorem form_ofList (h : c ≠ '-') :
    Form.of (String.ofList ('-' :: c :: rest)) = .short (c :: rest) := by
  rw [Form.of, String.toList_ofList]
  split
  · next heq =>
    cases heq
    exact absurd rfl h
  · next heq =>
    cases heq
    exact absurd rfl h
  · next heq =>
    cases heq
    rfl
  · next hne => exact absurd rfl (hne c rest)

/-! ## Settling -/

/-- No option waits for its value. -/
structure State.Ready (s : State) : Prop where
  idle : s.awaiting = false
  valued : ∀ a, s.pending ≠ some (a, none)

/-- Nothing is pending. -/
structure State.Settled (s : State) : Prop where
  idle : s.awaiting = false
  done : s.pending = none

theorem State.Settled.ready (h : s.Settled) : s.Ready :=
  ⟨h.idle, fun a => by simp [h.done]⟩

/-- An option waits for its value. -/
def State.Waits (s : State) : Prop := ∃ a, s.pending = some (a, none)

theorem State.Ready.not_waits (h : s.Ready) : ¬s.Waits := by
  rintro ⟨a, ha⟩
  exact h.valued a ha

theorem State.Waits.error (h : s.Waits) : ∃ e, s.settled = .error e := by
  obtain ⟨a, hpending⟩ := h
  exact ⟨.missingValue a, by rw [State.settled, hpending]⟩

/-- The same command goes on, and nothing has been asked of the log. -/
structure State.Kept (s t : State) : Prop where
  command : t.command = s.command
  trailing : t.trailing = s.trailing
  verbose : t.given.verbose = s.given.verbose

theorem State.Kept.trans (h : s.Kept t) (h' : t.Kept u) : s.Kept u :=
  ⟨h'.command.trans h.command, h'.trailing.trans h.trailing, h'.verbose.trans h.verbose⟩

theorem verbose_withValue {g g' : Given} {a : Argument} {value : String}
    (h : g.withValue a value = .ok g') : g'.verbose = g.verbose := by
  unfold Given.withValue at h
  split at h
  · cases h
  · cases h
    rfl
  · split at h
    · cases h
    · split at h
      · cases h
      · cases h
        rfl

theorem verbose_withFlag {g g' : Given} {f : Flag} (h : g.withFlag f = .ok g') :
    g'.verbose = g.verbose := by
  unfold Given.withFlag at h
  split at h
  · cases h
  · cases h
    rfl

/-- What settling comes to: nothing is pending, and all else but what was given is as it was. -/
theorem settled_ok (h : s.settled = .ok u) :
    s.Kept u ∧ u.pending = none ∧ u.awaiting = s.awaiting ∧ u.named = s.named := by
  unfold State.settled at h
  split at h
  · next hpending =>
    cases h
    exact ⟨⟨rfl, rfl, rfl⟩, hpending, rfl, rfl⟩
  · cases h
  · next a value _ =>
    obtain ⟨g, hgiven, rfl⟩ := Json.map_ok h
    exact ⟨⟨rfl, rfl, verbose_withValue hgiven⟩, rfl, rfl, rfl⟩

theorem settled_of_pending (h : u.pending = none) : u.settled = .ok u := by
  rw [State.settled, h]

theorem settled_settled (h : s.settled = .ok u) : u.settled = .ok u :=
  settled_of_pending (settled_ok h).2.1

theorem State.Ready.settles (hs : s.Ready) (h : s.settled = .ok u) : u.Settled := by
  obtain ⟨-, hpending, hawaiting, -⟩ := settled_ok h
  exact ⟨hawaiting.trans hs.idle, hpending⟩

/-! ## Settling first -/

theorem switched_eq (h : s.settled = .ok u) (x : Switch) : s.switched x = u.switched x := by
  rw [State.switched, State.switched, h, settled_settled h]

theorem assigned_eq (h : s.settled = .ok u) (o : Valued) (value : String) :
    s.assigned o value = u.assigned o value := by
  rw [State.assigned, State.assigned, h, settled_settled h]

theorem long_eq (h : s.settled = .ok u) (name : String) (value : Option String) :
    s.long name value = u.long name value := by
  unfold State.long
  rw [(settled_ok h).1.command]
  simp only [switched_eq h, assigned_eq h]

theorem short_eq (h : s.settled = .ok u) (hnames : names ≠ []) :
    s.short names = u.short names := by
  cases names with
  | nil => exact absurd rfl hnames
  | cons c rest =>
    rw [State.short.eq_def, State.short.eq_def]
    simp only [switched_eq h, assigned_eq h]

theorem plain_eq (hs : s.Ready) (h : s.settled = .ok u) (argument : String) :
    s.plain argument = u.plain argument := by
  obtain ⟨-, hpending, -, hnamed⟩ := settled_ok h
  unfold State.plain
  rw [hpending, hnamed, h, settled_settled h]
  split
  · next a hnone => exact absurd hnone (hs.valued a)
  · rfl

/-- What is pending may be settled before the next argument. -/
theorem step_eq (hs : s.Ready) (h : s.settled = .ok u)
    (hargument : s.trailing = true ∨ argument ≠ "--") : s.step argument = u.step argument := by
  unfold State.step
  rw [(settled_ok h).1.trailing]
  split
  · exact plain_eq hs h argument
  · next htrailing =>
    split
    · next hform =>
      exact absurd (form_separator_iff.1 hform) (hargument.resolve_left htrailing)
    · exact long_eq h _ _
    · next hform => exact short_eq h (form_names_ne hform)
    · exact plain_eq hs h argument

theorem long_error (h : s.settled = .error e) (name : String) (value : Option String) :
    (s.long name value).toOption = none := by
  unfold State.long State.switched State.assigned
  rw [h]
  split <;> rfl

theorem short_error (h : s.settled = .error e) (hnames : names ≠ []) :
    (s.short names).toOption = none := by
  cases names with
  | nil => exact absurd rfl hnames
  | cons c rest =>
    rw [State.short.eq_def]
    unfold State.switched State.assigned
    rw [h]
    simp only
    split
    · rfl
    · split <;> rfl
    · rfl

theorem plain_error (hs : s.Ready) (h : s.settled = .error e) (argument : String) :
    (s.plain argument).toOption = none := by
  unfold State.plain
  rw [h]
  split
  · next a hnone => exact absurd hnone (hs.valued a)
  · split <;> rfl

theorem step_error (hs : s.Ready) (h : s.settled = .error e)
    (hargument : s.trailing = true ∨ argument ≠ "--") : (s.step argument).toOption = none := by
  unfold State.step
  split
  · exact plain_error hs h argument
  · next htrailing =>
    split
    · next hform =>
      exact absurd (form_separator_iff.1 hform) (hargument.resolve_left htrailing)
    · exact long_error h _ _
    · next hform => exact short_error h (form_names_ne hform)
    · exact plain_error hs h argument

theorem step_separator (h : s.trailing = false) :
    s.step "--" = .ok { s with trailing := true, awaiting := false } := by
  rw [State.step, h]
  rfl

/-- What is pending may be settled first, whatever comes then. -/
theorem read_settled (hs : s.Ready) (arguments : List String) :
    s.read arguments = s.settled.toOption.bind (·.read arguments) := by
  induction arguments generalizing s with
  | nil =>
    rw [read_nil]
    cases h : s.settled with
    | error e => rfl
    | ok u =>
      simp only [Except.toOption, Option.bind_some, read_nil]
      rw [settled_settled h]
  | cons argument rest ih =>
    by_cases hargument : s.trailing = true ∨ argument ≠ "--"
    · cases h : s.settled with
      | error e =>
        rw [read_cons, step_error hs h hargument]
        rfl
      | ok u =>
        rw [read_cons, step_eq hs h hargument, ← read_cons]
        rfl
    · -- two dashes settle nothing, so what is pending is settled behind them
      rw [not_or, Bool.not_eq_true, Decidable.not_not] at hargument
      obtain ⟨htrailing, rfl⟩ := hargument
      let behind (s : State) : State := { s with trailing := true, awaiting := false }
      have hbehind : (behind s).Ready := ⟨rfl, hs.valued⟩
      have hsettled : (behind s).settled = s.settled.map behind := by
        unfold State.settled
        rw [show (behind s).pending = s.pending from rfl]
        split
        · rfl
        · rfl
        · next a value _ =>
          rw [show (behind s).given = s.given from rfl]
          cases s.given.withValue a value <;> rfl
      rw [read_cons, step_separator htrailing]
      show (behind s).read rest = _
      rw [ih hbehind, hsettled]
      cases h : s.settled with
      | error e => rfl
      | ok u =>
        have hu : u.trailing = false := (settled_ok h).1.trailing.trans htrailing
        show (behind u).read rest = u.read ("--" :: rest)
        rw [read_cons, step_separator hu]
        rfl

/-! ## What is kept -/

theorem switched_flag {f : Flag} (h : s.switched (.flag f) = .ok t) : s.Kept t ∧ t.Settled := by
  unfold State.switched at h
  cases hsettled : s.settled with
  | error e => simp [hsettled] at h
  | ok u =>
    obtain ⟨hkept, hpending, -, -⟩ := settled_ok hsettled
    rw [hsettled] at h
    obtain ⟨g, hgiven, rfl⟩ := Json.map_ok h
    exact ⟨hkept.trans ⟨rfl, rfl, verbose_withFlag hgiven⟩, rfl, hpending⟩

theorem switched_valued (h : s.switched (.valued o) = .ok t) : s.Kept t ∧ t.Waits := by
  unfold State.switched at h
  cases hsettled : s.settled with
  | error e => simp [hsettled] at h
  | ok u =>
    simp only [hsettled] at h
    cases h
    exact ⟨(settled_ok hsettled).1.trans ⟨rfl, rfl, rfl⟩, _, rfl⟩

theorem switched_help (s : State) : (s.switched .help).toOption = none := by
  unfold State.switched
  cases s.settled <;> rfl

theorem switched_help_ne (s t : State) : s.switched .help ≠ .ok t := by
  intro h
  have hnone := switched_help s
  rw [h] at hnone
  cases hnone

theorem assigned_ok {value : String} (h : s.assigned o value = .ok t) : s.Kept t ∧ t.Settled := by
  unfold State.assigned at h
  cases hsettled : s.settled with
  | error e => simp [hsettled] at h
  | ok u =>
    obtain ⟨hkept, hpending, -, -⟩ := settled_ok hsettled
    rw [hsettled] at h
    obtain ⟨g, hgiven, rfl⟩ := Json.map_ok h
    exact ⟨hkept.trans ⟨rfl, rfl, verbose_withValue hgiven⟩, rfl, hpending⟩

theorem short_unknown (h : Switch.ofShort? c = none) : (s.short (c :: rest)).toOption = none := by
  rw [State.short.eq_def]
  simp only [h]
  rfl

theorem short_switch (h : Switch.ofShort? c = some x) (hx : ∀ o, x ≠ .valued o) :
    (s.short (c :: rest)).toOption =
      (s.switched x).toOption.bind fun t => (t.short rest).toOption := by
  rw [State.short.eq_def]
  cases x with
  | valued o => exact absurd rfl (hx o)
  | _ =>
    simp only [h]
    cases State.switched s _ <;> rfl

theorem short_ok (h : Switch.ofShort? c = some x) (hx : ∀ o, x ≠ .valued o)
    (hshort : s.short (c :: rest) = .ok t) : ∃ u, s.switched x = .ok u ∧ u.short rest = .ok t := by
  rw [State.short.eq_def] at hshort
  cases x with
  | valued o => exact absurd rfl (hx o)
  | _ =>
    simp only [h] at hshort
    split at hshort
    · cases hshort
    · next u hswitched => exact ⟨u, hswitched, hshort⟩

theorem short_valued (h : Switch.ofShort? c = some (.valued o))
    (hshort : s.short (c :: rest) = .ok t) :
    s.Kept t ∧ if rest.isEmpty = true then t.Waits else t.Ready := by
  rw [State.short.eq_def] at hshort
  simp only [h] at hshort
  split at hshort
  · exact switched_valued hshort
  · exact ⟨(assigned_ok hshort).1, (assigned_ok hshort).2.ready⟩
  · next hne _ =>
    have hrest : rest.isEmpty ≠ true := fun hempty => hne (List.isEmpty_iff.1 hempty)
    rw [if_neg hrest]
    exact ⟨(assigned_ok hshort).1, (assigned_ok hshort).2.ready⟩

theorem plain_kept (h : s.plain argument = .ok t) : s.Kept t ∧ t.Ready := by
  unfold State.plain at h
  split at h
  · split at h
    · cases h
      exact ⟨⟨rfl, rfl, rfl⟩, rfl, by simp⟩
    · split at h <;> cases h
  · split at h
    · cases h
    · obtain ⟨u, hsettled, rfl⟩ := Json.map_ok h
      exact ⟨(settled_ok hsettled).1.trans ⟨rfl, rfl, rfl⟩, rfl, by simp⟩

end ContractBindings.CommandLine

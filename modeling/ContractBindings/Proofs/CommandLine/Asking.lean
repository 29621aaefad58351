import ContractBindings.Proofs.CommandLine.Settling
import Mathlib.Data.List.Chain
import Mathlib.Logic.Function.Iterate

/-!
# Asking for more of the log

1. `verboseCount`: how often arguments ask; `hushed`: the arguments without it.
2. `step_louder`, `read_louder`: having asked changes nothing else.
3. `short_hush`, `step_hush`, `step_asks`: what an argument does besides asking.
4. `step_kept`: an argument without asking does not ask.
-/

namespace ContractBindings.CommandLine

/-! ## Asking for more of the log -/

/-- The argument that asks for more of the log a number of times. -/
def verboseArgument (n : Nat) : String :=
  String.ofList ('-' :: List.replicate n 'v')

/-- How often short options that stand together ask for more of the log. What comes after an option
with a value is its value. -/
def verboseLetters : List Char → Nat
  | [] => 0
  | c :: rest =>
    match Switch.ofShort? c with
    | some .verbose => verboseLetters rest + 1
    | some (.valued _) => 0
    | _ => verboseLetters rest

/-- How often an argument asks for more of the log. -/
def verboseIn (argument : String) : Nat :=
  match Form.of argument with
  | .short names => verboseLetters names
  | _ => 0

/-- How often the arguments of a command ask for more of the log. Nothing is an option after two
dashes. -/
def verboseCount : List String → Nat
  | [] => 0
  | argument :: rest =>
    if argument = "--" then 0 else verboseIn argument + verboseCount rest

/-! ## Not asking -/

/-- Short options that stand together, without those that ask for more of the log. -/
def hushLetters : List Char → List Char
  | [] => []
  | c :: rest =>
    match Switch.ofShort? c with
    | some .verbose => hushLetters rest
    | some (.valued _) => c :: rest
    | _ => c :: hushLetters rest

/-- An argument that does not ask for more of the log, if anything else is left of it. No argument
is changed into a long option, or into two dashes. -/
def hush? (argument : String) : Option String :=
  match Form.of argument with
  | .short names =>
    match hushLetters names with
    | [] => none
    | c :: names => if c = '-' then some argument else some (String.ofList ('-' :: c :: names))
  | _ => some argument

/-- The arguments of a command without asking for more of the log. -/
def hushed : List String → List String
  | [] => []
  | argument :: rest =>
    if argument = "--" then argument :: rest else (hush? argument).toList ++ hushed rest

/-- The last of short options that stand together needs a value that is not there. -/
def lettersAwait : List Char → Bool
  | [] => false
  | c :: rest =>
    match Switch.ofShort? c with
    | some (.valued _) => rest.isEmpty
    | _ => lettersAwait rest

/-- The argument after this one is the value of an option. -/
def awaitsValue (command : Subcommand) (argument : String) : Bool :=
  match Form.of argument with
  | .long name none =>
    match Switch.ofLong? command name with
    | some (.valued _) => true
    | _ => false
  | .short names => lettersAwait names
  | _ => false

/-- Nothing that only asks for more of the log stands between an option and its value. -/
def Unbroken (command : Subcommand) (arguments : List String) : Prop :=
  (arguments.takeWhile (· ≠ "--")).IsChain fun option argument =>
    ¬(awaitsValue command option = true ∧ hush? argument = none)

instance (command : Subcommand) (arguments : List String) :
    Decidable (Unbroken command arguments) :=
  inferInstanceAs (Decidable (List.IsChain _ _))

/-! ## Counting -/

theorem countUp_iterate (n : Nat) : countUp^[n] 0 = min n maxCount := by
  induction n with
  | zero => rfl
  | succ n ih =>
    rw [Function.iterate_succ_apply', ih, countUp]
    omega

/-- What a command was given, and asking for more of the log besides. -/
def Given.louder (n : Nat) (g : Given) : Given :=
  { g with verbose := countUp^[n] g.verbose }

/-- What has been read, and asking for more of the log besides. -/
def State.louder (n : Nat) (s : State) : State :=
  { s with given := s.given.louder n }

variable {s t u : State} {n : Nat} {o : Valued} {x : Switch} {c : Char} {names rest : List Char}
  {argument quiet name : String} {value : Option String} {after : List String}
  {command : Subcommand}

theorem louder_louder (m n : Nat) (s : State) : (s.louder n).louder m = s.louder (m + n) := by
  unfold State.louder Given.louder
  rw [Function.iterate_add_apply]

theorem map_louder (m n : Nat) (result : Option State) :
    (result.map (State.louder n)).map (State.louder m) = result.map (State.louder (m + n)) := by
  rw [Option.map_map]
  exact congrFun (congrArg Option.map (funext (louder_louder m n))) result

/-! ## Asking does nothing else -/

theorem withValue_louder (n : Nat) (g : Given) (a : Argument) (value : String) :
    (g.louder n).withValue a value = (g.withValue a value).map (Given.louder n) := by
  cases a with
  | contract =>
    cases h : Argument.contract.refuses value <;> simp only [Given.withValue, h] <;> rfl
  | valued o =>
    simp only [Given.withValue]
    rw [show (g.louder n).values = g.values from rfl]
    split
    · rfl
    · cases (Argument.valued o).refuses value <;> rfl

theorem withFlag_louder (n : Nat) (g : Given) (f : Flag) :
    (g.louder n).withFlag f = (g.withFlag f).map (Given.louder n) := by
  unfold Given.withFlag
  rw [show (g.louder n).flags = g.flags from rfl]
  split <;> rfl

theorem settled_louder (n : Nat) (s : State) :
    (s.louder n).settled = s.settled.map (State.louder n) := by
  unfold State.settled
  rw [show (s.louder n).pending = s.pending from rfl]
  split
  · rfl
  · rfl
  · next a value _ =>
    rw [show (s.louder n).given = s.given.louder n from rfl, withValue_louder]
    cases s.given.withValue a value <;> rfl

theorem switched_louder (n : Nat) (s : State) (x : Switch) :
    (s.louder n).switched x = (s.switched x).map (State.louder n) := by
  unfold State.switched
  rw [settled_louder]
  cases s.settled with
  | error e => rfl
  | ok u =>
    cases x with
    | flag f =>
      simp only [Except.map]
      rw [show (u.louder n).given = u.given.louder n from rfl, withFlag_louder]
      cases u.given.withFlag f <;> rfl
    | valued o => rfl
    | help => rfl
    | verbose =>
      have hcount (k : Nat) : countUp (countUp^[n] k) = countUp^[n] (countUp k) := by
        rw [← Function.iterate_succ_apply' countUp, Function.iterate_succ_apply countUp]
      simp only [Except.map, State.louder, Given.louder, hcount]

theorem assigned_louder (n : Nat) (s : State) (o : Valued) (value : String) :
    (s.louder n).assigned o value = (s.assigned o value).map (State.louder n) := by
  unfold State.assigned
  rw [settled_louder]
  cases s.settled with
  | error e => rfl
  | ok u =>
    simp only [Except.map]
    rw [show (u.louder n).given = u.given.louder n from rfl, withValue_louder]
    cases u.given.withValue (.valued o) value <;> rfl

theorem long_louder (n : Nat) (s : State) (name : String) (value : Option String) :
    (s.louder n).long name value = (s.long name value).map (State.louder n) := by
  unfold State.long
  rw [show (s.louder n).command = s.command from rfl]
  split
  · rfl
  · exact assigned_louder n s _ _
  · exact switched_louder n s _
  · rfl

theorem short_louder (n : Nat) (s : State) (names : List Char) :
    (s.louder n).short names = (s.short names).map (State.louder n) := by
  induction names generalizing s with
  | nil => rfl
  | cons c rest ih =>
    rw [State.short.eq_def, State.short.eq_def]
    simp only
    split
    · rfl
    · split
      · exact switched_louder n s _
      · exact assigned_louder n s _ _
      · exact assigned_louder n s _ _
    · next x _ _ =>
      rw [switched_louder]
      cases s.switched x with
      | error e => rfl
      | ok u => exact ih u

theorem plain_louder (n : Nat) (s : State) (argument : String) :
    (s.louder n).plain argument = (s.plain argument).map (State.louder n) := by
  unfold State.plain
  rw [show (s.louder n).pending = s.pending from rfl,
    show (s.louder n).awaiting = s.awaiting from rfl, show (s.louder n).named = s.named from rfl,
    settled_louder]
  split
  · split
    · rfl
    · split <;> rfl
  · split
    · rfl
    · cases s.settled <;> rfl

theorem step_louder (n : Nat) (s : State) (argument : String) :
    (s.louder n).step argument = (s.step argument).map (State.louder n) := by
  unfold State.step
  rw [show (s.louder n).trailing = s.trailing from rfl]
  split
  · exact plain_louder n s argument
  · split
    · rfl
    · exact long_louder n s _ _
    · exact short_louder n s _
    · exact plain_louder n s argument

theorem read_louder (n : Nat) (s : State) (arguments : List String) :
    (s.louder n).read arguments = (s.read arguments).map (State.louder n) := by
  induction arguments generalizing s with
  | nil =>
    rw [read_nil, read_nil, settled_louder]
    cases s.settled <;> rfl
  | cons argument rest ih =>
    rw [read_cons, read_cons, step_louder]
    cases s.step argument with
    | error e => rfl
    | ok u => exact ih u

theorem State.Settled.louder (h : s.Settled) (n : Nat) : (s.louder n).Settled :=
  ⟨h.idle, h.done⟩

/-! ## Options without asking -/

theorem switched_verbose (hs : s.Settled) : s.switched .verbose = .ok (s.louder 1) := by
  have hidle := hs.idle
  rw [State.switched, settled_of_pending hs.done]
  cases s
  cases hidle
  rfl

/-- Short options with and without asking for more of the log differ in nothing else. -/
theorem short_hush (hs : s.Settled) (names : List Char) :
    (s.short names).toOption =
      (s.short (hushLetters names)).toOption.map (State.louder (verboseLetters names)) := by
  induction names generalizing s with
  | nil => rfl
  | cons c rest ih =>
    cases hx : Switch.ofShort? c with
    | none =>
      simp only [hushLetters, verboseLetters, hx]
      rw [short_unknown hx, short_unknown hx]
      rfl
    | some x =>
      cases x with
      | flag f =>
        simp only [hushLetters, verboseLetters, hx]
        rw [short_switch hx (by simp), short_switch hx (by simp)]
        cases hswitched : s.switched (.flag f) with
        | error e => rfl
        | ok t => exact ih (switched_flag hswitched).2
      | valued o =>
        simp only [hushLetters, verboseLetters, hx]
        exact Option.map_id'.symm
      | verbose =>
        simp only [hushLetters, verboseLetters, hx]
        rw [short_switch hx (by simp), switched_verbose hs]
        show ((s.louder 1).short rest).toOption = _
        rw [ih (hs.louder 1), short_louder]
        cases s.short (hushLetters rest) with
        | error e => rfl
        | ok t => exact congrArg some (louder_louder _ _ t)
      | help =>
        simp only [hushLetters, verboseLetters, hx]
        rw [short_switch hx (by simp), short_switch hx (by simp), switched_help]
        rfl

/-- Short options that do not ask for more of the log leave that as it was. -/
theorem short_kept (hs : hushLetters names = [] → s.Ready)
    (h : s.short (hushLetters names) = .ok t) :
    s.Kept t ∧ if lettersAwait names = true then t.Waits else t.Ready := by
  induction names generalizing s with
  | nil =>
    cases h
    exact ⟨⟨rfl, rfl, rfl⟩, hs rfl⟩
  | cons c rest ih =>
    cases hx : Switch.ofShort? c with
    | none =>
      simp only [hushLetters, hx] at h
      have hnone : (s.short (c :: hushLetters rest)).toOption = none := short_unknown hx
      rw [h] at hnone
      cases hnone
    | some x =>
      cases x with
      | flag f =>
        simp only [hushLetters, lettersAwait, hx] at h ⊢
        obtain ⟨u, hswitched, hrest⟩ := short_ok hx (by simp) h
        obtain ⟨hkept, hsettled⟩ := switched_flag hswitched
        obtain ⟨hkept', hend⟩ := ih (fun _ => hsettled.ready) hrest
        exact ⟨hkept.trans hkept', hend⟩
      | valued o =>
        simp only [hushLetters, lettersAwait, hx] at h ⊢
        exact short_valued hx h
      | verbose =>
        simp only [hushLetters, lettersAwait, hx] at hs h ⊢
        exact ih hs h
      | help =>
        simp only [hushLetters, hx] at h
        obtain ⟨u, hswitched, -⟩ := short_ok hx (by simp) h
        exact absurd hswitched (switched_help_ne s u)

theorem lettersAwait_of_hush (h : hushLetters names = []) : lettersAwait names = false := by
  induction names with
  | nil => rfl
  | cons c rest ih =>
    cases hx : Switch.ofShort? c with
    | none => simp [hushLetters, hx] at h
    | some x =>
      cases x with
      | verbose =>
        simp only [hushLetters, lettersAwait, hx] at h ⊢
        exact ih h
      | flag | valued | help => simp [hushLetters, hx] at h

/-! ## Arguments without asking -/

/-- Two dashes have not come yet, and what is pending is whole or an option that waits. -/
structure State.Open (s : State) : Prop where
  leading : s.trailing = false
  state : s.Ready ∨ s.Waits

theorem State.Open.settles (hs : s.Open) (h : s.settled = .ok u) : u.Settled := by
  rcases hs.state with hready | hwaits
  · exact hready.settles h
  · obtain ⟨e, herror⟩ := hwaits.error
    rw [herror] at h
    cases h

theorem State.Open.settled (hs : s.Open) (h : s.settled = .ok u) : u.Open :=
  ⟨(settled_ok h).1.trailing.trans hs.leading, .inl (hs.settles h).ready⟩

theorem step_short (hs : s.Open) (h : Form.of argument = .short names) :
    s.step argument = s.short names := by
  simp only [State.step, hs.leading, h]
  rfl

theorem step_long (hs : s.Open) (h : Form.of argument = .long name value) :
    s.step argument = s.long name value := by
  simp only [State.step, hs.leading, h]
  rfl

theorem step_plain (hs : s.Open) (h : Form.of argument = .plain) :
    s.step argument = s.plain argument := by
  simp only [State.step, hs.leading, h]
  rfl

/-- What is left of short options that stand together, if anything is. -/
theorem hush_short (h : Form.of argument = .short names) :
    (hush? argument = none ∧ hushLetters names = []) ∨
      (∃ c rest, hushLetters names = c :: rest ∧ c ≠ '-' ∧
        hush? argument = some (String.ofList ('-' :: c :: rest))) ∨
      ∃ rest, hushLetters names = '-' :: rest ∧ hush? argument = some argument := by
  unfold hush?
  simp only [h]
  split
  · next hnone => exact .inl ⟨rfl, hnone⟩
  · next c rest hsome =>
    by_cases hc : c = '-'
    · subst hc
      exact .inr (.inr ⟨rest, hsome, if_pos rfl⟩)
    · exact .inr (.inl ⟨c, rest, hsome, hc, if_neg hc⟩)

/-- Short options of an argument with and without asking differ in nothing else. -/
theorem State.Open.short_hush (hs : s.Open) (hnames : names ≠ [])
    (hquiet : hushLetters names ≠ []) :
    (s.short names).toOption =
      (s.short (hushLetters names)).toOption.map (State.louder (verboseLetters names)) := by
  cases h : s.settled with
  | error e =>
    rw [short_error h hnames, short_error h hquiet]
    rfl
  | ok u =>
    rw [short_eq h hnames, short_eq h hquiet]
    exact CommandLine.short_hush (hs.settles h) names

/-- A dash among short options is an unknown one. -/
theorem step_dash (hs : s.Open) (hform : Form.of argument = .short names)
    (hletters : hushLetters names = '-' :: rest) : (s.step argument).toOption = none := by
  have hdash : Switch.ofShort? '-' = none := by decide
  rw [step_short hs hform, hs.short_hush (form_names_ne hform) (by simp [hletters]), hletters,
    short_unknown hdash]
  rfl

/-- What an argument does besides asking for more of the log. -/
theorem step_hush (hs : s.Open) (h : hush? argument = some quiet) :
    (s.step argument).toOption =
      (s.step quiet).toOption.map (State.louder (verboseIn argument)) := by
  cases hform : Form.of argument with
  | short names =>
    have hnames := form_names_ne hform
    rw [verboseIn, hform, step_short hs hform]
    rcases hush_short hform with ⟨hnone, -⟩ | ⟨c, rest, hletters, hc, hsome⟩ |
      ⟨rest, hletters, hsome⟩
    · rw [hnone] at h
      cases h
    · rw [hsome] at h
      cases h
      rw [step_short hs (form_ofList hc), ← hletters]
      exact hs.short_hush hnames (by simp [hletters])
    · rw [hsome] at h
      cases h
      rw [← step_short hs hform, step_dash hs hform hletters]
      rfl
  | separator | long | plain =>
    have hsame : hush? argument = some argument := by simp only [hush?, hform]
    rw [hsame] at h
    cases h
    rw [verboseIn, hform]
    exact Option.map_id'.symm

/-- An argument that only asks for more of the log. -/
theorem asks_short (h : hush? argument = none) :
    ∃ names, Form.of argument = .short names ∧ hushLetters names = [] := by
  cases hform : Form.of argument with
  | short names =>
    rcases hush_short hform with ⟨-, hletters⟩ | ⟨c, rest, -, -, hsome⟩ | ⟨rest, -, hsome⟩
    · exact ⟨names, rfl, hletters⟩
    all_goals
      rw [hsome] at h
      cases h
  | separator | long | plain =>
    simp only [hush?, hform] at h
    cases h

/-- An argument that only asks settles what is pending, and asks. -/
theorem step_asks (hs : s.Open) (h : hush? argument = none) :
    (s.step argument).toOption =
      s.settled.toOption.map (State.louder (verboseIn argument)) := by
  obtain ⟨names, hform, hletters⟩ := asks_short h
  have hnames := form_names_ne hform
  rw [verboseIn, hform, step_short hs hform]
  cases hsettled : s.settled with
  | error e =>
    rw [short_error hsettled hnames]
    rfl
  | ok u =>
    rw [short_eq hsettled hnames, short_hush (hs.settles hsettled), hletters]
    rfl

theorem exists_of_hush (hs : s.Open) (h : hush? argument = some quiet)
    (hstep : s.step argument = .ok t) :
    ∃ u, s.step quiet = .ok u ∧ u.louder (verboseIn argument) = t := by
  have hsome := step_hush hs h
  rw [hstep] at hsome
  obtain ⟨u, hquiet, hlouder⟩ := Option.map_eq_some_iff.1 hsome.symm
  exact ⟨u, toOption_eq_some.1 hquiet, hlouder⟩

theorem exists_of_asks (hs : s.Open) (h : hush? argument = none)
    (hstep : s.step argument = .ok t) :
    ∃ u, s.settled = .ok u ∧ u.louder (verboseIn argument) = t := by
  have hsome := step_asks hs h
  rw [hstep] at hsome
  obtain ⟨u, hsettled, hlouder⟩ := Option.map_eq_some_iff.1 hsome.symm
  exact ⟨u, toOption_eq_some.1 hsettled, hlouder⟩

theorem awaitsValue_of_asks (command : Subcommand) (h : hush? argument = none) :
    awaitsValue command argument = false := by
  obtain ⟨names, hform, hletters⟩ := asks_short h
  rw [awaitsValue, hform]
  exact lettersAwait_of_hush hletters

theorem ofLong_ne_verbose (command : Subcommand) (name : String) :
    Switch.ofLong? command name ≠ some .verbose := by
  unfold Switch.ofLong?
  split
  · simp
  · split
    · simp
    · split <;> simp
    · simp

theorem long_kept (hform : Form.of argument = .long name value) (h : s.long name value = .ok t) :
    s.Kept t ∧ if awaitsValue s.command argument = true then t.Waits else t.Ready := by
  unfold State.long at h
  rw [awaitsValue, hform]
  split at h
  · cases h
  · exact ⟨(assigned_ok h).1, (assigned_ok h).2.ready⟩
  · next x hswitch =>
    simp only [hswitch]
    cases x with
    | flag f => exact ⟨(switched_flag h).1, (switched_flag h).2.ready⟩
    | valued o => exact switched_valued h
    | verbose => exact absurd hswitch (ofLong_ne_verbose _ _)
    | help => exact absurd h (switched_help_ne s t)
  · cases h

/-- An argument that does not ask leaves that as it was, and waits for a value or does not. -/
theorem step_kept (hs : s.Open) (hne : argument ≠ "--") (h : hush? argument = some quiet)
    (hstep : s.step quiet = .ok t) :
    s.Kept t ∧ if awaitsValue s.command argument = true then t.Waits else t.Ready := by
  cases hform : Form.of argument with
  | separator => exact absurd (form_separator_iff.1 hform) hne
  | long name value =>
    simp only [hush?, hform] at h
    cases h
    rw [step_long hs hform] at hstep
    exact long_kept hform hstep
  | short names =>
    have hawaits : awaitsValue s.command argument = lettersAwait names := by
      rw [awaitsValue, hform]
    rw [hawaits]
    rcases hush_short hform with ⟨hnone, -⟩ | ⟨c, rest, hletters, hc, hsome⟩ |
      ⟨rest, hletters, hsome⟩
    · rw [hnone] at h
      cases h
    · rw [hsome] at h
      cases h
      rw [step_short hs (form_ofList hc), ← hletters] at hstep
      exact short_kept (by simp [hletters]) hstep
    · rw [hsome] at h
      cases h
      have hnone := step_dash hs hform hletters
      rw [hstep] at hnone
      cases hnone
  | plain =>
    simp only [hush?, hform] at h
    cases h
    rw [step_plain hs hform] at hstep
    rw [awaitsValue, hform]
    exact plain_kept hstep

theorem State.Open.step (hs : s.Open) (hne : argument ≠ "--") (h : hush? argument = some quiet)
    (hstep : s.step quiet = .ok t) : t.Open := by
  obtain ⟨hkept, hstate⟩ := step_kept hs hne h hstep
  refine ⟨hkept.trailing.trans hs.leading, ?_⟩
  split at hstate
  · exact .inr hstate
  · exact .inl hstate

theorem waits_iff (hs : s.Open) (hne : argument ≠ "--") (h : hush? argument = some quiet)
    (hstep : s.step quiet = .ok t) : t.Waits ↔ awaitsValue s.command argument = true := by
  obtain ⟨-, hstate⟩ := step_kept hs hne h hstep
  split at hstate
  · next hawaits => exact iff_of_true hstate hawaits
  · next hawaits => exact iff_of_false hstate.not_waits hawaits

theorem unbroken_separator : Unbroken command ("--" :: after) := by
  simp [Unbroken]

theorem unbroken_cons (h : argument ≠ "--") :
    Unbroken command (argument :: after) ↔
      (awaitsValue command argument = true → ∀ b ∈ after.head?, hush? b ≠ none) ∧
        Unbroken command after := by
  unfold Unbroken
  rw [List.takeWhile_cons_of_pos (by simpa using h)]
  cases after with
  | nil => simp
  | cons b rest =>
    by_cases hb : b = "--"
    · subst hb
      have hquiet : hush? "--" = some "--" := rfl
      simp [hquiet]
    · rw [List.takeWhile_cons_of_pos (by simpa using hb), List.isChain_cons_cons]
      simp

end ContractBindings.CommandLine

import ContractBindings.CommandLine.Program
import ContractBindings.Proofs.CommandLine.Asking
import Mathlib.Algebra.GroupWithZero.Nat

/-!
# How often more of the log was asked for

1. `read_hushed`, `unbroken_of_read`: a command's arguments with and without asking.
2. `parseCommand_hushed`: what the count of a command is.
3. `parseFrom_groups`, `exists_groups`: what stands before a command.
4. `parse_verbose`: how a whole command line counts; `verbose_not_added`: what stands on the two
   sides of the command is not added.
-/

namespace ContractBindings.CommandLine

variable {s t : State} {arguments after : List String} {name : String} {names : List Char}
  {command : Subcommand} {i j : Invocation}

/-! ## Runs without asking -/

/-- What waits for a value does not meet an argument that only asks. -/
def State.Meets (s : State) (arguments : List String) : Prop :=
  s.Waits → ∀ b ∈ arguments.head?, hush? b ≠ none

/-- Asking does nothing but ask, unless it comes between an option and its value. -/
theorem read_hushed (hs : s.Open) (hmeets : s.Meets arguments)
    (hunbroken : Unbroken s.command arguments) :
    s.read arguments = (s.read (hushed arguments)).map (State.louder (verboseCount arguments)) := by
  induction arguments generalizing s with
  | nil => exact Option.map_id'.symm
  | cons argument rest ih =>
    by_cases hne : argument = "--"
    · rw [hushed, if_pos hne, verboseCount, if_pos hne]
      exact Option.map_id'.symm
    · rw [hushed, if_neg hne, verboseCount, if_neg hne]
      obtain ⟨hnext, hrest⟩ := (unbroken_cons hne).1 hunbroken
      cases hquiet : hush? argument with
      | none =>
        have hready : s.Ready :=
          hs.state.resolve_right fun hwaits => hmeets hwaits argument rfl hquiet
        rw [read_cons, step_asks hs hquiet]
        show _ = (s.read (hushed rest)).map _
        rw [read_settled hready (hushed rest)]
        cases h : s.settled with
        | error e => rfl
        | ok u =>
          have hu := hs.settled h
          show (u.louder _).read rest = (u.read (hushed rest)).map _
          rw [read_louder, ih hu (fun hwaits => absurd hwaits (hs.settles h).ready.not_waits)
            ((settled_ok h).1.command ▸ hrest), map_louder]
      | some quiet =>
        show _ = (s.read (quiet :: hushed rest)).map _
        rw [read_cons, read_cons, step_hush hs hquiet]
        cases hstep : s.step quiet with
        | error e => rfl
        | ok t =>
          have ht := hs.step hne hquiet hstep
          have hmeets' : t.Meets rest := fun hwaits =>
            hnext ((waits_iff hs hne hquiet hstep).1 hwaits)
          have hcommand := (step_kept hs hne hquiet hstep).1.command
          show (t.louder _).read rest = (t.read (hushed rest)).map _
          rw [read_louder, ih ht hmeets' (hcommand ▸ hrest), map_louder]

/-- Nothing is read where asking comes between an option and its value. -/
theorem unbroken_of_read (hs : s.Open) (h : s.read arguments = some t) :
    s.Meets arguments ∧ Unbroken s.command arguments := by
  induction arguments generalizing s t with
  | nil => exact ⟨fun _ b hb => (by cases hb), by simp [Unbroken]⟩
  | cons argument rest ih =>
    by_cases hne : argument = "--"
    · subst hne
      refine ⟨fun _ b hb => ?_, unbroken_separator⟩
      cases hb
      exact Option.some_ne_none _
    · rw [unbroken_cons hne]
      obtain ⟨next, hstep, hread⟩ := read_cons_iff.1 h
      cases hquiet : hush? argument with
      | none =>
        obtain ⟨u, hsettled, rfl⟩ := exists_of_asks hs hquiet hstep
        rw [read_louder, Option.map_eq_some_iff] at hread
        obtain ⟨v, hread, -⟩ := hread
        have hrest := (ih (hs.settled hsettled) hread).2
        rw [(settled_ok hsettled).1.command] at hrest
        refine ⟨fun hwaits => ?_, fun hawaits => ?_, hrest⟩
        · obtain ⟨e, herror⟩ := hwaits.error
          rw [hsettled] at herror
          cases herror
        · rw [awaitsValue_of_asks _ hquiet] at hawaits
          cases hawaits
      | some quiet =>
        obtain ⟨u, hstep', rfl⟩ := exists_of_hush hs hquiet hstep
        rw [read_louder, Option.map_eq_some_iff] at hread
        obtain ⟨v, hread, -⟩ := hread
        obtain ⟨hmeets, hrest⟩ := ih (hs.step hne hquiet hstep') hread
        rw [(step_kept hs hne hquiet hstep').1.command] at hrest
        refine ⟨fun _ b hb => ?_, fun hawaits => ?_, hrest⟩
        · cases hb
          simp [hquiet]
        · exact hmeets ((waits_iff hs hne hquiet hstep').2 hawaits)

/-- After two dashes nothing asks. -/
theorem trailing_read (hs : s.trailing = true) (h : s.read arguments = some t) :
    t.given.verbose = s.given.verbose := by
  induction arguments generalizing s with
  | nil => exact (settled_ok (read_nil_iff.1 h)).1.verbose
  | cons argument rest ih =>
    have hplain : s.step argument = s.plain argument := by
      rw [State.step, if_pos hs]
    rw [read_cons_iff, hplain] at h
    obtain ⟨u, hstep, hread⟩ := h
    have hkept := (plain_kept hstep).1
    exact (ih (hkept.trailing.trans hs) hread).trans hkept.verbose

/-- Arguments without asking leave it as it was. -/
theorem verbose_hushed (hs : s.Open) (h : s.read (hushed arguments) = some t) :
    t.given.verbose = s.given.verbose := by
  induction arguments generalizing s with
  | nil => exact (settled_ok (read_nil_iff.1 h)).1.verbose
  | cons argument rest ih =>
    by_cases hne : argument = "--"
    · subst hne
      rw [hushed, if_pos rfl, read_cons, step_separator hs.leading] at h
      have hread := trailing_read (by rfl) h
      exact hread
    · rw [hushed, if_neg hne] at h
      cases hquiet : hush? argument with
      | none =>
        rw [hquiet] at h
        exact ih hs h
      | some quiet =>
        rw [hquiet] at h
        obtain ⟨u, hstep, hread⟩ := read_cons_iff.1 h
        have hkept := (step_kept hs hne hquiet hstep).1
        exact (ih (hs.step hne hquiet hstep) hread).trans hkept.verbose

/-! ## Commands -/

theorem open_start (command : Subcommand) : State.Open { command } :=
  ⟨rfl, .inl ⟨rfl, by simp⟩⟩

/-- What a command line comes to, given what is read of it. -/
theorem parseCommand_iff {before : Nat} : parseCommand command before after = .ok j ↔
    ∃ t contract, State.read { command } after = some t ∧ t.given.contract = some contract ∧
      j = t.given.invocation command contract before := by
  unfold parseCommand State.read
  cases (State.steps { command } after).bind State.settled with
  | error e => simp [Except.toOption]
  | ok t =>
    cases hcontract : t.given.contract with
    | none => simp [Except.toOption, hcontract]
    | some contract =>
      simp [Except.toOption, hcontract, eq_comm]

theorem invocation_louder {g : Given} (hg : g.verbose = 0) (n : Nat) (contract : String)
    (before : Nat) : (g.louder n).invocation command contract before =
      { g.invocation command contract 0 with
        verbose := if n = 0 then before else min n maxCount } := by
  have hcount : countUp^[n] g.verbose = min n maxCount := by rw [hg, countUp_iterate]
  have hzero : min n maxCount = 0 ↔ n = 0 := by
    rw [maxCount]
    omega
  unfold Given.invocation
  rw [show (g.louder n).verbose = countUp^[n] g.verbose from rfl, hcount]
  simp only [hzero]
  rfl

/-- Asking and not asking differ in the count alone, where a count of the command's own hides the
count that stands before it. -/
theorem parseCommand_hushed {before : Nat} : parseCommand command before after = .ok j ↔
    ∃ i, Unbroken command after ∧ parseCommand command 0 (hushed after) = .ok i ∧
      j = { i with verbose :=
        if verboseCount after = 0 then before else min (verboseCount after) maxCount } := by
  have hstart := open_start command
  have hmeets : State.Meets { command } after := fun hwaits => by
    obtain ⟨a, ha⟩ := hwaits
    cases ha
  constructor
  · intro h
    obtain ⟨t, contract, hread, hcontract, rfl⟩ := parseCommand_iff.1 h
    have hunbroken := (unbroken_of_read hstart hread).2
    rw [read_hushed hstart hmeets hunbroken, Option.map_eq_some_iff] at hread
    obtain ⟨u, hquiet, rfl⟩ := hread
    exact ⟨u.given.invocation command contract 0, hunbroken,
      parseCommand_iff.2 ⟨u, contract, hquiet, hcontract, rfl⟩,
      invocation_louder (verbose_hushed hstart hquiet) _ _ _⟩
  · rintro ⟨i, hunbroken, hquiet, rfl⟩
    obtain ⟨u, contract, hread, hcontract, rfl⟩ := parseCommand_iff.1 hquiet
    refine parseCommand_iff.2 ⟨u.louder (verboseCount after), contract, ?_, hcontract, ?_⟩
    · rw [read_hushed hstart hmeets hunbroken, hread]
      rfl
    · exact (invocation_louder (verbose_hushed hstart hread) _ _ _).symm

/-! ## Before the command -/

theorem shortBefore_iff {count count' : Nat} : shortBefore count names = .ok count' ↔
    ∃ n, names = List.replicate n 'v' ∧ count' = countUp^[n] count := by
  constructor
  · intro h
    induction names generalizing count with
    | nil =>
      cases h
      exact ⟨0, rfl, rfl⟩
    | cons c rest ih =>
      unfold shortBefore at h
      split at h
      · next heq => cases heq
      · next heq =>
        cases heq
        obtain ⟨n, rfl, rfl⟩ := ih h
        exact ⟨n + 1, rfl, rfl⟩
      all_goals cases h
  · rintro ⟨n, rfl, rfl⟩
    induction n generalizing count with
    | zero => rfl
    | succ n ih =>
      rw [List.replicate_succ, shortBefore, ih]
      rfl

theorem verboseArgument_ne (n : Nat) {s : String} (hs : s.toList.head? ≠ some '-') :
    verboseArgument n ≠ s := by
  rintro rfl
  rw [verboseArgument, String.toList_ofList] at hs
  exact hs rfl

/-- Asking stands before the command, and is read like the short options of one. -/
theorem parseFrom_verbose {n count : Nat} (hn : 0 < n) :
    parseFrom count (verboseArgument n :: arguments) = parseFrom (countUp^[n] count) arguments := by
  have hname : Subcommand.ofName? (verboseArgument n) = none := by
    rw [Subcommand.ofName?, if_neg (verboseArgument_ne n (by decide)),
      if_neg (not_or.2 ⟨verboseArgument_ne n (by decide), verboseArgument_ne n (by decide)⟩)]
  have hform : Form.of (verboseArgument n) = .short (List.replicate n 'v') := by
    obtain ⟨m, rfl⟩ := Nat.exists_eq_add_one_of_ne_zero hn.ne'
    exact form_ofList (by decide)
  have hshort : shortBefore count (List.replicate n 'v') = .ok (countUp^[n] count) :=
    shortBefore_iff.2 ⟨n, rfl, rfl⟩
  conv_lhs => unfold parseFrom
  simp only [hname, verboseArgument_ne n (show "help".toList.head? ≠ some '-' by decide), hform,
    hshort, if_false]

theorem parseFrom_groups {groups : List Nat} (hgroups : ∀ n ∈ groups, 0 < n) (count : Nat) :
    parseFrom count (groups.map verboseArgument ++ arguments) =
      parseFrom (countUp^[groups.sum] count) arguments := by
  induction groups generalizing count with
  | nil => rfl
  | cons n groups ih =>
    rw [List.map_cons, List.cons_append, parseFrom_verbose (hgroups n List.mem_cons_self),
      ih fun m hm => hgroups m (List.mem_cons_of_mem n hm)]
    rw [List.sum_cons, Nat.add_comm, Function.iterate_add_apply]

theorem parseFrom_command {count : Nat} (h : Subcommand.ofName? name = some command) :
    parseFrom count (name :: after) = parseCommand command count after := by
  unfold parseFrom
  simp only [h]

/-- Nothing but asking stands before a command. -/
theorem exists_groups {count : Nat} (h : parseFrom count arguments = .ok j) :
    ∃ (groups : List Nat) (name : String) (command : Subcommand) (after : List String),
      (∀ n ∈ groups, 0 < n) ∧ Subcommand.ofName? name = some command ∧
        arguments = groups.map verboseArgument ++ name :: after := by
  induction arguments generalizing count with
  | nil =>
    unfold parseFrom at h
    cases h
  | cons argument rest ih =>
    unfold parseFrom at h
    split at h
    · next command hname =>
      exact ⟨[], argument, command, rest, by simp, hname, rfl⟩
    · split at h
      · cases h
      · split at h
        · split at h
          · cases h
          · split at h <;> cases h
        · split at h <;> cases h
        · next names hform =>
          split at h
          · cases h
          · next count' hshort =>
            obtain ⟨n, rfl, -⟩ := shortBefore_iff.1 hshort
            have hn : 0 < n := Nat.pos_of_ne_zero fun hzero => by
              subst hzero
              exact form_names_ne hform rfl
            obtain ⟨groups, name, command, after, hgroups, hname, rfl⟩ := ih h
            refine ⟨n :: groups, name, command, after, ?_, hname, ?_⟩
            · rw [List.forall_mem_cons]
              exact ⟨hn, hgroups⟩
            · rw [eq_of_form_short hform]
              rfl
        · cases h

/-! ## Results -/

/-- What a command line counts that asks so often before its command and behind it. Only one of the
two counts, and it stops at the most that there can be. -/
def countOf (before behind : Nat) : Nat :=
  min (if behind = 0 then before else behind) maxCount

/-- A command line is read if it is read without asking for more of the log, and asks neither
between an option and its value nor, before the command, together with anything else. It counts how
often it asks behind the command, or before it if it does not ask behind it, and by this count the
log is filtered unless a filter is given. -/
theorem parse_verbose (arguments : List String) (j : Invocation) : parse arguments = .ok j ↔
    ∃ (groups : List Nat) (name : String) (command : Subcommand) (after : List String)
      (i : Invocation),
      (∀ n ∈ groups, 0 < n) ∧ Subcommand.ofName? name = some command ∧
      arguments = groups.map verboseArgument ++ name :: after ∧
      Unbroken command after ∧ parse (name :: hushed after) = .ok i ∧
      j = { i with verbose := countOf groups.sum (verboseCount after) } ∧
      ∀ s entries, logText arguments s entries =
        Text.renderSpans (i.color.applies s.logWatched) (Log.lines (s.logFilter.getD
          (Log.Filter.ofVerbosity (countOf groups.sum (verboseCount after)))) s.time entries) := by
  have hcount (before behind : Nat) :
      (if behind = 0 then countUp^[before] 0 else min behind maxCount) = countOf before behind := by
    rw [countUp_iterate, countOf]
    split <;> rfl
  constructor
  · intro h
    obtain ⟨groups, name, command, after, hgroups, hname, rfl⟩ := exists_groups h
    have hparsed := h
    rw [parse, parseFrom_groups hgroups, parseFrom_command hname, parseCommand_hushed] at hparsed
    obtain ⟨i, hunbroken, hquiet, hj⟩ := hparsed
    rw [hcount] at hj
    refine ⟨groups, name, command, after, i, hgroups, hname, rfl, hunbroken, ?_, hj, ?_⟩
    · rw [parse, parseFrom_command hname, hquiet]
    · intro s entries
      subst hj
      rw [logText, h]
  · rintro ⟨groups, name, command, after, i, hgroups, hname, rfl, hunbroken, hquiet, rfl, -⟩
    rw [parse, parseFrom_command hname] at hquiet
    rw [parse, parseFrom_groups hgroups, parseFrom_command hname, parseCommand_hushed]
    exact ⟨i, hunbroken, hquiet, by rw [hcount]⟩

/-- Asking once on either side of the command counts once. -/
theorem verbose_not_added : ¬∀ (groups : List Nat) (name : String) (command : Subcommand)
    (after : List String) (i : Invocation),
    (∀ n ∈ groups, 0 < n) → Subcommand.ofName? name = some command → Unbroken command after →
    parse (name :: hushed after) = .ok i →
    parse (groups.map verboseArgument ++ name :: after) =
      .ok { i with verbose := min (groups.sum + verboseCount after) maxCount } := by
  intro h
  have hadded := h [1] "extract" .extract ["T", "-v"] { command := .extract, contract := "T" }
    (by decide) (by decide) (by decide) (by decide)
  have honce : parse ["-v", "extract", "T", "-v"] =
      .ok { command := .extract, contract := "T", verbose := 1 } := by decide
  change parse ["-v", "extract", "T", "-v"] = _ at hadded
  rw [honce] at hadded
  exact absurd hadded (by decide)

end ContractBindings.CommandLine

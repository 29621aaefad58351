import ContractBindings.CommandLine.Program
import ContractBindings.Proofs.CommandLine.Choices

/-!
# What reading a command line comes to

Reading stops at the first thing that is wrong, or gives an invocation. Each step of it keeps what
it has read sound, and stops with help only where an argument asks for help.

1. `proper_settled` to `proper_steps`: one lemma for each operation of the reader.
2. `help_of_parse`: help is given only where an argument asks for it.
3. `writable_of_parse`: what is read can be written.
4. `exists_compileCommand`: an invocation that was read has a command to compile with.
-/

namespace ContractBindings.CommandLine

/-! ## Sound reading -/

/-- Nothing is wrong with what a command was given. -/
structure Given.Sound (g : Given) : Prop where
  contract : ∀ contract, g.contract = some contract → contract ≠ ""
  values : ∀ o value, g.values.lookup o = some value → (Argument.valued o).refuses value = none

/-- What was read is sound, or reading stopped, with help only if it was asked for. -/
def Proper (asked : Prop) : Except Usage State → Prop
  | .ok s => s.given.Sound
  | .error u => (∃ topic, u = .help topic) → asked

variable {asked asked' : Prop} {result : Except Usage State} {s : State} {g g' : Given}
  {a : Argument} {value : String} {u : Usage}

theorem Proper.imp (h : Proper asked result) (himp : asked → asked') : Proper asked' result := by
  cases result with
  | ok s => exact h
  | error u => exact fun hhelp => himp (h hhelp)

/-- A mistake is no help. -/
theorem proper_mistake (hu : ∀ topic, u ≠ .help topic) : Proper asked (.error u) := by
  rintro ⟨topic, hhelp⟩
  exact absurd hhelp (hu topic)

theorem sound_nothing : ({} : Given).Sound :=
  ⟨by simp, by simp⟩

theorem refuses_no_help (h : a.refuses value = some u) (topic : Topic) : u ≠ .help topic := by
  unfold Argument.refuses at h
  rintro rfl
  repeat' split at h
  all_goals simp at h

theorem Given.Sound.withNew (hg : g.Sound) {o : Valued}
    (hrefuses : (Argument.valued o).refuses value = none) :
    Given.Sound { g with values := g.values ++ [(o, value)] } := by
  refine ⟨hg.contract, fun o' value' hvalue => ?_⟩
  rw [List.lookup_append, Option.or_eq_some_iff] at hvalue
  rcases hvalue with hold | ⟨-, hvalue⟩
  · exact hg.values o' value' hold
  · by_cases ho : o' = o
    · subst ho
      obtain rfl : value = value' := by simpa using hvalue
      exact hrefuses
    · have hbeq : (o' == o) = false := by simpa using ho
      simp [List.lookup_cons, hbeq] at hvalue

/-- A value is taken only if nothing is wrong with it. -/
theorem sound_withValue (hg : g.Sound) (a : Argument) (value : String) :
    (∀ g', g.withValue a value = .ok g' → g'.Sound) ∧
      ∀ topic, g.withValue a value ≠ .error (.help topic) := by
  cases a with
  | contract =>
    cases hrefuses : Argument.contract.refuses value with
    | some u =>
      have hgiven : g.withValue .contract value = .error u := by
        simp only [Given.withValue, hrefuses]
      rw [hgiven]
      exact ⟨by simp, fun topic h => refuses_no_help hrefuses topic (Except.error.inj h)⟩
    | none =>
      have hgiven : g.withValue .contract value = .ok { g with contract := some value } := by
        simp only [Given.withValue, hrefuses]
      have hne : value ≠ "" := by
        rintro rfl
        simp [Argument.refuses] at hrefuses
      rw [hgiven]
      refine ⟨?_, by simp⟩
      rintro _ ⟨⟩
      exact ⟨by simpa using hne, hg.values⟩
  | valued o =>
    rw [Given.withValue]
    split
    · exact ⟨by simp, by simp⟩
    · cases hrefuses : (Argument.valued o).refuses value with
      | some u =>
        exact ⟨by simp, fun topic h => refuses_no_help hrefuses topic (Except.error.inj h)⟩
      | none =>
        refine ⟨?_, by simp⟩
        rintro _ ⟨⟩
        exact hg.withNew hrefuses

theorem proper_withValue (hg : g.Sound) (a : Argument) (value : String) {after : Given → State}
    (hafter : ∀ g, (after g).given = g) : Proper False ((g.withValue a value).map after) := by
  obtain ⟨hsound, hhelp⟩ := sound_withValue hg a value
  cases htaken : g.withValue a value with
  | ok g' =>
    rw [Except.map, Proper, hafter]
    exact hsound g' htaken
  | error u =>
    refine proper_mistake fun topic => ?_
    rintro rfl
    exact hhelp topic htaken

/-! ## The operations of the reader -/

theorem proper_settled (hs : s.given.Sound) : Proper False s.settled := by
  unfold State.settled
  split
  · exact hs
  · exact proper_mistake (by simp)
  · exact proper_withValue hs _ _ fun _ => rfl

/-- What follows once what is pending is settled. -/
theorem proper_of_settled (hs : s.given.Sound) {next : State → Except Usage State}
    (hnext : ∀ s' : State, s'.given.Sound → Proper asked (next s')) :
    Proper asked (match s.settled with | .error u => .error u | .ok s' => next s') := by
  have hsettled := proper_settled hs
  cases hcase : s.settled with
  | error u =>
    rw [hcase] at hsettled
    exact fun hu => (hsettled hu).elim
  | ok s' =>
    rw [hcase] at hsettled
    exact hnext s' hsettled

theorem proper_withFlag (hg : g.Sound) (f : Flag) {after : Given → State}
    (hafter : ∀ g, (after g).given = g) : Proper False ((g.withFlag f).map after) := by
  unfold Given.withFlag
  split
  · exact proper_mistake (by simp)
  · rw [Except.map, Proper, hafter]
    exact ⟨hg.contract, hg.values⟩

theorem proper_switched (hs : s.given.Sound) (x : Switch) : Proper (x = .help) (s.switched x) := by
  unfold State.switched
  refine proper_of_settled hs fun s' hs' => ?_
  cases x with
  | flag f => exact (proper_withFlag hs' f fun _ => rfl).imp False.elim
  | valued o => exact hs'
  | verbose => exact ⟨hs'.contract, hs'.values⟩
  | help => exact fun _ => rfl

theorem proper_assigned (hs : s.given.Sound) (o : Valued) (value : String) :
    Proper False (s.assigned o value) :=
  proper_of_settled hs fun _ hs' => proper_withValue hs' _ _ fun _ => rfl

theorem ofLong_help {command : Subcommand} {name : String}
    (h : Switch.ofLong? command name = some .help) : name = "help" := by
  unfold Switch.ofLong? at h
  split at h
  · assumption
  · repeat' split at h
    all_goals simp at h

theorem ofShort_help {c : Char} (h : Switch.ofShort? c = some .help) : c = 'h' := by
  unfold Switch.ofShort? at h
  split at h
  · assumption
  · repeat' split at h
    all_goals simp at h

theorem proper_long (hs : s.given.Sound) (name : String) (value : Option String) :
    Proper (name = "help" ∧ value = none) (s.long name value) := by
  unfold State.long
  split
  · exact proper_mistake (by simp)
  · exact (proper_assigned hs _ _).imp False.elim
  · next x hx =>
    refine (proper_switched hs x).imp ?_
    rintro rfl
    exact ⟨ofLong_help hx, rfl⟩
  · exact proper_mistake (by simp)

theorem proper_short (hs : s.given.Sound) (names : List Char) :
    Proper ('h' ∈ names) (s.short names) := by
  induction names generalizing s with
  | nil => exact hs
  | cons c rest ih =>
    unfold State.short
    split
    · exact proper_mistake (by simp)
    · next o hx =>
      split
      · refine (proper_switched hs _).imp ?_
        simp
      · exact (proper_assigned hs _ _).imp False.elim
      · exact (proper_assigned hs _ _).imp False.elim
    · next x hvalued hx =>
      have hswitched := proper_switched hs x
      cases hcase : s.switched x with
      | error u =>
        rw [hcase] at hswitched
        intro hu
        obtain rfl := ofShort_help (hx.trans (congrArg some (hswitched hu)))
        exact List.mem_cons_self
      | ok s' =>
        rw [hcase] at hswitched
        exact (ih hswitched).imp (List.mem_cons_of_mem c)

theorem proper_plain (hs : s.given.Sound) (argument : String) :
    Proper False (s.plain argument) := by
  unfold State.plain
  split
  · split
    · exact hs
    · split
      · exact proper_mistake (by simp)
      · exact proper_mistake (by simp)
  · split
    · exact proper_mistake (by simp)
    · have hsettled := proper_settled hs
      cases hcase : s.settled with
      | error u =>
        rw [hcase] at hsettled
        exact hsettled
      | ok s' =>
        rw [hcase] at hsettled
        exact hsettled

/-- An argument asks for help: by name, as an option or among short ones. -/
def AsksForHelp (argument : String) : Prop :=
  argument = "help" ∨
    match Form.of argument with
    | .long name value => name = "help" ∧ value = none
    | .short names => 'h' ∈ names
    | _ => False

theorem proper_step (hs : s.given.Sound) (argument : String) :
    Proper (AsksForHelp argument) (s.step argument) := by
  rw [State.step]
  split
  · exact (proper_plain hs argument).imp False.elim
  · cases hform : Form.of argument with
    | separator => exact hs
    | long name value =>
      refine (proper_long hs name value).imp fun hhelp => .inr ?_
      rwa [hform]
    | short names =>
      refine (proper_short hs names).imp fun hhelp => .inr ?_
      rwa [hform]
    | plain => exact (proper_plain hs argument).imp False.elim

theorem proper_steps (hs : s.given.Sound) (arguments : List String) :
    Proper (∃ argument ∈ arguments, AsksForHelp argument) (s.steps arguments) := by
  induction arguments generalizing s with
  | nil => exact hs
  | cons argument rest ih =>
    have hstep := proper_step hs argument
    rw [State.steps]
    cases hcase : s.step argument with
    | error u =>
      rw [hcase] at hstep
      exact fun hu => ⟨argument, List.mem_cons_self, hstep hu⟩
    | ok s' =>
      rw [hcase] at hstep
      refine (ih hstep).imp ?_
      rintro ⟨a, ha, hasks⟩
      exact ⟨a, List.mem_cons_of_mem _ ha, hasks⟩

/-! ## Whole command lines -/

variable {arguments : List String}

/-- Reading gave an invocation that can be written, once its count is left out, or it stopped, with
help only if an argument asks for it. -/
def ReadsWell (arguments : List String) : Except Usage Invocation → Prop
  | .ok i => ({ i with verbose := 0 } : Invocation).Writable
  | .error u => (∃ topic, u = .help topic) → ∃ argument ∈ arguments, AsksForHelp argument

theorem readsWell_mistake (hu : ∀ topic, u ≠ .help topic) :
    ReadsWell arguments (.error u) := by
  rintro ⟨topic, hhelp⟩
  exact absurd hhelp (hu topic)

theorem ReadsWell.cons {argument : String} {read : Except Usage Invocation}
    (h : ReadsWell arguments read) : ReadsWell (argument :: arguments) read := by
  cases read with
  | ok i => exact h
  | error u =>
    intro hhelp
    obtain ⟨a, ha, hasks⟩ := h hhelp
    exact ⟨a, List.mem_cons_of_mem _ ha, hasks⟩

theorem Given.Sound.nonempty (hg : g.Sound) {o : Valued} {usual : String} (husual : usual ≠ "")
    (ho : o = .artifacts ∨ o = .outDir) : (g.values.lookup o).getD usual ≠ "" := by
  cases hvalue : g.values.lookup o with
  | none => exact husual
  | some value =>
    have hrefuses := hg.values o value hvalue
    rintro rfl
    rcases ho with rfl | rfl <;> simp [Argument.refuses] at hrefuses

theorem Given.Sound.notBlank (hg : g.Sound) :
    Text.allBlank ((g.values.lookup .compileCmd).getD usualCompileCmd) = false := by
  cases hvalue : g.values.lookup .compileCmd with
  | none => decide
  | some line =>
    have hrefuses := hg.values .compileCmd line hvalue
    simpa [Argument.refuses] using hrefuses

/-- What was read in a sound way makes an invocation that can be written. -/
theorem Given.Sound.writable (hg : g.Sound) {contract : String}
    (hcontract : g.contract = some contract) (command : Subcommand) (before : Nat) :
    ({ g.invocation command contract before with verbose := 0 } : Invocation).Writable where
  contract := hg.contract contract hcontract
  artifacts := hg.nonempty (by decide) (.inl rfl)
  outDir := hg.nonempty (by decide) (.inr rfl)
  extract hcommand := by
    obtain rfl : command = .extract := hcommand
    rfl
  compile hcommand := by
    obtain rfl : command = .compileAndExtract := hcommand
    exact ⟨_, rfl, hg.notBlank⟩
  verbose := rfl

theorem readsWell_parseCommand (command : Subcommand) (before : Nat) (arguments : List String) :
    ReadsWell arguments (parseCommand command before arguments) := by
  have hsteps : Proper (∃ argument ∈ arguments, AsksForHelp argument)
      ((State.steps { command } arguments).bind State.settled) := by
    have hsteps := proper_steps (s := { command }) sound_nothing arguments
    cases hcase : State.steps { command } arguments with
    | error u =>
      rw [hcase] at hsteps
      exact hsteps
    | ok s =>
      rw [hcase] at hsteps
      exact (proper_settled hsteps).imp False.elim
  rw [parseCommand]
  cases hcase : (State.steps { command } arguments).bind State.settled with
  | error u =>
    rw [hcase] at hsteps
    exact hsteps
  | ok s =>
    rw [hcase] at hsteps
    simp only
    cases hcontract : s.given.contract with
    | none => exact readsWell_mistake (by simp)
    | some contract => exact hsteps.writable hcontract command before

theorem help_of_shortBefore {count : Nat} {names : List Char} {topic : Topic}
    (h : shortBefore count names = .error (.help topic)) : 'h' ∈ names := by
  induction names generalizing count with
  | nil => simp [shortBefore] at h
  | cons c rest ih =>
    unfold shortBefore at h
    split at h
    · simp at h
    · next heq =>
      obtain ⟨rfl, rfl⟩ := List.cons.inj heq
      exact List.mem_cons_of_mem _ (ih h)
    · next heq =>
      obtain ⟨rfl, rfl⟩ := List.cons.inj heq
      exact List.mem_cons_self
    · simp at h

theorem readsWell_parseFrom (count : Nat) (arguments : List String) :
    ReadsWell arguments (parseFrom count arguments) := by
  induction arguments generalizing count with
  | nil =>
    rw [parseFrom]
    exact readsWell_mistake (by split <;> simp)
  | cons argument rest ih =>
    have hasks (h : AsksForHelp argument) : ∃ a ∈ argument :: rest, AsksForHelp a :=
      ⟨argument, List.mem_cons_self, h⟩
    rw [parseFrom.eq_def]
    simp only
    split
    · exact (readsWell_parseCommand _ _ _).cons
    · split
      · next hargument => exact fun _ => hasks (.inl hargument)
      · split
        · split
          · exact readsWell_mistake (by split <;> simp)
          · split
            · exact readsWell_mistake (by simp)
            · exact readsWell_mistake (by simp)
        · next name value hform =>
          split
          · exact fun _ => hasks (.inr (by rw [hform]; exact ⟨rfl, rfl⟩))
          · exact readsWell_mistake (by simp)
          · exact readsWell_mistake (by simp)
        · next names hform =>
          cases hshort : shortBefore count names with
          | error u =>
            rintro ⟨topic, rfl⟩
            refine hasks (.inr ?_)
            rw [hform]
            exact help_of_shortBefore hshort
          | ok count' => exact (ih count').cons
        · exact readsWell_mistake (by simp)

/-- Reading stops with help only where an argument asks for help. -/
theorem help_of_parse {topic : Topic} (h : parse arguments = .error (.help topic)) :
    ∃ argument ∈ arguments, AsksForHelp argument := by
  have hreads := readsWell_parseFrom 0 arguments
  rw [show parseFrom 0 arguments = _ from h] at hreads
  exact hreads ⟨topic, rfl⟩

/-- What is read can be written, but for the count of how much of the log was asked for. -/
theorem writable_of_parse {i : Invocation} (h : parse arguments = .ok i) :
    ({ i with verbose := 0 } : Invocation).Writable := by
  have hreads := readsWell_parseFrom 0 arguments
  rwa [show parseFrom 0 arguments = _ from h] at hreads

/-! ## The command that compiles -/

theorem wordsFrom_eq_nil {word cs : List Char} :
    Text.wordsFrom word cs = [] ↔ word = [] ∧ cs.all Text.isBlank = true := by
  induction cs generalizing word with
  | nil => cases word <;> simp [Text.wordsFrom]
  | cons c rest ih =>
    rw [Text.wordsFrom]
    cases hblank : Text.isBlank c with
    | false => simp [ih, hblank]
    | true => cases word <;> simp [ih, hblank]

/-- A text has no words just if it is blank. -/
theorem words_eq_nil {line : String} : Text.words line = [] ↔ Text.allBlank line = true := by
  rw [Text.words, List.map_eq_nil_iff, wordsFrom_eq_nil, Text.allBlank]
  simp

/-- An invocation that was read has a command to compile with. -/
theorem exists_compileCommand {i : Invocation} (h : parse arguments = .ok i) :
    ∃ command, i.compileCommand? = some command := by
  have hi := writable_of_parse h
  unfold Invocation.compileCommand?
  cases hline : i.compileCmd with
  | none => exact ⟨_, rfl⟩
  | some line =>
    have hcommand : i.command = .compileAndExtract := by
      cases hcase : i.command with
      | extract =>
        have hnone : i.compileCmd = none := hi.extract hcase
        simp [hline] at hnone
      | compileAndExtract => rfl
    obtain ⟨line', hline', hblank⟩ := hi.compile hcommand
    obtain rfl : line = line' := Option.some.inj (hline.symm.trans hline')
    simp only [Compile.Command.ofLine?]
    cases hwords : Text.words line with
    | nil => simp [words_eq_nil.1 hwords] at hblank
    | cons program args => exact ⟨_, rfl⟩

end ContractBindings.CommandLine

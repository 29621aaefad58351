import ContractBindings.CommandLine.Parser
import Mathlib.Data.List.Nodup

/-!
# Writing a command line

An invocation can be written as a command line: the command, options in any order with their values
attached, two dashes and the contract. Reading such a line gives the invocation back.

1. `step_flag`, `step_value`: what one written option adds to what a command was given.
2. `steps_written`: what a list of written options adds.
3. `invocation_given`: the invocation of what was given has the values and flags that it was given.
4. `parse_written`: every way to write an invocation reads as the invocation.
-/

namespace ContractBindings.CommandLine

/-! ## Options as they are written -/

/-- An option that is given on a command line. -/
inductive Choice where
  | flag (flag : Flag)
  | value (option : Valued) (text : String)

namespace Choice

/-- The option itself. -/
def switch : Choice → Switch
  | flag f => .flag f
  | value o _ => .valued o

/-- The arguments that give an option. A value is attached by an equals sign. -/
def spellings : Choice → List String
  | flag f => ("--" ++ f.long) :: f.short?.toList.map fun c => "-" ++ String.singleton c
  | value o text =>
    ("--" ++ o.long ++ "=" ++ text) ::
      o.short?.toList.map fun c => "-" ++ String.singleton c ++ "=" ++ text

/-- The flag that is given, if one is. -/
def flag? : Choice → Option Flag
  | flag f => some f
  | value .. => none

/-- The option with a value that is given, if one is. -/
def value? : Choice → Option (Valued × String)
  | flag _ => none
  | value o text => some (o, text)

/-- A command takes the option, and nothing is wrong with its value. -/
def Fits (s : Subcommand) : Choice → Prop
  | flag _ => True
  | value o text => o.belongsTo s = true ∧ (Argument.valued o).refuses text = none

end Choice

/-- The arguments that name a command. -/
def Subcommand.spellings : Subcommand → List String
  | .extract => ["extract"]
  | .compileAndExtract => ["compile-and-extract", "build"]

/-- The value of an option that is left out. -/
def Valued.usual : Valued → String
  | .artifacts => "artifacts"
  | .outDir => "abi"
  | .color => "auto"
  | .compileCmd => usualCompileCmd

namespace Invocation

/-- What an invocation has a flag for. -/
def has (i : Invocation) : Flag → Bool
  | .noModule => !i.module
  | .embedBytecode => i.embedBytecode
  | .noExport => !i.exported
  | .printAbi => i.printAbi
  | .quiet => i.quiet

/-- What an invocation has as the value of an option. -/
def value? (i : Invocation) : Valued → Option String
  | .artifacts => some i.artifacts
  | .outDir => some i.outDir
  | .color => some i.color.name
  | .compileCmd => i.compileCmd

/-- All that an invocation has options for. -/
def choices (i : Invocation) : List Choice :=
  (Flag.all.filter i.has).map Choice.flag ++
    Valued.all.filterMap fun o => (i.value? o).map (Choice.value o)

/-- An invocation that can be written: its names are not empty, and it has a compile command just
if its command compiles, which is not blank. -/
structure Writable (i : Invocation) : Prop where
  contract : i.contract ≠ ""
  artifacts : i.artifacts ≠ ""
  outDir : i.outDir ≠ ""
  extract : i.command = .extract → i.compileCmd = none
  compile : i.command = .compileAndExtract →
    ∃ line, i.compileCmd = some line ∧ Text.allBlank line = false
  verbose : i.verbose = 0

/-- Options say what an invocation is: each at most once, those that are left out have their usual
values. -/
structure Said (i : Invocation) (choices : List Choice) : Prop where
  once : (choices.map Choice.switch).Nodup
  flags : ∀ f, .flag f ∈ choices ↔ i.has f = true
  values : ∀ o text, .value o text ∈ choices → i.value? o = some text
  left : ∀ o text, (∀ text', .value o text' ∉ choices) → i.value? o = some text → text = o.usual

end Invocation

/-- What a command was given, and options besides. -/
def Given.plus (g : Given) (choices : List Choice) : Given :=
  { g with
    flags := g.flags ++ choices.filterMap Choice.flag?
    values := g.values ++ choices.filterMap Choice.value? }

/-! ## One option -/

variable {s : Subcommand} {g : Given} {f : Flag} {o : Valued} {text argument : String}
  {choices : List Choice} {arguments : List String}

theorem form_flag (f : Flag) : Form.of ("--" ++ f.long) = .long f.long none := by
  cases f <;> rfl

theorem form_short_flag {c : Char} (h : f.short? = some c) :
    Form.of ("-" ++ String.singleton c) = .short [c] := by
  cases f <;> simp_all only [Flag.short?, reduceCtorEq, Option.some.injEq]
  subst h
  rfl

theorem splitName_value {name : List Char} (hname : '=' ∉ name) (text : List Char) :
    splitName (name ++ '=' :: text) = (String.ofList name, some (String.ofList text)) := by
  have hne : ∀ c ∈ name, decide (c ≠ '=') = true := by
    intro c hc
    simp only [decide_eq_true_eq]
    rintro rfl
    exact hname hc
  have htake : (name ++ '=' :: text).takeWhile (· ≠ '=') = name := by
    rw [List.takeWhile_append_of_pos hne]
    simp
  have hdrop : (name ++ '=' :: text).dropWhile (· ≠ '=') = '=' :: text := by
    rw [List.dropWhile_append_of_pos hne]
    simp
  simp only [splitName, htake, hdrop]

theorem form_value (o : Valued) (text : String) :
    Form.of ("--" ++ o.long ++ "=" ++ text) = .long o.long (some text) := by
  have hname : '=' ∉ o.long.toList := by cases o <;> decide
  have hsplit := splitName_value hname text.toList
  obtain ⟨c, cs, hcons⟩ : ∃ c cs, o.long.toList = c :: cs := by cases o <;> exact ⟨_, _, rfl⟩
  have hlist : ("--" ++ o.long ++ "=" ++ text).toList =
      '-' :: '-' :: (o.long.toList ++ '=' :: text.toList) := by simp
  rw [Form.of, hlist]
  rw [hcons] at hsplit ⊢
  simp only [List.cons_append] at hsplit ⊢
  rw [hsplit, ← hcons]
  simp

theorem form_short_value {c : Char} (h : o.short? = some c) (text : String) :
    Form.of ("-" ++ String.singleton c ++ "=" ++ text) = .short (c :: '=' :: text.toList) := by
  cases o <;> simp_all only [Valued.short?, reduceCtorEq, Option.some.injEq]
  subst h
  simp [Form.of]

theorem ofLong_flag (s : Subcommand) (f : Flag) : Switch.ofLong? s f.long = some (.flag f) := by
  cases f <;> rfl

theorem ofLong_valued (h : o.belongsTo s = true) : Switch.ofLong? s o.long = some (.valued o) := by
  cases o <;> cases s <;> first | rfl | simp [Valued.belongsTo] at h

theorem ofShort_flag {c : Char} (h : f.short? = some c) : Switch.ofShort? c = some (.flag f) := by
  cases f <;> simp_all [Flag.short?]
  subst h
  rfl

theorem ofShort_valued {c : Char} (h : o.short? = some c) :
    Switch.ofShort? c = some (.valued o) := by
  cases o <;> simp_all [Valued.short?]
  subst h
  rfl

/-- A flag that was not given is added to the flags. -/
theorem step_flag (hnew : f ∉ g.flags) (hspelled : argument ∈ (Choice.flag f).spellings) :
    State.step { command := s, given := g } argument =
      .ok { command := s, given := g.plus [.flag f] } := by
  have hgiven : g.withFlag f = .ok (g.plus [.flag f]) := by
    simp [Given.withFlag, hnew, Given.plus, Choice.flag?, Choice.value?]
  have hswitched : State.switched { command := s, given := g } (.flag f) =
      .ok { command := s, given := g.plus [.flag f] } := by
    simp [State.switched, State.settled, hgiven, Except.map]
  rcases List.mem_cons.1 hspelled with rfl | hshort
  · rw [State.step, form_flag]
    simp [State.long, ofLong_flag, hswitched]
  · obtain ⟨c, hc, rfl⟩ := List.mem_map.1 hshort
    rw [Option.mem_toList] at hc
    rw [State.step, form_short_flag hc]
    simp [State.short, ofShort_flag hc, hswitched]

/-- An option that had no value is added with its value. -/
theorem step_value (hfits : (Choice.value o text).Fits s) (hnew : g.values.lookup o = none)
    (hspelled : argument ∈ (Choice.value o text).spellings) :
    State.step { command := s, given := g } argument =
      .ok { command := s, given := g.plus [.value o text] } := by
  obtain ⟨hbelongs, hrefuses⟩ := hfits
  have hgiven : g.withValue (.valued o) text = .ok (g.plus [.value o text]) := by
    simp [Given.withValue, hrefuses, hnew, Given.plus, Choice.flag?, Choice.value?]
  have hassigned : State.assigned { command := s, given := g } o text =
      .ok { command := s, given := g.plus [.value o text] } := by
    simp [State.assigned, State.settled, hgiven, Except.map]
  rcases List.mem_cons.1 hspelled with rfl | hshort
  · rw [State.step, form_value]
    simp [State.long, ofLong_valued hbelongs, hassigned]
  · obtain ⟨c, hc, rfl⟩ := List.mem_map.1 hshort
    rw [Option.mem_toList] at hc
    rw [State.step, form_short_value hc]
    simp [State.short, ofShort_valued hc, hassigned]

/-! ## A line of options -/

/-- The option of a choice was not given. -/
def Given.Lacks (g : Given) : Choice → Prop
  | .flag f => f ∉ g.flags
  | .value o _ => g.values.lookup o = none

variable {c c' : Choice}

theorem Given.plus_nil (g : Given) : g.plus [] = g := by
  simp [plus]

theorem Given.plus_cons (g : Given) (c : Choice) (choices : List Choice) :
    g.plus (c :: choices) = (g.plus [c]).plus choices := by
  cases c <;> simp [plus, List.filterMap_cons, Choice.flag?, Choice.value?]

theorem Given.Lacks.plus (h : g.Lacks c') (hne : c'.switch ≠ c.switch) : (g.plus [c]).Lacks c' := by
  cases c with
  | flag f =>
    cases c' with
    | flag f' => simp_all [Lacks, Given.plus, Choice.switch, Choice.flag?]
    | value o text => simpa [Lacks, Given.plus, Choice.value?] using h
  | value o text =>
    cases c' with
    | flag f => simpa [Lacks, Given.plus, Choice.flag?] using h
    | value o' text' =>
      have ho : (o' == o) = false := by simpa [Choice.switch] using hne
      rw [Lacks] at h ⊢
      simp only [Given.plus, List.filterMap_cons, List.filterMap_nil, Choice.value?,
        List.lookup_append, h, List.lookup_cons, ho, List.lookup_nil, Option.none_or]

theorem step_written (hfits : c.Fits s) (hnew : g.Lacks c) (hspelled : argument ∈ c.spellings) :
    State.step { command := s, given := g } argument =
      .ok { command := s, given := g.plus [c] } := by
  cases c with
  | flag f => exact step_flag hnew hspelled
  | value o text => exact step_value hfits hnew hspelled

/-- Written options are added to what was given, whatever comes after them. -/
theorem steps_written (hwritten : List.Forall₂ (fun c a => a ∈ c.spellings) choices arguments)
    (honce : (choices.map Choice.switch).Nodup) (hfits : ∀ c ∈ choices, c.Fits s)
    (hnew : ∀ c ∈ choices, g.Lacks c) (rest : List String) :
    State.steps { command := s, given := g } (arguments ++ rest) =
      State.steps { command := s, given := g.plus choices } rest := by
  -- the induction is on the options, and what was given grows with each
  induction hwritten generalizing g with
  | nil => rw [Given.plus_nil, List.nil_append]
  | @cons c argument choices arguments hspelled hwritten ih =>
    rw [List.map_cons, List.nodup_cons] at honce
    rw [List.forall_mem_cons] at hfits hnew
    rw [List.cons_append, State.steps, step_written hfits.1 hnew.1 hspelled]
    have hstill (c' : Choice) (hc' : c' ∈ choices) : (g.plus [c]).Lacks c' := by
      refine (hnew.2 c' hc').plus fun heq => ?_
      exact honce.1 (heq ▸ List.mem_map_of_mem hc')
    simp only []
    rw [ih honce.2 hfits.2 hstill, ← Given.plus_cons]

/-- After two dashes the contract is read as it stands. -/
theorem steps_contract {contract : String} (hcontract : contract ≠ "") :
    (State.steps { command := s, given := g } ["--", contract]).bind State.settled =
      .ok { command := s, given := { g with contract := some contract }, trailing := true,
            named := true } := by
  have hform : Form.of "--" = .separator := rfl
  have hrefuses : Argument.refuses .contract contract = none := by
    simp [Argument.refuses, hcontract]
  simp [State.steps, State.step, hform, State.plain, State.settled, Except.map, Except.bind,
    Given.withValue, hrefuses]

/-! ## The invocation of what was given -/

theorem mem_flags : f ∈ choices.filterMap Choice.flag? ↔ .flag f ∈ choices := by
  rw [List.mem_filterMap]
  constructor
  · rintro ⟨c, hc, hf⟩
    cases c <;> simp_all [Choice.flag?]
  · exact fun h => ⟨_, h, rfl⟩

theorem lookup_values (honce : (choices.map Choice.switch).Nodup) :
    (choices.filterMap Choice.value?).lookup o = some text ↔ .value o text ∈ choices := by
  induction choices with
  | nil => simp
  | cons c choices ih =>
    rw [List.map_cons, List.nodup_cons] at honce
    cases c with
    | flag f => simpa [List.filterMap_cons, Choice.value?] using ih honce.2
    | value o' text' =>
      have hvalue : Choice.value? (.value o' text') = some (o', text') := rfl
      rw [List.filterMap_cons_some hvalue, List.lookup_cons, List.mem_cons, Choice.value.injEq]
      by_cases ho : o = o'
      · subst ho
        have hrest : .value o text ∉ choices := fun h => honce.1 (List.mem_map.2 ⟨_, h, rfl⟩)
        simp [hrest, eq_comm]
      · have hbeq : (o == o') = false := by simpa using ho
        simp [hbeq, ho, ih honce.2]

theorem ofName_name (c : ColorChoice) : ColorChoice.ofName? c.name = some c := by
  cases c <;> rfl

attribute [ext] Invocation

namespace Invocation

variable {i : Invocation}

theorem Said.fits (h : i.Said choices) (hi : i.Writable) : ∀ c ∈ choices, c.Fits i.command := by
  rintro (f | ⟨o, text⟩) hc
  · trivial
  · have hvalue := h.values o text hc
    cases o with
    | artifacts =>
      obtain rfl := Option.some.inj hvalue
      exact ⟨rfl, by simp [Argument.refuses, hi.artifacts]⟩
    | outDir =>
      obtain rfl := Option.some.inj hvalue
      exact ⟨rfl, by simp [Argument.refuses, hi.outDir]⟩
    | color =>
      obtain rfl := Option.some.inj hvalue
      refine ⟨rfl, ?_⟩
      cases i.color <;> rfl
    | compileCmd =>
      cases hcommand : i.command with
      | extract => simp [value?, hi.extract hcommand] at hvalue
      | compileAndExtract =>
        obtain ⟨line, hline, hblank⟩ := hi.compile hcommand
        obtain rfl := Option.some.inj (hline.symm.trans hvalue)
        exact ⟨rfl, by simp [Argument.refuses, hblank]⟩

/-- The value that is given, or else the usual one, is the value that the invocation has. -/
theorem Said.value (h : i.Said choices) (ho : i.value? o = some text) :
    ((choices.filterMap Choice.value?).lookup o).getD o.usual = text := by
  cases hlookup : (choices.filterMap Choice.value?).lookup o with
  | none =>
    refine (h.left o text (fun text' hmem => ?_) ho).symm
    simp [(lookup_values h.once).2 hmem] at hlookup
  | some text' =>
    have hvalue := h.values o text' ((lookup_values h.once).1 hlookup)
    exact Option.some.inj (hvalue.symm.trans ho)

theorem Said.color (h : i.Said choices) :
    (((choices.filterMap Choice.value?).lookup .color).bind ColorChoice.ofName?).getD .auto =
      i.color := by
  have hname := h.value (o := .color) rfl
  cases hlookup : (choices.filterMap Choice.value?).lookup .color with
  | none =>
    rw [hlookup] at hname
    have hauto := ofName_name i.color
    rw [← hname] at hauto
    exact Option.some.inj hauto
  | some name =>
    rw [hlookup, Option.getD_some] at hname
    simp [hname, ofName_name]

/-- What options say is the invocation that they say, once the contract is given. -/
theorem Said.invocation (h : i.Said choices) (hi : i.Writable) :
    Given.invocation { ({} : Given).plus choices with contract := some i.contract }
      i.command i.contract 0 = i := by
  have hflag (f : Flag) : f ∈ choices.filterMap Choice.flag? ↔ i.has f = true :=
    mem_flags.trans (h.flags f)
  have hcompile : (Given.invocation { ({} : Given).plus choices with contract := some i.contract }
      i.command i.contract 0).compileCmd = i.compileCmd := by
    cases hcommand : i.command with
    | extract => exact (hi.extract hcommand).symm
    | compileAndExtract =>
      obtain ⟨line, hline, -⟩ := hi.compile hcommand
      rw [hline]
      exact congrArg some (h.value hline)
  refine Invocation.ext rfl rfl (h.value rfl) (h.value rfl) ?_ ?_ ?_ ?_ ?_ h.color hcompile ?_
  · simp [Given.invocation, Given.plus, hflag, has]
  · simp [Given.invocation, Given.plus, hflag, has]
  · simp [Given.invocation, Given.plus, hflag, has]
  · simp [Given.invocation, Given.plus, hflag, has]
  · simp [Given.invocation, Given.plus, hflag, has]
  · exact hi.verbose.symm

/-- The order of options says nothing. -/
theorem Said.perm {choices' : List Choice} (h : i.Said choices) (hp : choices'.Perm choices) :
    i.Said choices' where
  once := ((hp.map Choice.switch).nodup_iff).2 h.once
  flags f := hp.mem_iff.trans (h.flags f)
  values o text hmem := h.values o text (hp.mem_iff.1 hmem)
  left o text hnone := h.left o text fun text' hmem => hnone text' (hp.mem_iff.2 hmem)

theorem nodup_switch_choices (i : Invocation) : (i.choices.map Choice.switch).Nodup := by
  have hflags : ((Flag.all.filter i.has).map Switch.flag).Nodup :=
    (List.Nodup.filter i.has (by decide)).map fun f f' heq => Switch.flag.inj heq
  have hvalues : (((Valued.all.filterMap fun o => (i.value? o).map (Choice.value o))).map
      Choice.switch).Nodup := by
    cases hline : i.compileCmd <;> simp [Valued.all, value?, hline, Choice.switch]
  rw [choices, List.map_append, List.map_map]
  refine hflags.append hvalues ?_
  intro x hx hx'
  obtain ⟨f, -, rfl⟩ := List.mem_map.1 hx
  simp [Choice.switch] at hx'

/-- Every invocation is said by all options that it has. -/
theorem said_choices (i : Invocation) : i.Said i.choices where
  once := i.nodup_switch_choices
  flags f := by
    have hall : f ∈ Flag.all := by cases f <;> decide
    simp [choices, hall]
  values o text hmem := by
    have hhas : o ∈ Valued.all ∧ i.value? o = some text := by simpa [choices] using hmem
    exact hhas.2
  left o text hnone ho := by
    have hall : o ∈ Valued.all := by cases o <;> decide
    refine absurd ?_ (hnone text)
    simp [choices, hall, ho]

end Invocation

/-- An invocation can be said by options, and is read from every line that is written for it: a name
of its command, options that say what it is, in any order and spelling, two dashes and the
contract. -/
theorem parse_written (i : Invocation) (hi : i.Writable) :
    (∃ choices, i.Said choices) ∧
      ∀ choices, i.Said choices → ∀ choices' : List Choice, choices'.Perm choices →
        ∀ arguments, List.Forall₂ (fun c a => a ∈ c.spellings) choices' arguments →
          ∀ name ∈ i.command.spellings,
            parse (name :: arguments ++ ["--", i.contract]) = .ok i := by
  refine ⟨⟨i.choices, i.said_choices⟩, ?_⟩
  intro choices hsaid choices' hperm arguments hwritten name hname
  replace hsaid := hsaid.perm hperm
  have hcommand : Subcommand.ofName? name = some i.command := by
    cases hcase : i.command <;> simp_all [Subcommand.spellings, Subcommand.ofName?]
    rcases hname with rfl | rfl <;> decide
  have hnothing : ∀ c ∈ choices', ({} : Given).Lacks c := by
    rintro (f | ⟨o, text⟩) - <;> simp [Given.Lacks]
  have hsteps := steps_written hwritten hsaid.once (hsaid.fits hi) hnothing ["--", i.contract]
  rw [parse, List.cons_append, parseFrom.eq_def]
  simp only [hcommand, parseCommand, hsteps, steps_contract hi.contract]
  exact congrArg Except.ok (hsaid.invocation hi)

/-- A line for an invocation with values that look like options, in the short spellings where there
are some. -/
theorem parse_written_dashes :
    let i : Invocation :=
      { command := .compileAndExtract, contract := "--quiet", outDir := "--color=never"
        module := false, quiet := true, compileCmd := some "make all" }
    i.Writable ∧ parse ["build", "-o=--color=never", "-q", "--compile-cmd=make all",
      "--artifacts=artifacts", "--no-module", "--", "--quiet"] = .ok i := by
  intro i
  let choices : List Choice :=
    [.value .outDir "--color=never", .flag .quiet, .value .compileCmd "make all",
      .value .artifacts "artifacts", .flag .noModule]
  have hi : i.Writable :=
    ⟨by decide, by decide, by decide, nofun, fun _ => ⟨"make all", rfl, by decide⟩, rfl⟩
  have hsaid : i.Said choices := by
    refine ⟨by decide, ?_, ?_, ?_⟩
    · intro f
      cases f <;> simp [choices, i, Invocation.has]
    · intro o text hmem
      simp only [choices, List.mem_cons, Choice.value.injEq, reduceCtorEq, List.not_mem_nil,
        false_or, or_false] at hmem
      rcases hmem with ⟨rfl, rfl⟩ | ⟨rfl, rfl⟩ | ⟨rfl, rfl⟩ <;> rfl
    · intro o text hnone ho
      cases o with
      | color => exact (Option.some.inj ho).symm
      | artifacts => exact (Option.some.inj ho).symm
      | outDir => exact absurd (List.mem_cons_self) (hnone "--color=never")
      | compileCmd => exact absurd (by simp [choices]) (hnone "make all")
  exact ⟨hi, (parse_written i hi).2 choices hsaid choices (List.Perm.refl _) _
    (.cons (by decide) (.cons (by decide) (.cons (by decide) (.cons (by decide)
      (.cons (by decide) .nil))))) "build" (by decide)⟩

end ContractBindings.CommandLine

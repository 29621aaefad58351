import ContractBindings.Proofs.CommandLine.Reading
import ContractBindings.Proofs.Text.Words

/-!
# Compile commands

The command that compiles is given as one line, which is cut at its blanks. A blank line is refused
while the arguments are read, so that whoever runs the command never meets one.

1. `ofLine_eq_none_iff`: which lines are no command.
2. `runs_of_ofLine`, `ofLine_text`: a command consists of the words of its line, and its text reads
   as the command.
3. `complaint_ne_blank`: an invocation never complains about a blank command.
4. `compileCommand_lines`: all that becomes of a line.
-/

namespace ContractBindings.CommandLine

open Compile (Command)

/-- What is said about a compile command without a word. -/
def blankComplaint : String := "error: compile command cannot be blank\n"

variable {line : String} {command : Command}

/-! ## Lines -/

theorem ofLine_eq_none_iff : Command.ofLine? line = none ↔ Text.allBlank line = true := by
  rw [← words_eq_nil, Command.ofLine?]
  cases Text.words line with
  | nil => simp
  | cons program args => simp

theorem refuses_iff : (Argument.valued .compileCmd).refuses line ≠ none ↔
    Text.allBlank line = true := by
  cases h : Text.allBlank line <;> simp [Argument.refuses, h]

/-- The words of a command are the words of its line, and it runs where it is. -/
theorem words_of_ofLine (h : Command.ofLine? line = some command) :
    Text.words line = command.program :: command.args ∧ command.directory = none := by
  unfold Command.ofLine? at h
  split at h
  · simp at h
  · next program args hwords =>
    obtain rfl := Option.some.inj h
    exact ⟨hwords, rfl⟩

/-- A command consists of the longest runs of its line that hold no blank. -/
theorem runs_of_ofLine (h : Command.ofLine? line = some command) :
    Text.Runs line.toList ((command.program :: command.args).map String.toList) := by
  rw [Text.runs_iff, ← (words_of_ofLine h).1, Text.words, List.map_map]
  have hid : String.toList ∘ String.ofList = id := by
    funext cs
    exact String.toList_ofList
  rw [hid, List.map_id]

theorem ofLine_of_words {program : String} {args : List String}
    (h : Text.words line = program :: args) :
    Command.ofLine? line = some { program, args } := by
  rw [Command.ofLine?, h]

/-- The text of a command that was read is read as the command. -/
theorem ofLine_text (h : Command.ofLine? line = some command) :
    Command.ofLine? command.text = some command := by
  have hproper := (runs_of_ofLine h).proper
  have hlist : command.text.toList =
      List.intercalate [' '] ((command.program :: command.args).map String.toList) := by
    rw [Command.text, String.toList_intercalate]
    rfl
  have hwords : Text.words command.text = command.program :: command.args := by
    rw [Text.words, hlist, Text.wordsFrom_intercalate hproper, List.map_map]
    have hid : String.ofList ∘ String.toList = id := by
      funext s
      exact String.ofList_toList
    rw [hid, List.map_id]
  rw [ofLine_of_words hwords]
  obtain ⟨program, args, directory⟩ := command
  obtain rfl : directory = none := (words_of_ofLine h).2
  rfl

/-- The text of a command is its program, and a space before each argument. -/
theorem toList_text (command : Command) :
    command.text.toList =
      command.program.toList ++ command.args.flatMap fun arg => ' ' :: arg.toList := by
  rw [Command.text, String.toList_intercalate, List.map_cons]
  generalize command.program.toList = program
  induction command.args generalizing program with
  | nil => simp
  | cons arg args ih =>
    have hspace : " ".toList = [' '] := rfl
    rw [List.map_cons, List.intercalate_cons_cons, ih, List.flatMap_cons, hspace]
    simp

/-! ## Complaints -/

/-- How the wordings of errors start. -/
def messageStarts : List String :=
  ["artifact `", "failed to read artifact `", "invalid artifact `", "malformed interface: ",
    "compilation failed: `", "failed to write `"]

theorem exists_messageStart (e : Extraction.Error) :
    ∃ start ∈ messageStarts, ∃ rest, e.message = start ++ rest := by
  cases e with
  | artifactNotFound root file =>
    refine ⟨"artifact `", by decide, file ++ ("` not found under `" ++ (root ++ "`")), ?_⟩
    rw [← String.append_assoc, ← String.append_assoc, ← String.append_assoc]
    rfl
  | artifactRead path fault =>
    refine ⟨"failed to read artifact `", by decide, path ++ ("`: " ++ fault.message), ?_⟩
    rw [← String.append_assoc, ← String.append_assoc]
    rfl
  | invalidArtifact path fault =>
    refine ⟨"invalid artifact `", by decide, path ++ ("`: " ++ fault.message), ?_⟩
    rw [← String.append_assoc, ← String.append_assoc]
    rfl
  | malformedInterface fault =>
    exact ⟨"malformed interface: ", by decide, fault.message, rfl⟩
  | compilationFailed failure =>
    refine ⟨"compilation failed: `", by decide, failure.command ++ ("` " ++ (failure.status ++
      if (Text.trimEnd failure.diagnostics).isEmpty then ""
      else "\n" ++ Text.trimEnd failure.diagnostics)), ?_⟩
    rw [← String.append_assoc, ← String.append_assoc, ← String.append_assoc]
    rfl
  | persistenceFailed path fault =>
    refine ⟨"failed to write `", by decide, path ++ ("`: " ++ fault.message), ?_⟩
    rw [← String.append_assoc, ← String.append_assoc]
    rfl

theorem message_ne_blank (e : Extraction.Error) (rest : String) :
    e.message ++ rest ≠ "compile command cannot be blank\n" := by
  intro heq
  obtain ⟨start, hstart, more, hmessage⟩ := exists_messageStart e
  have hprefix : start.toList <+: "compile command cannot be blank\n".toList := by
    rw [← heq, hmessage, String.append_assoc, String.toList_append]
    exact List.prefix_append _ _
  have hnone : ∀ start ∈ messageStarts,
      ¬start.toList <+: "compile command cannot be blank\n".toList := by decide
  exact hnone start hstart hprefix

theorem errorText_ne_blank (e : Extraction.Error) : errorText e ≠ blankComplaint := by
  intro heq
  unfold errorText at heq
  rw [String.append_assoc, String.append_assoc] at heq
  exact message_ne_blank e _ ((String.append_right_inj "error: ").1 heq)

/-- An invocation that was read has a command to run, and does not complain that it is blank. -/
theorem complaint_ne_blank {arguments : List String} {i : Invocation}
    (h : parse arguments = .ok i) (s : Surroundings) (d : Disk) :
    (execute arguments s d).complaint ≠ blankComplaint := by
  obtain ⟨command, hcommand⟩ := exists_compileCommand h
  have hsilent : "" ≠ blankComplaint := by decide
  rw [execute, h]
  simp only [Invocation.execute, hcommand]
  split
  · exact hsilent
  · exact errorText_ne_blank _

/-! ## All that becomes of a line -/

/-- A line is no command just if it holds nothing but blanks, and just then it is refused as an
argument, so that an invocation that was read never complains about it. A command consists of the
longest runs of its line that hold no blank, is written with a space between each two of them, and
is read back from that text. -/
theorem compileCommand_lines :
    (∀ line : String,
      (Command.ofLine? line = none ↔ ∀ c ∈ line.toList, Text.isBlank c = true) ∧
        (Command.ofLine? line = none ↔ (Argument.valued .compileCmd).refuses line ≠ none) ∧
        ∀ command, Command.ofLine? line = some command →
          Text.Runs line.toList ((command.program :: command.args).map String.toList) ∧
            (∀ word ∈ command.program :: command.args, word ≠ "") ∧
            command.text.toList =
              command.program.toList ++ command.args.flatMap (fun arg => ' ' :: arg.toList) ∧
            Command.ofLine? command.text = some command) ∧
      ∀ arguments s d i, parse arguments = .ok i →
        (execute arguments s d).complaint ≠ blankComplaint := by
  refine ⟨fun line => ⟨?_, ?_, ?_⟩, fun arguments s d i h => complaint_ne_blank h s d⟩
  · rw [ofLine_eq_none_iff, Text.allBlank, List.all_eq_true]
  · rw [ofLine_eq_none_iff, refuses_iff]
  · intro command h
    have hruns := runs_of_ofLine h
    refine ⟨hruns, ?_, toList_text command, ofLine_text h⟩
    rintro word hword rfl
    exact (hruns.proper _ (List.mem_map_of_mem hword)).1 rfl

/-- A line with blanks of all kinds, of which the text keeps one space between each two words. -/
example : Command.ofLine? " \tnpx\u00a0hardhat \u3000compile\n" = some Command.usual := by
  decide

end ContractBindings.CommandLine

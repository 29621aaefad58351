import ContractBindings.CommandLine.Option

/-!
# Help

What the program says about itself and its commands when it is asked to.
-/

namespace ContractBindings.CommandLine

/-- What help can be about. -/
inductive Topic where
  /-- The program as a whole. -/
  | program
  /-- One of the commands. -/
  | command (command : Subcommand)
  /-- Help itself. -/
  | help
  deriving DecidableEq, Repr

/-- The lines about the program. -/
def programHelp : List String := [
    "Typed TypeScript bindings from compiled contract artifacts",
    "",
    "Usage: abibind [OPTIONS] <COMMAND>",
    "",
    "Commands:",
    "  extract              Generate bindings from already compiled artifacts",
    "  compile-and-extract  Compile the contracts, then generate bindings [alias: build]",
    "  help                 Print this message or the help of the given subcommand(s)",
    "",
    "Options:",
    "  -v...       Verbosity level (-v for progress, -vv for debug logs)",
    "  -h, --help  Print help"]

/-- The lines about the command that extracts. -/
def extractHelp : List String := [
    "Generate bindings from already compiled artifacts",
    "",
    "Usage: abibind extract [OPTIONS] <CONTRACT>",
    "",
    "Arguments:",
    "  <CONTRACT>  Contract name, as in the artifact file name (e.g. gCOTI)",
    "",
    "Options:",
    "      --artifacts <DIR>  Compiled artifacts directory [default: artifacts]",
    "  -v...                  Verbosity level (-v for progress, -vv for debug logs)",
    "  -o, --out-dir <DIR>    Directory for the generated files [default: abi]",
    "      --no-module        Don't write the <CONTRACT>-abi.js module",
    "      --embed-bytecode   Fill the <CONTRACT>_BYTECODE constant from the artifact",
    "      --no-export        Don't export generated declarations",
    "      --print-abi        Print the full ABI JSON before the summary",
    "  -q, --quiet            Only print errors",
    "      --color <WHEN>     Colorize output [default: auto] " ++
      "[possible values: auto, always, never]",
    "  -h, --help             Print help",
    "",
    "OUTPUTS:",
    "  <DIR>/<CONTRACT>-abi.json        ABI, verbatim",
    "  <DIR>/<CONTRACT>-interface.ts    typed ethers v6 interfaces",
    "  <DIR>/<CONTRACT>-abi.js          CommonJS module (unless --no-module)",
    "",
    "EXAMPLES:",
    "  abibind extract gCOTI                         # artifacts/ -> abi/",
    "  abibind extract gCOTI -o web/src/abi          # custom output dir",
    "  abibind extract gCOTI --artifacts out/hh      # custom artifacts dir"]

/-- The lines about the command that compiles first. -/
def compileAndExtractHelp : List String := [
    "Compile the contracts, then generate bindings",
    "",
    "Usage: abibind compile-and-extract [OPTIONS] <CONTRACT>",
    "",
    "Arguments:",
    "  <CONTRACT>  Contract name, as in the artifact file name (e.g. gCOTI)",
    "",
    "Options:",
    "      --compile-cmd <CMD>  Command that compiles the contracts " ++
      "[default: \"npx hardhat compile\"]",
    "  -v...                    Verbosity level (-v for progress, -vv for debug logs)",
    "      --artifacts <DIR>    Compiled artifacts directory [default: artifacts]",
    "  -o, --out-dir <DIR>      Directory for the generated files [default: abi]",
    "      --no-module          Don't write the <CONTRACT>-abi.js module",
    "      --embed-bytecode     Fill the <CONTRACT>_BYTECODE constant from the artifact",
    "      --no-export          Don't export generated declarations",
    "      --print-abi          Print the full ABI JSON before the summary",
    "  -q, --quiet              Only print errors",
    "      --color <WHEN>       Colorize output [default: auto] " ++
      "[possible values: auto, always, never]",
    "  -h, --help               Print help",
    "",
    "EXAMPLES:",
    "  abibind build gCOTI                                  # npx hardhat compile",
    "  abibind build gCOTI --compile-cmd \"pnpm hardhat compile\""]

/-- The lines about help. -/
def helpHelp : List String := [
    "Print this message or the help of the given subcommand(s)",
    "",
    "Usage: abibind help [COMMAND]...",
    "",
    "Arguments:",
    "  [COMMAND]...  Print help for the subcommand(s)"]

/-- The lines about a topic. -/
def Topic.lines : Topic → List String
  | program => programHelp
  | command .extract => extractHelp
  | command .compileAndExtract => compileAndExtractHelp
  | help => helpHelp

/-- The text about a topic. -/
def Topic.text (t : Topic) : String :=
  String.join (t.lines.map (· ++ "\n"))

end ContractBindings.CommandLine

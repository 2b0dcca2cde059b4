import TwoStep.CommandLine.Parser

/-!
# Help

The pages of help, line by line.
-/

namespace TwoStep.CommandLine.Help

def overviewLines : List String := [
  "Transfers ownership of a deployed contract: the current owner nominates a pending owner with setPendingOwner, then the nominee calls acceptOwnership. Run without a subcommand to perform the configured transfer once.",
  "",
  "Usage: ownership-handoff [OPTIONS] [COMMAND]",
  "",
  "Commands:",
  "  transfer     Nominate the new owner and accept ownership as the new owner",
  "  accept       Accept a nomination left pending by an earlier, interrupted transfer",
  "  status       Show the contract's owner and pending owner",
  "  init-config  Write the default configuration to a file",
  "  help         Print this message or the help of the given subcommand(s)",
  "",
  "Options:",
  "      --config <PATH>",
  "          Configuration file (defaults to ./ownership-handoff.toml when present)",
  "",
  "  -h, --help",
  "          Print help (see a summary with '-h')"]

def summaryLines : List String := [
  "Two-step ownership handoff for a deployed contract",
  "",
  "Usage: ownership-handoff [OPTIONS] [COMMAND]",
  "",
  "Commands:",
  "  transfer     Nominate the new owner and accept ownership as the new owner",
  "  accept       Accept a nomination left pending by an earlier, interrupted transfer",
  "  status       Show the contract's owner and pending owner",
  "  init-config  Write the default configuration to a file",
  "  help         Print this message or the help of the given subcommand(s)",
  "",
  "Options:",
  "      --config <PATH>  Configuration file (defaults to ./ownership-handoff.toml when present)",
  "  -h, --help           Print help (see more with '--help')"]

def transferLines : List String := [
  "Nominate the new owner and accept ownership as the new owner",
  "",
  "Usage: ownership-handoff transfer [OPTIONS]",
  "",
  "Options:",
  "      --config <PATH>                Configuration file (defaults to ./ownership-handoff.toml when present)",
  "      --contract <CONTRACT>          Address of the contract to hand over",
  "      --priority-fee <PRIORITY_FEE>  Max priority fee per gas, e.g. '100 gwei' or a wei amount",
  "      --dry-run                      Preview the calls against an in-memory contract; nothing is sent",
  "      --json                         Print the transfer report as JSON",
  "  -h, --help                         Print help"]

def acceptLines : List String := [
  "Accept a nomination left pending by an earlier, interrupted transfer",
  "",
  "Usage: ownership-handoff accept [OPTIONS]",
  "",
  "Options:",
  "      --config <PATH>                Configuration file (defaults to ./ownership-handoff.toml when present)",
  "      --contract <CONTRACT>          Address of the contract to hand over",
  "      --priority-fee <PRIORITY_FEE>  Max priority fee per gas, e.g. '100 gwei' or a wei amount",
  "  -h, --help                         Print help"]

def statusLines : List String := [
  "Show the contract's owner and pending owner",
  "",
  "Usage: ownership-handoff status [OPTIONS]",
  "",
  "Options:",
  "      --config <PATH>        Configuration file (defaults to ./ownership-handoff.toml when present)",
  "      --contract <CONTRACT>  Address of the contract to inspect",
  "      --json                 Print the ownership snapshot as JSON",
  "  -h, --help                 Print help"]

def initConfigLines : List String := [
  "Write the default configuration to a file",
  "",
  "Usage: ownership-handoff init-config [OPTIONS]",
  "",
  "Options:",
  "      --config <PATH>  Configuration file (defaults to ./ownership-handoff.toml when present)",
  "      --path <PATH>    Where to write the configuration [default: ownership-handoff.toml]",
  "      --force          Overwrite the file if it already exists",
  "  -h, --help           Print help"]

def helpLines : List String := [
  "Print this message or the help of the given subcommand(s)",
  "",
  "Usage: ownership-handoff help [COMMAND]...",
  "",
  "Arguments:",
  "  [COMMAND]...  Print help for the subcommand(s)"]

def text (page : Help) : String :=
  let lines := match page with
    | .overview => overviewLines
    | .summary => summaryLines
    | .transfer => transferLines
    | .accept => acceptLines
    | .status => statusLines
    | .initConfig => initConfigLines
    | .help => helpLines
  String.join (lines.map (· ++ "\n"))

end TwoStep.CommandLine.Help

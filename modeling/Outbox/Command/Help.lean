import Outbox.Command.Args

/-!
# Explanations

The explanations of the program and of its commands.
-/

namespace Outbox.Command

/-- Lines, each with its end. -/
def ofLines (lines : List String) : String := String.join (lines.map (· ++ "\n"))

/-- The name of the program and its version. -/
def versionText : String := "netcache 0.1.0\n"

/-- The line about asking for help, where no other option is wider. -/
def helpLine : String := "  -h, --help  Print help"

/-- The line about the command that explains others. -/
def helpCommandLine (name : String) : String :=
  name ++ "  Print this message or the help of the given subcommand(s)"

/-- The explanation of a topic. -/
def Topic.text : Topic → String
  | .program => ofLines [
      "Cache network connection events and sync them to a collector", "",
      "Usage: netcache <COMMAND>", "",
      "Commands:",
      "  status  Show configuration and local store status",
      "  ingest  Import JSON-lines connection events (stdin when FILE is omitted)",
      "  sync    Push pending events to the collector",
      "  recent  Show the newest local records",
      "  export  Download the data the collector holds for this user (CSV)",
      "  erase   Erase the user's data on the collector and then locally",
      "  auth    Manage the collector session token",
      helpCommandLine "  help  ", "",
      "Options:",
      "  -h, --help     Print help",
      "  -V, --version  Print version"]
  | .explanation ofToken => ofLines [
      "Print this message or the help of the given subcommand(s)", "",
      "Usage: netcache " ++ (if ofToken then "auth " else "") ++ "help [COMMAND]...", "",
      "Arguments:",
      "  [COMMAND]...  Print help for the subcommand(s)"]
  | .status => ofLines [
      "Show configuration and local store status", "",
      "Usage: netcache status", "",
      "Options:", helpLine]
  | .ingest => ofLines [
      "Import JSON-lines connection events (stdin when FILE is omitted)", "",
      "Usage: netcache ingest [OPTIONS] [FILE]", "",
      "Arguments:",
      "  [FILE]  ", "",
      "Options:",
      "      --no-auto-sync  Do not start background syncs while importing",
      "  -h, --help          Print help"]
  | .sync => ofLines [
      "Push pending events to the collector", "",
      "Usage: netcache sync [OPTIONS]", "",
      "Options:",
      "      --all                  Keep sending batches until nothing is pending",
      "  -w, --watch                Watch mode - sync repeatedly until Ctrl+C",
      "      --interval <INTERVAL>  Seconds between attempts (only with --watch) [default: 60]",
      "  -h, --help                 Print help"]
  | .recent => ofLines [
      "Show the newest local records", "",
      "Usage: netcache recent [OPTIONS]", "",
      "Options:",
      "  -n, --limit <LIMIT>  [default: 20]",
      "  -h, --help           Print help"]
  | .exportData => ofLines [
      "Download the data the collector holds for this user (CSV)", "",
      "Usage: netcache export --output <OUTPUT>", "",
      "Options:",
      "  -o, --output <OUTPUT>  ",
      "  -h, --help             Print help"]
  | .erase => ofLines [
      "Erase the user's data on the collector and then locally", "",
      "Usage: netcache erase [OPTIONS]", "",
      "Options:",
      "      --yes   Confirm the erase",
      helpLine]
  | .token => ofLines [
      "Manage the collector session token", "",
      "Usage: netcache auth <COMMAND>", "",
      "Commands:",
      "  set-token  Store a session token obtained from the login flow",
      "  clear      Forget the stored session token",
      "  status     Show whether a session token is present",
      helpCommandLine "  help     ", "",
      "Options:", helpLine]
  | .tokenSet => ofLines [
      "Store a session token obtained from the login flow", "",
      "Usage: netcache auth set-token <TOKEN>", "",
      "Arguments:",
      "  <TOKEN>  ", "",
      "Options:", helpLine]
  | .tokenClear => ofLines [
      "Forget the stored session token", "",
      "Usage: netcache auth clear", "",
      "Options:", helpLine]
  | .tokenStatus => ofLines [
      "Show whether a session token is present", "",
      "Usage: netcache auth status", "",
      "Options:", helpLine]

end Outbox.Command

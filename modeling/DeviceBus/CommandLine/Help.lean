import DeviceBus.CommandLine.Command

/-! # Help texts -/

namespace DeviceBus.CommandLine

def lines (ls : List String) : String :=
  String.join (ls.map fun l => l ++ "\n")

def versionText : String := lines ["chanbus 0.1.0"]

def helpText : Topic → String
  | .program => lines [
      "Usage: chanbus <COMMAND>",
      "",
      "Commands:",
      "  server   Start the CoAP adapter",
      "  token    Print a credential for a thing",
      "  publish  Publish one message to a running server",
      "  help     Print this message or the help of the given subcommand(s)",
      "",
      "Options:",
      "  -h, --help     Print help",
      "  -V, --version  Print version"]
  | .server => lines [
      "Start the CoAP adapter",
      "",
      "Usage: chanbus server [OPTIONS]",
      "",
      "Options:",
      "      --config <CONFIG>  Configuration file (default: config/default.toml if present)",
      "  -h, --help             Print help"]
  | .token => lines [
      "Print a credential for a thing",
      "",
      "Usage: chanbus token [OPTIONS] --thing <THING> --channel <CHANNELS>",
      "",
      "Options:",
      "      --thing <THING>        Publisher identity carried by the credential",
      "      --channel <CHANNELS>   Channel the credential may use (repeatable)",
      "      --ttl-secs <TTL_SECS>  [default: 86400]",
      "      --config <CONFIG>      ",
      "  -h, --help                 Print help"]
  | .publish => lines [
      "Publish one message to a running server",
      "",
      "Usage: chanbus publish [OPTIONS] --channel <CHANNEL> --key <KEY> <PAYLOAD>",
      "",
      "Arguments:",
      "  <PAYLOAD>  ",
      "",
      "Options:",
      "      --addr <ADDR>        [default: 127.0.0.1:5683]",
      "      --channel <CHANNEL>  ",
      "      --key <KEY>          Credential minted by `token`",
      "  -h, --help               Print help"]
  | .help => lines [
      "Print this message or the help of the given subcommand(s)",
      "",
      "Usage: chanbus help [COMMAND]...",
      "",
      "Arguments:",
      "  [COMMAND]...  Print help for the subcommand(s)"]

end DeviceBus.CommandLine

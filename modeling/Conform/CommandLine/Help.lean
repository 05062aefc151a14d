import Conform.CommandLine.Basic

/-!
What the program tells about itself.
-/

namespace Conform.CommandLine

def help : String :=
  "Validate JSON and YAML documents against declarative schemas\n\n" ++
  UsageFault.usage ++ "\n\n" ++
  "Commands:\n" ++
  "  validate     Validate documents against a schema definition\n" ++
  "  check        Check that a schema definition is well formed\n" ++
  "  kinds        List the registered property kinds and validators\n" ++
  "  completions  Generate shell completions for the specified shell\n" ++
  "  help         Print this message\n\n" ++
  "Options:\n" ++
  "  -v, --verbose...       Enable verbose output\n" ++
  "  -q, --quiet            Suppress all non-essential output\n" ++
  "  -c, --config <CONFIG>  Path to configuration file\n" ++
  "  -o, --output <OUTPUT>  Output format: human, json, yaml or json-pretty\n" ++
  "      --no-color         Disable colored output\n" ++
  "  -h, --help             Print help\n" ++
  "  -V, --version          Print version\n"

def version : String := "duckhunt 0.1.0\n"

end Conform.CommandLine

/-!
# Usage

What the program says about its own use, and the faults of a command line.
-/

namespace DataDerive

/-- Why a command line is refused. -/
inductive UsageFault where
  | unknownFormat (word : String)
  | unknownColor (word : String)
  | notNumber (word : String)
  | unknownDerivation (word : String)
  /-- The option for the directory is the last argument. -/
  | missingDirectory
  | unknownOption (argument : String)
  /-- There is a second path. -/
  | unexpectedArgument (argument : String)
  /-- There is no path. -/
  | missingSnapshot
  deriving Repr, DecidableEq

/-- What a fault says. -/
def UsageFault.message : UsageFault → String
  | .unknownFormat word => s!"unknown format `{word}` (expected terminal or json)"
  | .unknownColor word => s!"unknown color mode `{word}` (expected auto, always or never)"
  | .notNumber word => s!"`--error-limit` takes a number, got `{word}`"
  | .unknownDerivation word => s!"unknown derivation `{word}`"
  | .missingDirectory => "`-o` needs a directory"
  | .unknownOption argument => s!"unknown option `{argument}`"
  | .unexpectedArgument argument => s!"unexpected argument `{argument}`"
  | .missingSnapshot => "missing snapshot path"

namespace Usage

/-- The version of the program. -/
def version : String := "adtc 0.1.0"

/-- How the program is used. -/
def overview : List String :=
  ["adtc: algebraic data type code generator",
    "",
    "Usage: adtc <command> [options]",
    "",
    "Commands:",
    "  generate <snapshot.json>  Generate Rust modules for every declaration",
    "  check <snapshot.json>     Run every derivation without writing code",
    "  --explain <code>          Explain a diagnostic code (e.g., E2001)",
    "  help                      Show this help message",
    "  version                   Show version information",
    "",
    "Options:",
    "  -o <dir>                  Write one <type>.rs per declaration into <dir>",
    "  --format=<fmt>            Diagnostics as: terminal (default), json",
    "  --color=<mode>            Colors: auto (default), always, never",
    "  --error-limit=<n>         Stop reporting after n errors (0 = unlimited)",
    "  --derive=<a,b,..>         Derivations for annotations that list none",
    "",
    "Derivations:",
    "  matcher, constructors, lazy, case_of, destructure, getters, modifiers,",
    "  catamorphism, factory",
    "",
    "Examples:",
    "  adtc generate decls.json                 # Print all modules",
    "  adtc generate decls.json -o src/gen      # One file per type",
    "  adtc check decls.json --format=json",
    "  adtc --explain W3001",
    "",
    "Set RUST_LOG=adtc=debug for pipeline traces (ADTC_LOG_TREE=1 for a tree view)."]

/-- How the command that generates code is used. -/
def generate : List String := ["Usage: adtc generate <snapshot.json> [-o <dir>] [options]"]

/-- How the command that only checks is used. -/
def check : List String := ["Usage: adtc check <snapshot.json> [options]"]

/-- How the command that explains a code is used. -/
def explain : List String := ["Usage: adtc --explain <CODE>", "Example: adtc --explain E2001"]

/-- What is said about a text that is no code. -/
def unknownCode (text : String) : List String :=
  ["Unknown error code: " ++ text, "",
    "Codes look like E1001 (errors), W3001 (warnings) or I2001 (infos)."]

/-- What is said about a word that is no command. -/
def unknownCommand (word : String) : List String :=
  ["Unknown command: " ++ word, ""]

end Usage

end DataDerive

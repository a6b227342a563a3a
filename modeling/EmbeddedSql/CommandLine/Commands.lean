import EmbeddedSql.CommandLine.Arguments
import EmbeddedSql.Config.Loader
import EmbeddedSql.Report

/-!
# CommandLine.Commands — the two commands

One command highlights a file or reports styles, the other serves editors.

* `CommandLine.Outcome` — how a command ends;
* `CommandLine.Highlighter.run` — the highlighting command, given the files it can see;
* `CommandLine.LanguageServer.start` — the server's command line, up to the point where it serves;
* `CommandLine.Highlighter.paths`, `CommandLine.LanguageServer.paths` — the files a command line
  may lead to.
-/

namespace EmbeddedSql
namespace CommandLine

/-- How a command ends. -/
inductive Outcome where
  /-- With output. -/
  | success (output : String)
  /-- With a message about what went wrong. -/
  | failure (message : String)
  /-- Without having understood the command line. -/
  | misuse
deriving DecidableEq, Repr

namespace Outcome

def exitCode : Outcome → Nat
  | success _ => 0
  | failure _ => 1
  | misuse => 2

def output : Outcome → String
  | success s => s
  | _ => ""

end Outcome

def versionNumber : String := "0.1.0"

def configSwitch : Switch := ⟨"config", some 'c', .value⟩

def commonSwitches : List Switch :=
  [configSwitch, ⟨"help", some 'h', .help⟩, ⟨"version", some 'V', .version⟩]

/-- The paths at which a configuration file is looked for. -/
def configPaths (a : Arguments) : List String :=
  match a.value? "config" with
  | some path => path :: (Config.longerPath? path).toList
  | none => []

/-- The layers that a command line asks for. -/
def loaderOf (a : Arguments) : Config.Loader :=
  match a.value? "config" with
  | some path => Config.Loader.empty.withFile path
  | none => .empty

/-! ## Highlighting -/

namespace Highlighter

def grammar : Grammar where
  switches := commonSwitches ++
    [⟨"format", some 'f', .value⟩, ⟨"styles", none, .flag⟩, ⟨"verbose", some 'v', .counter⟩]
  positionals := 1

def help : String :=
  "Highlights SQL inside marked C# string literals\n\n" ++
  "Usage: sqlmark [OPTIONS] [path]\n\n" ++
  "Arguments:\n" ++
  "  [path]  Path to the C# source file\n\n" ++
  "Options:\n" ++
  "  -f, --format <format>  Output format: text, json or yaml [default: text]\n" ++
  "  -c, --config <config>  TOML file layered over the built-in defaults\n" ++
  "      --styles           Print the resolved style of every category\n" ++
  "  -v, --verbose...       Log pass details to stderr (repeat for more)\n" ++
  "  -h, --help             Print help\n" ++
  "  -V, --version          Print version\n"

def paths (words : List String) : List String :=
  match grammar.read words with
  | .arguments a => configPaths a ++ a.positionals
  | _ => []

def configMessage : Config.Error → String
  -- The diagnostic of a file that is no TOML stands by itself.
  | .badFile => Config.Error.message .badFile
  | e => "configuration error: " ++ e.message

/-- What is said of a source file that cannot be read; nothing if it can. -/
def readFailure? : FileState → Option String
  | .missing => some "No such file or directory (os error 2)"
  | .directory => some "Is a directory (os error 21)"
  | .blocked => some "Not a directory (os error 20)"
  | .tooLong => some "File name too long (os error 36)"
  | .binary => some "stream did not contain valid UTF-8"
  | .text _ => none

def highlightFile (files : Directory) (path : String) (format : Report.Format) : Outcome :=
  match files.read path with
  | .text content =>
    let d := Document.ofString content
    .success (Report.highlights d d.highlights format)
  | state => .failure ("cannot read " ++ path ++ ": " ++ (readFailure? state).getD "")

/-- Do what the arguments ask for: check the format, then the configuration, then read the file. -/
def execute (files : Directory) (a : Arguments) : Outcome :=
  let name := (a.value? "format").getD "text"
  match Report.Format.ofName? name with
  | none => .failure (Report.Format.unknownMessage name)
  | some format =>
    match (loaderOf a).build files with
    | .error e => .failure (configMessage e)
    | .ok config =>
      if a.hasFlag "styles" then .success (Report.styles (StyleSheet.ofConfig config) format)
      else
        match a.positionals with
        | path :: _ => highlightFile files path format
        -- Not reached from `run`, which asks for a path first.
        | [] => .misuse

/-- Run the highlighting command.  A path is needed unless styles are asked for. -/
def run (files : Directory) (words : List String) : Outcome :=
  match grammar.read words with
  | .help => .success help
  | .version => .success ("sqlmark " ++ versionNumber ++ "\n")
  | .invalid => .misuse
  | .arguments a =>
    if a.positionals.isEmpty && !a.hasFlag "styles" then .misuse else execute files a

end Highlighter

/-! ## Serving -/

namespace LanguageServer

def grammar : Grammar where
  switches := commonSwitches
  positionals := 0

def help : String :=
  "Language server that highlights SQL inside marked C# string literals\n\n" ++
  "Usage: sqlmark-lsp [OPTIONS]\n\n" ++
  "Options:\n" ++
  "  -c, --config <config>  TOML file layered over the built-in defaults\n" ++
  "  -h, --help             Print help\n" ++
  "  -V, --version          Print version\n"

def paths (words : List String) : List String :=
  match grammar.read words with
  | .arguments a => configPaths a
  | _ => []

/-- Read the command line of the server: either the command ends here, or the server starts with a
loader that builds. -/
def start (files : Directory) (words : List String) : Except Outcome Config.Loader :=
  match grammar.read words with
  | .help => .error (.success help)
  | .version => .error (.success ("sqlmark-lsp " ++ versionNumber ++ "\n"))
  | .invalid => .error .misuse
  | .arguments a =>
    match (loaderOf a).build files with
    | .error e => .error (.failure e.message)
    | .ok _ => .ok (loaderOf a)

def outcome (files : Directory) (words : List String) : Outcome :=
  match start files words with
  | .error outcome => outcome
  | .ok _ => .success ""

end LanguageServer
end CommandLine
end EmbeddedSql

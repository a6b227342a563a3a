import EmbeddedSql.Assoc

/-!
# CommandLine.Arguments — options, flags and positional words

The words of a command line are read from left to right; the first word that asks for help or for
the version, or that does not fit, decides.

* `CommandLine.Switch` — an option with a value, or a flag;
* `CommandLine.Grammar` — the switches of a command and how many positional words it takes;
* `CommandLine.Arguments` — what was given;
* `CommandLine.Reading` — arguments, a request, or a mistake;
* `CommandLine.Grammar.read` — read the words of a command line.
-/

namespace EmbeddedSql
namespace CommandLine

inductive Purpose where
  /-- It is followed by a value. -/
  | value
  /-- It is given or not. -/
  | flag
  /-- It may be given several times. -/
  | counter
  /-- It asks for help. -/
  | help
  /-- It asks for the version. -/
  | version
deriving DecidableEq, Repr

structure Switch where
  long : String
  short : Option Char
  purpose : Purpose
deriving DecidableEq, Repr

structure Grammar where
  switches : List Switch
  positionals : Nat
deriving DecidableEq, Repr

structure Arguments where
  flags : List String
  values : List (String × String)
  positionals : List String
deriving DecidableEq, Repr

namespace Arguments

def empty : Arguments :=
  ⟨[], [], []⟩

def hasFlag (a : Arguments) (name : String) : Bool :=
  a.flags.contains name

def value? (a : Arguments) (name : String) : Option String :=
  Assoc.get? name a.values

end Arguments

inductive Reading where
  | arguments (a : Arguments)
  | help
  | version
  | invalid
deriving DecidableEq, Repr

/-- What one word leads to. -/
inductive Progress where
  | next (a : Arguments)
  /-- The value of an option has to follow. -/
  | awaiting (s : Switch) (a : Arguments)
  | stop (r : Reading)

namespace Grammar

/-- Whether a word looks like a switch.  A single dash does not. -/
def looksLikeSwitch (word : String) : Bool :=
  word.length > 1 && word.startsWith "-"

/-- Store the value of an option, which may be given once. -/
def storeValue (s : Switch) (value : String) (a : Arguments) : Progress :=
  if (a.value? s.long).isSome then .stop .invalid
  else .next { a with values := a.values ++ [(s.long, value)] }

/-- Take in a switch that no value is attached to. -/
def applySwitch (s : Switch) (a : Arguments) : Progress :=
  match s.purpose with
  | .value => .awaiting s a
  | .flag =>
    if a.hasFlag s.long then .stop .invalid else .next { a with flags := s.long :: a.flags }
  | .counter => .next { a with flags := s.long :: a.flags }
  | .help => .stop .help
  | .version => .stop .version

def positional (g : Grammar) (word : String) (a : Arguments) : Progress :=
  if g.positionals ≤ a.positionals.length then .stop .invalid
  else .next { a with positionals := a.positionals ++ [word] }

/-- Take in a long switch, without its dashes; a value may be attached by an equals sign. -/
def longSwitch (g : Grammar) (cs : List Char) (a : Arguments) : Progress :=
  let name := String.ofList (cs.takeWhile (· != '='))
  match g.switches.find? (·.long == name), cs.dropWhile (· != '=') with
  | none, _ => .stop .invalid
  | some s, [] => applySwitch s a
  | some s, _ :: value =>
    -- Only an option can have a value attached.
    if s.purpose = .value then storeValue s (String.ofList value) a else .stop .invalid

/-- Take in short switches, without their dash.  What follows an option is its value, with or
without an equals sign in front. -/
def shortSwitches (g : Grammar) : List Char → Arguments → Progress
  | [], a => .next a
  | c :: cs, a =>
    match g.switches.find? (·.short == some c) with
    | none => .stop .invalid
    | some s =>
      if s.purpose = .value then
        match cs with
        | [] => .awaiting s a
        | '=' :: value => storeValue s (String.ofList value) a
        -- The rest of the word is the value, even if it looks like more switches.
        | value => storeValue s (String.ofList value) a
      else
        match applySwitch s a with
        -- A flag or a counter: the next letter is a switch of its own.
        | .next a => shortSwitches g cs a
        | progress => progress

def word (g : Grammar) (w : String) (a : Arguments) : Progress :=
  match w.toList with
  | '-' :: '-' :: cs => g.longSwitch cs a
  | '-' :: c :: cs => g.shortSwitches (c :: cs) a
  | _ => g.positional w a

/-- Take in positional words only. -/
def readPositionals (g : Grammar) : Arguments → List String → Reading
  | a, [] => .arguments a
  | a, w :: rest =>
    match g.positional w a with
    | .next a => readPositionals g a rest
    | _ => .invalid

/-- Read the words that are still to come.  `awaiting` is the option whose value has to follow. -/
def readFrom (g : Grammar) : (awaiting : Option Switch) → Arguments → List String → Reading
  | none, a, [] => .arguments a
  | some _, _, [] => .invalid
  | some s, a, w :: rest =>
    -- A value that looks like a switch has to be attached to its option.
    if looksLikeSwitch w then .invalid
    else
      match storeValue s w a with
      | .next a => readFrom g none a rest
      | _ => .invalid
  | none, a, w :: rest =>
    if w = "--" then readPositionals g a rest
    else
      match g.word w a with
      | .next a => readFrom g none a rest
      | .awaiting s a => readFrom g (some s) a rest
      | .stop r => r

def read (g : Grammar) (words : List String) : Reading :=
  g.readFrom none .empty words

end Grammar
end CommandLine
end EmbeddedSql

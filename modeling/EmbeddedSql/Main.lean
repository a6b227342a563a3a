import EmbeddedSql.CommandLine.Commands
import EmbeddedSql.Json.Reader
import EmbeddedSql.Server.Service

/-!
# Main — the commands as processes

The process looks up the files that its command line leads to, lets the command run, and writes what
it answers.  Under the name of the language server it serves an editor on standard input and output;
under any other name it highlights.
-/

namespace EmbeddedSql
namespace Main

/-- What is found at a path.  A directory can be opened but not read; an error while opening names
the path. -/
def look (path : String) : IO FileState := do
  try
    return FileState.ofBytes (← IO.FS.readBinFile path)
  catch e =>
    match e with
    | .noFileOrDirectory .. => return .missing
    | .inappropriateType (some _) _ _ => return .blocked
    | .invalidArgument .. => return .tooLong
    | _ => return .directory

def snapshot (paths : List String) : IO Directory := do
  let entries ← paths.mapM fun path => return (path, ← look path)
  return ⟨entries.filter fun (_, state) => state ≠ .missing⟩

def finish (outcome : CommandLine.Outcome) : IO UInt32 := do
  IO.print outcome.output
  match outcome with
  | .failure message => IO.eprintln ("Error: " ++ message)
  | .misuse => IO.eprintln "error: the arguments are not understood; try '--help'"
  | .success _ => pure ()
  return outcome.exitCode.toUInt32

/-! ## Serving -/

def send (j : Json) : IO Unit := do
  let body := j.compress
  let out ← IO.getStdout
  out.putStr ("Content-Length: " ++ Nat.repr body.utf8ByteSize ++ "\r\n\r\n" ++ body)
  out.flush

/-- Read the headers of a message; the length of its body, or nothing at the end of input. -/
partial def readLength (input : IO.FS.Stream) (length : Option Nat) : IO (Option Nat) := do
  let line ← input.getLine
  if line.isEmpty then return none
  let line := line.trimAscii.toString
  if line.isEmpty then return length
  match line.splitOn ":" with
  | [name, value] =>
    if name.toLower = "content-length" then readLength input value.trimAscii.toString.toNat?
    else readLength input length
  | _ => readLength input length

/-- Read so many bytes, or fewer at the end of input. -/
partial def readBody (input : IO.FS.Stream) (length : Nat) (done : ByteArray) : IO ByteArray := do
  if length ≤ done.size then return done
  let chunk ← input.read (length - done.size).toUSize
  if chunk.isEmpty then return done
  readBody input length (done ++ chunk)

def receive : IO (Option Json) := do
  let input ← IO.getStdin
  match ← readLength input none with
  | none => return none
  | some length =>
    let body ← readBody input length .empty
    return some (((String.fromUTF8? body).bind Json.parse?).getD .null)

def advance (s : Server.Service) (input : Server.Service.Input) : IO Server.Service := do
  let (s, response, notices) := s.step input
  match response with
  | .nothing => pure ()
  | .exited => pure ()
  | r => send r.wire
  for n in notices do
    send (Server.Wire.notification n)
  return s

/-- Let the server's time catch up with the clock. -/
def catchUp (s : Server.Service) (origin : Nat) : IO Server.Service := do
  -- The session counts from its start; it is told how much of that it has not seen yet.
  let elapsed := (← IO.monoMsNow) - origin
  advance s (.wait (elapsed - s.session.now))

/-- Serve until the editor leaves or input ends. -/
partial def serve (s : Server.Service) (origin : Nat)
    (reader : Task (Except IO.Error (Option Json))) : IO Unit := do
  let s ← catchUp s origin
  if ← IO.hasFinished reader then
    match reader.get with
    | .error e => throw e
    | .ok none => return ()
    | .ok (some j) =>
      let s ← advance s (.message (.ofJson j))
      if s.phase = .gone then return ()
      serve s origin (← IO.asTask receive)
  else
    -- No message has come yet: look again soon, as passes may be due.
    IO.sleep 2
    serve s origin reader

def runServer (words : List String) : IO UInt32 := do
  let files ← snapshot (CommandLine.LanguageServer.paths words)
  match CommandLine.LanguageServer.start files words with
  | .error outcome => finish outcome
  | .ok loader =>
    let session := (Server.Session.ofLoader files loader).toOption.getD .default
    serve (.ofSession session) (← IO.monoMsNow) (← IO.asTask receive)
    return 0

def runHighlighter (words : List String) : IO UInt32 := do
  let files ← snapshot (CommandLine.Highlighter.paths words)
  finish (CommandLine.Highlighter.run files words)

end Main
end EmbeddedSql

open EmbeddedSql in
/-- The command that the process was started as. -/
def main (words : List String) : IO UInt32 := do
  if (← IO.appPath).fileStem = some "sqlmark-lsp" then Main.runServer words
  else Main.runHighlighter words

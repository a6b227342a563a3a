import EmbeddedSql.Json.Printer
import EmbeddedSql.Protocol.Notifications
import EmbeddedSql.Protocol.Requests
import EmbeddedSql.Server.Wire

/-!
# Server.Service — the server behind JSON-RPC messages

An editor talks to the server in messages.  A message with an id is a request and gets a response,
one without is a notification and gets none.  Before the editor has introduced itself, and after it
has said that it will leave, most messages are refused.

* `Server.Phase` — how far the conversation has come;
* `Server.Fault` — why a request is refused;
* `Server.Topic` — what an editor tells;
* `Server.Method` — the methods that are known;
* `Server.Topic.call?` — the call that a notification leads to;
* `Server.Service.receive` — one message;
* `Server.Service.step` — a message or a wait, the response, and the notifications that are sent.
-/

namespace EmbeddedSql
namespace Server

inductive Phase where
  | fresh
  | active
  /-- The editor has said that it will leave. -/
  | leaving
  /-- The editor has left. -/
  | gone
deriving DecidableEq, Repr

/-! ## Faults -/

inductive Fault where
  | notReady
  | invalidRequest
  /-- No such method; the name is sent back if nothing is known of it. -/
  | unknownMethod (method : Option String)
  | invalidParams (reason : String)
deriving DecidableEq, Repr

namespace Fault

def code : Fault → Int
  | notReady => -32002
  | invalidRequest => -32600
  | unknownMethod _ => -32601
  | invalidParams _ => -32602

def message : Fault → String
  | notReady => "Server not initialized"
  | invalidRequest => "Invalid request"
  | unknownMethod _ => "Method not found"
  | invalidParams reason => reason

/-- A fault as it is sent. -/
def wire (f : Fault) : Json :=
  let base := [("code", Json.num (.int f.code)), ("message", Json.str f.message)]
  match f with
  | unknownMethod (some method) => .obj (base ++ [("data", .str method)])
  | _ => .obj base

end Fault

/-! ## Methods -/

inductive Topic where
  | ready
  | didOpen
  | didChange
  | didClose
  | didChangeConfiguration
  /-- Something that the server has no use for. -/
  | ignored
deriving DecidableEq, Repr

namespace Topic

def ignoredNames : List String :=
  ["textDocument/didSave", "textDocument/willSave", "workspace/didChangeWatchedFiles",
    "workspace/didChangeWorkspaceFolders", "workspace/didCreateFiles", "workspace/didDeleteFiles",
    "workspace/didRenameFiles"]

def ofName? (name : String) : Option Topic :=
  match name with
  | "initialized" => some ready
  | "textDocument/didOpen" => some didOpen
  | "textDocument/didChange" => some didChange
  | "textDocument/didClose" => some didClose
  | "workspace/didChangeConfiguration" => some didChangeConfiguration
  | _ => if ignoredNames.contains name then some ignored else none

def shape : Topic → Protocol.Shape
  | ready => Protocol.readiness
  | didOpen => Protocol.opening
  | didChange => Protocol.change
  | didClose => Protocol.closing
  | didChangeConfiguration => Protocol.configuration
  | ignored => .any

end Topic

inductive Method where
  | start
  | shutdown
  | exit
  /-- A request is no longer of interest. -/
  | cancel
  | semanticTokens
  | topic (topic : Topic)
  /-- A request that the server does not answer. -/
  | unanswered (params : Protocol.Shape)
  /-- Anything else. -/
  | other

namespace Method

def ofName (name : String) : Method :=
  match name with
  | "initialize" => start
  | "shutdown" => shutdown
  | "exit" => exit
  | "$/cancelRequest" => cancel
  | "textDocument/semanticTokens/full" => semanticTokens
  | _ =>
    match Topic.ofName? name, Assoc.get? name Protocol.unanswered with
    | some t, _ => topic t
    | none, some shape => unanswered shape
    | none, none => other

end Method

/-! ## Messages -/

/-- A message: the name of its method, its parameters, and its id if it is a request. -/
structure Message where
  method : String
  params : Option Json
  id : Option Json

namespace Message

/-- The message that a value denotes.  One without a method has the empty name for it. -/
def ofJson (j : Json) : Message :=
  ⟨((j.get? "method").bind Json.string?).getD "", j.get? "params", j.get? "id"⟩

/-- The parameters, which have to be there and to have a shape, in normal form. -/
def read (m : Message) (shape : Protocol.Shape) : Except Fault Json :=
  match m.params with
  | none => .error (.invalidParams "Missing params field")
  | some params => (shape.read false params).mapError fun cause => .invalidParams cause.message

end Message

/-! ## Calls

The parameters that calls are made of have their shape, so the members that are looked up are there.
-/

namespace Params

/-- The value under a path of names; null if there is none. -/
def under : List String → Json → Json
  | [], j => j
  | name :: path, j => under path ((j.get? name).getD .null)

def textUnder (path : List String) (j : Json) : String :=
  (under path j).string?.getD ""

def document (params : Json) : Uri :=
  ⟨textUnder ["textDocument", "uri"] params⟩

def version (params : Json) : Int :=
  (under ["textDocument", "version"] params).int?.getD 0

end Params

def startCall (params : Json) : Call :=
  .start ((params.get? "initializationOptions").bind Json.notNull?)

namespace Topic

/-- The call that a topic leads to, if any. -/
def call? (t : Topic) (params : Json) : Option Call :=
  match t with
  | ready => some .ready
  | didOpen =>
    some (.didOpen (Params.document params)
      (Params.textUnder ["textDocument", "languageId"] params) (Params.version params)
      (Params.textUnder ["textDocument", "text"] params))
  | didChange =>
    let changes := (Params.under ["contentChanges"] params).items?.getD []
    some (.didChange (Params.document params) (Params.version params)
      (changes.map (Params.textUnder ["text"])))
  | didClose => some (.didClose (Params.document params))
  | didChangeConfiguration => some (.configure (Params.under ["settings"] params))
  | ignored => none

end Topic

/-! ## The service -/

structure Service where
  phase : Phase
  session : Session

inductive Response where
  | nothing
  | result (id result : Json)
  | fault (id : Json) (fault : Fault)
  | exited

namespace Response

/-- A response as it is sent. -/
def wire : Response → Json
  | nothing => .null
  | result id r => .obj [("jsonrpc", .str "2.0"), ("result", r), ("id", id)]
  | fault id f => .obj [("jsonrpc", .str "2.0"), ("error", f.wire), ("id", id)]
  | exited => .obj [("exited", .str "language server has exited")]

end Response

namespace Service

def ofSession (session : Session) : Service :=
  ⟨.fresh, session⟩

def call (s : Service) (c : Call) : Service × Answer :=
  let (session, answer) := s.session.handle c
  ({ s with session }, answer)

/-- Why a request is refused that needs an active conversation. -/
def refusal (phase : Phase) : Fault :=
  if phase = .fresh then .notReady else .invalidRequest

/-- Let the server handle a call, and send its answer. -/
def respond (s : Service) (id : Json) (c : Call) : Service × Response :=
  let (s, answer) := s.call c
  (s, .result id (Wire.answer answer))

/-- Handle a request for which the conversation has to be active. -/
def activeRequest (s : Service) (m : Message) (id : Json) : Method → Service × Response
  | .shutdown =>
    -- The editor is leaving from now on, even if its parameters are refused.
    let s := { s with phase := .leaving }
    match m.params with
    | some params => (s, .fault id (.invalidParams ("Unexpected params: " ++ params.compress)))
    | none => s.respond id .shutdown
  | .semanticTokens =>
    match m.read Protocol.tokensOf with
    | .ok params => s.respond id (.semanticTokens (Params.document params))
    | .error f => (s, .fault id f)
  | .unanswered shape =>
    match m.read shape with
    | .ok _ => (s, .fault id (.unknownMethod none))
    | .error f => (s, .fault id f)
  | _ => (s, .fault id .invalidRequest)

def request (s : Service) (m : Message) (id : Json) : Service × Response :=
  match Method.ofName m.method with
  -- Asked for in any phase, also before an introduction.
  | .exit => ({ s with phase := .gone }, .nothing)
  | .cancel => (s, .fault id .invalidRequest)
  | .start =>
    if s.phase = .fresh then
      match m.read Protocol.introduction with
      | .ok params => { s with phase := .active }.respond id (startCall params)
      | .error f => (s, .fault id f)
    else (s, .fault id .invalidRequest)
  | .other =>
    -- The protocol lets a server ignore these methods.
    if m.method.startsWith "$/" then (s, .nothing)
    else (s, .fault id (.unknownMethod (some m.method)))
  | method =>
    if s.phase = .active then s.activeRequest m id method
    else (s, .fault id (refusal s.phase))

/-- Handle a topic; what does not have its shape is passed over. -/
def hear (s : Service) (m : Message) (t : Topic) : Service :=
  match (m.read t.shape).toOption.bind t.call? with
  | some c => (s.call c).1
  | none => s

def notify (s : Service) (m : Message) : Service :=
  match Method.ofName m.method, s.phase with
  | .exit, _ => { s with phase := .gone }
  -- Without an id nothing is shut down but the conversation: passes that wait still run.
  | .shutdown, .active => { s with phase := .leaving }
  | .topic t, .active => s.hear m t
  | _, _ => s

def receive (s : Service) (m : Message) : Service × Response :=
  match s.phase, m.id with
  | .gone, _ => (s, .exited)
  | _, some id => s.request m id
  | _, none => (s.notify m, .nothing)

/-- A message or a wait. -/
inductive Input where
  | message (m : Message)
  | wait (ms : Nat)

/-- A message or a wait, and all passes that are due by then.  Notifications reach an editor only in
an active conversation or one that is about to end. -/
def step (s : Service) (input : Input) : Service × Response × List Notice :=
  let (s, response) :=
    match input with
    | .message m => s.receive m
    | .wait ms => ((s.call (.wait ms)).1, .nothing)
  let (session, notices) := s.session.settle
  let heard := s.phase = .active ∨ s.phase = .leaving
  ({ s with session }, response, if heard then notices else [])

end Service
end Server
end EmbeddedSql

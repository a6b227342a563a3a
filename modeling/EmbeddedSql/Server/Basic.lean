import EmbeddedSql.Config.Loader
import EmbeddedSql.Editor.Decorations
import EmbeddedSql.Editor.SemanticTokens
import EmbeddedSql.Server.Debouncer

/-!
# Server — highlighting for an editor

The server keeps the documents that an editor has open.  Each change of a document, and each change
of the configuration, schedules a pass over the document; the pass looks at the document and at the
configuration as they are when it runs.

* `Server.Terms` — the configuration in force and what it comes from;
* `Server.Session` — documents, configuration and scheduled passes;
* `Server.Call` — what an editor, or time, does;
* `Server.Session.handle` — what a call does by itself;
* `Server.Session.publish` — one pass;
* `Server.Session.step` — a call, and all passes that are due by then.
-/

namespace EmbeddedSql
namespace Server

/-! ## State -/

structure OpenDocument where
  document : Document
  language : String
  version : Option Int
deriving DecidableEq, Repr

/-- What a server is configured by, and what is in force. -/
structure Terms where
  /-- The files that configuration is read from. -/
  files : Directory
  /-- The layers that an editor's settings are laid over. -/
  loader : Config.Loader
  styles : StyleSheet
  settings : HighlightSettings

namespace Terms

/-- The configuration that settings of an editor lead to.  They are laid over the layers, never over
settings that came before. -/
def configFor (t : Terms) (settings : Json) : Except Config.Error Config :=
  (t.loader.withSettings (Config.settingsSection settings)).build t.files

def adopt (t : Terms) (config : Config) : Terms :=
  { t with styles := StyleSheet.ofConfig config, settings := config.highlight }

/-- The highlights of a document; one whose language is not asked for has none. -/
def highlightsOf (t : Terms) (entry : OpenDocument) : Highlights :=
  if t.settings.appliesTo entry.language then entry.document.highlights else .empty

end Terms

/-- All that the server knows. -/
structure Session where
  /-- The files that configuration is read from. -/
  files : Directory
  /-- The layers that an editor's settings are laid over. -/
  loader : Config.Loader
  styles : StyleSheet
  settings : HighlightSettings
  documents : List (Uri × OpenDocument)
  debouncer : Debouncer
  /-- How often a text has been highlighted. -/
  passes : Nat

inductive Call where
  | start (options : Option Json)
  /-- The editor is ready. -/
  | ready
  | shutdown
  | didOpen (uri : Uri) (language : String) (version : Int) (text : String)
  /-- Whole texts, of which the last one counts. -/
  | didChange (uri : Uri) (version : Int) (texts : List String)
  | didClose (uri : Uri)
  | configure (settings : Json)
  | semanticTokens (uri : Uri)
  | wait (ms : Nat)

inductive Answer where
  | nothing
  | capabilities
  /-- The tokens of a document, if it is open. -/
  | tokens (data : Option (List Editor.SemanticToken))
deriving DecidableEq, Repr

structure Notice where
  time : Nat
  decorations : Editor.Decorations
deriving DecidableEq, Repr

namespace Session

/-- A server with a configuration in force, over the layers it was built from. -/
def ofConfig (files : Directory) (loader : Config.Loader) (config : Config) : Session where
  files := files
  loader := loader
  styles := StyleSheet.ofConfig config
  settings := config.highlight
  documents := []
  debouncer := .empty
  passes := 0

def default : Session :=
  ofConfig .empty .empty Config.default

def ofLoader (files : Directory) (loader : Config.Loader) : Except Config.Error Session :=
  (loader.build files).map (ofConfig files loader)

/-! ## Calls -/

def now (s : Session) : Nat :=
  s.debouncer.now

def schedule (s : Session) (uri : Uri) : Session :=
  { s with debouncer := s.debouncer.schedule uri s.settings.delay ⟨uri.text, 0⟩ }

def scheduleAll (s : Session) (uris : List Uri) : Session :=
  uris.foldl schedule s

def terms (s : Session) : Terms :=
  ⟨s.files, s.loader, s.styles, s.settings⟩

def configFor (s : Session) (settings : Json) : Except Config.Error Config :=
  s.terms.configFor settings

def adopt (s : Session) (config : Config) : Session :=
  let t := s.terms.adopt config
  { s with styles := t.styles, settings := t.settings }

def applySettings (s : Session) (settings : Json) : Session :=
  match s.configFor settings with
  | .ok config => s.adopt config
  | .error _ => s

def store (s : Session) (uri : Uri) (entry : OpenDocument) : Session :=
  { s with documents := Assoc.set uri entry s.documents }

/-- The language of a document; one that is not open has none. -/
def languageOf (s : Session) (uri : Uri) : String :=
  ((Assoc.get? uri s.documents).map (·.language)).getD ""

/-- The highlights of a document under the configuration in force. -/
def highlightsOf (s : Session) (entry : OpenDocument) : Highlights :=
  s.terms.highlightsOf entry

/-- Count the pass over a document, if its language gets highlighted. -/
def countPass (s : Session) (entry : OpenDocument) : Session :=
  if s.settings.appliesTo entry.language then { s with passes := s.passes + 1 } else s

/-- What a call does by itself, and its answer. -/
def handle (s : Session) : Call → Session × Answer
  | .start none => (s, .capabilities)
  | .start (some options) => (s.applySettings options, .capabilities)
  | .ready => (s, .nothing)
  | .shutdown => ({ s with debouncer := s.debouncer.cancelAll }, .nothing)
  | .didOpen uri language version text =>
    ((s.store uri ⟨Document.ofString text, language, some version⟩).schedule uri, .nothing)
  | .didChange uri version texts =>
    match texts.getLast? with
    -- Without a text neither the document nor its version changes.
    | none => (s, .nothing)
    | some text =>
      -- A change also stores a document that was never opened, with the empty language.
      let entry : OpenDocument := ⟨Document.ofString text, s.languageOf uri, some version⟩
      ((s.store uri entry).schedule uri, .nothing)
  | .didClose uri =>
    ({ s with
        debouncer := s.debouncer.cancel uri
        documents := Assoc.erase uri s.documents }, .nothing)
  | .configure settings =>
    match s.configFor settings with
    | .ok config => ((s.adopt config).scheduleAll (s.documents.map (·.1)), .nothing)
    -- Refused settings leave everything as it is, passes included.
    | .error _ => (s, .nothing)
  | .semanticTokens uri =>
    match Assoc.get? uri s.documents with
    | none => (s, .tokens none)
    | some entry =>
      (s.countPass entry,
        .tokens (some (entry.document.semanticTokens (s.highlightsOf entry).tokens)))
  | .wait ms => ({ s with debouncer := s.debouncer.wait ms }, .nothing)

/-! ## Passes -/

/-- One pass over a document as it is now; a document that is no longer open is passed over. -/
def publish (s : Session) (time : Nat) (uri : Uri) : Session × List Notice :=
  match Assoc.get? uri s.documents with
  | none => (s, [])
  | some entry =>
    (s.countPass entry,
      [⟨time, Editor.Decorations.build uri entry.version entry.document (s.highlightsOf entry)
        s.styles⟩])

/-- Several passes, one after the other.  A pass is named for the uri of its document. -/
def publishAll (s : Session) : List Event → Session × List Notice
  | [] => (s, [])
  | e :: rest =>
    if e.stage = .start then
      let (s, notices) := s.publish e.time ⟨e.job⟩
      let (s, more) := s.publishAll rest
      (s, notices ++ more)
    -- What the debouncer says of jobs that are over is of no interest here.
    else s.publishAll rest

/-- Run all passes that are due. -/
def settle (s : Session) : Session × List Notice :=
  let (debouncer, events) := s.debouncer.settle
  { s with debouncer }.publishAll events

def step (s : Session) (c : Call) : Session × Answer × List Notice :=
  let (s, answer) := s.handle c
  let (s, notices) := s.settle
  (s, answer, notices)

end Session
end Server
end EmbeddedSql

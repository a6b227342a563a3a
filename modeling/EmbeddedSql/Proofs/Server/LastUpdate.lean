import EmbeddedSql.Proofs.Server.Runs

/-!
# LastUpdate — an idle document shows its last update

Every call that changes what a document should show lets a timer of the document start anew, so the
pass behind the timer sees the change.  What a document should show is read off the records alone:

* `History.content?`, `History.language`, `History.settings`, `History.styles` — what the records
  say of a document and of the configuration;
* `History.expected` — the decorations that follow;
* `History.sentSinceTrigger` — what was sent since the last call that asked for a pass;
* `Tracks` — a session agrees with its records, and documents without a timer are up to date;
* `Tracks.call`, `Tracks.passes`, `Reaches.tracks` — calls, passes and whole runs keep it so;
* `last_notice_shows_last_update` — so no update is lost.
-/

namespace EmbeddedSql
namespace Server

/-! ## What one record says -/

namespace Record

/-- The version and the text that a call gives a document. -/
def content? (uri : Uri) : Record → Option (Int × String)
  | .call (.didOpen u _ version text) => if u = uri then some (version, text) else none
  | .call (.didChange u version texts) =>
    if u = uri then texts.getLast?.map fun text => (version, text) else none
  | _ => none

/-- The language that a call gives a document; closing takes it away. -/
def language? (uri : Uri) : Record → Option String
  | .call (.didOpen u language _ _) => if u = uri then some language else none
  | .call (.didClose u) => if u = uri then some "" else none
  | _ => none

/-- The configuration that a call puts in force. -/
def config? (s₀ : Session) : Record → Option Config
  | .call (.start (some options)) => (s₀.configFor options).toOption
  | .call (.configure settings) => (s₀.configFor settings).toOption
  | _ => none

/-- Whether a call asks for a pass over a document, if it is stored. -/
def triggers (s₀ : Session) (uri : Uri) : Record → Bool
  | .call (.didOpen u _ _ _) => u = uri
  | .call (.didChange u _ texts) => u = uri && !texts.isEmpty
  | .call (.configure settings) => (s₀.configFor settings).toOption.isSome
  | _ => false

/-- A notice about a document. -/
def notice? (uri : Uri) : Record → Option Notice
  | .sent n => if n.decorations.uri = uri then some n else none
  | .call _ => none

/-- A record that says nothing about a document. -/
structure Ignores (s₀ : Session) (uri : Uri) (r : Record) : Prop where
  content : r.content? uri = none
  language : r.language? uri = none
  trigger : r.triggers s₀ uri = false
  notice : r.notice? uri = none

end Record

/-! ## What all records say -/

namespace History

open Record

/-- The last version and text of a document. -/
def content? (uri : Uri) (h : List Record) : Option (Int × String) :=
  h.findSome? (Record.content? uri)

/-- The language a document was opened with since it was last closed. -/
def language (uri : Uri) (h : List Record) : String :=
  (h.findSome? (Record.language? uri)).getD ""

/-- The last configuration that was put in force. -/
def config? (s₀ : Session) (h : List Record) : Option Config :=
  h.findSome? (Record.config? s₀)

def settings (s₀ : Session) (h : List Record) : HighlightSettings :=
  ((config? s₀ h).map (·.highlight)).getD s₀.settings

def styles (s₀ : Session) (h : List Record) : StyleSheet :=
  ((config? s₀ h).map StyleSheet.ofConfig).getD s₀.styles

/-- The decorations that a document should have. -/
def expected (s₀ : Session) (uri : Uri) (h : List Record) : Option Editor.Decorations :=
  (content? uri h).map fun (version, text) =>
    let d := Document.ofString text
    let highlights := if (settings s₀ h).appliesTo (language uri h) then d.highlights else .empty
    Editor.Decorations.build uri (some version) d highlights (styles s₀ h)

/-- The notices about a document since the last call that asked for a pass over it, the newest
first. -/
def sentSinceTrigger (s₀ : Session) (uri : Uri) (h : List Record) : List Notice :=
  (h.takeWhile fun r => !r.triggers s₀ uri).filterMap (notice? uri)

variable {s₀ : Session} {uri : Uri} {r : Record} {h : List Record}

theorem content?_cons_of_none (hr : r.content? uri = none) :
    content? uri (r :: h) = content? uri h := by
  simp [content?, hr]

theorem language_cons_of_none (hr : r.language? uri = none) :
    language uri (r :: h) = language uri h := by
  simp [language, hr]

theorem config?_cons_of_none (hr : r.config? s₀ = none) : config? s₀ (r :: h) = config? s₀ h := by
  simp [config?, hr]

theorem settings_cons_of_some {config : Config} (hr : r.config? s₀ = some config) :
    settings s₀ (r :: h) = config.highlight := by
  simp [settings, config?, hr]

theorem styles_cons_of_some {config : Config} (hr : r.config? s₀ = some config) :
    styles s₀ (r :: h) = StyleSheet.ofConfig config := by
  simp [styles, config?, hr]

theorem sentSinceTrigger_cons_of_ignores (hr : r.Ignores s₀ uri) :
    sentSinceTrigger s₀ uri (r :: h) = sentSinceTrigger s₀ uri h := by
  simp [sentSinceTrigger, hr.trigger, hr.notice]

/-! ### Notices add nothing but themselves -/

theorem findSome?_ofNotices {α : Type} {f : Record → Option α} (hf : ∀ n, f (.sent n) = none)
    (notices : List Notice) (h : List Record) :
    (ofNotices notices ++ h).findSome? f = h.findSome? f := by
  have hnone : (ofNotices notices).findSome? f = none := by
    rw [List.findSome?_eq_none_iff]
    intro r hr
    rcases List.mem_map.1 hr with ⟨n, -, rfl⟩
    exact hf n
  rw [List.findSome?_append, hnone, Option.none_or]

theorem sentSinceTrigger_ofNotices (s₀ : Session) (uri : Uri) (notices : List Notice)
    (h : List Record) :
    sentSinceTrigger s₀ uri (ofNotices notices ++ h) =
      (notices.reverse.filter fun n => n.decorations.uri = uri) ++ sentSinceTrigger s₀ uri h := by
  simp only [ofNotices, sentSinceTrigger]
  induction notices.reverse with
  | nil => rfl
  | cons n rest ih =>
      have hquiet : (Record.sent n).triggers s₀ uri = false := rfl
      by_cases hn : n.decorations.uri = uri
      · simpa [hquiet, notice?, hn] using ih
      · simpa [hquiet, notice?, hn] using ih

end History

/-! ## Sessions that agree with their records -/

/-- The editor introduces itself only while no document is stored, and does not leave. -/
def Session.Permits (s : Session) : Call → Prop
  | .start _ => s.documents = []
  | .shutdown => False
  | _ => True

/-- The session and the records agree on a document, and the document is up to date unless its
timer runs. -/
structure Follows (s₀ : Session) (h : List Record) (s : Session) (uri : Uri) : Prop where
  stored : ∀ entry, Assoc.get? uri s.documents = some entry →
    ∃ version text, History.content? uri h = some (version, text) ∧
      entry = ⟨Document.ofString text, History.language uri h, some version⟩
  absent : Assoc.get? uri s.documents = none → History.language uri h = ""
  fresh : ∀ sent, s.decorations uri = some sent →
    (∃ due job, Assoc.get? uri s.debouncer.slots = some (.waiting due job)) ∨
      ∃ n, (History.sentSinceTrigger s₀ uri h).head? = some n ∧ n.decorations = sent
  job : ∀ due job, Assoc.get? uri s.debouncer.slots = some (.waiting due job) →
    job.name = uri.text

/-- The session and the records agree on the configuration and on every document. -/
structure Tracks (s₀ : Session) (h : List Record) (s : Session) : Prop where
  files : s.files = s₀.files
  loader : s.loader = s₀.loader
  settings : s.settings = History.settings s₀ h
  styles : s.styles = History.styles s₀ h
  follows : ∀ uri, Follows s₀ h s uri

namespace Follows

variable {s₀ s t : Session} {h : List Record} {r : Record} {uri : Uri}

theorem languageOf_eq (hf : Follows s₀ h s uri) : s.languageOf uri = History.language uri h := by
  simp only [Session.languageOf]
  cases hget : Assoc.get? uri s.documents with
  | none => exact (hf.absent hget).symm
  | some entry =>
      rcases hf.stored entry hget with ⟨version, text, -, rfl⟩
      rfl

/-- Nothing changes for a document that a step leaves alone. -/
theorem frame (hf : Follows s₀ h s uri) (hr : r.Ignores s₀ uri)
    (hdocument : Assoc.get? uri t.documents = Assoc.get? uri s.documents)
    (hslot : Assoc.get? uri t.debouncer.slots = Assoc.get? uri s.debouncer.slots)
    (hsettings : t.settings = s.settings) (hstyles : t.styles = s.styles) :
    Follows s₀ (r :: h) t uri := by
  have hdecorations : t.decorations uri = s.decorations uri := by
    have hhighlights : t.highlightsOf = s.highlightsOf := by
      funext entry
      have hterms : t.terms.settings = s.terms.settings := hsettings
      rw [Session.highlightsOf, Terms.highlightsOf, hterms]
      rfl
    rw [Session.decorations, hdocument, hhighlights, hstyles]
    rfl
  refine ⟨?_, ?_, ?_, ?_⟩
  · rw [hdocument, History.content?_cons_of_none hr.content,
      History.language_cons_of_none hr.language]
    exact hf.stored
  · rw [hdocument, History.language_cons_of_none hr.language]
    exact hf.absent
  · rw [hdecorations, hslot, History.sentSinceTrigger_cons_of_ignores hr]
    exact hf.fresh
  · rw [hslot]
    exact hf.job

/-- A document whose timer has just started need not be up to date. -/
theorem of_waiting {version : Int} {text : String} {due : Nat}
    (hcontent : History.content? uri h = some (version, text))
    (hdocument : Assoc.get? uri s.documents =
      some ⟨Document.ofString text, History.language uri h, some version⟩)
    (hslot : Assoc.get? uri s.debouncer.slots = some (.waiting due ⟨uri.text, 0⟩)) :
    Follows s₀ h s uri := by
  refine ⟨?_, ?_, ?_, ?_⟩
  · intro entry hentry
    rw [hdocument] at hentry
    cases hentry
    exact ⟨version, text, hcontent, rfl⟩
  · intro hnone
    rw [hdocument] at hnone
    cases hnone
  · intro sent _
    exact .inl ⟨due, _, hslot⟩
  · intro due' job hjob
    rw [hslot] at hjob
    cases hjob
    rfl

theorem of_absent (hdocument : Assoc.get? uri s.documents = none)
    (hlanguage : History.language uri h = "")
    (hjob : ∀ due job, Assoc.get? uri s.debouncer.slots = some (.waiting due job) →
      job.name = uri.text) : Follows s₀ h s uri := by
  refine ⟨?_, fun _ => hlanguage, ?_, hjob⟩
  · intro entry hentry
    rw [hdocument] at hentry
    cases hentry
  · intro sent hsent
    simp [Session.decorations, hdocument] at hsent

end Follows

namespace Tracks

variable {s₀ s : Session} {h : List Record} {r : Record} {uri : Uri}

theorem configFor_eq (ht : Tracks s₀ h s) (settings : Json) :
    s₀.configFor settings = s.configFor settings := by
  simp only [Session.configFor, Session.terms, Terms.configFor, ht.files, ht.loader]

theorem settings_cons (ht : Tracks s₀ h s) (hr : r.config? s₀ = none) :
    s.settings = History.settings s₀ (r :: h) := by
  rw [ht.settings, History.settings, History.settings, History.config?_cons_of_none hr]

theorem styles_cons (ht : Tracks s₀ h s) (hr : r.config? s₀ = none) :
    s.styles = History.styles s₀ (r :: h) := by
  rw [ht.styles, History.styles, History.styles, History.config?_cons_of_none hr]

/-- A pass sends what the records lead one to expect. -/
theorem decorations_eq (ht : Tracks s₀ h s) {entry : OpenDocument}
    (hentry : Assoc.get? uri s.documents = some entry) :
    s.decorations uri = History.expected s₀ uri h := by
  rcases (ht.follows uri).stored entry hentry with ⟨version, text, hcontent, rfl⟩
  simp only [Session.decorations, hentry, History.expected, hcontent, Option.map_some,
    Session.highlightsOf, Terms.highlightsOf, Session.terms, ht.settings, ht.styles]

/-! ### Calls -/

theorem quiet (ht : Tracks s₀ h s) (hr : ∀ uri, r.Ignores s₀ uri) (hconfig : r.config? s₀ = none)
    (now passes : Nat) :
    Tracks s₀ (r :: h)
      { s with debouncer := { s.debouncer with now := now }, passes := passes } := by
  refine ⟨ht.files, ht.loader, ht.settings_cons hconfig, ht.styles_cons hconfig, ?_⟩
  intro uri
  exact (ht.follows uri).frame (hr uri) rfl rfl rfl rfl

theorem stores (ht : Tracks s₀ h s) {version : Int} {text : String}
    (hcontent : r.content? uri = some (version, text))
    (hother : ∀ u, uri ≠ u → r.Ignores s₀ u) (hconfig : r.config? s₀ = none) :
    Tracks s₀ (r :: h)
      ((s.store uri ⟨Document.ofString text, History.language uri (r :: h), some version⟩).schedule
        uri) := by
  refine ⟨ht.files, ht.loader, ht.settings_cons hconfig, ht.styles_cons hconfig, ?_⟩
  intro u
  by_cases hu : uri = u
  · subst hu
    refine Follows.of_waiting ?_ (Assoc.get?_set_self _ _ _) (Assoc.get?_set_self _ _ _)
    simp [History.content?, hcontent]
  · have hne : u ≠ uri := Ne.symm hu
    exact (ht.follows u).frame (hother u hu) (Assoc.get?_set_of_ne hne _ _)
      (Assoc.get?_set_of_ne hne _ _) rfl rfl

theorem closes (ht : Tracks s₀ h s) (uri : Uri) :
    Tracks s₀ (.call (.didClose uri) :: h) (s.handle (.didClose uri)).1 := by
  refine ⟨ht.files, ht.loader, ht.settings_cons rfl, ht.styles_cons rfl, ?_⟩
  intro u
  by_cases hu : uri = u
  · subst hu
    refine Follows.of_absent (Assoc.get?_erase_self _ _) ?_ ?_
    · simp [History.language, Record.language?]
    · intro due job hjob
      have hnone : Assoc.get? uri (Assoc.erase uri s.debouncer.slots) = none :=
        Assoc.get?_erase_self _ _
      rw [show Assoc.get? uri (Assoc.erase uri s.debouncer.slots) = _ from hjob] at hnone
      cases hnone
  · have hne : u ≠ uri := Ne.symm hu
    have hignores : (Record.call (.didClose uri)).Ignores s₀ u :=
      ⟨rfl, by simp [Record.language?, hu], rfl, rfl⟩
    exact (ht.follows u).frame hignores (Assoc.get?_erase_of_ne hne _)
      (Assoc.get?_erase_of_ne hne _) rfl rfl

/-- Settings that are accepted start the timer of every stored document. -/
theorem configures (ht : Tracks s₀ h s) {settings : Json} {config : Config}
    (hconfig : s.configFor settings = .ok config) :
    Tracks s₀ (.call (.configure settings) :: h)
      ((s.adopt config).scheduleAll (s.documents.map (·.1))) := by
  have hrecord : (Record.call (.configure settings)).config? s₀ = some config := by
    simp only [Record.config?, ht.configFor_eq, hconfig]
    rfl
  -- Every stored document is among those that are scheduled, so none need be up to date.
  rcases (s.adopt config).scheduleAll_session (s.documents.map (·.1)) with ⟨slots, hs, hslots⟩
  rw [hs]
  refine ⟨ht.files, ht.loader, (History.settings_cons_of_some hrecord).symm,
    (History.styles_cons_of_some hrecord).symm, ?_⟩
  intro uri
  have hcontent : History.content? uri (.call (.configure settings) :: h) =
      History.content? uri h := History.content?_cons_of_none rfl
  have hlanguage : History.language uri (.call (.configure settings) :: h) =
      History.language uri h := History.language_cons_of_none rfl
  cases hget : Assoc.get? uri s.documents with
  | none =>
      refine Follows.of_absent hget (hlanguage.trans ((ht.follows uri).absent hget)) ?_
      intro due job hjob
      have hslot := hslots uri
      split at hslot
      · rw [show Assoc.get? uri slots = some (.waiting due job) from hjob] at hslot
        cases hslot
        rfl
      · exact (ht.follows uri).job due job (hslot ▸ hjob)
  | some entry =>
      rcases (ht.follows uri).stored entry hget with ⟨version, text, hlast, rfl⟩
      have hmem : uri ∈ s.documents.map (·.1) := List.mem_map_of_mem (Assoc.mem_of_get? hget)
      refine Follows.of_waiting (hcontent.trans hlast) ?_ ((hslots uri).trans (if_pos hmem))
      rw [hlanguage]
      exact hget

/-- An editor that introduces itself before it stores anything starts no timer. -/
theorem introduces (ht : Tracks s₀ h s) (options : Json) (hempty : s.documents = []) :
    Tracks s₀ (.call (.start (some options)) :: h) (s.applySettings options) := by
  simp only [Session.applySettings]
  cases hconfig : s.configFor options with
  | error e =>
      have hrecord : (Record.call (.start (some options))).config? s₀ = none := by
        simp only [Record.config?, ht.configFor_eq, hconfig]
        rfl
      exact ht.quiet (fun uri => ⟨rfl, rfl, rfl, rfl⟩) hrecord s.now s.passes
  | ok config =>
      have hrecord : (Record.call (.start (some options))).config? s₀ = some config := by
        simp only [Record.config?, ht.configFor_eq, hconfig]
        rfl
      refine ⟨ht.files, ht.loader, (History.settings_cons_of_some hrecord).symm,
        (History.styles_cons_of_some hrecord).symm, ?_⟩
      intro uri
      have hnone : Assoc.get? uri s.documents = none := by
        rw [hempty]
        rfl
      refine Follows.of_absent hnone ?_ (ht.follows uri).job
      rw [History.language_cons_of_none rfl]
      exact (ht.follows uri).absent hnone

theorem call (ht : Tracks s₀ h s) {c : Call} (hc : s.Permits c) :
    Tracks s₀ (.call c :: h) (s.handle c).1 := by
  -- One case per call; those that store or configure have their own lemmas above.
  cases c with
  | start options =>
      cases options with
      | none => exact ht.quiet (fun uri => ⟨rfl, rfl, rfl, rfl⟩) rfl s.now s.passes
      | some options => exact ht.introduces options hc
  | ready => exact ht.quiet (fun uri => ⟨rfl, rfl, rfl, rfl⟩) rfl s.now s.passes
  | shutdown => exact absurd hc id
  | didOpen uri language version text =>
      have hcontent : (Record.call (.didOpen uri language version text)).content? uri =
          some (version, text) := by
        simp [Record.content?]
      have hlanguage : History.language uri (.call (.didOpen uri language version text) :: h) =
          language := by
        simp [History.language, Record.language?]
      have hother : ∀ u, uri ≠ u →
          (Record.call (.didOpen uri language version text)).Ignores s₀ u := by
        intro u hu
        exact ⟨by simp [Record.content?, hu], by simp [Record.language?, hu],
          by simp [Record.triggers, hu], rfl⟩
      have hstored := ht.stores hcontent hother rfl
      rw [hlanguage] at hstored
      exact hstored
  | didChange uri version texts =>
      simp only [Session.handle]
      cases htexts : texts.getLast? with
      | none =>
          have hnil : texts = [] := List.getLast?_eq_none_iff.1 htexts
          subst hnil
          have hr : ∀ u, (Record.call (.didChange uri version [])).Ignores s₀ u :=
            fun u => ⟨by simp [Record.content?], rfl, by simp [Record.triggers], rfl⟩
          exact ht.quiet hr rfl s.now s.passes
      | some text =>
          have hcontent : (Record.call (.didChange uri version texts)).content? uri =
              some (version, text) := by
            simp [Record.content?, htexts]
          -- A change keeps the language, and a document that is not stored has none.
          have hlanguage : History.language uri (.call (.didChange uri version texts) :: h) =
              s.languageOf uri :=
            (History.language_cons_of_none rfl).trans (ht.follows uri).languageOf_eq.symm
          have hother : ∀ u, uri ≠ u →
              (Record.call (.didChange uri version texts)).Ignores s₀ u := by
            intro u hu
            exact ⟨by simp [Record.content?, hu], rfl, by simp [Record.triggers, hu], rfl⟩
          have hstored := ht.stores hcontent hother rfl
          rw [hlanguage] at hstored
          exact hstored
  | didClose uri => exact ht.closes uri
  | configure settings =>
      simp only [Session.handle]
      cases hconfig : s.configFor settings with
      | ok config => exact ht.configures hconfig
      | error e =>
          have hrefused : (s₀.configFor settings).toOption = none := by
            rw [ht.configFor_eq, hconfig]
            rfl
          have hr : ∀ uri, (Record.call (.configure settings)).Ignores s₀ uri :=
            fun uri => ⟨rfl, rfl, by simp [Record.triggers, hrefused], rfl⟩
          exact ht.quiet hr hrefused s.now s.passes
  | semanticTokens uri =>
      have hr : ∀ u, (Record.call (.semanticTokens uri)).Ignores s₀ u :=
        fun u => ⟨rfl, rfl, rfl, rfl⟩
      simp only [Session.handle]
      split
      · exact ht.quiet hr rfl s.now s.passes
      · rename_i entry _
        rcases s.countPass_session entry with ⟨n, hn⟩
        rw [hn]
        exact ht.quiet hr rfl s.now n
  | wait ms => exact ht.quiet (fun uri => ⟨rfl, rfl, rfl, rfl⟩) rfl (s.now + ms) s.passes

/-! ### Passes -/

/-- Passes that send what the documents show now.  A timer stops only behind such a pass. -/
theorem passes (ht : Tracks s₀ h s) {notices : List Notice} {d : Debouncer} {passes : Nat}
    (hsent : ∀ n ∈ notices, s.decorations n.decorations.uri = some n.decorations)
    (hstops : ∀ uri due job sent, Assoc.get? uri s.debouncer.slots = some (.waiting due job) →
      s.decorations uri = some sent →
      Assoc.get? uri d.slots = some (.waiting due job) ∨ ∃ n ∈ notices, n.decorations = sent)
    (hstarts : ∀ uri due job, Assoc.get? uri d.slots = some (.waiting due job) →
      Assoc.get? uri s.debouncer.slots = some (.waiting due job)) :
    Tracks s₀ (Record.ofNotices notices ++ h) { s with debouncer := d, passes := passes } := by
  have hconfig : History.config? s₀ (Record.ofNotices notices ++ h) = History.config? s₀ h :=
    History.findSome?_ofNotices (fun _ => rfl) notices h
  refine ⟨ht.files, ht.loader, ?_, ?_, ?_⟩
  · rw [History.settings, hconfig]
    exact ht.settings
  · rw [History.styles, hconfig]
    exact ht.styles
  intro uri
  have hcontent : History.content? uri (Record.ofNotices notices ++ h) = History.content? uri h :=
    History.findSome?_ofNotices (fun _ => rfl) notices h
  have hlanguage : History.language uri (Record.ofNotices notices ++ h) =
      History.language uri h := by
    rw [History.language, History.findSome?_ofNotices (fun _ => rfl)]
    rfl
  refine ⟨?_, ?_, ?_, ?_⟩
  · rw [hcontent, hlanguage]
    exact (ht.follows uri).stored
  · rw [hlanguage]
    exact (ht.follows uri).absent
  · intro sent hshown
    have hshown : s.decorations uri = some sent := hshown
    rw [History.sentSinceTrigger_ofNotices]
    -- The newest notice about the document, if there is a new one, shows what it shows now.
    cases hnew : notices.reverse.filter fun n => n.decorations.uri = uri with
    | cons n rest =>
        have hn : n ∈ notices.reverse.filter fun n => n.decorations.uri = uri := by
          rw [hnew]
          exact List.mem_cons_self
        simp only [List.mem_filter, List.mem_reverse, decide_eq_true_eq] at hn
        have hsame := hsent n hn.1
        rw [hn.2, hshown] at hsame
        cases hsame
        exact .inr ⟨n, rfl, rfl⟩
    | nil =>
        rcases (ht.follows uri).fresh sent hshown with ⟨due, job, hslot⟩ | hold
        · rcases hstops uri due job sent hslot hshown with hwaits | ⟨n, hn, rfl⟩
          · exact .inl ⟨due, job, hwaits⟩
          · have hmem : n ∈ notices.reverse.filter fun n => n.decorations.uri = uri := by
              simp [hn, Session.uri_of_decorations hshown]
            rw [hnew] at hmem
            cases hmem
        · exact .inr hold
  · intro due job hjob
    exact (ht.follows uri).job due job (hstarts uri due job hjob)

end Tracks

/-! ## Whole runs -/

theorem Step.tracks {s₀ s t : Session} {h rs : List Record} (hstep : Step Session.Permits s rs t)
    (ht : Tracks s₀ h s) : Tracks s₀ (rs ++ h) t := by
  cases hstep with
  | call hc => exact ht.call hc
  | @expire uri due job time hslot hdue =>
      -- The pass is named for its document, so it sends a notice about it.
      have hname : (⟨job.name⟩ : Uri) = uri := by
        rw [(ht.follows uri).job due job hslot]
      rcases (s.begun uri due job).publish_session time ⟨job.name⟩ with ⟨n, hn⟩
      rw [hn]
      refine ht.passes ?_ ?_ ?_
      · intro n hmem
        have hsent : s.decorations ⟨job.name⟩ = some n.decorations :=
          (Session.publish_notices.1 hmem).2
        rw [Session.uri_of_decorations hsent]
        exact hsent
      · intro u due' job' sent hslot' hshown
        by_cases hu : u = uri
        · subst hu
          refine .inr ⟨⟨time, sent⟩, Session.publish_notices.2 ⟨rfl, ?_⟩, rfl⟩
          rw [hname]
          exact hshown
        · exact .inl ((Assoc.get?_set_of_ne hu _ _).trans hslot')
      · intro u due' job' hslot'
        by_cases hu : u = uri
        · subst hu
          have hstarted : Assoc.get? u (s.begun u due job).debouncer.slots =
              some (.started (due + job.takes)) := Assoc.get?_set_self _ _ _
          rw [hstarted] at hslot'
          cases hslot'
        · exact (Assoc.get?_set_of_ne hu _ _).symm.trans hslot'
  | late time uri =>
      -- No timer is touched; the notice shows what a timer that still runs will show again.
      rcases s.publish_session time uri with ⟨n, hn⟩
      rw [hn]
      refine ht.passes ?_ (fun _ _ _ _ hslot _ => .inl hslot) (fun _ _ _ hslot => hslot)
      intro n hmem
      have hsent : s.decorations uri = some n.decorations := (Session.publish_notices.1 hmem).2
      rw [Session.uri_of_decorations hsent]
      exact hsent
  | settle =>
      -- Every timer that stops is due, and every due timer is followed by its pass.
      rcases s.settle_session with ⟨n, hn⟩
      rw [hn]
      refine ht.passes (fun n hmem => Session.settle_notices hmem) ?_ ?_
      · intro uri due job sent hslot hshown
        by_cases hdue : due ≤ s.now
        · have hname : (⟨job.name⟩ : Uri) = uri := by
            rw [(ht.follows uri).job due job hslot]
          exact .inr (Session.mem_settle_of_due hslot hdue (hname ▸ hshown))
        · refine .inl ?_
          rw [Debouncer.settle_slot, hslot, Option.map_some, Slot.advance_waiting]
          exact congrArg some (if_neg hdue)
      · intro uri due job hslot
        rw [Debouncer.settle_slot] at hslot
        rcases Option.map_eq_some_iff.1 hslot with ⟨slot, hget, hadvance⟩
        rw [hget, Slot.eq_of_advance hadvance]

/-- A server as it is made: with the built-in configuration, or with that of a loader. -/
def Session.IsInitial (s : Session) : Prop :=
  s = Session.default ∨ ∃ files loader, Session.ofLoader files loader = .ok s

theorem Session.IsInitial.eq_ofConfig {s : Session} (h : s.IsInitial) :
    ∃ files loader config, s = Session.ofConfig files loader config := by
  rcases h with rfl | ⟨files, loader, h⟩
  · exact ⟨.empty, .empty, Config.default, rfl⟩
  · simp only [Session.ofLoader] at h
    cases hbuild : loader.build files with
    | ok config =>
        rw [hbuild] at h
        cases h
        exact ⟨files, loader, config, rfl⟩
    | error e =>
        rw [hbuild] at h
        cases h

theorem Reaches.tracks {s₀ s : Session} {h : List Record} (hfirst : s₀.IsInitial)
    (hrun : Reaches Session.Permits s₀ h s) : Tracks s₀ h s := by
  induction hrun with
  | refl =>
      rcases hfirst.eq_ofConfig with ⟨files, loader, config, rfl⟩
      refine ⟨rfl, rfl, rfl, rfl, ?_⟩
      intro uri
      exact Follows.of_absent rfl rfl (fun _ _ hslot => by cases hslot)
  | step hrun hstep ih => exact hstep.tracks ih

/-- A stored document without a running timer was sent a notice since the last call that asked for
one, and the last notice shows what the records lead one to expect, under the configuration that is
in force. -/
theorem last_notice_shows_last_update {s₀ s : Session} {h : List Record} {uri : Uri}
    {entry : OpenDocument} (hfirst : s₀.IsInitial) (hrun : Reaches Session.Permits s₀ h s)
    (hstored : Assoc.get? uri s.documents = some entry)
    (hidle : ∀ due job, Assoc.get? uri s.debouncer.slots ≠ some (.waiting due job)) :
    s.settings = History.settings s₀ h ∧ s.styles = History.styles s₀ h ∧
      ∃ n, (History.sentSinceTrigger s₀ uri h).head? = some n ∧
        History.expected s₀ uri h = some n.decorations := by
  have ht := hrun.tracks hfirst
  refine ⟨ht.settings, ht.styles, ?_⟩
  have hexpected := ht.decorations_eq hstored
  cases hshown : s.decorations uri with
  | none => simp [Session.decorations, hstored] at hshown
  | some sent =>
      rcases (ht.follows uri).fresh sent hshown with ⟨due, job, hslot⟩ | ⟨n, hn, rfl⟩
      · exact absurd hslot (hidle due job)
      · exact ⟨n, hn, hexpected.symm.trans hshown⟩

/-- A document is opened, closed, and changed without being opened again: once its timer has run
out, it shows the change, in no language. -/
theorem last_notice_of_change_after_close :
    let uri : Uri := ⟨"file:///a.cs"⟩
    let run := Session.default.steps []
      [.didOpen uri "csharp" 1 "a", .didClose uri, .didChange uri 2 ["b"], .wait 100]
    Assoc.get? uri run.1.documents = some ⟨Document.ofString "b", "", some 2⟩ ∧
      Assoc.get? uri run.1.debouncer.slots = some (.started 100) ∧
      ∃ n, (History.sentSinceTrigger Session.default uri run.2).head? = some n ∧
        History.expected Session.default uri run.2 = some n.decorations := by
  intro uri run
  have hrun : Reaches Session.Permits Session.default run.2 run.1 :=
    Reaches.refl.steps ⟨trivial, trivial, trivial, trivial, trivial⟩
  have hstored : Assoc.get? uri run.1.documents = some ⟨Document.ofString "b", "", some 2⟩ ∧
      Assoc.get? uri run.1.debouncer.slots = some (.started 100) := by
    rcases Session.default.step_session (.didOpen uri "csharp" 1 "a") with ⟨m₁, hopened⟩
    rcases Session.step_session _ (.didClose uri) with ⟨m₂, hclosed⟩
    rcases Session.step_session _ (.didChange uri 2 ["b"]) with ⟨m₃, hchanged⟩
    rcases Session.step_session _ (.wait 100) with ⟨m₄, hwaited⟩
    simp only [run, Session.steps]
    rw [hwaited, hchanged, hclosed, hopened]
    exact ⟨rfl, rfl⟩
  have hidle : ∀ due job, Assoc.get? uri run.1.debouncer.slots ≠ some (.waiting due job) := by
    intro due job hslot
    rw [hstored.2] at hslot
    cases hslot
  exact ⟨hstored.1, hstored.2,
    (last_notice_shows_last_update (.inl rfl) hrun hstored.1 hidle).2.2⟩

end Server
end EmbeddedSql

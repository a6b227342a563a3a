import EmbeddedSql.Proofs.Server.Debouncing
import EmbeddedSql.Proofs.Server.Terms

/-!
# Facets — what the server is to one document

The store of documents, the timers and the configuration are shared by all documents.  Still, what
happens to one document depends on little: the configuration, the clock, its own entry and its own
timer.  These make up a machine of their own, and a session moves, for each document, as that
machine does.

* `Server.Facet`, `Session.facet` — the part of a session that a document depends on;
* `Facet.handle`, `Facet.settle`, `Facet.notices`, `Facet.tokens` — its machine;
* `Session.handle_facet`, `Session.settle_facet` — the session moves as the machine does;
* `Session.Orderly` — each document has one timer, and the pass behind it is named for it;
* `Session.settle_notices_about` — the passes of an orderly session send, of a document, what its
  machine sends.
-/

namespace EmbeddedSql
namespace Server

/-- What a document depends on. -/
structure Facet where
  terms : Terms
  now : Nat
  entry : Option OpenDocument
  slot : Option Slot

def Session.facet (s : Session) (uri : Uri) : Facet :=
  ⟨s.terms, s.now, Assoc.get? uri s.documents, Assoc.get? uri s.debouncer.slots⟩

namespace Facet

/-- Let a timer start anew. -/
def schedule (f : Facet) (uri : Uri) : Facet :=
  { f with slot := some (.waiting (f.now + f.terms.settings.delay) ⟨uri.text, 0⟩) }

def store (f : Facet) (text language : String) (version : Int) : Facet :=
  { f with entry := some ⟨Document.ofString text, language, some version⟩ }

/-- What a call does to the document with a given uri. -/
def handle (uri : Uri) (f : Facet) : Call → Facet
  | .start options => { f with terms := f.terms.after (.start options) }
  | .ready => f
  | .shutdown => { f with slot := none }
  | .didOpen u language version text =>
    if u = uri then (f.store text language version).schedule uri else f
  | .didChange u version texts =>
    match texts.getLast? with
    | none => f
    | some text =>
      if u = uri then
        (f.store text ((f.entry.map (·.language)).getD "") version).schedule uri
      else f
  | .didClose u => if u = uri then { f with entry := none, slot := none } else f
  | .configure settings =>
    match f.terms.configFor settings with
    | .ok config =>
      -- A document that is not stored keeps whatever timer it has.
      if f.entry.isSome then { f with terms := f.terms.adopt config }.schedule uri
      else { f with terms := f.terms.adopt config }
    | .error _ => f
  | .semanticTokens _ => f
  | .wait ms => { f with now := f.now + ms }

/-- The decorations that a pass would send now. -/
def decorations (uri : Uri) (f : Facet) : Option Editor.Decorations :=
  f.entry.map fun entry =>
    Editor.Decorations.build uri entry.version entry.document (f.terms.highlightsOf entry)
      f.terms.styles

/-- What a question for the tokens of the document is answered with. -/
def tokens (f : Facet) : Answer :=
  .tokens (f.entry.map fun entry =>
    entry.document.semanticTokens (f.terms.highlightsOf entry).tokens)

/-- What is sent when passes that are due run: one notice, of the time when the timer ran out. -/
def notices (uri : Uri) (f : Facet) : List Notice :=
  match f.slot, f.decorations uri with
  | some (.waiting due _), some sent => if due ≤ f.now then [⟨due, sent⟩] else []
  | _, _ => []

def settle (f : Facet) : Facet :=
  { f with slot := f.slot.map (Slot.advance f.now) }

end Facet

namespace Session

variable {s : Session} {uri : Uri}

/-! ## Calls -/

theorem scheduleAll_facet (s : Session) (uris : List Uri) (uri : Uri) :
    (s.scheduleAll uris).facet uri =
      if uri ∈ uris then (s.facet uri).schedule uri else s.facet uri := by
  rcases s.scheduleAll_session uris with ⟨slots, hs, hslots⟩
  have hfacet : (s.scheduleAll uris).facet uri =
      { s.facet uri with slot := Assoc.get? uri slots } := by
    rw [hs]
    rfl
  rw [hfacet, hslots uri]
  split
  · rfl
  · rfl

theorem store_schedule_facet (s : Session) (u uri : Uri) (text language : String) (version : Int) :
    ((s.store u ⟨Document.ofString text, language, some version⟩).schedule u).facet uri =
      if u = uri then ((s.facet uri).store text language version).schedule uri
      else s.facet uri := by
  by_cases hu : u = uri
  · subst hu
    simp [facet, store, schedule, Debouncer.schedule, Facet.store, Facet.schedule, terms, now]
  · have hne : uri ≠ u := Ne.symm hu
    simp [facet, store, schedule, Debouncer.schedule, terms, now, hu, Assoc.get?_set_of_ne hne]

theorem handle_facet (s : Session) (c : Call) (uri : Uri) :
    (s.handle c).1.facet uri = (s.facet uri).handle uri c := by
  cases c with
  | start options =>
      have hrest : (s.handle (.start options)).1.facet uri =
          { s.facet uri with terms := (s.handle (.start options)).1.terms } := by
        cases options with
        | none => rfl
        | some settings =>
            simp only [handle, applySettings]
            cases s.configFor settings with
            | ok config => rfl
            | error e => rfl
      rw [hrest, handle_terms]
      rfl
  | ready => rfl
  | shutdown => rfl
  | didOpen u language version text => exact s.store_schedule_facet u uri text language version
  | didChange u version texts =>
      simp only [handle, Facet.handle]
      cases texts.getLast? with
      | none => rfl
      | some text =>
          by_cases hu : u = uri
          · subst hu
            exact s.store_schedule_facet u u text (s.languageOf u) version
          · have h := s.store_schedule_facet u uri text (s.languageOf u) version
            simpa [hu] using h
  | didClose u =>
      by_cases hu : u = uri
      · subst hu
        simp [handle, facet, Facet.handle, Debouncer.cancel, terms, now]
      · have hne : uri ≠ u := Ne.symm hu
        simp [handle, facet, Facet.handle, Debouncer.cancel, terms, now, hu,
          Assoc.get?_erase_of_ne hne]
  | configure settings =>
      have hsame : s.configFor settings = (s.facet uri).terms.configFor settings := rfl
      simp only [handle, Facet.handle, hsame]
      cases (s.facet uri).terms.configFor settings with
      | error e => rfl
      | ok config =>
          have hstored : uri ∈ s.documents.map (·.1) ↔ (s.facet uri).entry.isSome = true :=
            Assoc.isSome_get?_iff.symm
          simp only [scheduleAll_facet, hstored]
          rfl
  | semanticTokens u =>
      simp only [handle, Facet.handle]
      cases Assoc.get? u s.documents with
      | none => rfl
      | some entry =>
          rcases s.countPass_session entry with ⟨n, hn⟩
          simp only [hn]
          rfl
  | wait ms => rfl

theorem handle_tokens (s : Session) (uri : Uri) :
    (s.handle (.semanticTokens uri)).2 = (s.facet uri).tokens := by
  simp only [handle, Facet.tokens, facet]
  cases Assoc.get? uri s.documents with
  | none => rfl
  | some entry => rfl

/-! ## Passes -/

theorem settle_facet (s : Session) (uri : Uri) : s.settle.1.facet uri = (s.facet uri).settle := by
  rcases s.settle_session with ⟨n, hn⟩
  have hslot := s.debouncer.settle_slot uri
  rw [hn]
  simp only [facet, Facet.settle, hslot]
  rfl

/-- Each document has one timer, and the pass behind a timer is named for its document. -/
structure Orderly (s : Session) : Prop where
  distinct : Assoc.Distinct s.debouncer.slots
  named : ∀ uri due job, (uri, Slot.waiting due job) ∈ s.debouncer.slots → job.name = uri.text

namespace Orderly

theorem schedule (h : s.Orderly) (uri : Uri) : (s.schedule uri).Orderly := by
  refine ⟨h.distinct.set uri _, ?_⟩
  intro u due job hmem
  rcases List.mem_cons.1 ((h.distinct.set_perm uri _).mem_iff.1 hmem) with heq | hold
  · cases heq
    rfl
  · rw [Assoc.erase_eq_filter] at hold
    exact h.named u due job (List.mem_filter.1 hold).1

theorem scheduleAll (h : s.Orderly) (uris : List Uri) : (s.scheduleAll uris).Orderly := by
  induction uris generalizing s with
  | nil => exact h
  | cons u rest ih => exact ih (h.schedule u)

theorem cancel (h : s.Orderly) (uri : Uri) :
    { s with debouncer := s.debouncer.cancel uri }.Orderly := by
  refine ⟨h.distinct.erase uri, ?_⟩
  intro u due job hmem
  have hold : (u, Slot.waiting due job) ∈ Assoc.erase uri s.debouncer.slots := hmem
  rw [Assoc.erase_eq_filter] at hold
  exact h.named u due job (List.mem_filter.1 hold).1

theorem handle (h : s.Orderly) (c : Call) : (s.handle c).1.Orderly := by
  cases c with
  | start options =>
      cases options with
      | none => exact h
      | some settings =>
          simp only [Session.handle, applySettings]
          cases s.configFor settings with
          | ok config => exact ⟨h.distinct, h.named⟩
          | error e => exact h
  | ready => exact h
  | shutdown => exact ⟨List.nodup_nil, fun _ _ _ hmem => (List.not_mem_nil hmem).elim⟩
  | didOpen u language version text =>
      have hstored : (s.store u ⟨Document.ofString text, language, some version⟩).Orderly :=
        ⟨h.distinct, h.named⟩
      exact hstored.schedule u
  | didChange u version texts =>
      simp only [Session.handle]
      cases texts.getLast? with
      | none => exact h
      | some text =>
          have hstored : (s.store u
              ⟨Document.ofString text, s.languageOf u, some version⟩).Orderly :=
            ⟨h.distinct, h.named⟩
          exact hstored.schedule u
  | didClose u => exact ⟨(h.cancel u).distinct, (h.cancel u).named⟩
  | configure settings =>
      simp only [Session.handle]
      cases s.configFor settings with
      | ok config =>
          have hadopted : (s.adopt config).Orderly := ⟨h.distinct, h.named⟩
          exact hadopted.scheduleAll _
      | error e => exact h
  | semanticTokens u =>
      simp only [Session.handle]
      cases Assoc.get? u s.documents with
      | none => exact h
      | some entry =>
          rcases s.countPass_session entry with ⟨n, hn⟩
          simp only [hn]
          exact ⟨h.distinct, h.named⟩
  | wait ms => exact ⟨h.distinct, h.named⟩

theorem settle (h : s.Orderly) : s.settle.1.Orderly := by
  rcases s.settle_session with ⟨n, hn⟩
  rw [hn]
  refine ⟨(Debouncer.settle_settled h.distinct).distinct, ?_⟩
  intro uri due job hmem
  rcases List.mem_map.1 hmem with ⟨⟨u, slot⟩, hold, heq⟩
  rcases Prod.mk.inj heq with ⟨rfl, hadvance⟩
  have hslot : slot = .waiting due job := Slot.eq_of_advance hadvance
  subst hslot
  exact h.named u due job hold

end Orderly

/-! ### Notices about one document -/

theorem publish_eq (s : Session) (time : Nat) (uri : Uri) :
    (s.publish time uri).2 =
      ((s.decorations uri).map fun sent => (⟨time, sent⟩ : Notice)).toList := by
  simp only [publish, decorations]
  cases Assoc.get? uri s.documents with
  | none => rfl
  | some entry => rfl

/-- A notice is about the document that its pass is named for. -/
theorem filter_publish (s : Session) (time : Nat) (u uri : Uri) :
    ((s.publish time u).2.filter fun n => n.decorations.uri = uri) =
      if u = uri then (s.publish time uri).2 else [] := by
  rw [publish_eq]
  by_cases hu : u = uri
  · subst hu
    rw [if_pos rfl, publish_eq]
    cases hsent : s.decorations u with
    | none => rfl
    | some sent => simp [uri_of_decorations hsent]
  · rw [if_neg hu]
    cases hsent : s.decorations u with
    | none => rfl
    | some sent => simp [uri_of_decorations hsent, hu]

theorem filter_publishAll (s : Session) (events : List Event) (uri : Uri) :
    ((s.publishAll events).2.filter fun n => n.decorations.uri = uri) =
      (events.filter fun e => e.stage = .start ∧ e.job = uri.text).flatMap fun e =>
        (s.publish e.time uri).2 := by
  induction events generalizing s with
  | nil => rfl
  | cons e rest ih =>
      simp only [publishAll]
      by_cases hstart : e.stage = .start
      · rcases s.publish_session e.time ⟨e.job⟩ with ⟨m, hm⟩
        -- The first pass changes nothing that the later ones read.
        have hlater : ∀ time, (({ s with passes := m } : Session).publish time uri).2 =
            (s.publish time uri).2 := by
          intro time
          simp only [publish_eq]
          rfl
        have hname : (⟨e.job⟩ : Uri) = uri ↔ e.job = uri.text :=
          ⟨fun heq => congrArg Uri.text heq, fun heq => congrArg Uri.mk heq⟩
        have hrest := ih { s with passes := m }
        simp only [hlater] at hrest
        simp only [if_pos hstart, hm, List.filter_append, filter_publish, hrest, hname]
        by_cases hjob : e.job = uri.text
        · simp [hstart, hjob]
        · simp [hjob]
      · simpa [hstart] using ih s

/-! ### Timers of one document -/

/-- The event of a job that starts. -/
def startOf (r : Run) : Event :=
  ⟨r.finish - r.job.takes, r.job.name, .start⟩

/-- Of the passes that are due, the one over a document is that of its own timer. -/
theorem filter_due (h : s.Orderly) (uri : Uri) :
    (s.debouncer.due.flatMap fun r => if r.job.name = uri.text then [startOf r] else []) =
      ((Assoc.get? uri s.debouncer.slots).bind fun slot =>
        (slot.due? s.now).map startOf).toList := by
  rw [← h.distinct.filterMap_key]
  have hnamed := h.named
  simp only [Debouncer.due]
  generalize s.debouncer.slots = slots at hnamed
  induction slots with
  | nil => rfl
  | cons entry rest ih =>
      rcases entry with ⟨u, slot⟩
      have hrest := ih fun u' due job hmem => hnamed u' due job (List.mem_cons_of_mem _ hmem)
      cases slot with
      | started finish => simpa [Slot.due?] using hrest
      | waiting due job =>
          -- The name of the pass tells whose it is.
          have hname : job.name = uri.text ↔ u = uri := by
            rw [hnamed u due job List.mem_cons_self]
            exact ⟨fun heq => congrArg Uri.mk heq, fun heq => heq ▸ rfl⟩
          by_cases hdue : due ≤ s.debouncer.now
          · by_cases hu : u = uri
            · simpa [Slot.due?, hdue, hname, hu, now] using hrest
            · simpa [Slot.due?, hdue, hname, hu, now] using hrest
          · simpa [Slot.due?, hdue, now] using hrest

theorem filter_startEvents (now : Nat) (r : Run) (name : String) :
    ((Debouncer.startEvents now r).filter fun e => e.stage = .start ∧ e.job = name) =
      if r.job.name = name then [startOf r] else [] := by
  by_cases hname : r.job.name = name
  · by_cases hover : r.finish ≤ now
    · simp [Debouncer.startEvents, Debouncer.finishEvent?, hname, hover, startOf]
    · simp [Debouncer.startEvents, Debouncer.finishEvent?, hname, hover, startOf]
  · by_cases hover : r.finish ≤ now
    · simp [Debouncer.startEvents, Debouncer.finishEvent?, hname, hover]
    · simp [Debouncer.startEvents, Debouncer.finishEvent?, hname, hover]

theorem filter_finishEvents (now : Nat) (runs : List Run) (name : String) :
    ((runs.filterMap (Debouncer.finishEvent? now)).filter fun e =>
      e.stage = .start ∧ e.job = name) = [] := by
  rw [List.filter_eq_nil_iff]
  intro e he
  rcases List.mem_filterMap.1 he with ⟨r, -, hr⟩
  simp only [Debouncer.finishEvent?] at hr
  split at hr
  · cases hr
    simp
  · cases hr

/-- Of the passes that start, the one over a document is that of its own timer. -/
theorem filter_starts (h : s.Orderly) (uri : Uri) :
    (s.debouncer.settle.2.filter fun e => e.stage = .start ∧ e.job = uri.text) =
      ((Assoc.get? uri s.debouncer.slots).bind fun slot =>
        (slot.due? s.now).map startOf).toList := by
  have hperm : (s.debouncer.settle.2.filter fun e => e.stage = .start ∧ e.job = uri.text).Perm
      ((Assoc.get? uri s.debouncer.slots).bind fun slot =>
        (slot.due? s.now).map startOf).toList := by
    rw [← filter_due h uri]
    refine ((List.mergeSort_perm _ _).filter _).trans ?_
    rw [List.filter_append, List.filter_flatMap, filter_finishEvents, List.append_nil]
    exact .of_eq (by simp only [filter_startEvents])
  -- One event at most, so the order of the events does not matter.
  cases hslot : (Assoc.get? uri s.debouncer.slots).bind fun slot =>
      (slot.due? s.now).map startOf with
  | none =>
      rw [hslot] at hperm
      exact hperm.eq_nil
  | some e =>
      rw [hslot] at hperm
      exact List.perm_singleton.1 hperm

/-- Of the notices that passes send, those about a document come from its own timer. -/
theorem settle_notices_about (h : s.Orderly) (uri : Uri) :
    (s.settle.2.filter fun n => n.decorations.uri = uri) = (s.facet uri).notices uri := by
  have hsent : (s.settle.2.filter fun n => n.decorations.uri = uri) =
      (s.debouncer.settle.2.filter fun e => e.stage = .start ∧ e.job = uri.text).flatMap fun e =>
        ((s.decorations uri).map fun sent => (⟨e.time, sent⟩ : Notice)).toList := by
    have hall := filter_publishAll { s with debouncer := s.debouncer.settle.1 }
      s.debouncer.settle.2 uri
    simp only [publish_eq] at hall
    exact hall
  have hsame : (s.facet uri).decorations uri = s.decorations uri := rfl
  have hslot : (s.facet uri).slot = Assoc.get? uri s.debouncer.slots := rfl
  rw [hsent, filter_starts h uri, Facet.notices, hsame, hslot]
  cases Assoc.get? uri s.debouncer.slots with
  | none => rfl
  | some slot =>
      cases slot with
      | started finish => rfl
      | waiting due job =>
          by_cases hdue : due ≤ s.now
          · cases s.decorations uri with
            | none => simp
            | some sent =>
                have hnow : due ≤ (s.facet uri).now := hdue
                simp [Slot.due?, hdue, hnow, startOf]
          · cases s.decorations uri with
            | none => simp
            | some sent =>
                have hnow : ¬ due ≤ (s.facet uri).now := hdue
                simp [Slot.due?, hdue, hnow]

end Session
end Server
end EmbeddedSql

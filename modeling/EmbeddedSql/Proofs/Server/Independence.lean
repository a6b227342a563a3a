import EmbeddedSql.Proofs.Server.Facets

/-!
# Independence — documents do not interfere

Two runs are compared: one with calls about any number of documents, and the same run without those
that are about other documents than a given one.  The server tells the same of that document in
both, at the same times.

* `Session.transcript` — calls with their answers and the notices behind each;
* `Transcript.noticesAbout`, `Transcript.answersAbout` — what is heard of one document;
* `Call.concerns` — the calls that are about a document, or about none;
* `Facet.sent`, `Facet.answered` — the machine of one document over a whole run;
* `Session.noticesAbout_transcript`, `Session.answersAbout_transcript` — the transcript tells of the
  document what its machine tells;
* `Facet.sent_filter`, `Facet.answered_filter` — the machine takes no notice of calls about other
  documents;
* `documents_do_not_interfere` — so neither does the transcript.
-/

namespace EmbeddedSql
namespace Server

/-! ## What is heard of a document -/

/-- Calls one after the other, each with its answer and the notices of all passes that are due by
then. -/
def Session.transcript (s : Session) : List Call → List (Call × Answer × List Notice)
  | [] => []
  | c :: rest => (c, (s.step c).2) :: (s.step c).1.transcript rest

namespace Call

/-- Whether a call is about a document or about none, and not about another document. -/
def concerns (uri : Uri) : Call → Bool
  | .didOpen u _ _ _ => u = uri
  | .didChange u _ _ => u = uri
  | .didClose u => u = uri
  | .semanticTokens u => u = uri
  | _ => true

/-- Whether a call asks for the tokens of a document. -/
def asks (uri : Uri) : Call → Bool
  | .semanticTokens u => u = uri
  | _ => false

end Call

namespace Transcript

/-- The notices about a document, in order. -/
def noticesAbout (uri : Uri) (t : List (Call × Answer × List Notice)) : List Notice :=
  t.flatMap fun (_, _, notices) => notices.filter fun n => n.decorations.uri = uri

/-- The answers to questions for the tokens of a document, in order. -/
def answersAbout (uri : Uri) (t : List (Call × Answer × List Notice)) : List Answer :=
  t.filterMap fun (c, answer, _) => if c.asks uri then some answer else none

end Transcript

/-! ## The machine of one document -/

namespace Facet

/-- The notices about a document over a whole run. -/
def sent (uri : Uri) (f : Facet) : List Call → List Notice
  | [] => []
  | c :: rest => (f.handle uri c).notices uri ++ sent uri (f.handle uri c).settle rest

/-- The answers about a document over a whole run. -/
def answered (uri : Uri) (f : Facet) : List Call → List Answer
  | [] => []
  | c :: rest =>
    (if c.asks uri then [f.tokens] else []) ++ answered uri (f.handle uri c).settle rest

/-- Nothing is due. -/
def IsSettled (f : Facet) : Prop :=
  ∀ due job, f.slot = some (.waiting due job) → f.now < due

variable {uri : Uri} {f : Facet} {c : Call}

theorem settle_isSettled (f : Facet) : f.settle.IsSettled := by
  intro due job hslot
  rcases Option.map_eq_some_iff.1 hslot with ⟨slot, -, hadvance⟩
  exact Slot.lt_of_advance hadvance

theorem IsSettled.settle_eq (h : f.IsSettled) : f.settle = f := by
  rcases f with ⟨terms, now, entry, slot⟩
  cases slot with
  | none => rfl
  | some slot =>
      cases slot with
      | started finish => rfl
      | waiting due job =>
          have hdue : ¬ due ≤ now := Nat.not_le.2 (h due job rfl)
          simp [settle, Slot.advance_waiting, hdue]

theorem IsSettled.notices_eq (h : f.IsSettled) : f.notices uri = [] := by
  simp only [notices]
  split
  · rename_i due job sent hslot hsent
    exact if_neg (Nat.not_le.2 (h due job hslot))
  · rfl

theorem handle_of_not_concerns (h : c.concerns uri = false) : f.handle uri c = f := by
  cases c with
  | didOpen u language version text =>
      have hu : u ≠ uri := by simpa [Call.concerns] using h
      simp [handle, hu]
  | didChange u version texts =>
      have hu : u ≠ uri := by simpa [Call.concerns] using h
      simp only [handle, if_neg hu]
      cases texts.getLast? with
      | none => rfl
      | some text => rfl
  | didClose u =>
      have hu : u ≠ uri := by simpa [Call.concerns] using h
      simp [handle, hu]
  | semanticTokens u => rfl
  | start options => cases h
  | ready => cases h
  | shutdown => cases h
  | configure settings => cases h
  | wait ms => cases h

theorem asks_of_not_concerns (h : c.concerns uri = false) : c.asks uri = false := by
  cases c with
  | semanticTokens u => exact h
  | _ => rfl

theorem sent_filter (h : f.IsSettled) (calls : List Call) :
    f.sent uri (calls.filter (Call.concerns uri)) = f.sent uri calls := by
  induction calls generalizing f with
  | nil => rfl
  | cons c rest ih =>
      cases hc : c.concerns uri with
      | true => simp [hc, sent, ih (settle_isSettled _)]
      | false =>
          -- A call about another document leaves the machine where it is, with nothing to send.
          simp [hc, sent, handle_of_not_concerns hc, h.notices_eq, h.settle_eq, ih h]

theorem answered_filter (h : f.IsSettled) (calls : List Call) :
    f.answered uri (calls.filter (Call.concerns uri)) = f.answered uri calls := by
  induction calls generalizing f with
  | nil => rfl
  | cons c rest ih =>
      cases hc : c.concerns uri with
      | true => simp [hc, answered, ih (settle_isSettled _)]
      | false =>
          simp [hc, answered, handle_of_not_concerns hc, asks_of_not_concerns hc, h.settle_eq, ih h]

end Facet

/-! ## The server as one document sees it -/

namespace Session

variable {s : Session}

theorem step_facet (s : Session) (c : Call) (uri : Uri) :
    (s.step c).1.facet uri = ((s.facet uri).handle uri c).settle := by
  have hsettle := (s.handle c).1.settle_facet uri
  rw [handle_facet] at hsettle
  exact hsettle

theorem Orderly.step (h : s.Orderly) (c : Call) : (s.step c).1.Orderly :=
  (h.handle c).settle

theorem IsInitial.orderly (h : s.IsInitial) : s.Orderly := by
  rcases h.eq_ofConfig with ⟨files, loader, config, rfl⟩
  exact ⟨List.nodup_nil, fun _ _ _ hmem => (List.not_mem_nil hmem).elim⟩

theorem IsInitial.isSettled (h : s.IsInitial) (uri : Uri) : (s.facet uri).IsSettled := by
  rcases h.eq_ofConfig with ⟨files, loader, config, rfl⟩
  intro due job hslot
  cases hslot

theorem noticesAbout_transcript (h : s.Orderly) (uri : Uri) (calls : List Call) :
    Transcript.noticesAbout uri (s.transcript calls) = (s.facet uri).sent uri calls := by
  induction calls generalizing s with
  | nil => rfl
  | cons c rest ih =>
      have hhead := settle_notices_about (h.handle c) uri
      have hrest := ih (h.step c)
      rw [handle_facet] at hhead
      rw [step_facet] at hrest
      simp only [Facet.sent, ← hhead, ← hrest]
      rfl

theorem answersAbout_transcript (s : Session) (uri : Uri) (calls : List Call) :
    Transcript.answersAbout uri (s.transcript calls) = (s.facet uri).answered uri calls := by
  induction calls generalizing s with
  | nil => rfl
  | cons c rest ih =>
      have hrest := ih (s.step c).1
      rw [step_facet] at hrest
      cases hc : c.asks uri with
      | false => simpa [Transcript.answersAbout, transcript, Facet.answered, hc] using hrest
      | true =>
          have hanswer : (s.step c).2.1 = (s.facet uri).tokens := by
            cases c with
            | semanticTokens u =>
                have hu : u = uri := by simpa [Call.asks] using hc
                subst hu
                exact s.handle_tokens u
            | _ => cases hc
          simpa [Transcript.answersAbout, transcript, Facet.answered, hc, hanswer] using hrest

end Session

/-- In every run of a server, what is sent about a document, with its times, and what is answered
about it are the same as if all calls about other documents were left out. -/
theorem documents_do_not_interfere {s₀ : Session} (hfirst : s₀.IsInitial) (uri : Uri)
    (calls : List Call) :
    Transcript.noticesAbout uri (s₀.transcript calls) =
        Transcript.noticesAbout uri (s₀.transcript (calls.filter (Call.concerns uri))) ∧
      Transcript.answersAbout uri (s₀.transcript calls) =
        Transcript.answersAbout uri (s₀.transcript (calls.filter (Call.concerns uri))) := by
  constructor
  · rw [Session.noticesAbout_transcript hfirst.orderly,
      Session.noticesAbout_transcript hfirst.orderly, Facet.sent_filter (hfirst.isSettled uri)]
  · rw [Session.answersAbout_transcript, Session.answersAbout_transcript,
      Facet.answered_filter (hfirst.isSettled uri)]

/-- Another document is opened, changed and closed around the calls about a document, which is
shown once, when the shorter delay that was configured meanwhile has passed. -/
theorem documents_do_not_interfere_interleaved :
    let a : Uri := ⟨"file:///a.cs"⟩
    let b : Uri := ⟨"file:///b.cs"⟩
    let calls : List Call :=
      [.didOpen b "csharp" 1 "b", .didOpen a "csharp" 1 "a", .wait 60, .didChange b 2 ["c"],
        .configure (.obj [("highlight", .obj [("debounce_ms", .nat 10)])]), .semanticTokens b,
        .wait 20, .didClose b, .semanticTokens a, .wait 100]
    calls.filter (Call.concerns a) =
        [.didOpen a "csharp" 1 "a", .wait 60,
          .configure (.obj [("highlight", .obj [("debounce_ms", .nat 10)])]), .wait 20,
          .semanticTokens a, .wait 100] ∧
      (Transcript.noticesAbout a (Session.default.transcript calls)).map (·.time) = [70] ∧
      Transcript.noticesAbout a (Session.default.transcript calls) =
        Transcript.noticesAbout a
          (Session.default.transcript (calls.filter (Call.concerns a))) ∧
      Transcript.answersAbout a (Session.default.transcript calls) =
        Transcript.answersAbout a
          (Session.default.transcript (calls.filter (Call.concerns a))) := by
  intro a b calls
  have htimes : (Transcript.noticesAbout a (Session.default.transcript calls)).map (·.time) =
      [70] := by
    rw [Session.noticesAbout_transcript (Session.IsInitial.orderly (.inl rfl))]
    decide +kernel
  exact ⟨rfl, htimes, documents_do_not_interfere (.inl rfl) a calls⟩

end Server
end EmbeddedSql

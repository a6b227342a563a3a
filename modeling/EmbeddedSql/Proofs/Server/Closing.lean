import EmbeddedSql.Proofs.Server.Facets

/-!
# Closing — nothing is heard of a closed document

Closing a document takes its text out of the store and stops its timer.  A pass over it may still
come, if its timer had run out before, and settings that are sent later start the timers of all
documents in the store.  Neither tells of the document, until a text of it is sent again.

* `Facet.IsAbsent` — neither a text nor a timer of a document;
* `Facet.IsAbsent.handle`, `Step.isAbsent` — no call but those that bring a text, and no pass, ends
  this;
* `Step.silent`, `Reaches.silent` — meanwhile no pass tells of the document;
* `closed_document_stays_silent` — so it is from the close on.
-/

namespace EmbeddedSql
namespace Server

/-- The server keeps neither a text of the document nor a timer for it. -/
structure Facet.IsAbsent (f : Facet) : Prop where
  entry : f.entry = none
  slot : f.slot = none

theorem Facet.IsAbsent.handle {uri : Uri} {f : Facet} {c : Call} (h : f.IsAbsent)
    (hc : (Record.call c).content? uri = none) : (f.handle uri c).IsAbsent := by
  cases c with
  | start options => exact ⟨h.entry, h.slot⟩
  | ready => exact h
  | shutdown => exact ⟨h.entry, rfl⟩
  | didOpen u language version text =>
      have hu : u ≠ uri := by simpa [Record.content?] using hc
      simpa [Facet.handle, hu] using h
  | didChange u version texts =>
      simp only [Facet.handle]
      cases hlast : texts.getLast? with
      | none => exact h
      | some text =>
          have hu : u ≠ uri := by simpa [Record.content?, hlast] using hc
          simpa [hu] using h
  | didClose u =>
      simp only [Facet.handle]
      split
      · exact ⟨rfl, rfl⟩
      · exact h
  | configure settings =>
      -- Only documents in the store get a timer.
      simp only [Facet.handle, h.entry]
      split
      · exact ⟨rfl, h.slot⟩
      · exact h
  | semanticTokens u => exact h
  | wait ms => exact ⟨h.entry, h.slot⟩

namespace Session

variable {s : Session} {uri : Uri}

theorem handle_didClose_isAbsent (s : Session) (uri : Uri) :
    ((s.handle (.didClose uri)).1.facet uri).IsAbsent :=
  ⟨Assoc.get?_erase_self _ _, Assoc.get?_erase_self _ _⟩

theorem publish_facet (s : Session) (time : Nat) (u uri : Uri) :
    (s.publish time u).1.facet uri = s.facet uri := by
  rcases s.publish_session time u with ⟨n, hn⟩
  rw [hn]
  rfl

/-- Passes send what the store holds, and of an absent document it holds nothing. -/
theorem notice?_of_isAbsent (h : (s.facet uri).IsAbsent) {notices : List Notice}
    (hsent : ∀ n ∈ notices, s.decorations n.decorations.uri = some n.decorations) {r : Record}
    (hr : r ∈ Record.ofNotices notices) : r.notice? uri = none := by
  rcases List.mem_map.1 hr with ⟨n, hn, rfl⟩
  have hother : n.decorations.uri ≠ uri := by
    intro heq
    have hdecorations := hsent n (List.mem_reverse.1 hn)
    have hentry : Assoc.get? uri s.documents = none := h.entry
    rw [heq, decorations, hentry] at hdecorations
    cases hdecorations
  exact if_neg hother

theorem decorations_of_mem_publish {time : Nat} {n : Notice} (h : n ∈ (s.publish time uri).2) :
    s.decorations n.decorations.uri = some n.decorations := by
  have hsent := (publish_notices.1 h).2
  rwa [uri_of_decorations hsent]

end Session

/-! ## Steps and runs -/

section Runs

variable {permits : Session → Call → Prop} {s t : Session} {rs : List Record} {uri : Uri}

theorem Session.begun_isAbsent (h : (s.facet uri).IsAbsent) {u : Uri} {due : Nat} {job : Job}
    (hslot : Assoc.get? u s.debouncer.slots = some (.waiting due job)) :
    ((s.begun u due job).facet uri).IsAbsent := by
  have hother : uri ≠ u := by
    rintro rfl
    cases h.slot.symm.trans hslot
  exact ⟨h.entry, (Assoc.get?_set_of_ne hother _ _).trans h.slot⟩

theorem Step.isAbsent (hstep : Step permits s rs t) (h : (s.facet uri).IsAbsent)
    (hrs : ∀ r ∈ rs, r.content? uri = none) : (t.facet uri).IsAbsent := by
  cases hstep with
  | call _ =>
      rw [Session.handle_facet]
      exact h.handle (hrs _ List.mem_cons_self)
  | expire time hslot _ =>
      -- The document has no timer, so it is another one's that ran out.
      rw [Session.publish_facet]
      exact Session.begun_isAbsent h hslot
  | late time u =>
      rw [Session.publish_facet]
      exact h
  | settle =>
      rw [Session.settle_facet]
      exact ⟨h.entry, congrArg (Option.map _) h.slot⟩

theorem Step.silent (hstep : Step permits s rs t) (h : (s.facet uri).IsAbsent) :
    ∀ r ∈ rs, r.notice? uri = none := by
  intro r hr
  cases hstep with
  | call _ =>
      cases List.mem_singleton.1 hr
      rfl
  | expire time hslot _ =>
      exact Session.notice?_of_isAbsent (Session.begun_isAbsent h hslot)
        (fun _ => Session.decorations_of_mem_publish) hr
  | late time u =>
      -- The timer may have run out before the close; the store is asked when the pass comes.
      exact Session.notice?_of_isAbsent h (fun _ => Session.decorations_of_mem_publish) hr
  | settle => exact Session.notice?_of_isAbsent h (fun _ => Session.settle_notices) hr

theorem Reaches.silent (hrun : Reaches permits s rs t) (h : (s.facet uri).IsAbsent)
    (hrs : ∀ r ∈ rs, r.content? uri = none) :
    (t.facet uri).IsAbsent ∧ ∀ r ∈ rs, r.notice? uri = none := by
  induction hrun with
  | refl => exact ⟨h, fun _ hr => (List.not_mem_nil hr).elim⟩
  | @step earlier new _ _ _ hstep ih =>
      rcases ih fun r hr => hrs r (List.mem_append_right new hr) with ⟨habsent, hearlier⟩
      refine ⟨hstep.isAbsent habsent fun r hr => hrs r (List.mem_append_left earlier hr), ?_⟩
      intro r hr
      rcases List.mem_append.1 hr with hnew | hold
      · exact hstep.silent habsent r hnew
      · exact hearlier r hold

end Runs

/-- From a close of a document on, and as long as no text of it is sent, no notice about it is sent
and a question for its tokens is answered with none, whatever calls and passes come. -/
theorem closed_document_stays_silent {s₀ t : Session} {uri : Uri} {earlier later : List Record}
    (hrun : Reaches (fun _ _ => True) s₀ (later ++ .call (.didClose uri) :: earlier) t)
    (hlater : ∀ r ∈ later, r.content? uri = none) :
    (∀ r ∈ later, r.notice? uri = none) ∧
      (t.handle (.semanticTokens uri)).2 = .tokens none ∧
      Assoc.get? uri t.documents = none ∧ Assoc.get? uri t.debouncer.slots = none := by
  rcases hrun.split_call with ⟨s, -, hrest⟩
  rcases hrest.silent (s.handle_didClose_isAbsent uri) hlater with ⟨habsent, hsilent⟩
  refine ⟨hsilent, ?_, habsent.entry, habsent.slot⟩
  rw [Session.handle_tokens, Facet.tokens, habsent.entry]
  rfl

/-- A document is closed when its timer has run out already.  The pass over it comes late, another
document is opened, settings start the timers, an empty change comes, and passes run. -/
theorem closed_document_stays_silent_late :
    let uri : Uri := ⟨"file:///a.cs"⟩
    let other : Uri := ⟨"file:///b.cs"⟩
    let opened := (Session.default.handle (.didOpen uri "csharp" 1 "a")).1
    let closed := ((opened.handle (.wait 150)).1.handle (.didClose uri)).1
    let reopened := ((closed.publish 150 uri).1.handle (.didOpen other "csharp" 1 "b")).1
    let configured := (reopened.handle (.configure (.obj []))).1
    let t := ((configured.handle (.didChange uri 2 [])).1.handle (.wait 150)).1
    let before : List Record := [.call (.wait 150), .call (.didOpen uri "csharp" 1 "a")]
    let calls : List Record :=
      [.call (.wait 150), .call (.didChange uri 2 []), .call (.configure (.obj [])),
        .call (.didOpen other "csharp" 1 "b")]
    Assoc.get? uri opened.debouncer.slots = some (.waiting 100 ⟨uri.text, 0⟩) ∧
      Assoc.get? other t.debouncer.slots = some (.waiting 250 ⟨other.text, 0⟩) ∧
      Reaches (fun _ _ => True) Session.default
        (Record.ofNotices t.settle.2 ++ calls ++ .call (.didClose uri) :: before) t.settle.1 ∧
      (∀ r ∈ Record.ofNotices t.settle.2, r.notice? uri = none) ∧
      (t.settle.1.handle (.semanticTokens uri)).2 = .tokens none := by
  intro uri other opened closed reopened configured t before calls
  have hclosed : Reaches (fun _ _ => True) Session.default (.call (.didClose uri) :: before)
      closed :=
    ((Reaches.refl.step (.call trivial)).step (.call trivial)).step (.call trivial)
  have hcalls : Reaches (fun _ _ => True) Session.default
      (calls ++ .call (.didClose uri) :: before) t :=
    ((((hclosed.step (.late 150 uri)).step (.call trivial)).step (.call trivial)).step
      (.call trivial)).step (.call trivial)
  have hrun : Reaches (fun _ _ => True) Session.default
      (Record.ofNotices t.settle.2 ++ calls ++ .call (.didClose uri) :: before) t.settle.1 := by
    rw [List.append_assoc]
    exact hcalls.step .settle
  have hlater : ∀ r ∈ Record.ofNotices t.settle.2 ++ calls, r.content? uri = none := by
    have hfixed : ∀ r ∈ calls, r.content? uri = none := by decide
    intro r hr
    rcases List.mem_append.1 hr with hsent | hcall
    · rcases List.mem_map.1 hsent with ⟨n, -, rfl⟩
      rfl
    · exact hfixed r hcall
  rcases closed_document_stays_silent hrun hlater with ⟨hsilent, hanswer, -, -⟩
  exact ⟨rfl, rfl, hrun, fun r hr => hsilent r (List.mem_append_left calls hr), hanswer⟩

end Server
end EmbeddedSql

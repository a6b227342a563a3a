import EmbeddedSql.Server.Basic

/-!
# Runs — what happens to a server, one thing at a time

A run is a sequence of calls and of passes.  The passes of `Session.settle` start as soon as they
are due; in a run they may also start late, or not at all, and a pass whose timer ran out before it
was replaced may still come.  What happened is kept as a list of records, the newest first.

* `Session.decorations` — what a pass over a document sends at the moment;
* `Session.publishAll_notices`, `Session.settle_notices` — passes send just that;
* `Server.Step`, `Server.Reaches` — one step of a server, and any number of them;
* `Reaches.split_call` — a run comes apart where a call is recorded;
* `Reaches.steps` — calls with all passes that are due by then are such a run.
-/

namespace EmbeddedSql

namespace Server

/-! ## Slots -/

theorem Slot.advance_waiting (now due : Nat) (job : Job) :
    (Slot.waiting due job).advance now =
      if due ≤ now then .started (due + job.takes) else .waiting due job := by
  by_cases h : due ≤ now
  · simp [advance, due?, h]
  · simp [advance, due?, h]

theorem Slot.eq_of_advance {now due : Nat} {job : Job} {slot : Slot}
    (h : slot.advance now = .waiting due job) : slot = .waiting due job := by
  cases slot with
  | waiting due' job' =>
      rw [advance_waiting] at h
      split at h
      · cases h
      · exact h
  | started finish => cases h

theorem Slot.lt_of_advance {now due : Nat} {job : Job} {slot : Slot}
    (h : slot.advance now = .waiting due job) : now < due := by
  rw [eq_of_advance h, advance_waiting] at h
  split at h
  · cases h
  · exact Nat.lt_of_not_le ‹_›

theorem Debouncer.settle_slot (d : Debouncer) (uri : Uri) :
    Assoc.get? uri d.settle.1.slots = (Assoc.get? uri d.slots).map (Slot.advance d.now) := by
  exact Assoc.get?_map (Slot.advance d.now) uri d.slots

namespace Session

variable {s : Session} {uri : Uri}

/-! ## Passes -/

/-- What a pass over a document sends at the moment; nothing if the document is not stored. -/
def decorations (s : Session) (uri : Uri) : Option Editor.Decorations :=
  (Assoc.get? uri s.documents).map fun entry =>
    Editor.Decorations.build uri entry.version entry.document (s.highlightsOf entry) s.styles

theorem uri_of_decorations {sent : Editor.Decorations} (h : s.decorations uri = some sent) :
    sent.uri = uri := by
  rcases Option.map_eq_some_iff.1 h with ⟨entry, -, rfl⟩
  rfl

theorem countPass_session (s : Session) (entry : OpenDocument) :
    ∃ n, s.countPass entry = { s with passes := n } := by
  simp only [countPass]
  split
  · exact ⟨s.passes + 1, rfl⟩
  · exact ⟨s.passes, rfl⟩

theorem publish_session (s : Session) (time : Nat) (uri : Uri) :
    ∃ n, (s.publish time uri).1 = { s with passes := n } := by
  simp only [publish]
  split
  · exact ⟨s.passes, rfl⟩
  · exact s.countPass_session _

theorem publish_notices {time : Nat} {n : Notice} :
    n ∈ (s.publish time uri).2 ↔ n.time = time ∧ s.decorations uri = some n.decorations := by
  rcases n with ⟨sentAt, sent⟩
  simp only [publish, decorations]
  cases Assoc.get? uri s.documents with
  | none => simp
  | some entry => simp [Eq.comm]

theorem publishAll_session (s : Session) (events : List Event) :
    ∃ n, (s.publishAll events).1 = { s with passes := n } := by
  induction events generalizing s with
  | nil => exact ⟨s.passes, rfl⟩
  | cons e rest ih =>
      simp only [publishAll]
      split
      · rcases s.publish_session e.time ⟨e.job⟩ with ⟨n, hn⟩
        rcases ih (s.publish e.time ⟨e.job⟩).1 with ⟨m, hm⟩
        exact ⟨m, by rw [hm, hn]⟩
      · exact ih s

theorem publishAll_notices {events : List Event} {n : Notice} :
    n ∈ (s.publishAll events).2 ↔
      ∃ e ∈ events, e.stage = .start ∧ n.time = e.time ∧
        s.decorations ⟨e.job⟩ = some n.decorations := by
  induction events generalizing s with
  | nil => simp [publishAll]
  | cons e rest ih =>
      simp only [publishAll]
      split
      · -- The first pass counts itself and changes nothing that the later ones read.
        rename_i hstart
        rcases s.publish_session e.time ⟨e.job⟩ with ⟨m, hm⟩
        have hlater : ∀ u, (s.publish e.time ⟨e.job⟩).1.decorations u = s.decorations u := by
          intro u
          rw [hm]
          rfl
        simp [publish_notices, ih, hlater, hstart]
      · rename_i hstart
        simp [ih, hstart]

/-! ## Scheduled passes -/

theorem scheduleAll_session (s : Session) (uris : List Uri) :
    ∃ slots, s.scheduleAll uris = { s with debouncer := { s.debouncer with slots := slots } } ∧
      ∀ uri, Assoc.get? uri slots =
        if uri ∈ uris then some (.waiting (s.now + s.settings.delay) ⟨uri.text, 0⟩)
        else Assoc.get? uri s.debouncer.slots := by
  induction uris generalizing s with
  | nil => exact ⟨s.debouncer.slots, rfl, fun uri => by simp⟩
  | cons u rest ih =>
      rcases ih (s.schedule u) with ⟨slots, hs, hslots⟩
      refine ⟨slots, hs, ?_⟩
      intro uri
      rw [hslots uri]
      -- A document that is named again gets the same timer again.
      by_cases hrest : uri ∈ rest
      · rw [if_pos hrest, if_pos (List.mem_cons_of_mem _ hrest)]
        rfl
      · rw [if_neg hrest]
        by_cases hu : uri = u
        · subst hu
          rw [if_pos List.mem_cons_self]
          exact Assoc.get?_set_self _ _ _
        · rw [if_neg (by simp [hu, hrest])]
          exact Assoc.get?_set_of_ne hu _ _

theorem settle_session (s : Session) :
    ∃ n, s.settle.1 = { s with debouncer := s.debouncer.settle.1, passes := n } :=
  publishAll_session { s with debouncer := s.debouncer.settle.1 } s.debouncer.settle.2

theorem step_session (s : Session) (c : Call) :
    ∃ n, (s.step c).1 =
      { (s.handle c).1 with debouncer := (s.handle c).1.debouncer.settle.1, passes := n } :=
  settle_session (s.handle c).1

theorem settle_notices {n : Notice} (h : n ∈ s.settle.2) :
    s.decorations n.decorations.uri = some n.decorations := by
  rcases publishAll_notices.1 h with ⟨e, -, -, -, hsent⟩
  have hsent : s.decorations ⟨e.job⟩ = some n.decorations := hsent
  rw [uri_of_decorations hsent]
  exact hsent

/-- A timer that has run out leads to a pass. -/
theorem mem_settle_of_due {due : Nat} {job : Job} {sent : Editor.Decorations}
    (hslot : Assoc.get? uri s.debouncer.slots = some (.waiting due job)) (hdue : due ≤ s.now)
    (hsent : s.decorations ⟨job.name⟩ = some sent) : ∃ n ∈ s.settle.2, n.decorations = sent := by
  have hrun : (⟨job, due + job.takes⟩ : Run) ∈ s.debouncer.due := by
    refine List.mem_filterMap.2 ⟨(uri, .waiting due job), Assoc.mem_of_get? hslot, ?_⟩
    exact if_pos hdue
  have hevent : (⟨due, job.name, .start⟩ : Event) ∈ s.debouncer.settle.2 := by
    refine List.mem_mergeSort.2 (List.mem_append_left _ ?_)
    refine List.mem_flatMap.2 ⟨_, hrun, ?_⟩
    simp [Debouncer.startEvents]
  exact ⟨⟨due, sent⟩, publishAll_notices.2 ⟨_, hevent, rfl, rfl, hsent⟩, rfl⟩

end Session

/-! ## Records and runs -/

/-- What a run is made of. -/
inductive Record where
  | call (c : Call)
  | sent (n : Notice)

/-- Notices as records, the newest first. -/
def Record.ofNotices (notices : List Notice) : List Record :=
  notices.reverse.map .sent

/-- The session after the job of a document has started. -/
def Session.begun (s : Session) (uri : Uri) (due : Nat) (job : Job) : Session :=
  { s with
      debouncer := { s.debouncer with
        slots := Assoc.set uri (.started (due + job.takes)) s.debouncer.slots } }

/-- One step of a server, and what it adds to the records.  Which calls come when is left to the
caller. -/
inductive Step (permits : Session → Call → Prop) (s : Session) : List Record → Session → Prop
  /-- A call is handled. -/
  | call {c : Call} : permits s c → Step permits s [.call c] (s.handle c).1
  /-- A timer that has run out leads to a pass. -/
  | expire {uri : Uri} {due : Nat} {job : Job} (time : Nat) :
      Assoc.get? uri s.debouncer.slots = some (.waiting due job) → due ≤ s.now →
      Step permits s (Record.ofNotices ((s.begun uri due job).publish time ⟨job.name⟩).2)
        ((s.begun uri due job).publish time ⟨job.name⟩).1
  /-- A pass comes whose timer had run out before it was replaced. -/
  | late (time : Nat) (uri : Uri) :
      Step permits s (Record.ofNotices (s.publish time uri).2) (s.publish time uri).1
  /-- All timers that have run out lead to passes. -/
  | settle : Step permits s (Record.ofNotices s.settle.2) s.settle.1

/-- A run from a first state, with all its records. -/
inductive Reaches (permits : Session → Call → Prop) (s₀ : Session) : List Record → Session → Prop
  | refl : Reaches permits s₀ [] s₀
  | step {h rs : List Record} {s t : Session} :
      Reaches permits s₀ h s → Step permits s rs t → Reaches permits s₀ (rs ++ h) t

/-- A call is recorded by the step that handles it. -/
theorem Step.eq_of_call_mem {permits : Session → Call → Prop} {s t : Session} {rs : List Record}
    {c : Call} (hstep : Step permits s rs t) (hc : .call c ∈ rs) :
    rs = [.call c] ∧ t = (s.handle c).1 := by
  have hnotice : ∀ notices, .call c ∉ Record.ofNotices notices := by
    intro notices hmem
    rcases List.mem_map.1 hmem with ⟨n, -, heq⟩
    cases heq
  cases hstep with
  | call _ =>
      cases List.mem_singleton.1 hc
      exact ⟨rfl, rfl⟩
  | expire time _ _ => exact absurd hc (hnotice _)
  | late time uri => exact absurd hc (hnotice _)
  | settle => exact absurd hc (hnotice _)

namespace Reaches

variable {permits : Session → Call → Prop} {r s t : Session} {earlier later : List Record}
  {c : Call}

theorem trans (hs : Reaches permits r earlier s) (ht : Reaches permits s later t) :
    Reaches permits r (later ++ earlier) t := by
  induction ht with
  | refl => exact hs
  | step _ hstep ih =>
      rw [List.append_assoc]
      exact ih.step hstep

/-- Where a call is recorded, the run splits into what came before it and what came later. -/
theorem split_call (h : Reaches permits r (later ++ .call c :: earlier) t) :
    ∃ s, Reaches permits r earlier s ∧ Reaches permits (s.handle c).1 later t := by
  generalize hall : later ++ .call c :: earlier = all at h
  induction h generalizing later with
  | refl => simp at hall
  | @step all rs s t hs hstep ih =>
      rcases List.append_eq_append_iff.1 hall with ⟨gap, rfl, hgap⟩ | ⟨gap, rfl, hgap⟩
      · cases gap with
        | nil =>
            -- The last step is the first one behind the call.
            rcases @ih [] hgap with ⟨s', hs', hrest⟩
            exact ⟨s', hs', by simpa using hrest.step hstep⟩
        | cons first gap =>
            -- The last step is the call itself.
            rcases List.cons.inj hgap with ⟨rfl, rfl⟩
            have hmem : .call c ∈ later ++ .call c :: gap := by simp
            rcases hstep.eq_of_call_mem hmem with ⟨hrs, rfl⟩
            rcases List.append_eq_singleton_iff.1 hrs with ⟨rfl, hgap⟩ | ⟨-, hgap⟩
            · cases hgap
              exact ⟨s, hs, .refl⟩
            · cases hgap
      · rcases ih hgap.symm with ⟨s', hs', hrest⟩
        exact ⟨s', hs', hrest.step hstep⟩

end Reaches

/-! ## Calls one after the other -/

/-- Calls one after the other, each with all passes that are due by then. -/
def Session.steps (s : Session) (h : List Record) : List Call → Session × List Record
  | [] => (s, h)
  | c :: rest => (s.step c).1.steps (Record.ofNotices (s.step c).2.2 ++ .call c :: h) rest

/-- Each of several calls is permitted when its turn comes. -/
def Session.PermitsAll (permits : Session → Call → Prop) (s : Session) : List Call → Prop
  | [] => True
  | c :: rest => permits s c ∧ PermitsAll permits (s.step c).1 rest

theorem Reaches.steps {permits : Session → Call → Prop} {s₀ s : Session} {h : List Record}
    {calls : List Call} (hrun : Reaches permits s₀ h s) (hcalls : s.PermitsAll permits calls) :
    Reaches permits s₀ (s.steps h calls).2 (s.steps h calls).1 := by
  induction calls generalizing s h with
  | nil => exact hrun
  | cons c rest ih =>
      have hcalled : Reaches permits s₀ (.call c :: h) (s.handle c).1 := hrun.step (.call hcalls.1)
      exact ih (hcalled.step .settle) hcalls.2

end Server
end EmbeddedSql

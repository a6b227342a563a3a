import EmbeddedSql.Proofs.Server.Independence

/-!
# Refusal — settings that make no configuration

Settings may be refused for many reasons and at any time, with timers running for any documents.
Whatever the reason is, the call is as if it had not been made:

* `Terms.Refuses` — the settings of a call make no configuration with the layers; this depends on
  nothing that was sent before (`Terms.Refuses.congr`, `Terms.after_layers`);
* `Session.handle_of_refuses` — a refused call leaves the whole session as it is;
* `Session.step_of_refuses` — nor does it lead to a pass, if none was due;
* `refused_settings_change_nothing` — so it may be left out of every run.
-/

namespace EmbeddedSql
namespace Server

/-- The answer to a call that carries settings. -/
def Call.receipt : Call → Answer
  | .start _ => .capabilities
  | _ => .nothing

namespace Terms

/-- A call carries settings with which the layers make no configuration. -/
def Refuses (t : Terms) (c : Call) : Prop :=
  ∃ settings e, c.payload? = some settings ∧ t.configFor settings = .error e

variable {t : Terms} {c : Call}

theorem Refuses.congr {t' : Terms} (h : t.Refuses c) (hfiles : t'.files = t.files)
    (hloader : t'.loader = t.loader) : t'.Refuses c := by
  rcases h with ⟨settings, e, hc, herror⟩
  refine ⟨settings, e, hc, ?_⟩
  simpa only [configFor, hfiles, hloader] using herror

/-- Calls leave files and layers alone. -/
theorem after_layers (t : Terms) (c : Call) :
    (t.after c).files = t.files ∧ (t.after c).loader = t.loader := by
  simp only [after]
  split
  · exact ⟨rfl, rfl⟩
  · split
    · exact ⟨rfl, rfl⟩
    · exact ⟨rfl, rfl⟩

end Terms

namespace Session

variable {s : Session} {c : Call}

theorem handle_of_refuses (h : s.terms.Refuses c) : s.handle c = (s, c.receipt) := by
  rcases h with ⟨settings, e, hc, herror⟩
  have hconfig : s.configFor settings = .error e := herror
  cases c with
  | start options =>
      cases hc
      simp only [handle, applySettings, hconfig]
      rfl
  | configure sent =>
      cases hc
      simp only [handle, hconfig]
      rfl
  | _ => cases hc

/-! ## Runs in which passes start when they are due -/

theorem settle_of_settled (h : s.debouncer.Settled) : s.settle = (s, []) := by
  simp only [settle, h.settle_eq]
  rfl

theorem step_of_refuses (hs : s.debouncer.Settled) (hc : s.terms.Refuses c) :
    s.step c = (s, c.receipt, []) := by
  simp only [step, handle_of_refuses hc, settle_of_settled hs]

/-- After every call nothing is due. -/
theorem Orderly.step_settled (h : s.Orderly) (c : Call) : (s.step c).1.debouncer.Settled := by
  rcases s.step_session c with ⟨n, hn⟩
  rw [hn]
  exact Debouncer.settle_settled (h.handle c).distinct

theorem step_terms (s : Session) (c : Call) : (s.step c).1.terms = s.terms.after c :=
  (settle_terms _).trans (s.handle_terms c)

/-- A refused call among others adds itself to the transcript, and nothing else. -/
theorem transcript_of_refuses (horder : s.Orderly) (hs : s.debouncer.Settled)
    (hc : s.terms.Refuses c) (before rest : List Call) :
    ∃ back, s.transcript (before ++ rest) = s.transcript before ++ back ∧
      s.transcript (before ++ c :: rest) =
        s.transcript before ++ (c, c.receipt, []) :: back := by
  induction before generalizing s with
  | nil =>
      refine ⟨s.transcript rest, rfl, ?_⟩
      simp only [List.nil_append, transcript, step_of_refuses hs hc]
  | cons b before ih =>
      -- Whatever `b` puts in force, the layers below stay, and with them the refusal.
      have hlater : (s.step b).1.terms.Refuses c := by
        rw [step_terms]
        exact hc.congr (s.terms.after_layers b).1 (s.terms.after_layers b).2
      rcases ih (horder.step b) (horder.step_settled b) hlater with ⟨back, hwithout, hwith⟩
      refine ⟨back, ?_, ?_⟩
      · simp only [List.cons_append, transcript, hwithout]
      · simp only [List.cons_append, transcript, hwith]

theorem IsInitial.settled (h : s.IsInitial) : s.debouncer.Settled := by
  rcases h.eq_ofConfig with ⟨files, loader, config, rfl⟩
  exact Debouncer.settled_empty

end Session

/-- Settings that make no configuration with the layers of a server, sent in whatever state it is,
leave all of that state as it was.  Every run goes on as it would without them: with the same
notices and states if passes may start late, and with the same answers and notices at the same
times if they start when they are due. -/
theorem refused_settings_change_nothing {s₀ : Session} {c : Call} (hfirst : s₀.IsInitial)
    (hc : s₀.terms.Refuses c) :
    (∀ h s, Reaches (fun _ _ => True) s₀ h s → s.handle c = (s, c.receipt)) ∧
    (∀ earlier later t, Reaches (fun _ _ => True) s₀ (later ++ .call c :: earlier) t ↔
      ∃ s, Reaches (fun _ _ => True) s₀ earlier s ∧ Reaches (fun _ _ => True) s later t) ∧
    ∀ before rest, ∃ back,
      s₀.transcript (before ++ rest) = s₀.transcript before ++ back ∧
      s₀.transcript (before ++ c :: rest) =
        s₀.transcript before ++ (c, c.receipt, []) :: back := by
  have hstate : ∀ h s, Reaches (fun _ _ => True) s₀ h s → s.handle c = (s, c.receipt) := by
    intro h s hrun
    have hfollow := hrun.follow hfirst
    exact Session.handle_of_refuses (hc.congr hfollow.files hfollow.loader)
  refine ⟨hstate, ?_, Session.transcript_of_refuses hfirst.orderly hfirst.settled hc⟩
  intro earlier later t
  constructor
  · intro hrun
    rcases hrun.split_call with ⟨s, hs, ht⟩
    rw [hstate earlier s hs] at ht
    exact ⟨s, hs, ht⟩
  · rintro ⟨s, hs, ht⟩
    have hcall : Reaches (fun _ _ => True) s₀ (.call c :: earlier) (s.handle c).1 :=
      hs.step (.call trivial)
    rw [hstate earlier s hs] at hcall
    exact hcall.trans ht

/-- A color that is no text is refused while a timer runs, which goes on. -/
theorem refused_settings_change_nothing_meanwhile :
    let uri : Uri := ⟨"file:///a.cs"⟩
    let refused : Call := .configure (.obj [("colors", .obj [("keywords", .null)])])
    let opened := (Session.default.handle (.didOpen uri "csharp" 1 "a")).1
    let before : List Call := [.didOpen uri "csharp" 1 "a", .wait 60]
    Session.default.terms.Refuses refused ∧
      Assoc.get? uri opened.debouncer.slots = some (.waiting 100 ⟨uri.text, 0⟩) ∧
      opened.handle refused = (opened, .nothing) ∧
      ∃ back,
        Session.default.transcript (before ++ [.wait 60]) =
          Session.default.transcript before ++ back ∧
        Session.default.transcript (before ++ [refused, .wait 60]) =
          Session.default.transcript before ++ (refused, .nothing, []) :: back := by
  intro uri refused opened before
  have hrefused : Session.default.terms.Refuses refused := ⟨_, _, rfl, rfl⟩
  rcases refused_settings_change_nothing (.inl rfl) hrefused with ⟨hstate, -, htranscript⟩
  exact ⟨hrefused, rfl, hstate _ _ (Reaches.refl.step (.call trivial)),
    htranscript before [.wait 60]⟩

end Server
end EmbeddedSql

import EmbeddedSql.Proofs.Server.LastUpdate

/-!
# Terms — the configuration that is in force

A server paints with a style sheet and runs passes by its highlight settings.  Settings that an
editor sends are laid over the layers that the server was made from, never over settings that were
sent before, and settings that make no configuration change nothing.

* `Terms.after` — what a call makes of the terms of a session, by the settings it carries and by
  nothing else;
* `Session.handle_terms`, `Session.settle_terms` — calls do just that, and passes do nothing;
* `History.payload?` — the last settings that made a configuration, `History.build` — what they
  made, or what the layers alone make;
* `one_configuration_in_force` — the style sheet and the settings are those of `History.build`.
-/

namespace EmbeddedSql
namespace Server

/-- The settings that a call carries. -/
def Call.payload? : Call → Option Json
  | .start options => options
  | .configure settings => some settings
  | _ => none

namespace Terms

/-- The terms after a call: settings that make a configuration put it in force. -/
def after (t : Terms) (c : Call) : Terms :=
  match c.payload? with
  | none => t
  | some settings =>
    match t.configFor settings with
    | .ok config => t.adopt config
    | .error _ => t

theorem after_of_none {t : Terms} {c : Call} (h : c.payload? = none) : t.after c = t := by
  simp [after, h]

theorem after_of_ok {t : Terms} {c : Call} {settings : Json} {config : Config}
    (hc : c.payload? = some settings) (h : t.configFor settings = .ok config) :
    t.after c = t.adopt config := by
  simp [after, hc, h]

theorem after_of_error {t : Terms} {c : Call} {settings : Json} {e : Config.Error}
    (hc : c.payload? = some settings) (h : t.configFor settings = .error e) : t.after c = t := by
  simp [after, hc, h]

end Terms

/-! ## Calls and passes -/

theorem Session.handle_terms (s : Session) (c : Call) : (s.handle c).1.terms = s.terms.after c := by
  cases c with
  | start options =>
      cases options with
      | none => rfl
      | some settings =>
          cases hconfig : s.configFor settings with
          | ok config =>
              have hterms : s.terms.after (.start (some settings)) = s.terms.adopt config :=
                Terms.after_of_ok rfl hconfig
              simp only [handle, applySettings, hconfig, hterms]
              rfl
          | error e =>
              have hterms : s.terms.after (.start (some settings)) = s.terms :=
                Terms.after_of_error rfl hconfig
              simp [handle, applySettings, hconfig, hterms]
  | configure settings =>
      cases hconfig : s.configFor settings with
      | ok config =>
          have hterms : s.terms.after (.configure settings) = s.terms.adopt config :=
            Terms.after_of_ok rfl hconfig
          -- Scheduling the stored documents touches timers only.
          rcases (s.adopt config).scheduleAll_session (s.documents.map (·.1)) with ⟨slots, hs, -⟩
          simp only [handle, hconfig, hterms, hs]
          rfl
      | error e =>
          have hterms : s.terms.after (.configure settings) = s.terms :=
            Terms.after_of_error rfl hconfig
          simp [handle, hconfig, hterms]
  | didChange uri version texts =>
      simp only [handle]
      cases texts.getLast? with
      | none => rfl
      | some text => rfl
  | semanticTokens uri =>
      simp only [handle]
      cases Assoc.get? uri s.documents with
      | none => rfl
      | some entry =>
          rcases s.countPass_session entry with ⟨n, hn⟩
          simp only [hn]
          rfl
  | ready => rfl
  | shutdown => rfl
  | didOpen uri language version text => rfl
  | didClose uri => rfl
  | wait ms => rfl

theorem Session.publish_terms (s : Session) (time : Nat) (uri : Uri) :
    (s.publish time uri).1.terms = s.terms := by
  rcases s.publish_session time uri with ⟨n, hn⟩
  rw [hn]
  rfl

theorem Session.settle_terms (s : Session) : s.settle.1.terms = s.terms := by
  rcases s.settle_session with ⟨n, hn⟩
  rw [hn]
  rfl

/-! ## What the records say -/

/-- The settings of a call, if they make a configuration over the given layers. -/
def Record.payload? (files : Directory) (loader : Config.Loader) : Record → Option Json
  | .call c => c.payload?.filter fun settings =>
      ((loader.withSettings (Config.settingsSection settings)).build files).isOk
  | .sent _ => none

namespace History

/-- The last settings that made a configuration. -/
def payload? (files : Directory) (loader : Config.Loader) (h : List Record) : Option Json :=
  h.findSome? (Record.payload? files loader)

/-- The configuration of the layers alone, or with the last settings that made one laid over
them. -/
def build (files : Directory) (loader : Config.Loader) (h : List Record) :
    Except Config.Error Config :=
  match payload? files loader h with
  | none => loader.build files
  | some settings => (loader.withSettings (Config.settingsSection settings)).build files

end History

/-! ## Whole runs -/

/-- Files and layers are those of the first session, and one configuration, the one that the records
tell of, is in force. -/
structure Terms.Follow (first : Terms) (h : List Record) (t : Terms) : Prop where
  files : t.files = first.files
  loader : t.loader = first.loader
  config : ∃ config, History.build first.files first.loader h = .ok config ∧
    t.styles = StyleSheet.ofConfig config ∧ t.settings = config.highlight

namespace Terms.Follow

variable {first t : Terms} {h : List Record}

theorem of_payload?_eq {h' : List Record} (hf : Follow first h t)
    (heq : History.payload? first.files first.loader h' =
      History.payload? first.files first.loader h) : Follow first h' t := by
  refine ⟨hf.files, hf.loader, ?_⟩
  simpa only [History.build, heq] using hf.config

theorem passes (hf : Follow first h t) (notices : List Notice) :
    Follow first (Record.ofNotices notices ++ h) t :=
  hf.of_payload?_eq (History.findSome?_ofNotices (fun _ => rfl) notices h)

theorem call (hf : Follow first h t) (c : Call) : Follow first (.call c :: h) (t.after c) := by
  have hbuild : ∀ settings,
      (first.loader.withSettings (Config.settingsSection settings)).build first.files =
        t.configFor settings := by
    intro settings
    simp only [configFor, hf.files, hf.loader]
  cases hc : c.payload? with
  | none =>
      rw [after_of_none hc]
      exact hf.of_payload?_eq (by simp [History.payload?, Record.payload?, hc])
  | some settings =>
      cases hconfig : t.configFor settings with
      | error e =>
          rw [after_of_error hc hconfig]
          refine hf.of_payload?_eq ?_
          simp [History.payload?, Record.payload?, hc, hbuild, hconfig, Except.isOk, Except.toBool]
      | ok config =>
          -- Whatever was sent before, the records now name these settings.
          rw [after_of_ok hc hconfig]
          refine ⟨hf.files, hf.loader, config, ?_, rfl, rfl⟩
          have hlast : History.payload? first.files first.loader (.call c :: h) =
              some settings := by
            simp [History.payload?, Record.payload?, hc, hbuild, hconfig, Except.isOk,
              Except.toBool]
          simp only [History.build, hlast, hbuild, hconfig]

end Terms.Follow

theorem Step.follow {permits : Session → Call → Prop} {first : Terms} {s t : Session}
    {h rs : List Record} (hstep : Step permits s rs t) (hf : first.Follow h s.terms) :
    first.Follow (rs ++ h) t.terms := by
  cases hstep with
  | @call c _ =>
      rw [s.handle_terms c]
      exact hf.call c
  | @expire uri due job time _ _ =>
      rw [Session.publish_terms]
      exact hf.passes _
  | late time uri =>
      rw [Session.publish_terms]
      exact hf.passes _
  | settle =>
      rw [Session.settle_terms]
      exact hf.passes _

/-- A server as it is made has the configuration of its layers in force. -/
theorem Session.IsInitial.follow {s : Session} (h : s.IsInitial) : s.terms.Follow [] s.terms := by
  refine ⟨rfl, rfl, ?_⟩
  rcases h with rfl | ⟨files, loader, h⟩
  · exact ⟨Config.default, rfl, rfl, rfl⟩
  · simp only [Session.ofLoader] at h
    cases hbuild : loader.build files with
    | ok config =>
        rw [hbuild] at h
        cases h
        exact ⟨config, hbuild, rfl, rfl⟩
    | error e =>
        rw [hbuild] at h
        cases h

theorem Reaches.follow {permits : Session → Call → Prop} {s₀ s : Session} {h : List Record}
    (hfirst : s₀.IsInitial) (hrun : Reaches permits s₀ h s) : s₀.terms.Follow h s.terms := by
  induction hrun with
  | refl => exact hfirst.follow
  | step hrun hstep ih => exact hstep.follow ih

end Server
end EmbeddedSql

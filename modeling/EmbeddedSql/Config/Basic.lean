import EmbeddedSql.Category

/-!
# Config — what can be configured

* `Config` — the color of each class, whether keywords are bold, and when and where passes run;
* `Config.default` — the built-in configuration;
* `Style`, `StyleSheet` — the resolved look of each class;
* `HighlightSettings.appliesTo` — whether documents of a language get highlighted.
-/

namespace EmbeddedSql

/-- The color of each class, as text that is handed on as it is. -/
structure Colors where
  keywords : String
  parameters : String
  strings : String
  numbers : String
  functions : String
  booleans : String
  identifiers : String
deriving DecidableEq, Repr, Inhabited

namespace Colors

def of (colors : Colors) : Category → String
  | .identifier => colors.identifiers
  | .keyword => colors.keywords
  | .function => colors.functions
  | .boolean => colors.booleans
  | .parameter => colors.parameters
  | .string => colors.strings
  | .number => colors.numbers

end Colors

structure HighlightSettings where
  /-- Milliseconds between the last change of a document and its pass. -/
  delay : Nat
  languages : List String
deriving DecidableEq, Repr, Inhabited

namespace HighlightSettings

/-- A language id without the case of its ASCII letters. -/
def foldLanguage (id : String) : List Char :=
  id.toList.map Char.toLower

def appliesTo (settings : HighlightSettings) (language : String) : Bool :=
  settings.languages.any fun l => foldLanguage l == foldLanguage language

end HighlightSettings

structure Config where
  colors : Colors
  boldKeywords : Bool
  highlight : HighlightSettings
deriving DecidableEq, Repr, Inhabited

namespace Config

def default : Config where
  colors :=
    { keywords := "#ef836eff"
      parameters := "#9CDCFE"
      strings := "#CE9178"
      numbers := "#B5CEA8"
      functions := "#DCDCAA"
      booleans := "#569CD6"
      identifiers := "#FFFFFF" }
  boldKeywords := true
  highlight := { delay := 100, languages := ["csharp"] }

end Config

structure Style where
  color : String
  bold : Bool
deriving DecidableEq, Repr, Inhabited

structure StyleSheet where
  style : Category → Style

namespace StyleSheet

/-- The styles that a configuration asks for; only keywords can be bold. -/
def ofConfig (config : Config) : StyleSheet :=
  ⟨fun c => ⟨config.colors.of c, c == .keyword && config.boldKeywords⟩⟩

def entries (sheet : StyleSheet) : List (Category × Style) :=
  Category.emitOrder.map fun c => (c, sheet.style c)

end StyleSheet
end EmbeddedSql

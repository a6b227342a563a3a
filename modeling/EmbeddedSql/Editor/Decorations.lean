import EmbeddedSql.Config.Basic
import EmbeddedSql.Editor.Position
import EmbeddedSql.Highlights
import EmbeddedSql.Uri.Basic

/-!
# Editor.Decorations — all ranges of a document, by class

After each pass an editor gets the complete set of ranges of every class, with the style to paint
them in, so that it can replace what it painted before.

* `Editor.CategoryDecorations` — the ranges of one class;
* `Editor.Decorations` — those of all classes, for one version of a document;
* `Editor.Decorations.build` — the decorations that a pass leads to.
-/

namespace EmbeddedSql
namespace Editor

structure CategoryDecorations where
  category : Category
  style : Style
  ranges : List Range
deriving DecidableEq, Repr

/-- The ranges of every class in a version of a document. -/
structure Decorations where
  uri : Uri
  version : Option Int
  sets : List CategoryDecorations
deriving DecidableEq, Repr

namespace Decorations

def method : String := "sqlmark/decorations"

/-- The decorations that the highlights of a document lead to, in emit order; classes without ranges
are included. -/
def build (uri : Uri) (version : Option Int) (d : Document) (h : Highlights)
    (styles : StyleSheet) : Decorations where
  uri := uri
  version := version
  sets := h.byCategory.map fun (c, ranges) => ⟨c, styles.style c, ranges.map d.editorRange⟩

def find? (decorations : Decorations) (name : String) : Option CategoryDecorations :=
  decorations.sets.find? (·.category.name == name)

end Decorations
end Editor
end EmbeddedSql

import EmbeddedSql.Config.Basic
import EmbeddedSql.Config.Error
import EmbeddedSql.Directory
import EmbeddedSql.Json.Printer
import EmbeddedSql.Json.Reader
import EmbeddedSql.Toml.Reader

/-!
# Config.Source — tables that configuration comes from

* `Config.Value.ofJson` — settings of an editor;
* `Config.Value.ofToml` — a file;
* `Config.Source` — where a layer comes from;
* `Config.Source.read` — the members of a layer, or why there are none;
* `Config.defaultText`, `Config.defaults` — the built-in configuration, as text and as a table, and
  `Config.readDefaults?_eq` — the text reads as the table.
-/

namespace EmbeddedSql
namespace Config

/-! ## Settings -/

/-- A JSON number.  Settings travel as text, so a double is what reading its text gives; an integer
beyond 63 bits becomes a double. -/
def Scalar.ofJsonNumber : Json.Number → Scalar
  | .int i =>
    if -(Nat.pow 2 63 : Int) ≤ i ∧ i < Nat.pow 2 63 then .int i else .float (Binary64.ofInt i)
  | .float f =>
    match Json.parse? (Json.Number.text (.float f)) with
    | some (.num (.float g)) => .float g
    | _ => .float f

mutual

def Value.ofJson : Json → Value
  | .null => .scalar none .null
  | .bool b => .scalar none (.bool b)
  | .num n => .scalar none (Scalar.ofJsonNumber n)
  | .str s => .scalar none (.str s)
  | .arr items => .array none (Value.ofJsonItems items)
  | .obj members => .table none (Value.ofJsonMembers members)

def Value.ofJsonItems : List Json → List Value
  | [] => []
  | v :: vs => Value.ofJson v :: Value.ofJsonItems vs

def Value.ofJsonMembers : List (String × Json) → List (String × Value)
  | [] => []
  | (name, v) :: rest => (name, Value.ofJson v) :: Value.ofJsonMembers rest

end

/-! ## Files -/

mutual

def Value.ofToml (file : Option String) : Toml.Node → Value
  | .str s => .scalar file (.str s)
  | .int i => .scalar file (.int i)
  | .float f => .scalar file (.float f)
  | .bool b => .scalar file (.bool b)
  | .moment s => .scalar file (.str s)
  | .list items => .array file (Value.ofTomlItems file items)
  | .closed members => .table file (Value.ofTomlMembers file members)
  | .table _ members => .table file (Value.ofTomlMembers file members)
  | .tables entries => .array file (Value.ofTomlTables file entries)

def Value.ofTomlItems (file : Option String) : List Toml.Node → List Value
  | [] => []
  | v :: vs => Value.ofToml file v :: Value.ofTomlItems file vs

def Value.ofTomlMembers (file : Option String) : List (String × Toml.Node) → List (String × Value)
  | [] => []
  | (name, v) :: rest => (name, Value.ofToml file v) :: Value.ofTomlMembers file rest

def Value.ofTomlTables (file : Option String) : List (List (String × Toml.Node)) → List Value
  | [] => []
  | ms :: rest => .table file (Value.ofTomlMembers file ms) :: Value.ofTomlTables file rest

end

/-- The path with the ending of the format; only a path that ends in a name can take it. -/
def longerPath? (path : String) : Option String :=
  match (Directory.components path).getLast? with
  | none => none
  | some last => if last = ".." then none else some (Directory.normalize path ++ ".toml")

/-- A configuration file, and the path under which messages show it: the path itself, or else the
one with the ending of the format. -/
def findFile? (files : Directory) (path : String) : Option (String × FileState) :=
  let state := files.read path
  if state.isFile then some (Directory.normalize path, state)
  else
    match longerPath? path with
    | none => none
    | some longer =>
      let state := files.read longer
      if state.isFile then some (longer, state) else none

/-- The members of the table that a file describes. -/
def readText (shown content : String) : Except Error (List (String × Value)) :=
  match Toml.parse? content with
  | none => .error .badFile
  | some node =>
    match Value.ofToml (some shown) node with
    | .table _ members => .ok members
    | value => .error (.notTable (.ofValue value) shown)

def readFile (files : Directory) (path : String) : Except Error (List (String × Value)) :=
  match findFile? files path with
  | none => .error (.fileNotFound path)
  | some (shown, .text content) => readText shown content
  | some _ => .error .fileNotText

/-! ## Layers -/

inductive Source where
  /-- A file that has to be there. -/
  | file (path : String)
  /-- A file that is used if it can be read. -/
  | optionalFile (path : String)
  | settings (members : List (String × Json))

namespace Source

/-- The members of a layer. -/
def read (files : Directory) : Source → Except Error (List (String × Value))
  | file path => readFile files path
  | optionalFile path =>
    match readFile files path with
    -- A file that can be read is a layer like any other, and refused if it is no table.
    | .error (.fileNotFound _) => .ok []
    | .error .fileNotText => .ok []
    | result => result
  | settings members => .ok (Value.ofJsonMembers members)

end Source

/-! ## The built-in configuration -/

def defaultText : String :=
  String.join
    ["# Built-in defaults for sqlmark. User files and editor settings are layered on top.\n",
      "\n",
      "# Display color per category. Values are passed to the editor as-is.\n",
      "[colors]\n",
      "keywords = \"#ef836eff\"\n",
      "parameters = \"#9CDCFE\"\n",
      "strings = \"#CE9178\"\n",
      "numbers = \"#B5CEA8\"\n",
      "functions = \"#DCDCAA\"\n",
      "booleans = \"#569CD6\"\n",
      "identifiers = \"#FFFFFF\"\n",
      "\n",
      "[keywords]\n",
      "bold = true\n",
      "\n",
      "[highlight]\n",
      "# Delay between the last change and the highlighting pass.\n",
      "debounce_ms = 100\n",
      "# Editor language ids that get highlighted.\n",
      "languages = [\"csharp\"]\n"]

/-- The table that the built-in text describes. -/
def readDefaults? : Option Value :=
  (Toml.parse? defaultText).map (Value.ofToml none)

/-- The built-in configuration as a table, which is what its text reads as. -/
def defaults : Value :=
  let text (s : String) : Value := .scalar none (.str s)
  let c := Config.default
  .table none
    [("colors", .table none
        [("keywords", text c.colors.keywords), ("parameters", text c.colors.parameters),
          ("strings", text c.colors.strings), ("numbers", text c.colors.numbers),
          ("functions", text c.colors.functions), ("booleans", text c.colors.booleans),
          ("identifiers", text c.colors.identifiers)]),
      ("keywords", .table none [("bold", .scalar none (.bool c.boldKeywords))]),
      ("highlight", .table none
        [("debounce_ms", .scalar none (.int c.highlight.delay)),
          ("languages", .array none (c.highlight.languages.map text))])]

theorem readDefaults?_eq : readDefaults? = some defaults := by
  -- The characters are taken from the literals: reading them off their bytes takes the kernel long.
  simp only [readDefaults?, Toml.parse?, defaultText, String.toList_join, List.flatMap_cons,
    List.flatMap_nil, String.reduceToList]
  decide +kernel

end Config
end EmbeddedSql

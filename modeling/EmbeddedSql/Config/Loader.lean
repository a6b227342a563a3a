import EmbeddedSql.Config.Decode
import EmbeddedSql.Config.Source

/-!
# Config.Loader — layers of configuration

A loader holds layers, which are laid over the built-in configuration in order, and overrides, which
are set after all layers.

* `Config.Loader` — layers and overrides;
* `Config.Loader.withFile`, `Config.Loader.withOptionalFile`, `Config.Loader.withSettings`,
  `Config.Loader.override` — add to it;
* `Config.Loader.build` — the configuration that results;
* `Config.settingsSection` — the part of an editor's settings that is meant for this program.
-/

namespace EmbeddedSql
namespace Config

/-- Layers, and values that are set after all of them. -/
structure Loader where
  sources : List Source
  overrides : List (Path × Value)

namespace Loader

def empty : Loader :=
  ⟨[], []⟩

def withSource (l : Loader) (s : Source) : Loader :=
  { l with sources := l.sources ++ [s] }

def withFile (l : Loader) (path : String) : Loader :=
  l.withSource (.file path)

def withOptionalFile (l : Loader) (path : String) : Loader :=
  l.withSource (.optionalFile path)

/-- Add settings; anything but an object is ignored. -/
def withSettings (l : Loader) : Json → Loader
  | .obj members => l.withSource (.settings members)
  | _ => l

/-- Set a value after all layers.  The last value for a key counts. -/
def override (l : Loader) (key : String) (value : Value) : Except Error Loader :=
  match Path.parse key with
  | .ok path => .ok { l with overrides := Assoc.set path value l.overrides }
  | .error e => .error (.badPath e)

/-- Set a member of the top level.  Its name is taken as a path if it spells one. -/
def setTop (target : Value) (name : String) (value : Value) : Value :=
  match Path.parse name with
  | .ok path => path.set value target
  -- A name that spells no path is an unknown setting, and is kept as it stands.
  | .error _ => target.assign name value

/-- Lay the members of one layer over a table. -/
def layMembers (target : Value) (members : List (String × Value)) : Value :=
  members.foldl (fun t (name, value) => setTop t name value) target

/-- Lay sources over a table, in order. -/
def laySources (files : Directory) : Value → List Source → Except Error Value
  | target, [] => .ok target
  | target, s :: rest =>
    match s.read files with
    | .ok members => laySources files (layMembers target members) rest
    -- The first layer that cannot be read decides.
    | .error e => .error e

/-- The table of all layers and overrides. -/
def merge (l : Loader) (files : Directory) : Except Error Value :=
  (laySources files defaults l.sources).map fun target =>
    l.overrides.foldl (fun t (path, value) => path.set value t) target

def build (l : Loader) (files : Directory) : Except Error Config :=
  (l.merge files).bind ofValue

end Loader

def sectionName : String := "sqlmark"

/-- The part of an editor's settings that is meant for this program: the member with its name, or
all of them. -/
def settingsSection (settings : Json) : Json :=
  (settings.get? sectionName).getD settings

end Config
end EmbeddedSql

import EmbeddedSql.Assoc

/-!
# Directory — the files a command can see

Commands read files by path.  What they see is a value, so that a run is a function of its arguments
and of the files.

* `Place` — where a path leads: from the root, or from the present directory or one above it;
* `Directory` — paths and contents;
* `Directory.read` — what is found at a path;
* `Directory.normalize` — a path without empty and `.` components.
-/

namespace EmbeddedSql

inductive FileState where
  | missing
  | directory
  /-- A file stands where the path needs a directory. -/
  | blocked
  /-- The path, or a component of it, is longer than any name can be. -/
  | tooLong
  /-- A file that is not UTF-8. -/
  | binary
  | text (content : String)
deriving DecidableEq, Repr, Inhabited

namespace FileState

def isFile : FileState → Bool
  | binary => true
  | text _ => true
  | _ => false

/-- A file with the given bytes. -/
def ofBytes (bytes : ByteArray) : FileState :=
  match String.fromUTF8? bytes with
  | some s => text s
  | none => binary

end FileState

/-! ## Places -/

inductive Anchor where
  | root
  /-- So many directories above the present one. -/
  | above (levels : Nat)
deriving DecidableEq, Repr, Inhabited

structure Place where
  anchor : Anchor
  components : List String
deriving DecidableEq, Repr, Inhabited

namespace Place

/-- The directory above; that of the root is the root itself. -/
def parent : Place → Place
  | ⟨.root, []⟩ => ⟨.root, []⟩
  | ⟨.above n, []⟩ => ⟨.above (n + 1), []⟩
  | ⟨anchor, components⟩ => ⟨anchor, components.dropLast⟩

/-- One component further: `..` leads back, `.` nowhere. -/
def follow (p : Place) (component : String) : Place :=
  if component = ".." then p.parent
  else if component = "." then p
  else { p with components := p.components ++ [component] }

def start (path : String) : Place :=
  if path.startsWith "/" then ⟨.root, []⟩ else ⟨.above 0, []⟩

/-- The steps of a path; a slash at its end asks for a directory. -/
def steps (path : String) : List String :=
  let names := (path.splitOn "/").filter (· != "")
  -- The step that leads nowhere can be taken from a directory only.
  if path.endsWith "/" then names ++ ["."] else names

def ofPath (path : String) : Place :=
  (steps path).foldl follow (start path)

/-- Whether a place is a directory that another place lies in. -/
def contains (p q : Place) : Bool :=
  p.anchor == q.anchor && p.components.isPrefixOf q.components

end Place

/-! ## Directories -/

structure Directory where
  entries : List (String × FileState)
deriving DecidableEq, Repr, Inhabited

namespace Directory

def empty : Directory :=
  ⟨[]⟩

def longestName : Nat := 255

def longestPath : Nat := 4095

/-- The components of a path; empty and `.` components do not count. -/
def components (path : String) : List String :=
  (path.splitOn "/").filter fun c => c != "" && c != "."

def normalize (path : String) : String :=
  (if path.startsWith "/" then "/" else "") ++ "/".intercalate (components path)

/-- What is found at a place.  The directories that paths start from, and those that files lie in,
are directories. -/
def stateAt (d : Directory) (place : Place) : FileState :=
  match d.entries.find? fun (name, _) => Place.ofPath name == place with
  | some (_, state) => state
  | none =>
    if place.components.isEmpty || d.entries.any fun (name, _) => place.contains (Place.ofPath name)
    then .directory
    else .missing

/-- What is found behind the given components.  Each but the last has to lead to a directory. -/
def walk (d : Directory) (place : Place) : List String → FileState
  | [] => d.stateAt place
  | c :: rest =>
    match d.stateAt place with
    | .directory =>
      if longestName < c.utf8ByteSize then .tooLong else d.walk (place.follow c) rest
    | .missing => .missing
    | _ => .blocked

/-- What is found at a path: what is entered under it, or else what its components lead to. -/
def read (d : Directory) (path : String) : FileState :=
  match Assoc.get? path d.entries with
  | some state => state
  | none =>
    if path.isEmpty then .missing
    else if longestPath < path.utf8ByteSize then .tooLong
    else d.walk (Place.start path) (Place.steps path)

end Directory
end EmbeddedSql

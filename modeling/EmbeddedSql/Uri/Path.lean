import EmbeddedSql.Text.Split
import EmbeddedSql.Uri.Percent

/-!
# Uri.Path — segments between slashes

A segment of one dot means nothing, one of two dots takes back the segment in front of it.  In
addresses of files a segment can be the letter of a drive, which is never taken back.

* `Uri.isDriveLetter` — whether a segment names a drive;
* `Uri.Segments.add` — one segment more;
* `Uri.Segments.ofText` — the segments of a text without dot segments.
-/

namespace EmbeddedSql
namespace Uri

/-- A letter and a colon, or a bar in its place. -/
def isDriveLetter : List Char → Bool
  | [a, b] => a.isAlpha && (b == ':' || b == '|')
  | _ => false

/-- A dot, possibly written as a byte; what follows it. -/
def dropDot? : List Char → Option (List Char)
  | '.' :: cs => some cs
  | '%' :: '2' :: 'e' :: cs => some cs
  | '%' :: '2' :: 'E' :: cs => some cs
  | _ => none

def isDot (segment : List Char) : Bool :=
  dropDot? segment == some []

def isDoubleDot (segment : List Char) : Bool :=
  (dropDot? segment).bind dropDot? == some []

namespace Segments

/-- Take back the last segment, unless it names a drive.  The last one comes first. -/
def back : List (List Char) → List (List Char)
  | [] => []
  | s :: rest => if isDriveLetter s then s :: rest else rest

/-- A segment in normal form.  The first segment of a file's path may name a drive, which is written
with a colon. -/
def normal (file first : Bool) (segment : List Char) : List Char :=
  if file && first && isDriveLetter segment then segment.take 1 ++ [':']
  else encode Escaped.path segment

/-- Add segments to those read so far, of which the last one comes first.  A path that ends in a dot
segment ends in a slash. -/
def add (file : Bool) : (done : List (List Char)) → List (List Char) → List (List Char)
  | done, [] => done
  | done, s :: rest =>
    let isLast := rest.isEmpty
    -- The empty segment at the end stands for the slash.
    if isDoubleDot s then add file (if isLast then [] :: back done else back done) rest
    else if isDot s then add file (if isLast then [] :: done else done) rest
    else add file (normal file done.isEmpty s :: done) rest

/-- The segments of a text.  Where the scheme is a special one a backslash divides them as well. -/
def ofText (file special : Bool) (t : List Char) : List (List Char) :=
  (add file [] (Text.split (fun c => c == '/' || (special && c == '\\')) t)).reverse

end Segments

def pathText (segments : List (List Char)) : List Char :=
  '/' :: Text.join '/' segments

end Uri
end EmbeddedSql

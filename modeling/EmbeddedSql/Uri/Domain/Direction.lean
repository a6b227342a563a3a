import EmbeddedSql.Text.Marks
import EmbeddedSql.Text.Printable

/-!
# Uri.Domain.Direction — labels that are written from right to left

If any label of a domain name is written from right to left, all labels have to keep their
direction: each begins with a letter of its direction, has none of the other, and ends in a letter
or a digit.

* `Uri.Domain.Direction` — the directions of characters;
* `Uri.Domain.keepsDirection` — whether a label keeps its direction;
* `Uri.Domain.directionsFit` — whether the labels of a domain name keep their directions.
-/

namespace EmbeddedSql
namespace Uri
namespace Domain

inductive Direction where
  | left
  | right
  | digit
  /-- A digit among characters that are written from right to left. -/
  | rightDigit
  /-- A mark that takes the direction of its letter. -/
  | mark
  | neutral
deriving DecidableEq, Repr

/-- The first and the last code point of each range that is written from right to left.  These
ranges and the next ones may hold characters that no label can have. -/
def rightRanges : List (Nat × Nat) :=
  [(0x5BE, 0x5F4), (0x608, 0x608), (0x60B, 0x60B), (0x60D, 0x60D), (0x61B, 0x64A), (0x66D, 0x6D5),
    (0x6E5, 0x6E6), (0x6EE, 0x6EF), (0x6FA, 0x7F5), (0x7FA, 0x8C9), (0xFBB2, 0xFBD2),
    (0xFD90, 0xFDCE), (0xFE73, 0xFE73), (0x10800, 0x1091B), (0x10920, 0x10B35), (0x10B40, 0x10D23),
    (0x10D40, 0x10D8F), (0x10E80, 0x10FF6), (0x1E800, 0x1ED3D)]

/-- The first and the last code point of each range of neutral characters. -/
def neutralRanges : List (Nat × Nat) :=
  [(0x0, 0x2F), (0x3A, 0x60), (0x7B, 0xD7), (0xF7, 0xF7), (0x2B9, 0x2BA), (0x2C2, 0x2CF),
    (0x2D2, 0x2ED), (0x2EF, 0x2FF), (0x375, 0x375), (0x3F6, 0x3F6), (0x58A, 0x58F), (0x606, 0x607),
    (0x609, 0x60A), (0x60C, 0x60C), (0x60E, 0x60F), (0x66A, 0x66A), (0x6DE, 0x6DE), (0x6E9, 0x6E9),
    (0x7F6, 0x7F9), (0x9F2, 0x9F3), (0x9FB, 0x9FB), (0xAF1, 0xAF1), (0xBF3, 0xBFA), (0xC78, 0xC7E),
    (0xE3F, 0xE3F), (0xF3A, 0xF3D), (0x1390, 0x1399), (0x1400, 0x1400), (0x169B, 0x169C),
    (0x17DB, 0x17DB), (0x17F0, 0x180A), (0x1940, 0x1945), (0x19DE, 0x19FF), (0x200C, 0x214D),
    (0x218A, 0x2335), (0x237B, 0x2394), (0x2396, 0x26AB), (0x26AD, 0x27FF), (0x2900, 0x2BFF),
    (0x2CE5, 0x2CEA), (0x2CF9, 0x2CFF), (0x2E00, 0x3004), (0x3008, 0x3020), (0x3030, 0x3030),
    (0x3037, 0x3037), (0x303D, 0x303F), (0x30A0, 0x30A0), (0x30FB, 0x30FB), (0x31C0, 0x31E3),
    (0x4DC0, 0x4DFF), (0xA490, 0xA4C6), (0xA60D, 0xA60F), (0xA673, 0xA67F), (0xA700, 0xA721),
    (0xA788, 0xA788), (0xA828, 0xA82B), (0xA838, 0xA839), (0xA874, 0xA877), (0xAB6A, 0xAB6B),
    (0xFD3E, 0xFD4F), (0xFDCF, 0xFE46), (0x10101, 0x10101), (0x10140, 0x1018C), (0x10190, 0x101A0),
    (0x1091F, 0x1091F), (0x10B39, 0x10B3F), (0x11052, 0x11065), (0x11660, 0x1166C),
    (0x11FD5, 0x11FF1), (0x16FE2, 0x16FE2), (0x1CC00, 0x1CEF0), (0x1D1E9, 0x1D245),
    (0x1D300, 0x1D356), (0x1E2FF, 0x1E2FF), (0x1EEF0, 0x1F12F), (0x1F16D, 0x1F16F),
    (0x1F1AD, 0x1F1AD), (0x1F260, 0x1FBFA)]

/-- The first and the last code point of each range of digits. -/
def digitRanges : List (Nat × Nat) :=
  [(0x30, 0x39), (0x6F0, 0x6F9), (0x102E1, 0x102FB)]

/-- The first and the last code point of each range of digits among characters that are written from
right to left. -/
def rightDigitRanges : List (Nat × Nat) :=
  [(0x660, 0x669), (0x66B, 0x66C), (0x10D30, 0x10D39), (0x10E60, 0x10E7E)]

def Direction.of (c : Char) : Direction :=
  if Text.isMark c && !Text.isPrintable c then mark
  else if Text.inRanges digitRanges c then digit
  else if Text.inRanges rightDigitRanges c then rightDigit
  else if Text.inRanges rightRanges c then right
  else if Text.inRanges neutralRanges c then neutral
  else left

/-- The last direction that is not that of a mark. -/
def lastDirection? (ds : List Direction) : Option Direction :=
  (ds.reverse.dropWhile (· == .mark)).head?

/-- Whether a label, given by the directions of its characters, keeps its direction. -/
def keepsDirection (ds : List Direction) : Bool :=
  match ds.head? with
  | none => true
  | some .left =>
    !ds.contains .right && !ds.contains .rightDigit &&
      (lastDirection? ds == some .left || lastDirection? ds == some .digit)
  | some .right =>
    !ds.contains .left && !(ds.contains .digit && ds.contains .rightDigit) &&
      lastDirection? ds != some .neutral
  -- Nothing else begins a label once directions matter.
  | some _ => false

/-- Whether all labels keep their directions; this is asked only if one of them is written from
right to left. -/
def directionsFit (labels : List (List Char)) : Bool :=
  let directions := labels.map (·.map Direction.of)
  let mixed := directions.any fun ds => ds.contains .right || ds.contains .rightDigit
  !mixed || directions.all keepsDirection

end Domain
end Uri
end EmbeddedSql

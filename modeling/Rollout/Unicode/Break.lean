import Rollout.Unicode.Property
import Rollout.Unicode.Script

namespace Rollout.Unicode

def carriageReturn : CharSet := .ofChars ['\r']

def lineFeed : CharSet := .ofChars ['\n']

def nonJoiner : CharSet := ofCodePoints [(0x200C, 0x200C)]

def joiner : CharSet := ofCodePoints [(0x200D, 0x200D)]

def spacingMarks : CharSet := ofCategories [.spacingMark]

def formats : CharSet := ofCategories [.format]

namespace GraphemeBreak

def extend : CharSet := (graphemeExtend.union emojiModifiers).diff joiner

def prepend : CharSet :=
  prependedMarks.union (ofCodePoints [(0xD4E, 0xD4E), (0x111C2, 0x111C3), (0x113D1, 0x113D1),
    (0x1193F, 0x1193F), (0x11941, 0x11941), (0x11A3A, 0x11A3A), (0x11A84, 0x11A89),
    (0x11D46, 0x11D46), (0x11F02, 0x11F02)])

def control : CharSet :=
  let ignored := (ofCategories [.unassigned]).inter BinaryProperty.ignorable
  let controls := ofCategories [.lineSeparator, .paragraphSeparator, .control, .format]
  (controls.union ignored).diff
    (.unions [carriageReturn, lineFeed, nonJoiner, joiner, prepend, extend])

def spacing : CharSet :=
  let apart := ofCodePoints [(0x102B, 0x102C), (0x1038, 0x1038), (0x1062, 0x1064),
    (0x1067, 0x106D), (0x1083, 0x1083), (0x1087, 0x108C), (0x108F, 0x108F), (0x109A, 0x109C),
    (0x1A61, 0x1A61), (0x1A63, 0x1A64), (0xAA7B, 0xAA7B), (0xAA7D, 0xAA7D), (0x11720, 0x11721)]
  let vowels := ofCodePoints [(0xE33, 0xE33), (0xEB3, 0xEB3)]
  ((spacingMarks.union vowels).diff extend).diff apart

def openSyllables : CharSet :=
  .ofChars ((List.range 399).map fun i => Char.ofNat (0xAC00 + 28 * i))

def named? : String → Option CharSet
  | "cr" => some carriageReturn
  | "lf" => some lineFeed
  | "control" | "cn" => some control
  | "extend" | "ex" => some extend
  | "zwj" => some joiner
  | "regionalindicator" | "ri" => some regionalIndicators
  | "prepend" | "pp" => some prepend
  | "spacingmark" | "sm" => some spacing
  | "l" => some (ofCodePoints [(0x1100, 0x115F), (0xA960, 0xA97C)])
  | "v" =>
    some (ofCodePoints [(0x1160, 0x11A7), (0xD7B0, 0xD7C6), (0x16D63, 0x16D63), (0x16D67, 0x16D6A)])
  | "t" => some (ofCodePoints [(0x11A8, 0x11FF), (0xD7CB, 0xD7FB)])
  | "lv" => some openSyllables
  | "lvt" => some ((ofCodePoints [(0xAC00, 0xD7A3)]).diff openSyllables)
  | _ => none

end GraphemeBreak

def numeric : CharSet :=
  decimalDigits.union (ofCodePoints [(0x600, 0x605), (0x66B, 0x66B), (0x6DD, 0x6DD),
    (0x890, 0x891), (0x8E2, 0x8E2), (0x19DA, 0x19DA), (0x110BD, 0x110BD), (0x110CD, 0x110CD)])

namespace WordBreak

def extend : CharSet := (CharSet.unions [graphemeExtend, spacingMarks, emojiModifiers]).diff joiner

def katakana : CharSet :=
  (ofScript "Kana").union (ofCodePoints [(0x3031, 0x3035), (0x309B, 0x309C), (0x30A0, 0x30A0),
    (0x30FC, 0x30FC), (0xFF70, 0xFF70)])

def hebrew : CharSet := (ofScript "Hebr").inter (ofCategories [.otherLetter])

def letterMarks : CharSet :=
  ofCodePoints [(0xB8, 0xB8), (0x2C2, 0x2C5), (0x2D2, 0x2D7), (0x2DE, 0x2DF), (0x2E5, 0x2EB),
    (0x2ED, 0x2ED), (0x2EF, 0x2FF), (0x55A, 0x55C), (0x55E, 0x55E), (0x58A, 0x58A),
    (0x5F3, 0x5F3), (0x70F, 0x70F), (0xA708, 0xA716), (0xA720, 0xA721), (0xA789, 0xA78A),
    (0xAB5B, 0xAB5B)]

def unspaced : CharSet :=
  .unions (["Thai", "Laoo", "Mymr", "Khmr", "Tale", "Talu", "Lana", "Tavt", "Ahom"].map ofScript)

def letters : CharSet :=
  (alphabetic.union letterMarks).diff
    (.unions [ideographic, katakana, unspaced, ofScript "Hira", extend, hebrew])

def named? : String → Option CharSet
  | "cr" => some carriageReturn
  | "lf" => some lineFeed
  | "newline" | "nl" => some (ofCodePoints [(0xB, 0xC), (0x85, 0x85), (0x2028, 0x2029)])
  | "extend" => some extend
  | "zwj" => some joiner
  | "regionalindicator" | "ri" => some regionalIndicators
  | "format" | "fo" =>
    some (formats.diff (.unions [ofCodePoints [(0x200B, 0x200D)], extend, numeric, letterMarks]))
  | "katakana" | "ka" => some katakana
  | "hebrewletter" | "hl" => some hebrew
  | "aletter" | "le" => some letters
  | "singlequote" | "sq" => some (.ofChars ['\''])
  | "doublequote" | "dq" => some (.ofChars ['"'])
  | "midnumlet" | "mb" =>
    some (ofCodePoints [(0x2E, 0x2E), (0x2018, 0x2019), (0x2024, 0x2024), (0xFE52, 0xFE52),
      (0xFF07, 0xFF07), (0xFF0E, 0xFF0E)])
  | "midletter" | "ml" =>
    some (ofCodePoints [(0x3A, 0x3A), (0xB7, 0xB7), (0x387, 0x387), (0x55F, 0x55F), (0x5F4, 0x5F4),
      (0x2027, 0x2027), (0xFE13, 0xFE13), (0xFE55, 0xFE55), (0xFF1A, 0xFF1A)])
  | "midnum" | "mn" =>
    some (ofCodePoints [(0x2C, 0x2C), (0x3B, 0x3B), (0x37E, 0x37E), (0x589, 0x589), (0x60C, 0x60D),
      (0x66C, 0x66C), (0x7F8, 0x7F8), (0x2044, 0x2044), (0xFE10, 0xFE10), (0xFE14, 0xFE14),
      (0xFE50, 0xFE50), (0xFE54, 0xFE54), (0xFF0C, 0xFF0C), (0xFF1B, 0xFF1B)])
  | "numeric" | "nu" => some numeric
  | "extendnumlet" | "ex" =>
    some ((ofCategories [.connectorPunctuation]).union (ofCodePoints [(0x202F, 0x202F)]))
  | "wsegspace" =>
    some ((ofCategories [.spaceSeparator]).diff
      (ofCodePoints [(0xA0, 0xA0), (0x2007, 0x2007), (0x202F, 0x202F)]))
  | _ => none

end WordBreak

namespace SentenceBreak

def extend : CharSet := .unions [graphemeExtend, spacingMarks, joiner]

def separators : CharSet := ofCodePoints [(0x85, 0x85), (0x2028, 0x2029)]

def stops : CharSet :=
  ofCodePoints [(0x2E, 0x2E), (0x2024, 0x2024), (0xFE52, 0xFE52), (0xFF0E, 0xFF0E)]

def lower : CharSet :=
  (lowercase.diff graphemeExtend).diff (ofCodePoints [(0x10D0, 0x10FA), (0x10FD, 0x10FF)])

def upper : CharSet :=
  ((ofCategories [.titlecaseLetter]).union uppercase).diff
    (ofCodePoints [(0x1C90, 0x1CBA), (0x1CBD, 0x1CBF)])

def quotes : CharSet :=
  ofCodePoints [(0x22, 0x22), (0x27, 0x27), (0xAB, 0xAB), (0xBB, 0xBB), (0x2018, 0x2019),
    (0x201B, 0x201D), (0x201F, 0x201F), (0x2039, 0x203A), (0x275B, 0x2760), (0x2E00, 0x2E0D),
    (0x2E1C, 0x2E1D), (0x2E20, 0x2E21), (0x1F676, 0x1F678)]

def letters : CharSet :=
  (alphabetic.union (ofCodePoints [(0x5F3, 0x5F3)])).diff (.unions [lower, upper, extend])

def numbers : CharSet := numeric.union (ofCodePoints [(0x66C, 0x66C)])

def named? : String → Option CharSet
  | "cr" => some carriageReturn
  | "lf" => some lineFeed
  | "extend" | "ex" => some extend
  | "sep" | "se" => some separators
  | "format" | "fo" =>
    some (formats.diff (.unions [nonJoiner, joiner, extend, numbers]))
  | "sp" => some (whiteSpace.diff (.unions [separators, carriageReturn, lineFeed]))
  | "lower" | "lo" => some lower
  | "upper" | "up" => some upper
  | "oletter" | "le" => some letters
  | "numeric" | "nu" => some numbers
  | "aterm" | "at" => some stops
  | "scontinue" | "sc" =>
    some (ofCodePoints [(0x2C, 0x2D), (0x3A, 0x3B), (0x37E, 0x37E), (0x55D, 0x55D), (0x60C, 0x60D),
      (0x7F8, 0x7F8), (0x1802, 0x1802), (0x1808, 0x1808), (0x2013, 0x2014), (0x3001, 0x3001),
      (0xFE10, 0xFE11), (0xFE13, 0xFE14), (0xFE31, 0xFE32), (0xFE50, 0xFE51), (0xFE54, 0xFE55),
      (0xFE58, 0xFE58), (0xFE63, 0xFE63), (0xFF0C, 0xFF0D), (0xFF1A, 0xFF1B), (0xFF64, 0xFF64)])
  | "sterm" | "st" => some (sentenceTerminals.diff stops)
  | "close" | "cl" =>
    some (((ofCategories [.openPunctuation, .closePunctuation]).union quotes).diff
      (.unions [stops, sentenceTerminals]))
  | _ => none

end SentenceBreak

end Rollout.Unicode

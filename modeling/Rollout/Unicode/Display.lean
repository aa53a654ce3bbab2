import Rollout.Unicode.Property

/-! What is printed as it stands, as of version 17 of Unicode: what version 16 has, with the
characters that are new. -/

namespace Rollout.Unicode

def newCharacters : CharSet :=
  setOfLines
    ["1ov 1 r0 1 3j 1 2r6 f 2 c 15h 1 250 1 ojb 2 2 1 1 1 s 1 gk1 g cd 2 1i 7 29d q 12j 3 8 9 x 2",
     "2g4 8 g8 18 4 a fxy p 2 p 7y 5 4qp 8 zt m 2p 37 cg7 3 cd n f h 4pb v 1 m 8 2 34o 1 4e 4 9h 9",
     "aj 4 1e 1 3 1 1l 1 4 1 s 1 4 1 7e 1 10zj 6 4ma c gsi 3be"]

def newAlphabetic : CharSet :=
  setOfLines
    ["1ov 1 r0 1 3j 1 ult 2 2 1 1 1 s 1 j7y q 12j 3 1e 2 2g4 8 g8 18 fyc p 2 p 7y 5 4qp 8 zt m 2p 37",
     "hjh v 1 m 8 2 154q 6 4ma c gsi 3be"]

def newNumbers : CharSet :=
  ofCodePoints [(0x11DE0, 0x11DE9), (0x16FF4, 0x16FF6)]

def newGraphemeExtend : CharSet :=
  ofCodePoints [(0x1ACF, 0x1ADD), (0x1AE0, 0x1AEB), (0x10EFA, 0x10EFB), (0x11B60, 0x11B60),
    (0x11B62, 0x11B64), (0x11B66, 0x11B66), (0x1E6E3, 0x1E6E3), (0x1E6E6, 0x1E6E6),
    (0x1E6EE, 0x1E6EF), (0x1E6F5, 0x1E6F5)]

def shownAlphabetic : CharSet := alphabetic.union newAlphabetic

def shownNumbers : CharSet := (ofCategories Category.numbers).union newNumbers

def unprintable : CharSet :=
  ((ofCategories (Category.others ++ Category.separators)).diff (.ofChars [' '])).diff newCharacters

def combining : CharSet :=
  (graphemeExtend.union newGraphemeExtend).diff (ofCodePoints [(0xFF9E, 0xFF9F)])

def isAlphabetic (c : Char) : Bool := shownAlphabetic.contains c

def isNumeric (c : Char) : Bool := shownNumbers.contains c

def isVisible (c : Char) : Bool :=
  !(unprintable.contains c || combining.contains c || otherDefaultIgnorable.contains c)

end Rollout.Unicode

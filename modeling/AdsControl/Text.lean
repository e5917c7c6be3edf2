import Mathlib

/-!
# Text predicates

The identifier, white space and control character tests the validators share, over the characters
of a string; lengths are in UTF-8 bytes.
-/

namespace AdsControl

/-- Bounded identifiers of ASCII letters, digits and the listed punctuation. -/
def asciiWord (extra : List Char) (s : String) : Bool :=
  !s.isEmpty && decide (s.utf8ByteSize ≤ 128) &&
    s.toList.all fun c => c.isAlphanum || extra.contains c

/-- Account identifiers. -/
def isAccountId (s : String) : Bool := asciiWord ['_', '-'] s

/-- The Unicode `White_Space` property. -/
def isWhitespace (c : Char) : Bool :=
  let n := c.toNat
  (9 ≤ n && n ≤ 13) || n == 0x20 || n == 0x85 || n == 0xA0 || n == 0x1680 ||
    (0x2000 ≤ n && n ≤ 0x200A) || n == 0x2028 || n == 0x2029 || n == 0x202F || n == 0x205F ||
    n == 0x3000

/-- The Unicode control characters. -/
def isControl (c : Char) : Bool :=
  let n := c.toNat
  n ≤ 0x1F || (0x7F ≤ n && n ≤ 0x9F)

/-- The characters of `s` without surrounding white space. -/
def trim (s : String) : List Char :=
  ((s.toList.dropWhile isWhitespace).reverse.dropWhile isWhitespace).reverse

end AdsControl

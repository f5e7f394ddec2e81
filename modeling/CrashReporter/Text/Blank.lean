-- White space. `isBlank` is the Unicode property White_Space; text is trimmed
-- and split on it, so every character of core's narrower class is in it.

namespace CrashReporter.Text

/-- The characters with the Unicode property White_Space. -/
def isBlank (c : Char) : Bool :=
  let n := c.toNat
  (0x9 ≤ n && n ≤ 0xD) || n == 0x20 || n == 0x85 || n == 0xA0 || n == 0x1680 ||
    (0x2000 ≤ n && n ≤ 0x200A) || n == 0x2028 || n == 0x2029 || n == 0x202F ||
    n == 0x205F || n == 0x3000

/-- The text without the blanks it begins with. -/
def trimStart (s : List Char) : List Char := s.dropWhile isBlank

/-- The text without the blanks it ends with. -/
def trimEnd (s : List Char) : List Char := (s.reverse.dropWhile isBlank).reverse

/-- The text without the blanks around it. -/
def trim (s : List Char) : List Char := trimEnd (trimStart s)

end CrashReporter.Text

/-!
# Blank characters

The characters that Unicode counts as white space, and texts without them at either end.
-/

namespace CallTargets

/-- Whether a character is white space. -/
def isBlankChar (c : Char) : Bool :=
  let n := c.toNat
  (9 ≤ n && n ≤ 13) || n == 0x20 || n == 0x85 || n == 0xA0 || n == 0x1680 || (0x2000 ≤ n && n ≤ 0x200A) ||
    n == 0x2028 || n == 0x2029 || n == 0x202F || n == 0x205F || n == 0x3000

/-- The characters between the white space at the two ends. -/
def trimChars (cs : List Char) : List Char :=
  ((cs.dropWhile isBlankChar).reverse.dropWhile isBlankChar).reverse

/-- The text between the white space at the two ends. -/
def trimText (s : String) : String := String.ofList (trimChars s.toList)

end CallTargets

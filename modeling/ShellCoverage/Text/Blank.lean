-- SUMMARY: The Unicode property White_Space, and text without blanks at its end.

/-!
# Blanks

The characters with the Unicode property White_Space. `Char.isWhitespace` knows only some of the
ASCII ones.
-/

namespace ShellCoverage.Text

/-- Has the character the property White_Space? -/
def isBlank (c : Char) : Bool :=
  let n := c.toNat
  (0x09 ≤ n && n ≤ 0x0d) || n == 0x20 || n == 0x85 || n == 0xa0 || n == 0x1680 ||
    (0x2000 ≤ n && n ≤ 0x200a) || n == 0x2028 || n == 0x2029 || n == 0x202f || n == 0x205f ||
    n == 0x3000

def trimEnd (s : String) : String :=
  String.ofList (s.toList.reverse.dropWhile isBlank).reverse

end ShellCoverage.Text

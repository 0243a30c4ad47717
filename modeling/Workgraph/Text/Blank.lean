/-!
# Blank characters

Two classes of blanks are in use. White space is the Unicode property of that name; the gaps that
divide words also include the four information separators of ASCII.
-/

namespace Workgraph.Text

/-- The Unicode property `White_Space`. -/
def isWhite (c : Char) : Bool :=
  let n := c.toNat
  (9 ≤ n && n ≤ 13) || n == 32 || n == 133 || n == 160 || n == 5760 || (8192 ≤ n && n ≤ 8202) ||
    n == 8232 || n == 8233 || n == 8239 || n == 8287 || n == 12288

/-- White space, or one of the information separators U+001C to U+001F. -/
def isGap (c : Char) : Bool :=
  isWhite c || (28 ≤ c.toNat && c.toNat ≤ 31)

/-- The text without its leading and trailing blanks. -/
def trim (blank : Char → Bool) (s : List Char) : List Char :=
  ((s.dropWhile blank).reverse.dropWhile blank).reverse

end Workgraph.Text

/-!
Blanks: the characters that count as white space. `isBlank` is the property
used for text of any script; `isAsciiBlank` is its part that readers of
ASCII notation skip.
-/

namespace TreeSchema.Text

/-- The tab, line feed, vertical tab, form feed, carriage return and space. -/
def isAsciiBlank (c : Char) : Bool :=
  c == ' ' || (9 ≤ c.toNat && c.toNat ≤ 13)

/-- The information separators U+001C to U+001F, which are blanks but no ASCII white space. -/
def isSeparator (c : Char) : Bool :=
  28 ≤ c.toNat && c.toNat ≤ 31

/-- The blanks above ASCII. -/
def wideBlanks : List Nat :=
  [0x85, 0xa0, 0x1680, 0x2000, 0x2001, 0x2002, 0x2003, 0x2004, 0x2005, 0x2006, 0x2007, 0x2008,
    0x2009, 0x200a, 0x2028, 0x2029, 0x202f, 0x205f, 0x3000]

def isBlank (c : Char) : Bool :=
  isAsciiBlank c || isSeparator c || wideBlanks.contains c.toNat

/-- The text without the blanks at its two ends. -/
def trimBlanks (cs : List Char) : List Char :=
  ((cs.dropWhile isBlank).reverse.dropWhile isBlank).reverse

end TreeSchema.Text

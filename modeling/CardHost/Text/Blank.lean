/-!
# Blank Characters

The characters that count as white space in the Unicode standard, and the text
without the blanks around it. Some formats know only the blanks of ASCII, so
the two sets are kept apart.

## Main definitions

* `isBlank`: White space of any script.
* `isAsciiBlank`: White space of ASCII.
* `trim`: A text without the blanks around it.
-/

namespace CardHost

namespace Text

/-- White space of ASCII: space, tab, line feed, form feed and carriage
    return. -/
def isAsciiBlank (c : Char) : Bool :=
  c == ' ' || c == '\t' || c == '\n' || c == '\x0c' || c == '\r'

/-- White space of any script. -/
def isBlank (c : Char) : Bool :=
  isAsciiBlank c || c == '\x0b' ||
    [0x85, 0xA0, 0x1680, 0x2028, 0x2029, 0x202F, 0x205F, 0x3000].contains c.toNat ||
    (0x2000 ≤ c.toNat && c.toNat ≤ 0x200A)

/-- A text without the blanks around it. -/
def trim (text : List Char) : List Char :=
  ((text.dropWhile isBlank).reverse.dropWhile isBlank).reverse

theorem isBlank_of_isAsciiBlank (c : Char) (h : isAsciiBlank c = true) : isBlank c = true := by
  rw [isBlank, h, Bool.true_or, Bool.true_or, Bool.true_or]

end Text

end CardHost

/-!
# Blank characters

The characters with the Unicode `White_Space` property: the ASCII tab, line feed, vertical
tab, form feed, carriage return and space, next line (U+0085), no-break space (U+00A0), the
Ogham space mark, the typographic spaces U+2000 to U+200A, the line and paragraph separators,
the narrow and medium mathematical spaces and the ideographic space. Version texts are trimmed
of exactly these.

Main statement: `isBlank_of_isWhitespace`, every character core calls whitespace is blank.
-/

set_option autoImplicit false

namespace RubyLayout.Text

/-- A character is blank when it has the Unicode `White_Space` property. -/
def isBlank (c : Char) : Bool :=
  let n := c.toNat
  (0x09 ≤ n && n ≤ 0x0d) || n == 0x20 || n == 0x85 || n == 0xa0 || n == 0x1680 ||
    (0x2000 ≤ n && n ≤ 0x200a) || n == 0x2028 || n == 0x2029 || n == 0x202f ||
    n == 0x205f || n == 0x3000

/-- Drops blank characters from the front of a character list. -/
def dropBlank (cs : List Char) : List Char := cs.dropWhile isBlank

/-- Drops blank characters from both ends of a text. -/
def trimBlank (s : String) : String :=
  String.ofList (dropBlank (dropBlank s.toList).reverse).reverse

theorem isBlank_of_isWhitespace (c : Char) (h : c.isWhitespace = true) : isBlank c = true := by
  simp only [Char.isWhitespace, Bool.or_eq_true, decide_eq_true_eq] at h
  simp only [isBlank, Bool.or_eq_true, Bool.and_eq_true, decide_eq_true_eq, beq_iff_eq]
  rcases h with ((h | h) | h) | h <;> subst h <;> decide

example : trimBlank " \t3.4 \n" = "3.4" := by decide
example : trimBlank "" = "" := by decide

end RubyLayout.Text

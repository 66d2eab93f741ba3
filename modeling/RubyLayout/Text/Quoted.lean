import RubyLayout.Text.Category

/-!
# Quoted text

Texts inside error messages are written between double quotes. A double quote and a backslash
are escaped with a backslash; the seven control characters with a letter escape (`\a`, `\b`,
`\f`, `\n`, `\r`, `\t`, `\v`) use it; other control characters below U+0020 and U+007F are
written `\xHH`; other characters that are not printable are written `\uHHHH` or `\UHHHHHHHH`
with lowercase hex digits; every printable character stands for itself.

A character is printable when it is a letter, mark, number, punctuation mark or symbol, or the
ASCII space (`Text.isPrintable`).

A single character is written between single quotes the same way, except that the single quote
is escaped and the double quote is not (`quoteRune`).
-/

set_option autoImplicit false

namespace RubyLayout.Text

/-- The lowercase hexadecimal digit of a number below sixteen. -/
def hexDigit (n : Nat) : Char :=
  if n < 10 then Char.ofNat (48 + n) else Char.ofNat (87 + n)

/-- The `width` lowest hexadecimal digits of `n`, most significant first. -/
def hexDigits (width n : Nat) : List Char :=
  (List.range width).reverse.map fun i => hexDigit (n / Nat.pow 16 i % 16)

/-- The written form of one character inside a quoted text. -/
def quoteChar (c : Char) : List Char :=
  if c = '"' then ['\\', '"']
  else if c = '\\' then ['\\', '\\']
  else if isPrintable c then [c]
  else if c = '\x07' then ['\\', 'a']
  else if c = '\x08' then ['\\', 'b']
  else if c = '\x0c' then ['\\', 'f']
  else if c = '\n' then ['\\', 'n']
  else if c = '\r' then ['\\', 'r']
  else if c = '\t' then ['\\', 't']
  else if c = '\x0b' then ['\\', 'v']
  else if c.toNat < 0x20 || c.toNat == 0x7f then '\\' :: 'x' :: hexDigits 2 c.toNat
  else if c.toNat < 0x10000 then '\\' :: 'u' :: hexDigits 4 c.toNat
  else '\\' :: 'U' :: hexDigits 8 c.toNat

/-- A text between double quotes, escaped as described in the module header. -/
def quote (s : String) : String :=
  String.ofList ('"' :: (s.toList.flatMap quoteChar ++ ['"']))

/-- The written form of one character between single quotes: as inside double quotes, except
that the single quote is escaped and the double quote is not. -/
def quoteRuneChar (c : Char) : List Char :=
  if c = Char.ofNat 39 then ['\\', Char.ofNat 39]
  else if c = '"' then ['"']
  else quoteChar c

/-- A character between single quotes, escaped like `quoteRuneChar`. -/
def quoteRune (c : Char) : String :=
  String.ofList (Char.ofNat 39 :: (quoteRuneChar c ++ [Char.ofNat 39]))

example : quote "3.x" = "\"3.x\"" := by decide
example : quote "a\tb\x01" = "\"a\\tb\\x01\"" := by decide
example : quoteRune '\n' = "'\\n'" := by decide

end RubyLayout.Text

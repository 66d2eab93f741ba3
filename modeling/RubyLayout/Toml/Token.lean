import RubyLayout.Text.Quoted

/-!
# TOML tokens

The lexer cuts a TOML text into tokens: table headers, keys, values (strings of the four kinds,
integers, floats, booleans, datetimes, the brackets of arrays and inline tables) and comments.
It is a state machine whose phases are the grammar's positions (at the top level, inside a
table name, after a key, inside an array, inside a string, …); a stack of phases says where to
go back to once a value or a comment is read. Numbers and datetimes are read only roughly here
and checked by the parser.

Every token records the line it ends on. The first problem the lexer meets ends the text with an
error that carries its line: a control character, an unexpected character, an unterminated
string, a newline inside a one-line string or an inline table. An error found at the end of the
text is reported on the line of the last character, and a newline that is in the wrong place is
reported on the line it ends.

This is TOML 1.1: inline tables may span lines and end with a comma, and strings know the `\e`
and `\xHH` escapes.
-/

set_option autoImplicit false

namespace RubyLayout.Toml

/-- The kinds of tokens. -/
inductive TokenKind where
  | text | string | escapedString | rawString | multilineString | rawMultilineString
  | bool | integer | float | datetime
  | arrayStart | arrayEnd | tableStart | tableEnd | arrayTableStart | arrayTableEnd
  | keyStart | keyEnd | commentStart | inlineTableStart | inlineTableEnd | eof
deriving DecidableEq, Repr, Inhabited

/-- A token: its kind, its text and the line it ends on. -/
structure Token where
  kind : TokenKind
  text : String
  line : Nat
deriving Repr, Inhabited

/-- A lexical error: its message and line. -/
structure LexError where
  message : String
  line : Nat
deriving Repr

/-- The positions of the grammar the lexer can be at. -/
inductive Phase where
  | top | topEnd | tableStart | tableEnd | arrayTableEnd | tableNameStart | tableNameEnd
  | bareName | quotedName | keyStart | keyNameStart | keyEnd
  | value | arrayValue | arrayValueEnd | arrayEnd
  | inlineTableValue | inlineTableValueEnd | inlineTableEnd
  | string | multilineString | rawString | multilineRawString
  | multilineStringEscape | stringEscape | hexEscape | shortUnicodeEscape | longUnicodeEscape
  | baseNumberOrDate | numberOrDateStart | numberOrDate | datetime
  | hexInteger | octalInteger | binaryInteger | decimalNumber | decimalNumberStart
  | float | bool | commentStart | comment
deriving DecidableEq, Repr, Inhabited

/-- The lexer's state: the text, the start of the token being read, the position and line, whether
the end was read, whether the string being read has escapes, the phases to go back to, and the
tokens so far. -/
structure Scanner where
  input : Array Char
  start : Nat := 0
  pos : Nat := 0
  line : Nat := 1
  atEnd : Bool := false
  escaped : Bool := false
  stack : List Phase := []
  tokens : Array Token := #[]

/-- Lexing: it may stop with an error, keeping the tokens read so far. -/
abbrev LexM := ExceptT LexError (StateM Scanner)

/-! ### Character classes -/

/-- Spaces and tabs. -/
def isBlank (c : Option Char) : Bool := c == some ' ' || c == some '\t'

/-- Line ends. -/
def isNewline (c : Option Char) : Bool := c == some '\n' || c == some '\r'

/-- Decimal digits. -/
def isDigit (c : Option Char) : Bool :=
  match c with
  | some c => '0' ≤ c && c ≤ '9'
  | none => false

/-- Hexadecimal digits. -/
def isHex (c : Option Char) : Bool :=
  match c with
  | some c => ('0' ≤ c && c ≤ '9') || ('a' ≤ c && c ≤ 'f') || ('A' ≤ c && c ≤ 'F')
  | none => false

/-- Octal digits. -/
def isOctal (c : Option Char) : Bool :=
  match c with
  | some c => '0' ≤ c && c ≤ '7'
  | none => false

/-- Binary digits. -/
def isBinary (c : Option Char) : Bool := c == some '0' || c == some '1'

/-- The characters of bare keys: ASCII letters and digits, `_` and `-`. -/
def isBareKeyChar (c : Option Char) : Bool :=
  match c with
  | some c => c.isAlphanum || c == '_' || c == '-'
  | none => false

/-- Letters: the characters of the Unicode general categories `Lu`, `Ll`, `Lt`, `Lm` and `Lo`. -/
def isLetter (c : Option Char) : Bool :=
  match c with
  | some c => Text.isLetter c
  | none => false

/-- Control characters other than tab and the line ends. -/
def isControl (c : Char) : Bool :=
  c != '\t' && c != '\n' && c != '\r' && (c.toNat < 0x20 || c.toNat == 0x7f)

/-- The character a reported end of text stands for: NUL. -/
def endChar : Char := Char.ofNat 0

/-- A character, or the end of the text, quoted for messages. -/
def quoteOrEnd (c : Option Char) : String := Text.quoteRune (c.getD endChar)

/-- A character in single quotes as it stands, or "end of file". -/
def describeOrEnd (c : Option Char) : String :=
  match c with
  | some c => String.ofList [Char.ofNat 39, c, Char.ofNat 39]
  | none => "end of file"

/-! ### Reading -/

namespace Scanner

/-- The text of the token being read. -/
def current (s : Scanner) : String := String.ofList ((s.input.extract s.start s.pos).toList)

/-- The error for the current position: at the end of the text, a newline just read does not
count. -/
def errorHere (s : Scanner) (message : String) : LexError :=
  if s.atEnd && s.pos ≥ 1 && s.input[s.pos - 1]? == some '\n' then ⟨message, s.line - 1⟩
  else ⟨message, s.line⟩

end Scanner

/-- Stops with an error at the current position. -/
def fail {α : Type} (message : String) : LexM α := do throw ((← get).errorHere message)

/-- Stops with an error on the line before the current one. -/
def failPrevLine {α : Type} (message : String) : LexM α := do
  throw ⟨message, (← get).line - 1⟩

/-- Stops with an error: on the previous line at the end of the text, else here. -/
def failAt {α : Type} (message : String) : LexM α := do
  if (← get).atEnd then failPrevLine message else throw ⟨message, (← get).line⟩

/-- The next character, or `none` at the end; a control character stops the lexer. -/
def next : LexM (Option Char) := do
  let s ← get
  match s.input[s.pos]? with
  | none =>
    set { s with atEnd := true }
    pure none
  | some c =>
    let line := if c = '\n' then s.line + 1 else s.line
    let lone := c = '\r' && s.input[s.pos + 1]? != some '\n'
    if isControl c || lone then
      throw ⟨"TOML files cannot contain control characters: '0x" ++
        String.ofList (Text.hexDigits 2 c.toNat) ++ "'", line⟩
    set { s with pos := s.pos + 1, line := line }
    pure (some c)

/-- Steps back over the last character read. -/
def backup : LexM Unit :=
  modify fun s =>
    if s.atEnd then { s with atEnd := false }
    else
      let pos := s.pos - 1
      { s with pos := pos, line := if s.input[pos]? == some '\n' then s.line - 1 else s.line }

/-- The next character, without reading it. -/
def peek : LexM (Option Char) := do
  let c ← next
  backup
  pure c

/-- Reads the next character if it is `c`. -/
def accept (c : Char) : LexM Bool := do
  if (← next) == some c then pure true
  else
    backup
    pure false

/-- Drops what was read since the last token. -/
def ignore : LexM Unit := modify fun s => { s with start := s.pos }

/-- Ends a token of kind `k` at the current position. -/
def emit (k : TokenKind) : LexM Unit :=
  modify fun s => { s with tokens := s.tokens.push ⟨k, s.current, s.line⟩, start := s.pos }

/-- Ends a token of kind `k`, without blanks around its text. -/
def emitTrimmed (k : TokenKind) : LexM Unit :=
  modify fun s =>
    { s with tokens := s.tokens.push ⟨k, s.current.trimAscii.toString, s.line⟩, start := s.pos }

/-- Remembers where to go back to. -/
def push (p : Phase) : LexM Unit := modify fun s => { s with stack := p :: s.stack }

/-- Goes back to the phase last remembered. -/
def pop : LexM (Option Phase) := do
  match (← get).stack with
  | p :: rest =>
    modify fun s => { s with stack := rest }
    pure (some p)
  | [] => fail "BUG in lexer: no states to pop"

/-- The number of blanks from the current position on. -/
def blanksAhead (s : Scanner) : Nat :=
  ((s.input.extract s.pos s.input.size).toList.takeWhile fun c => c == ' ' || c == '\t').length

/-- Skips blanks; the character after them is read and put back. -/
def skipBlanks : LexM Unit := do
  modify fun s => { s with pos := s.pos + blanksAhead s }
  let _ ← next
  backup
  ignore

/-- Skips what was read and goes on with `p`. -/
def skipTo (p : Phase) : LexM (Option Phase) := do
  ignore
  pure (some p)

/-- Reads a run of letters; `fuel` bounds its length. -/
def letters : Nat → List Char → LexM (List Char)
  | 0, acc => pure acc.reverse
  | fuel + 1, acc => do
    match ← next with
    | some c =>
      if isLetter (some c) then letters fuel (c :: acc)
      else
        backup
        pure acc.reverse
    | none =>
      backup
      pure acc.reverse

/-- The number of hexadecimal digits an escape takes, in words. -/
def escapeWidthName : Nat → String
  | 2 => "two"
  | 4 => "four"
  | _ => "eight"

/-- Reads the `width` hexadecimal digits of an escape introduced by `\` and `letter`, of which
`n` are left. A character that is not a digit ends the lexer with the string read so far, that
character included. -/
def hexDigitsOfEscape (letter : Char) (width : Nat) : Nat → LexM Unit
  | 0 => pure ()
  | n + 1 => do
    let c ← next
    if !isHex c then
      fail ("expected " ++ escapeWidthName width ++ " hexadecimal digits after " ++
        String.ofList [Char.ofNat 39, '\\', letter, Char.ofNat 39] ++ ", but got " ++
        Text.quote (← get).current ++ " instead")
    hexDigitsOfEscape letter width n

/-! ### The phases -/

/-- The top level: blank lines, comments, table headers and key/value pairs. -/
def lexTop : LexM (Option Phase) := do
  let c ← next
  if isBlank c || isNewline c then return ← skipTo .top
  match c with
  | some '#' =>
    push .top
    pure (some .commentStart)
  | some '[' => pure (some .tableStart)
  | none =>
    let s ← get
    if s.pos > s.start then fail "unexpected EOF"
    else
      emit .eof
      pure none
  | _ =>
    backup
    push .topEnd
    pure (some .keyStart)

/-- After a top-level item: the rest of its line. -/
def lexTopEnd : LexM (Option Phase) := do
  let c ← next
  if c == some '#' then
    push .top
    return some .commentStart
  if isBlank c then return some .topEnd
  if isNewline c then return ← skipTo .top
  match c with
  | none =>
    emit .eof
    pure none
  | some _ =>
    fail ("expected a top-level item to end with a newline, comment, or EOF, but got " ++
      quoteOrEnd c ++ " instead")

/-- After `[`: a table or, with a second `[`, an array of tables. -/
def lexTableStart : LexM (Option Phase) := do
  if (← peek) == some '[' then
    let _ ← next
    emit .arrayTableStart
    push .arrayTableEnd
  else
    emit .tableStart
    push .tableEnd
  pure (some .tableNameStart)

/-- The end of a table header. -/
def lexTableEnd : LexM (Option Phase) := do
  emit .tableEnd
  pure (some .topEnd)

/-- The second `]` of an array of tables header. -/
def lexArrayTableEnd : LexM (Option Phase) := do
  let c ← next
  if c != some ']' then
    fail ("expected end of table array name delimiter ']', but got " ++ quoteOrEnd c ++
      " instead")
  emit .arrayTableEnd
  pure (some .topEnd)

/-- The start of one part of a table name. -/
def lexTableNameStart : LexM (Option Phase) := do
  skipBlanks
  let c ← peek
  if c == some ']' || c == none then
    fail "unexpected end of table name (table names cannot be empty)"
  else if c == some '.' then
    fail "unexpected table separator (table names cannot be empty)"
  else if c == some '"' || c == some (Char.ofNat 39) then
    ignore
    push .tableNameEnd
    pure (some .quotedName)
  else
    push .tableNameEnd
    pure (some .bareName)

/-- After one part of a table name: a dot or the closing bracket. -/
def lexTableNameEnd : LexM (Option Phase) := do
  skipBlanks
  let c ← next
  if isBlank c then pure (some .tableNameEnd)
  else if c == some '.' then skipTo .tableNameStart
  else if c == some ']' then pop
  else fail ("expected '.' or ']' to end table name, but got " ++ quoteOrEnd c ++ " instead")

/-- A bare name, possibly empty. -/
def lexBareName : LexM (Option Phase) := do
  if isBareKeyChar (← next) then return some .bareName
  backup
  emit .text
  pop

/-- A quoted name: a one-line string of either kind. -/
def lexQuotedName : LexM (Option Phase) := do
  let c ← next
  if isBlank c then skipTo .value
  else if c == some '"' then skipTo .string
  else if c == some (Char.ofNat 39) then skipTo .rawString
  else if c == none then fail "unexpected EOF; expected value"
  else fail ("expected value but found " ++ quoteOrEnd c ++ " instead")

/-- The start of a key. -/
def lexKeyStart : LexM (Option Phase) := do
  skipBlanks
  let c ← peek
  if c == some '=' || c == none then fail "unexpected '=': key name appears blank"
  else if c == some '.' then fail "unexpected '.': keys cannot start with a '.'"
  else
    if c == some '"' || c == some (Char.ofNat 39) then ignore
    emit .keyStart
    pure (some .keyNameStart)

/-- The start of one part of a key. -/
def lexKeyNameStart : LexM (Option Phase) := do
  skipBlanks
  let c ← peek
  if c == some '=' || c == none then fail "unexpected '='"
  else if c == some '.' then fail "unexpected '.'"
  else if c == some '"' || c == some (Char.ofNat 39) then
    ignore
    push .keyEnd
    pure (some .quotedName)
  else
    push .keyEnd
    pure (some .bareName)

/-- After one part of a key: a dot or the `=`. -/
def lexKeyEnd : LexM (Option Phase) := do
  skipBlanks
  let c ← next
  if isBlank c then skipTo .keyEnd
  else if c == none then fail "unexpected EOF; expected key separator '='"
  else if c == some '.' then skipTo .keyNameStart
  else if c == some '=' then
    emit .keyEnd
    skipTo .value
  else if c == some '\n' then
    failPrevLine ("expected '.' or '=', but got " ++ quoteOrEnd c ++ " instead")
  else fail ("expected '.' or '=', but got " ++ quoteOrEnd c ++ " instead")

/-- A value. -/
def lexValue : LexM (Option Phase) := do
  let c ← next
  if isBlank c then return ← skipTo .value
  if isDigit c then
    backup
    return some .numberOrDateStart
  match c with
  | some '[' =>
    ignore
    emit .arrayStart
    return some .arrayValue
  | some '{' =>
    ignore
    emit .inlineTableStart
    return some .inlineTableValue
  | some '"' =>
    if ← accept '"' then
      if ← accept '"' then
        ignore
        return some .multilineString
      backup
    ignore
    return some .string
  | some '.' => fail "floats must start with a digit, not '.'"
  | some '-' | some '+' => return some .decimalNumberStart
  | _ => pure ()
  if c == some (Char.ofNat 39) then
    if ← accept (Char.ofNat 39) then
      if ← accept (Char.ofNat 39) then
        ignore
        return some .multilineRawString
      backup
    ignore
    return some .rawString
  if c == some 'i' || c == some 'n' then
    let special ← do
      if (← accept 'n') then
        if (← accept 'f') then pure true
        else (do if ← accept 'a' then accept 'n' else pure false)
      else (do if ← accept 'a' then accept 'n' else pure false)
    if special then
      emit .float
      return ← pop
  if isLetter c then
    backup
    return some .bool
  if c == none then fail "unexpected EOF; expected value"
  else if c == some '\n' then
    failPrevLine ("expected value but found " ++ quoteOrEnd c ++ " instead")
  else fail ("expected value but found " ++ quoteOrEnd c ++ " instead")

/-- One value of an array, after `[` or a comma. -/
def lexArrayValue : LexM (Option Phase) := do
  let c ← next
  if isBlank c || isNewline c then skipTo .arrayValue
  else if c == some '#' then
    push .arrayValue
    pure (some .commentStart)
  else if c == some ',' then fail "unexpected comma"
  else if c == some ']' then pure (some .arrayEnd)
  else
    backup
    push .arrayValueEnd
    pure (some .value)

/-- After a value of an array: a comma or the closing bracket. -/
def lexArrayValueEnd : LexM (Option Phase) := do
  let c ← next
  if isBlank c || isNewline c then skipTo .arrayValueEnd
  else if c == some '#' then
    push .arrayValueEnd
    pure (some .commentStart)
  else if c == some ',' then skipTo .arrayValue
  else if c == some ']' then pure (some .arrayEnd)
  else
    fail ("expected a comma (',') or array terminator (']'), but got " ++ describeOrEnd c)

/-- The end of an array. -/
def lexArrayEnd : LexM (Option Phase) := do
  ignore
  emit .arrayEnd
  pop

/-- One key/value pair of an inline table, after `{` or a comma. -/
def lexInlineTableValue : LexM (Option Phase) := do
  let c ← next
  if isBlank c || isNewline c then skipTo .inlineTableValue
  else if c == some '#' then
    push .inlineTableValue
    pure (some .commentStart)
  else if c == some ',' then fail "unexpected comma"
  else if c == some '}' then pure (some .inlineTableEnd)
  else
    backup
    push .inlineTableValueEnd
    pure (some .keyStart)

/-- After a pair of an inline table: a comma or the closing brace. -/
def lexInlineTableValueEnd : LexM (Option Phase) := do
  let c ← next
  if isBlank c || isNewline c then skipTo .inlineTableValueEnd
  else if c == some '#' then
    push .inlineTableValueEnd
    pure (some .commentStart)
  else if c == some ',' then
    ignore
    skipBlanks
    if (← peek) == some '}' then pure (some .inlineTableValueEnd)
    else pure (some .inlineTableValue)
  else if c == some '}' then pure (some .inlineTableEnd)
  else
    fail ("expected a comma or an inline table terminator '\x7d', but got " ++ describeOrEnd c ++
      " instead")

/-- The end of an inline table. -/
def lexInlineTableEnd : LexM (Option Phase) := do
  ignore
  emit .inlineTableEnd
  pop

/-- Inside a basic string. -/
def lexString : LexM (Option Phase) := do
  let c ← next
  if c == none then fail "unexpected EOF; expected '\"'"
  else if isNewline c then failPrevLine "strings cannot contain newlines"
  else if c == some '\\' then
    push .string
    pure (some .stringEscape)
  else if c == some '"' then
    backup
    if (← get).escaped then
      modify fun s => { s with escaped := false }
      emit .escapedString
    else emit .string
    let _ ← next
    ignore
    pop
  else pure (some .string)

/-- Inside a multi-line basic string. -/
def lexMultilineString : LexM (Option Phase) := do
  let c ← next
  if c == none then fail "unexpected EOF; expected '\"\"\"'"
  else if c == some '\\' then pure (some .multilineStringEscape)
  else if c == some '"' then
    if ← accept '"' then
      if ← accept '"' then
        if (← peek) == some '"' then
          let text := (← get).current
          if text.endsWith "\"\"\"\"\"" && !text.endsWith "\\\"\"\"\"\"" then
            return ← fail "unexpected '\"\"\"\"\"\"'"
          backup
          backup
          return some .multilineString
        backup
        backup
        backup
        modify fun s => { s with escaped := false }
        emit .multilineString
        let _ ← next
        let _ ← next
        let _ ← next
        ignore
        return ← pop
      backup
    pure (some .multilineString)
  else pure (some .multilineString)

/-- Inside a literal string. -/
def lexRawString : LexM (Option Phase) := do
  let c ← next
  if c == none then fail "unexpected EOF; expected \"'\""
  else if isNewline c then failPrevLine "strings cannot contain newlines"
  else if c == some (Char.ofNat 39) then
    backup
    emit .rawString
    let _ ← next
    ignore
    pop
  else pure (some .rawString)

/-- Inside a multi-line literal string. -/
def lexMultilineRawString : LexM (Option Phase) := do
  let c ← next
  if c == none then fail "unexpected EOF; expected \"'''\""
  else if c == some (Char.ofNat 39) then
    if ← accept (Char.ofNat 39) then
      if ← accept (Char.ofNat 39) then
        if (← peek) == some (Char.ofNat 39) then
          if (← get).current.endsWith "'''''" then
            return ← fail "unexpected \"''''''\""
          backup
          backup
          return some .multilineRawString
        backup
        backup
        backup
        emit .rawMultilineString
        let _ ← next
        let _ ← next
        let _ ← next
        ignore
        return ← pop
      backup
    pure (some .multilineRawString)
  else pure (some .multilineRawString)

/-- After a backslash in a multi-line string: a line continuation or an escape. -/
def lexMultilineStringEscape : LexM (Option Phase) := do
  if isNewline (← next) then return some .multilineString
  backup
  push .multilineString
  pure (some .stringEscape)

/-- After a backslash in a string. -/
def lexStringEscape : LexM (Option Phase) := do
  modify fun s => { s with escaped := true }
  let c ← next
  match c with
  | some 'e' | some 'b' | some 't' | some 'n' | some 'f' | some 'r' | some '"' | some ' '
  | some '\t' | some '\\' => pop
  | some 'x' => pure (some .hexEscape)
  | some 'u' => pure (some .shortUnicodeEscape)
  | some 'U' => pure (some .longUnicodeEscape)
  | _ => failAt ("invalid escape in string '\\" ++ String.singleton (c.getD endChar) ++ "'")

/-- A number or datetime starting with a digit. -/
def lexNumberOrDateStart : LexM (Option Phase) := do
  let c ← next
  if c == some '0' then pure (some .baseNumberOrDate)
  else if !isDigit c then fail ("expected a digit but got " ++ quoteOrEnd c)
  else pure (some .numberOrDate)

/-- After a leading `0`: a base prefix, a float, a datetime or the integer zero. -/
def lexBaseNumberOrDate : LexM (Option Phase) := do
  let c ← next
  if isDigit c then return some .numberOrDate
  match c with
  | some '_' => pure (some .decimalNumber)
  | some '.' | some 'e' | some 'E' => pure (some .float)
  | some 'b' =>
    let d ← peek
    if !isBinary d then
      fail ("not a binary number: '" ++ (← get).current ++ String.singleton (d.getD endChar) ++ "'")
    pure (some .binaryInteger)
  | some 'o' =>
    let d ← peek
    if !isOctal d then
      fail ("not an octal number: '" ++ (← get).current ++ String.singleton (d.getD endChar) ++ "'")
    pure (some .octalInteger)
  | some 'x' =>
    let d ← peek
    if !isHex d then
      fail ("not a hexadecimal number: '" ++ (← get).current ++ String.singleton (d.getD endChar) ++
        "'")
    pure (some .hexInteger)
  | _ =>
    backup
    emit .integer
    pop

/-- Digits of an integer, a float or a datetime. -/
def lexNumberOrDate : LexM (Option Phase) := do
  let c ← next
  if isDigit c then return some .numberOrDate
  match c with
  | some '-' | some ':' => pure (some .datetime)
  | some '_' => pure (some .decimalNumber)
  | some '.' | some 'e' | some 'E' => pure (some .float)
  | _ =>
    backup
    emit .integer
    pop

/-- A datetime, roughly: digits and the separators of dates, times and offsets. -/
def lexDatetime : LexM (Option Phase) := do
  let c ← next
  if isDigit c then return some .datetime
  match c with
  | some '-' | some ':' | some 'T' | some 't' | some ' ' | some '.' | some 'Z' | some 'z'
  | some '+' => pure (some .datetime)
  | _ =>
    backup
    emitTrimmed .datetime
    pop

/-- The digits of an integer after a base prefix, accepted by `digit`. -/
def lexBaseDigits (self : Phase) (digit : Option Char → Bool) : LexM (Option Phase) := do
  let c ← next
  if digit c || c == some '_' then return some self
  backup
  emit .integer
  pop

/-- A decimal integer or float after its first digits. -/
def lexDecimalNumber : LexM (Option Phase) := do
  let c ← next
  if isDigit c then return some .decimalNumber
  match c with
  | some '.' | some 'e' | some 'E' => pure (some .float)
  | some '_' => pure (some .decimalNumber)
  | _ =>
    backup
    emit .integer
    pop

/-- After a sign: a decimal number, `inf` or `nan`. -/
def lexDecimalNumberStart : LexM (Option Phase) := do
  let c ← next
  match c with
  | some 'i' =>
    let ok ← do if ← accept 'n' then accept 'f' else pure false
    if !ok then return ← fail ("invalid float: '" ++ (← get).current ++ "'")
    emit .float
    pop
  | some 'n' =>
    let ok ← do if ← accept 'a' then accept 'n' else pure false
    if !ok then return ← fail ("invalid float: '" ++ (← get).current ++ "'")
    emit .float
    pop
  | some '.' => fail "floats must start with a digit, not '.'"
  | _ =>
    if c == some '0' then
      let d ← peek
      if d == some 'b' || d == some 'o' || d == some 'x' then
        return ← fail ("cannot use sign with non-decimal numbers: '" ++ (← get).current ++
          String.singleton (d.getD endChar) ++ "'")
    if isDigit c then pure (some .decimalNumber)
    else fail ("expected a digit but got " ++ quoteOrEnd c)

/-- The rest of a float, roughly. -/
def lexFloat : LexM (Option Phase) := do
  let c ← next
  if isDigit c then return some .float
  match c with
  | some '_' | some '.' | some '-' | some '+' | some 'e' | some 'E' => pure (some .float)
  | _ =>
    backup
    emit .float
    pop

/-- A word value: `true` or `false`. -/
def lexBool : LexM (Option Phase) := do
  let fuel := (← get).input.size + 1
  let word := String.ofList (← letters fuel [])
  if word == "true" || word == "false" then
    emit .bool
    pop
  else fail ("expected value but found " ++ Text.quote word ++ " instead")

/-- The start of a comment. -/
def lexCommentStart : LexM (Option Phase) := do
  ignore
  emit .commentStart
  pure (some .comment)

/-- A comment, up to the end of its line. -/
def lexComment : LexM (Option Phase) := do
  let c ← next
  if isNewline c || c == none then
    backup
    emit .text
    pop
  else pure (some .comment)

/-- One step of the lexer in a phase: the next phase, or `none` once the text has ended. -/
def step : Phase → LexM (Option Phase)
  | .top => lexTop
  | .topEnd => lexTopEnd
  | .tableStart => lexTableStart
  | .tableEnd => lexTableEnd
  | .arrayTableEnd => lexArrayTableEnd
  | .tableNameStart => lexTableNameStart
  | .tableNameEnd => lexTableNameEnd
  | .bareName => lexBareName
  | .quotedName => lexQuotedName
  | .keyStart => lexKeyStart
  | .keyNameStart => lexKeyNameStart
  | .keyEnd => lexKeyEnd
  | .value => lexValue
  | .arrayValue => lexArrayValue
  | .arrayValueEnd => lexArrayValueEnd
  | .arrayEnd => lexArrayEnd
  | .inlineTableValue => lexInlineTableValue
  | .inlineTableValueEnd => lexInlineTableValueEnd
  | .inlineTableEnd => lexInlineTableEnd
  | .string => lexString
  | .multilineString => lexMultilineString
  | .rawString => lexRawString
  | .multilineRawString => lexMultilineRawString
  | .multilineStringEscape => lexMultilineStringEscape
  | .stringEscape => lexStringEscape
  | .hexEscape => do
    hexDigitsOfEscape 'x' 2 2
    pop
  | .shortUnicodeEscape => do
    hexDigitsOfEscape 'u' 4 4
    pop
  | .longUnicodeEscape => do
    hexDigitsOfEscape 'U' 8 8
    pop
  | .baseNumberOrDate => lexBaseNumberOrDate
  | .numberOrDateStart => lexNumberOrDateStart
  | .numberOrDate => lexNumberOrDate
  | .datetime => lexDatetime
  | .hexInteger => lexBaseDigits .hexInteger isHex
  | .octalInteger => lexBaseDigits .octalInteger isOctal
  | .binaryInteger => lexBaseDigits .binaryInteger isBinary
  | .decimalNumber => lexDecimalNumber
  | .decimalNumberStart => lexDecimalNumberStart
  | .float => lexFloat
  | .bool => lexBool
  | .commentStart => lexCommentStart
  | .comment => lexComment

/-- Runs the lexer from a phase for at most `fuel` steps. -/
def run : Nat → Phase → LexM Unit
  | 0, _ => fail "BUG in lexer: no progress"
  | fuel + 1, p => do
    match ← step p with
    | some q => run fuel q
    | none => pure ()

/-- The tokens of a text, ending with the end token or with the first error. Every step reads a
character or moves between a bounded number of phases, so sixteen steps per character are
plenty. -/
def tokenize (text : String) : Array Token × Option LexError :=
  let chars := text.toList.toArray
  let (outcome, s) := (run (16 * (chars.size + 4)) .top).run { input := chars }
  match outcome with
  | .ok () => (s.tokens, none)
  | .error e => (s.tokens, some e)

end RubyLayout.Toml

import RubyLayout.Toml.Token
import RubyLayout.Toml.Value
import RubyLayout.Toml.Number

/-!
# TOML documents

A document is read from its tokens into a table, together with what decoding needs later: for
every key the line of its last definition and whether it holds an array, and the keys in the
order they were defined (tables and arrays of tables by their headers, values by their full
keys).

The rules of definition:

* a `[name]` header opens a table, which may not be defined twice; its parents are made as
  implicit tables where missing, and an implicit table may later be defined once;
* a `[[name]]` header adds a table to an array of tables; the name may not hold anything else;
* a dotted key `a.b = v` makes `a` an implicit table;
* a key may not be defined twice, though a key made implicitly may be defined once: the new
  value replaces it when the key holds an array (an array whose inline tables were added to an
  array of tables under its key, or a key last defined as an array), and it is kept otherwise;
* an inline table is defined in place, as if by its own header, and then handed back whole.

A failure is a parse error: its message, the line it is reported on, and the key last being
defined. Errors of the lexer surface when the reader reaches them, after the tokens before them
were read.
-/

set_option autoImplicit false

namespace RubyLayout.Toml

/-- A parse error: its message, line and the key last being defined. -/
structure ParseError where
  message : String
  line : Nat
  lastKey : String
deriving Repr

namespace ParseError

/-- The text of a parse error. -/
def text (e : ParseError) : String :=
  if e.lastKey.isEmpty then "toml: line " ++ toString e.line ++ ": " ++ e.message
  else "toml: line " ++ toString e.line ++ " (last key " ++ Text.quote e.lastKey ++ "): " ++
    e.message

end ParseError

/-- What decoding needs to know of a key: the line of its last definition and whether it holds
an array. -/
structure KeyInfo where
  line : Nat
  isArray : Bool

/-- A read document. -/
structure Document where
  root : Table
  info : List (String × KeyInfo)
  keys : Array Key

/-- The reader's state. -/
structure Reader where
  tokens : List Token
  lexError : Option LexError
  root : Table := []
  context : Key := []
  currentKey : String := ""
  implicits : List String := []
  info : List (String × KeyInfo) := []
  keys : Array Key := #[]
  line : Nat := 0

/-- Reading a document. -/
abbrev ReadM := ExceptT ParseError (StateM Reader)

namespace Reader

/-- The key being defined, for messages: the context and the current name. -/
def current (r : Reader) : String :=
  if r.currentKey.isEmpty then keyText r.context
  else if r.context.isEmpty then r.currentKey
  else keyText r.context ++ "." ++ r.currentKey

end Reader

/-- Fails with `message` on `line`. -/
def failOn {α : Type} (line : Nat) (message : String) : ReadM α := do
  throw { message := message, line := line, lastKey := (← get).current }

/-- Fails with `message` on the line of the key being read. -/
def failHere {α : Type} (message : String) : ReadM α := do failOn (← get).line message

/-- Fails on a token sequence the lexer never makes. -/
def malformed {α : Type} (t : Token) : ReadM α := failOn t.line "unexpected token"

/-- The next token; past the tokens lies the lexer's error. -/
def nextToken : ReadM Token := do
  let r ← get
  match r.tokens with
  | t :: rest =>
    set { r with tokens := rest }
    pure t
  | [] =>
    match r.lexError with
    | some e => failOn e.line e.message
    | none => failOn r.line "unexpected end of tokens"

/-- The next token, whose line becomes the line of the key being read. -/
def nextPlaced : ReadM Token := do
  let t ← nextToken
  modify fun r => { r with line := t.line }
  pure t

/-- Reads the text token that follows a comment start. -/
def skipComment : ReadM Unit := do
  let t ← nextToken
  if t.kind != .text then malformed t

/-! ### Strings -/

/-- The character of a hexadecimal escape: a code point outside the surrogates and below
`0x110000`. -/
def hexRune (line : Nat) (digits : List Char) : ReadM Char :=
  let n := digitsValue 16 digits
  if n < 0xd800 || (0xdfff < n && n < 0x110000) then pure (Char.ofNat n)
  else failOn line ("Escaped character '\\u" ++ String.ofList digits ++ "' is not valid UTF-8.")

/-- The characters an escape `\c` stands for, read from the text `rest` after it, and how many
characters of `rest` it takes. -/
def escape (line : Nat) (c : Char) (rest : List Char) : ReadM (List Char × Nat) :=
  match c with
  | 'b' => pure (['\x08'], 0)
  | 't' => pure (['\t'], 0)
  | 'n' => pure (['\n'], 0)
  | 'f' => pure (['\x0c'], 0)
  | 'r' => pure (['\r'], 0)
  | 'e' => pure (['\x1b'], 0)
  | '"' => pure (['"'], 0)
  | '\\' => pure (['\\'], 0)
  | 'x' => return ([← hexRune line (rest.take 2)], 2)
  | 'u' => return ([← hexRune line (rest.take 4)], 4)
  | 'U' => return ([← hexRune line (rest.take 8)], 8)
  | c => failOn line ("invalid escape: '\\" ++ String.singleton c ++ "'")

/-- A basic string's escapes replaced. -/
def unescape (line : Nat) : List Char → ReadM (List Char)
  | [] => pure []
  | '\\' :: c :: rest => do
    let r ← escape line c rest
    return r.1 ++ (← unescape line (rest.drop r.2))
  | c :: rest => return c :: (← unescape line rest)
termination_by cs => cs.length
decreasing_by
  · exact Nat.lt_succ_of_lt (Nat.lt_succ_of_le
      (Nat.le_trans (Nat.le_of_eq List.length_drop) (Nat.sub_le _ _)))
  · exact Nat.lt_succ_self _

/-- Whether a character is a blank or a line end. -/
def isSpaceOrNewline (c : Char) : Bool := c == ' ' || c == '\t' || c == '\r' || c == '\n'

/-- A multi-line string with its line-ending backslashes removed: a backslash followed by blanks
that include a line end drops them all, up to the next other character. -/
def joinLines : List Char → List Char
  | [] => []
  | '\\' :: '\\' :: rest => '\\' :: '\\' :: joinLines rest
  | '\\' :: rest =>
    let blanks := rest.takeWhile isSpaceOrNewline
    if !blanks.isEmpty && blanks.contains '\n' then
      have : (rest.dropWhile isSpaceOrNewline).length < rest.length + 1 :=
        Nat.lt_succ_of_le (List.dropWhile_suffix _).length_le
      joinLines (rest.dropWhile isSpaceOrNewline)
    else '\\' :: joinLines rest
  | c :: rest => c :: joinLines rest
termination_by cs => cs.length

/-- A multi-line string without the line end that directly follows its opening quotes. -/
def dropFirstNewline : List Char → List Char
  | '\n' :: rest => rest
  | '\r' :: '\n' :: rest => rest
  | cs => cs

/-- The text of a string token. -/
def stringText (t : Token) : ReadM (Option String) := do
  let cs := t.text.toList
  match t.kind with
  | .string | .rawString => return some t.text
  | .escapedString => return some (String.ofList (← unescape t.line cs))
  | .multilineString =>
    return some (String.ofList (← unescape t.line (joinLines (dropFirstNewline cs))))
  | .rawMultilineString => return some (String.ofList (dropFirstNewline cs))
  | _ => return none

/-- The name a key token stands for. -/
def keyName (t : Token) : ReadM String := do
  if t.kind == .text then return t.text
  match ← stringText t with
  | some s => pure s
  | none => malformed t

/-! ### Tables -/

/-- The result of walking into a table: the failure names the key walked so far. -/
abbrev Walk (α : Type) := Except Key (Table × α)

/-- Applies `f` to the table that `path` leads to from `t`: a name holding a table leads into
it, and one holding an array of tables into its last table. The walk fails at the first name
that holds anything else or nothing. -/
def Table.within {α : Type} (f : Table → Walk α) : Key → Key → Table → Walk α
  | _, [], t => f t
  | walked, k :: rest, t =>
    let here := walked ++ [k]
    match t.get? k with
    | some (.table sub) =>
      match Table.within f here rest sub with
      | .ok (sub, a) => .ok (t.set k (.table sub), a)
      | .error e => .error e
    | some (.tables subs) =>
      match subs.getLast? with
      | some last =>
        match Table.within f here rest last with
        | .ok (last, a) => .ok (t.set k (.tables (subs.dropLast ++ [last])), a)
        | .error e => .error e
      | none => .error here
    | _ => .error here

/-- Like `Table.within`, but a missing name is made an empty table on the way, and the keys so
made are answered. -/
def Table.withinMaking {α : Type} (f : Table → Walk α) :
    Key → Key → Table → Except Key (Table × α × List Key)
  | _, [], t =>
    match f t with
    | .ok (t, a) => .ok (t, a, [])
    | .error e => .error e
  | walked, k :: rest, t =>
    let here := walked ++ [k]
    match t.get? k with
    | some (.table sub) => do
      let (sub, a, made) ← Table.withinMaking f here rest sub
      pure (t.set k (.table sub), a, made)
    | some (.tables subs) =>
      match subs.getLast? with
      | some last => do
        let (last, a, made) ← Table.withinMaking f here rest last
        pure (t.set k (.tables (subs.dropLast ++ [last])), a, made)
      | none => .error here
    | some _ => .error here
    | none => do
      let (sub, a, made) ← Table.withinMaking f here rest []
      pure (t.set k (.table sub), a, here :: made)

/-- Whether a key was made implicitly and not defined since. -/
def isImplicit (k : Key) : ReadM Bool := return (← get).implicits.contains (keyText k)

/-- Marks a key as made implicitly. -/
def addImplicit (k : Key) : ReadM Unit :=
  modify fun r => { r with implicits := keyText k :: r.implicits }

/-- Unmarks a key as made implicitly. -/
def removeImplicit (k : Key) : ReadM Unit :=
  modify fun r => { r with implicits := r.implicits.filter (· != keyText k) }

/-- Records the line of a key's definition and whether it holds an array; the key is the
context extended by `name`, unless `name` is empty. -/
def recordKey (name : String) (isArray : Bool) (line : Nat) : ReadM Unit := do
  let r ← get
  let k := if name.isEmpty then r.context else r.context ++ [name]
  let k := if k.isEmpty then [""] else k
  let text := keyText k
  set { r with info := (text, ⟨line, isArray⟩) :: r.info.filter (·.1 != text) }

/-- What binding a name finds. -/
inductive Binding where
  | fresh | again | implicit | taken

/-- Whether a key's last definition, or the array value being read for it, holds an array. -/
def holdsArray (k : Key) : ReadM Bool :=
  return ((← get).info.lookup (keyText k)).any (·.isArray)

/-- Binds `name` in the table of the context. A name bound before may be bound again only when
it was made implicitly: it is replaced when the key holds an array (as an array whose inline
tables made it does, or a key whose last definition was an array), and kept otherwise. -/
def setValue (name : String) (v : Value) : ReadM Unit := do
  let r ← get
  let key := r.context ++ [name]
  let again ← holdsArray key
  let implicit ← isImplicit key
  let bind (t : Table) : Walk Binding :=
    match t.get? name with
    | none => .ok (t.set name v, .fresh)
    | some _ =>
      if !implicit then .ok (t, .taken)
      else if again then .ok (t.set name v, .again)
      else .ok (t, .implicit)
  match Table.within bind [] r.context r.root with
  | .error at_ => failHere ("Key '" ++ keyText at_ ++ "' has already been defined.")
  | .ok (root, binding) =>
    match binding with
    | .taken => failHere ("Key '" ++ keyText key ++ "' has already been defined.")
    | .fresh =>
      modify fun r => { r with root := root }
    | .again | .implicit =>
      modify fun r => { r with root := root }
      removeImplicit key

/-- Opens the table `key` (or adds a table to the array of tables `key`), making its parents
as implicit tables where missing; the key becomes the context. -/
def addContext (key : Key) (array : Bool) : ReadM Unit := do
  let parents := key.dropLast
  let name := key.getLastD ""
  let r ← get
  if array then
    let add (t : Table) : Walk Bool :=
      match t.get? name with
      | none => .ok (t.set name (.tables [[]]), true)
      | some (.tables ts) => .ok (t.set name (.tables (ts ++ [[]])), true)
      | some _ => .ok (t, false)
    match Table.withinMaking add [] parents r.root with
    | .error at_ => failHere ("Key '" ++ keyText at_ ++ "' was already created as a hash.")
    | .ok (root, added, made) =>
      set { r with root := root, context := parents }
      made.forM addImplicit
      if !added then
        failHere ("Key '" ++ keyText key ++ "' was already created and cannot be used as an array.")
  else
    match Table.withinMaking (fun t => .ok (t, ())) [] parents r.root with
    | .error at_ => failHere ("Key '" ++ keyText at_ ++ "' was already created as a hash.")
    | .ok (root, (), made) =>
      set { r with root := root, context := parents }
      made.forM addImplicit
      setValue name (.table [])
  modify fun r => { r with context := parents ++ [name] }

/-- Makes `key` an implicit table and its context, as a dotted key does. -/
def addImplicitContext (key : Key) : ReadM Unit := do
  addImplicit key
  addContext key false

/-- Binds `name` to `v` in a table standing alone, below the tables `path` names, making them
where missing. -/
def Table.setBelow (path : Key) (name : String) (v : Value) (t : Table) : Except Key Table :=
  match Table.withinMaking (fun t => .ok (t.set name v, ())) [] path t with
  | .ok (t, _, _) => .ok t
  | .error k => .error k

/-! ### Values -/

/-- Reads the names of a key up to the token that ends it. -/
def keyNames (stop : TokenKind) : Nat → Token → Key → ReadM Key
  | 0, t, _ => malformed t
  | fuel + 1, t, acc => do
    if t.kind == stop then return acc
    if t.kind == .eof then malformed t
    let name ← keyName t
    keyNames stop fuel (← nextToken) (acc ++ [name])

/-- The number of tokens left, which bounds every loop over them. -/
def tokensLeft : ReadM Nat := return (← get).tokens.length + 1

/-- Reads the values of an array up to its end, each by `element`. -/
def arrayItems (element : Token → ReadM Value) : Nat → List Value → ReadM (List Value)
  | 0, _ => failHere "unexpected end of tokens"
  | fuel + 1, acc => do
    let t ← nextToken
    if t.kind == .arrayEnd then return acc.reverse
    if t.kind == .commentStart then
      skipComment
      arrayItems element fuel acc
    else
      let v ← element t
      arrayItems element fuel (v :: acc)

/-- Reads the pairs of an inline table up to its end, binding each in place and in `local`,
which is the table handed back. `value` reads one value. -/
def inlinePairs (value : Token → ReadM Value) (inner : Key) :
    Nat → Table → ReadM Table
  | 0, _ => failHere "unexpected end of tokens"
  | fuel + 1, acc => do
    let t ← nextToken
    if t.kind == .inlineTableEnd then return acc
    if t.kind == .commentStart then
      skipComment
      return ← inlinePairs value inner fuel acc
    let first ← nextPlaced
    let names ← keyNames .keyEnd (← tokensLeft) first []
    let name := names.getLastD ""
    modify fun r => { r with currentKey := name }
    let parents := names.dropLast
    for i in [0:parents.length] do
      let c := (← get).context
      addImplicitContext (c ++ [parents.getD i ""])
    modify fun r => { r with keys := r.keys.push (r.context ++ [name]) }
    let v ← value (← nextToken)
    setValue name v
    recordKey name (v matches .array _) t.line
    let acc ← match Table.setBelow parents name v acc with
      | .ok acc => pure acc
      | .error _ => failHere (Text.quote (keyText (← get).context) ++ " is not a table")
    modify fun r => { r with context := inner }
    inlinePairs value inner fuel acc

/-- Reads the value that starts with token `t`. An inline table inside an array is added to an
array of tables as it is defined. -/
def readValue : Nat → Token → Bool → ReadM Value
  | 0, t, _ => malformed t
  | fuel + 1, t, inArray => do
    let itemFailure {α : Type} (x : Except String α) : ReadM α :=
      match x with
      | .ok a => pure a
      | .error m => failOn t.line m
    match t.kind with
    | .integer => return .integer (← itemFailure (readInteger t.text))
    | .float => return .float (← itemFailure (readFloat t.text))
    | .datetime => return .datetime (← itemFailure (readDatetime t.text))
    | .bool => return .bool (t.text == "true")
    | .arrayStart => do
      recordKey (← get).currentKey true t.line
      let items ← arrayItems (fun t => readValue fuel t true) (← tokensLeft) []
      return .array items
    | .inlineTableStart => do
      let outer ← get
      let inner := outer.context ++ [outer.currentKey]
      modify fun r => { r with context := inner, currentKey := "" }
      addImplicit inner
      addContext inner inArray
      let entries ← inlinePairs (fun t => readValue fuel t false) inner (← tokensLeft) []
      modify fun r => { r with context := outer.context, currentKey := outer.currentKey }
      return .table entries
    | _ =>
      match ← stringText t with
      | some s => return .string s
      | none => malformed t

/-! ### The top level -/

/-- Reads a table header, whose tokens end with `stop`. -/
def header (t : Token) (stop : TokenKind) (array : Bool) : ReadM Unit := do
  let first ← nextPlaced
  let key ← keyNames stop (← tokensLeft) first []
  addContext key array
  recordKey "" false t.line
  modify fun r => { r with keys := r.keys.push key }

/-- Reads a key/value pair at the top level. -/
def pair : ReadM Unit := do
  let outerContext := (← get).context
  let first ← nextPlaced
  let names ← keyNames .keyEnd (← tokensLeft) first []
  let name := names.getLastD ""
  modify fun r => { r with currentKey := name }
  let parents := names.dropLast
  for i in [0:parents.length] do
    let c := (← get).context
    addImplicitContext (c ++ [parents.getD i ""])
  modify fun r => { r with keys := r.keys.push (r.context ++ [name]) }
  let valueToken ← nextToken
  let v ← readValue (← tokensLeft) valueToken false
  setValue name v
  recordKey name (v matches .array _) valueToken.line
  modify fun r => { r with context := outerContext, currentKey := "" }

/-- Reads the top-level items up to the end of the text. -/
def topLevel : Nat → ReadM Unit
  | 0 => failHere "unexpected end of tokens"
  | fuel + 1 => do
    let t ← nextToken
    match t.kind with
    | .eof => pure ()
    | .commentStart => skipComment
    | .tableStart => header t .tableEnd false
    | .arrayTableStart => header t .arrayTableEnd true
    | .keyStart => pair
    | _ => malformed t
    if t.kind != .eof then topLevel fuel

/-- Whether a text holds a NUL among its first six bytes, as a UTF-16 text would. -/
def startsWithNul (s : String) : Bool := (s.toUTF8.toList.take 6).contains 0

/-- The byte-order mark that a text may start with. -/
def byteOrderMark : Char := Char.ofNat 0xfeff

/-- Reads a document. -/
def Document.read (text : String) : Except ParseError Document :=
  let text := match text.toList with
    | c :: rest => if c == byteOrderMark then String.ofList rest else text
    | [] => text
  if startsWithNul text then
    .error { message := "files cannot contain NULL bytes; probably using UTF-16; " ++
               "TOML files must be UTF-8",
             line := 1, lastKey := "" }
  else
    let (tokens, lexError) := tokenize text
    let start : Reader := { tokens := tokens.toList, lexError := lexError }
    match (topLevel (tokens.size + 2)).run start with
    | (.ok (), r) => .ok { root := r.root, info := r.info, keys := r.keys }
    | (.error e, _) => .error e

end RubyLayout.Toml

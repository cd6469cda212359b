/-! # Tokens of a document

A document is a sequence of indicators and scalars. The start and end of a block are tokens too,
given by indentation; a key is recognised when the colon after it is met, so its token is put in
before tokens that were read already.
-/

namespace TapScript.Yaml

/-- How a scalar is written, as far as its meaning depends on it. -/
inductive Token
  | documentStart
  | documentEnd
  | directive
  | blockSequence
  | blockMapping
  | blockEnd
  | flowSequence
  | flowSequenceEnd
  | flowMapping
  | flowMappingEnd
  | entry
  | flowEntry
  | key
  | value
  | alias (name : String)
  | anchor (name : String)
  | tag (name : String)
  | scalar (text : String) (plain : Bool)
  deriving DecidableEq, Repr

/-- A token that may turn out to be the start of a key. -/
structure PossibleKey where
  token : Nat
  index : Nat
  line : Nat
  column : Nat
  required : Bool

/-- Where the reader of a document is. -/
structure Lexer where
  rest : List Char
  index : Nat := 0
  line : Nat := 0
  column : Nat := 0
  flow : Nat := 0
  indent : Int := -1
  indents : List Int := []
  allowKey : Bool := true
  keys : List (Nat × PossibleKey) := []
  tokens : Array Token := #[]

/-- A computation that reads a document; nothing if the document is malformed. -/
abbrev Lex := StateT Lexer Option

def isBreak (c : Char) : Bool :=
  c == '\n' || c == '\r' || c == '\x85' || c == '\u2028' || c == '\u2029'

/-- The end of the document, which no character of it can be. -/
def ending : Char := '\x00'

def isBreakOrEnd (c : Char) : Bool :=
  isBreak c || c == ending

/-- A character that ends a word: a space, a tab, or the end of a line or of the document. -/
def isGapOrEnd (c : Char) : Bool :=
  c == ' ' || c == '\t' || isBreakOrEnd c

/-- A character of the name of a directive. -/
def isDirectiveChar (c : Char) : Bool :=
  c.isAlphanum || c == '-' || c == '_'

/-- Whether some characters give a version that documents of this kind can have, perhaps before a
comment. -/
def isVersion (cs : List Char) : Bool :=
  let major := cs.takeWhile Char.isDigit
  match cs.drop major.length with
  | '.' :: cs =>
    let rest := cs.dropWhile Char.isDigit
    let note := rest.dropWhile (· == ' ')
    major.dropWhile (· == '0') == ['1'] && cs.head?.any Char.isDigit &&
      (note.isEmpty || (rest.head? == some ' ' && note.head? == some '#'))
  | _ => false

/-- Whether the rest of a line after a percent sign is a directive. -/
def isDirective (line : List Char) : Bool :=
  let name := line.takeWhile isDirectiveChar
  let rest := line.drop name.length
  !name.isEmpty && (rest.isEmpty || rest.head? == some ' ') &&
    (name != ['Y', 'A', 'M', 'L'] || isVersion (rest.dropWhile (· == ' ')))

/-- A character that a document may hold. -/
def isAllowed (c : Char) : Bool :=
  let n := c.toNat
  n == 0x9 || n == 0xa || n == 0xd || (0x20 ≤ n && n ≤ 0x7e) || n == 0x85 ||
    (0xa0 ≤ n && n ≤ 0xd7ff) || (0xe000 ≤ n && n ≤ 0xfffd) || 0x10000 ≤ n

namespace Lex

/-- The reader gives up. -/
def fail {α : Type} : Lex α := fun _ => none

/-- The character so many places ahead. -/
def peek (n : Nat := 0) : Lex Char := do
  return (← get).rest.getD n ending

/-- Consumes one character. -/
def skip : Lex Unit :=
  modify fun s =>
    match s.rest with
    | [] => s
    | c :: cs =>
      let s := { s with rest := cs, index := s.index + 1 }
      if isBreak c && !(c == '\r' && cs.head? == some '\n') then
        { s with line := s.line + 1, column := 0 }
      else if c == '\ufeff' then s
      else { s with column := s.column + 1 }

/-- Consumes `n` characters. -/
def skipMany : (n : Nat) → Lex Unit
  | 0 => return
  | n + 1 => do skip; skipMany n

/-- Consumes the characters in front of which a test holds. -/
def takeWhile (p : Char → Bool) : Lex (List Char) := do
  let cs := (← get).rest.takeWhile p
  skipMany cs.length
  return cs

/-- Consumes the end of a line and gives it as one character, if it is next. -/
def lineBreak : Lex (List Char) := do
  let c ← peek
  if c == '\r' && (← peek 1) == '\n' then
    skipMany 2
    return ['\n']
  else if c == '\r' || c == '\n' || c == '\x85' then
    skip
    return ['\n']
  else if isBreak c then
    skip
    return [c]
  else return []

/-- Whether a line of three marks that divides documents comes next. -/
def atDivider : Lex Bool := do
  let s ← get
  let three := s.rest.take 3
  return (three == ['-', '-', '-'] || three == ['.', '.', '.']) &&
    isGapOrEnd (s.rest.getD 3 ending)

/-- Adds a token. -/
def emit (t : Token) : Lex Unit :=
  modify fun s => { s with tokens := s.tokens.push t }

/-- Puts a token in before the one with a number. -/
def insert (n : Nat) (t : Token) : Lex Unit :=
  modify fun s => { s with tokens := s.tokens.insertIdxIfInBounds n t }

/-- Forgets the possible key at the present level, unless it has to be one. -/
def dropKey : Lex Unit := do
  let s ← get
  match s.keys.lookup s.flow with
  | some k =>
    if k.required then fail
    set { s with keys := s.keys.filter (·.1 != s.flow) }
  | none => return

/-- Notes that the next token may be the start of a key. -/
def markKey : Lex Unit := do
  if (← get).allowKey then
    dropKey
    modify fun s =>
      let required := s.flow == 0 && s.indent == (s.column : Int)
      let k : PossibleKey := ⟨s.tokens.size, s.index, s.line, s.column, required⟩
      { s with keys := (s.flow, k) :: s.keys }

/-- Forgets the possible keys that are too far back. -/
def dropStale : Lex Unit := do
  let s ← get
  let stale (k : PossibleKey) : Bool := k.line != s.line || 1024 < s.index - k.index
  if s.keys.any fun k => stale k.2 && k.2.required then fail
  set { s with keys := s.keys.filter fun k => !stale k.2 }

/-- Closes the blocks that are indented more than a column. -/
def unwind (column : Int) : Lex Unit :=
  modify fun s =>
    if s.flow != 0 then s
    else
      let closed := (s.indent :: s.indents).takeWhile (column < ·)
      let kept := (s.indent :: s.indents).drop closed.length
      { s with
        indent := kept.headD (-1), indents := kept.drop 1
        tokens := s.tokens ++ (closed.map fun _ => Token.blockEnd).toArray }

/-- Opens a block at a column, if it is indented more than the present one. -/
def indentTo (column : Nat) : Lex Bool := do
  let s ← get
  if s.indent < column then
    set { s with indents := s.indent :: s.indents, indent := column }
    return true
  else return false

/-- Skips spaces, comments and line ends up to the next token. -/
def toNextToken : (fuel : Nat) → Lex Unit
  | 0 => return
  | fuel + 1 => do
    if (← get).index == 0 && (← peek) == '\ufeff' then skip
    let _ ← takeWhile (· == ' ')
    if (← peek) == '#' then
      let _ ← takeWhile fun c => !isBreakOrEnd c
    if (← lineBreak).isEmpty then return
    modify fun s => if s.flow == 0 then { s with allowKey := true } else s
    toNextToken fuel

/-- A token of so many characters. -/
def sign (t : Token) (length : Nat) : Lex Unit := do
  skipMany length
  emit t

/-- A mark between documents. -/
def divider (t : Token) (length : Nat) : Lex Unit := do
  unwind (-1)
  dropKey
  modify fun s => { s with allowKey := false }
  sign t length

/-- The start of a flow collection. -/
def openFlow (t : Token) : Lex Unit := do
  markKey
  modify fun s => { s with flow := s.flow + 1, allowKey := true }
  sign t 1

/-- The end of a flow collection. -/
def closeFlow (t : Token) : Lex Unit := do
  dropKey
  if (← get).flow == 0 then fail
  modify fun s => { s with flow := s.flow - 1, allowKey := false }
  sign t 1

/-- An entry of a block sequence. -/
def blockEntry : Lex Unit := do
  let s ← get
  if s.flow == 0 then
    if !s.allowKey then fail
    if ← indentTo s.column then emit .blockSequence
  modify fun s => { s with allowKey := true }
  dropKey
  sign .entry 1

/-- A key with a mark of its own. -/
def markedKey : Lex Unit := do
  let s ← get
  if s.flow == 0 then
    if !s.allowKey then fail
    if ← indentTo s.column then emit .blockMapping
  modify fun s => { s with allowKey := s.flow == 0 }
  dropKey
  sign .key 1

/-- A value; what stands before it on the line is its key. -/
def valueMark : Lex Unit := do
  let s ← get
  match s.keys.lookup s.flow with
  | some k =>
    set { s with keys := s.keys.filter (·.1 != s.flow) }
    insert k.token .key
    if s.flow == 0 then
      if ← indentTo k.column then insert k.token .blockMapping
    modify fun s => { s with allowKey := false }
  | none =>
    if s.flow == 0 then
      if !s.allowKey then fail
      if ← indentTo s.column then emit .blockMapping
    modify fun s => { s with allowKey := s.flow == 0 }
    dropKey
  sign .value 1

/-- The name of an anchor or alias. -/
def anchorName : Lex String := do
  skip
  let name ← takeWhile fun c => c.isAlphanum || c == '-' || c == '_'
  let c ← peek
  if name.isEmpty || !(isGapOrEnd c || "?:,]\x7d%@\x60".toList.contains c) then fail
  return String.ofList name

/-- A tag as it is written. -/
def tagName : Lex String := do
  let name ← takeWhile fun c => !isGapOrEnd c
  return String.ofList name

/-- Line ends and the spaces between them, inside a quoted scalar. -/
def quotedBreaks : (fuel : Nat) → Lex (List Char)
  | 0 => return []
  | fuel + 1 => do
    if ← atDivider then fail
    let _ ← takeWhile fun c => c == ' ' || c == '\t'
    match ← lineBreak with
    | [] => return []
    | b => return b ++ (← quotedBreaks fuel)

/-- Spaces and line ends inside a quoted scalar; a single line end is a space. -/
def quotedGap (fuel : Nat) : Lex (List Char) := do
  let gap ← takeWhile fun c => c == ' ' || c == '\t'
  let c ← peek
  if c == ending then fail
  if !isBreak c then return gap
  let first ← lineBreak
  let more ← quotedBreaks fuel
  return (if first != ['\n'] then first else if more.isEmpty then [' '] else []) ++ more

/-- The characters that have an escape of one letter. -/
def escapes : List (Char × Char) :=
  [('0', '\x00'), ('a', '\x07'), ('b', '\x08'), ('t', '\t'), ('\t', '\t'), ('n', '\n'),
    ('v', '\x0b'), ('f', '\x0c'), ('r', '\r'), ('e', '\x1b'), (' ', ' '), ('"', '"'),
    ('\\', '\\'), ('/', '/'), ('N', '\x85'), ('_', '\xa0'), ('L', '\u2028'), ('P', '\u2029')]

def isHex (c : Char) : Bool :=
  c.isDigit || ('a' ≤ c && c ≤ 'f') || ('A' ≤ c && c ≤ 'F')

/-- The characters of an escape after its backslash. -/
def escape (fuel : Nat) : Lex (List Char) := do
  let c ← peek
  match escapes.lookup c, [('x', 2), ('u', 4), ('U', 8)].lookup c with
  | some d, _ =>
    skip
    return [d]
  | none, some n =>
    skip
    let ds := (← get).rest.take n
    if ds.length != n || !ds.all isHex then fail
    let code : Nat := ds.foldl (fun k d =>
      16 * k + (if d.isDigit then d.toNat - 48 else d.toLower.toNat - 87)) 0
    if 0x10ffff < code then fail
    skipMany n
    return [Char.ofNat code]
  | none, none =>
    if isBreak c then
      let _ ← lineBreak
      quotedBreaks fuel
    else fail

/-- The text of a quoted scalar up to its closing quote. -/
def quotedText (quote : Char) : (fuel : Nat) → List Char → Lex (List Char)
  | 0, _ => fail
  | fuel + 1, done => do
    let plain ← takeWhile fun c =>
      !(c == '\'' || c == '"' || c == '\\' || isGapOrEnd c)
    let done := done ++ plain
    let c ← peek
    if quote == '\'' && c == '\'' && (← peek 1) == '\'' then
      skipMany 2
      quotedText quote fuel (done ++ ['\''])
    else if c == quote then
      skip
      return done
    else if c == '\\' && quote == '"' then
      skip
      let cs ← escape fuel
      quotedText quote fuel (done ++ cs)
    else if c == '\'' || c == '"' || c == '\\' then
      skip
      quotedText quote fuel (done ++ [c])
    else
      let gap ← quotedGap fuel
      quotedText quote fuel (done ++ gap)

/-- A quoted scalar. -/
def quotedScalar (quote : Char) : Lex Unit := do
  markKey
  modify fun s => { s with allowKey := false }
  skip
  let text ← quotedText quote ((← get).rest.length + 1) []
  emit (.scalar (String.ofList text) false)

/-- The length of the piece of a plain scalar that comes next. -/
def plainLength (inFlow : Bool) : List Char → Nat
  | [] => 0
  | c :: cs =>
    let next := cs.headD ending
    if isGapOrEnd c ||
        (c == ':' && (isGapOrEnd next || inFlow && ",[]\x7b\x7d".toList.contains next)) ||
        (inFlow && ",?[]\x7b\x7d".toList.contains c) then 0
    else plainLength inFlow cs + 1

/-- Line ends and spaces inside a plain scalar; nothing if a divider follows one. -/
def plainBreaks : (fuel : Nat) → List Char → Lex (Option (List Char))
  | 0, done => return some done
  | fuel + 1, done => do
    let c ← peek
    if c == ' ' then
      skip
      plainBreaks fuel done
    else if isBreak c then
      let b ← lineBreak
      if ← atDivider then return none
      plainBreaks fuel (done ++ b)
    else return some done

/-- The spaces and line ends after a piece of a plain scalar; none if the scalar ends there. -/
def plainGap (fuel : Nat) : Lex (List Char) := do
  let gap ← takeWhile (· == ' ')
  if !isBreak (← peek) then return gap
  let first ← lineBreak
  modify fun s => { s with allowKey := true }
  if ← atDivider then return []
  match ← plainBreaks fuel [] with
  | none => return []
  | some more =>
    return (if first != ['\n'] then first else if more.isEmpty then [' '] else []) ++ more

/-- The pieces of a plain scalar, with the gap before the next one. -/
def plainText (least : Int) : (fuel : Nat) → List Char → List Char → Lex (List Char)
  | 0, done, _ => return done
  | fuel + 1, done, gap => do
    let s ← get
    if s.rest.head? == some '#' then return done
    let n := plainLength (s.flow != 0) s.rest
    if n == 0 then return done
    let piece := s.rest.take n
    skipMany n
    modify fun s => { s with allowKey := false }
    let next ← plainGap fuel
    let s ← get
    let done := done ++ gap ++ piece
    if next.isEmpty || s.rest.head? == some '#' ||
        (s.flow == 0 && (s.column : Int) < least) then return done
    plainText least fuel done next

/-- A plain scalar. -/
def plainScalar : Lex Unit := do
  markKey
  modify fun s => { s with allowKey := false }
  let s ← get
  let text ← plainText (s.indent + 1) (s.rest.length + 1) [] []
  emit (.scalar (String.ofList text) true)

/-- How the end of a block scalar is kept. -/
inductive Chomp
  | strip
  | clip
  | keep
  deriving DecidableEq

/-- The chomping that a block scalar asks for, if it comes next. -/
def chomp? : Lex (Option Chomp) := do
  let c ← peek
  if c == '+' then
    skip
    return some .keep
  else if c == '-' then
    skip
    return some .strip
  else return none

/-- The indentation that a block scalar asks for, if it comes next. -/
def increment? : Lex (Option Nat) := do
  let c ← peek
  if c == '0' then fail
  if c.isDigit then
    skip
    return some (c.toNat - 48)
  else return none

/-- Empty lines at the start of a block scalar, and the greatest indentation among them. -/
def leadingBreaks : (fuel : Nat) → List Char → Nat → Lex (List Char × Nat)
  | 0, done, deepest => return (done, deepest)
  | fuel + 1, done, deepest => do
    if (← peek) == ' ' then
      skip
      leadingBreaks fuel done (max deepest (← get).column)
    else
      match ← lineBreak with
      | [] => return (done, deepest)
      | b => leadingBreaks fuel (done ++ b) deepest

/-- Spaces up to an indentation. -/
def toColumn (indent : Nat) : Lex Unit := do
  let s ← get
  let spaces := s.rest.takeWhile (· == ' ')
  skipMany (min spaces.length (indent - s.column))

/-- Empty lines inside a block scalar. -/
def innerBreaks (indent : Nat) : (fuel : Nat) → List Char → Lex (List Char)
  | 0, done => return done
  | fuel + 1, done => do
    toColumn indent
    match ← lineBreak with
    | [] => return done
    | b => innerBreaks indent fuel (done ++ b)

/-- The lines of a block scalar: their text, the last line end, and the empty lines after it. -/
def blockLines (folded : Bool) (indent : Nat) : (fuel : Nat) → List Char → List Char →
    List Char → Lex (List Char × List Char × List Char)
  | 0, done, last, breaks => return (done, last, breaks)
  | fuel + 1, done, last, breaks => do
    let s ← get
    if s.column != indent || s.rest.isEmpty then return (done, last, breaks)
    let flush := !(s.rest.headD ending == ' ' || s.rest.headD ending == '\t')
    let line ← takeWhile fun c => !isBreakOrEnd c
    let done := done ++ breaks ++ line
    let last ← lineBreak
    let breaks ← innerBreaks indent fuel []
    let s ← get
    if s.column == indent && !s.rest.isEmpty then
      let c := s.rest.headD ending
      let joint :=
        if folded && last == ['\n'] && flush && !(c == ' ' || c == '\t') then
          if breaks.isEmpty then [' '] else []
        else last
      blockLines folded indent fuel (done ++ joint) last breaks
    else return (done, last, breaks)

/-- A block scalar. -/
def blockScalar (folded : Bool) : Lex Unit := do
  modify fun s => { s with allowKey := true }
  dropKey
  skip
  let before ← chomp?
  let increment ← increment?
  let after ← if before.isNone then chomp? else pure none
  let chomp := (before.or after).getD .clip
  let _ ← takeWhile (· == ' ')
  if (← peek) == '#' then
    let _ ← takeWhile fun c => !isBreakOrEnd c
  if !isBreakOrEnd (← peek) then fail
  let _ ← lineBreak
  let s ← get
  let fuel := s.rest.length + 1
  let least := (max (s.indent + 1) 1).toNat
  let (indent, breaks) ←
    match increment with
    | some n => do
      let indent := least + n - 1
      pure (indent, ← innerBreaks indent fuel [])
    | none => do
      let (breaks, deepest) ← leadingBreaks fuel [] 0
      pure (max least deepest, breaks)
  let (text, last, breaks) ← blockLines folded indent fuel [] [] breaks
  let ended := if chomp = .strip then [] else if chomp = .keep then last ++ breaks else last
  emit (.scalar (String.ofList (text ++ ended)) false)

/-- Whether a plain scalar may start with a character, given the one after it. -/
def startsPlain (inFlow : Bool) (c next : Char) : Bool :=
  !(isGapOrEnd c || "-?:,[]\x7b\x7d#&*!|>'\"%@\x60".toList.contains c) ||
    (!isGapOrEnd next && (c == '-' || (!inFlow && (c == '?' || c == ':'))))

/-- Reads the next token, with the blocks that end before it; false at the end. -/
def token : Lex Bool := do
  toNextToken ((← get).rest.length + 1)
  dropStale
  unwind (← get).column
  let s ← get
  let c ← peek
  let next ← peek 1
  let inFlow := s.flow != 0
  if c == ending then
    unwind (-1)
    dropKey
    if inFlow then fail
    return false
  let divides ← atDivider
  if c == '%' && s.column == 0 then
    divider .directive 0
    let line ← takeWhile fun c => !isBreakOrEnd c
    if !isDirective (line.drop 1) then fail
  else if s.column == 0 && divides && c == '-' then divider .documentStart 3
  else if s.column == 0 && divides && c == '.' then divider .documentEnd 3
  else if c == '[' then openFlow .flowSequence
  else if c == '\x7b' then openFlow .flowMapping
  else if c == ']' then closeFlow .flowSequenceEnd
  else if c == '\x7d' then closeFlow .flowMappingEnd
  else if c == ',' then
    modify fun s => { s with allowKey := true }
    dropKey
    sign .flowEntry 1
  else if c == '-' && isGapOrEnd next then blockEntry
  else if c == '?' && (inFlow || isGapOrEnd next) then markedKey
  else if c == ':' && (inFlow || isGapOrEnd next) then valueMark
  else if c == '*' || c == '&' then
    markKey
    modify fun s => { s with allowKey := false }
    let name ← anchorName
    emit (if c == '*' then .alias name else .anchor name)
  else if c == '!' then
    markKey
    modify fun s => { s with allowKey := false }
    let name ← tagName
    emit (.tag name)
  else if c == '|' && !inFlow then blockScalar false
  else if c == '>' && !inFlow then blockScalar true
  else if c == '\'' || c == '"' then quotedScalar c
  else if startsPlain inFlow c next then plainScalar
  else fail
  return true

/-- All tokens of a document. -/
def tokens : (fuel : Nat) → Lex (List Token)
  | 0 => fail
  | fuel + 1 => do
    if ← token then tokens fuel else return (← get).tokens.toList

end Lex

/-- The tokens of a text. -/
def Token.scan? (cs : List Char) : Option (List Token) :=
  if cs.all isAllowed then ((Lex.tokens (2 * cs.length + 2)).run { rest := cs }).map (·.1)
  else none

end TapScript.Yaml

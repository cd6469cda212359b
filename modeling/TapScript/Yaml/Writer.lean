import TapScript.Text.Quoted
import TapScript.Yaml.Scalar
import TapScript.Yaml.Token

/-! # Writing documents

A mapping is written with each key on a line of its own and what lies below it indented by two
spaces. A text stands without quotes wherever it would be read back as that text; otherwise it is
quoted. Lines that grow beyond a limit are broken at a space.
-/

namespace TapScript.Yaml

/-- The column beyond which a line is broken. -/
def bestWidth : Nat := 80

/-- What matters about the characters of a text for how it can be written. -/
structure Traits where
  indicators : Bool
  breaks : Bool
  special : Bool
  edges : Bool
  breakSpace : Bool
  spaceBreak : Bool

/-- A line end inside a text to be written. -/
def isInnerBreak (c : Char) : Bool :=
  c == '\n' || c == '\x85' || c == '\u2028' || c == '\u2029'

/-- A character that can be written only by an escape. -/
def isSpecial (c : Char) : Bool :=
  let n := c.toNat
  !(c == '\n' || (0x20 ≤ n && n ≤ 0x7e) ||
    ((n == 0x85 || (0xa0 ≤ n && n ≤ 0xd7ff) || (0xe000 ≤ n && n ≤ 0xfffd) ||
      (0x10000 ≤ n && n < 0x10ffff)) && c != '\ufeff'))

/-- Whether a character after the first, between its neighbours, would be read as an indicator. -/
def indicates (before c next : Char) : Bool :=
  (c == ':' && isGapOrEnd next) || (c == '#' && isGapOrEnd before)

/-- Whether the first character would be read as an indicator. -/
def indicatesFirst (c next : Char) : Bool :=
  "#,[]\x7b\x7d&*!|>'\"%@\x60".toList.contains c ||
    ((c == '?' || c == ':' || c == '-') && isGapOrEnd next)

/-- Whether two neighbours are of given kinds. -/
def anyPair (p : Char → Char → Bool) : List Char → Bool
  | a :: b :: cs => p a b || anyPair p (b :: cs)
  | _ => false

/-- Whether some character has given neighbours. -/
def anyInside (p : Char → Char → Char → Bool) : List Char → Bool
  | a :: b :: cs => p a b (cs.headD ending) || anyInside p (b :: cs)
  | _ => false

/-- The traits of a text. -/
def Traits.ofText (cs : List Char) : Traits :=
  let isEdge (c : Option Char) : Bool := c.any fun c => c == ' ' || isInnerBreak c
  { indicators :=
      ["---".toList, "...".toList].contains (cs.take 3) ||
        (match cs with | c :: next => indicatesFirst c (next.headD ending) | [] => false) ||
        anyInside indicates cs
    breaks := cs.any isInnerBreak
    special := cs.any isSpecial
    edges := isEdge cs.head? || isEdge cs.getLast?
    breakSpace := anyPair (fun a b => isInnerBreak a && b == ' ') cs
    spaceBreak := anyPair (fun a b => a == ' ' && isInnerBreak b) cs }

/-- The ways to write a text. -/
inductive Style
  | plain
  | single
  | double
  deriving DecidableEq, Repr

/-- Whether a scalar without quotes is read as a text. -/
def readsAsText (s : String) : Bool :=
  match Scalar.ofPlain s with
  | .value (.text _) => true
  | _ => false

/-- The way to write a text. -/
def Style.ofText (s : String) : Style :=
  let t := Traits.ofText s.toList
  if readsAsText s && !(t.indicators || t.breaks || t.special || t.edges || t.breakSpace ||
      t.spaceBreak) then .plain
  else if t.breakSpace || t.spaceBreak || t.special then .double
  else .single

/-- What has been written, last character first, and the column it ends in. -/
structure Page where
  done : List Char := []
  column : Nat := 0

namespace Page

/-- Writes characters on the present line. -/
def put (p : Page) (cs : List Char) : Page :=
  ⟨cs.reverse ++ p.done, p.column + cs.length⟩

/-- Ends the line with a given character. -/
def endLine (p : Page) (c : Char) : Page :=
  ⟨c :: p.done, 0⟩

/-- Writes spaces up to an indentation. -/
def indentTo (p : Page) (indent : Nat) : Page :=
  p.put (List.replicate (indent - p.column) ' ')

/-- Goes on with a new line at an indentation. -/
def newLine (p : Page) (indent : Nat) : Page :=
  (p.endLine '\n').indentTo indent

/-- The characters written. -/
def text (p : Page) : List Char :=
  p.done.reverse

end Page

/-- Writes words with spaces and line ends between them. A single space, neither first nor last,
is where a line that is too long is broken. -/
def writeRuns (indent : Nat) (inner : Char → List Char) (first : Bool) :
    (fuel : Nat) → List Char → Page → Page
  | 0, _, p => p
  | fuel + 1, cs, p =>
    match cs with
    | [] => p
    | c :: _ =>
      if c == ' ' then
        let spaces := cs.takeWhile (· == ' ')
        let rest := cs.drop spaces.length
        let p :=
          if spaces.length == 1 && bestWidth < p.column && !first && !rest.isEmpty then
            p.newLine indent
          else p.put spaces
        writeRuns indent inner false fuel rest p
      else if isInnerBreak c then
        let breaks := cs.takeWhile isInnerBreak
        let p := if c == '\n' then p.endLine '\n' else p
        let p := (breaks.foldl Page.endLine p).indentTo indent
        writeRuns indent inner false fuel (cs.drop breaks.length) p
      else
        let word := cs.takeWhile fun c => !(c == ' ' || isInnerBreak c)
        writeRuns indent inner false fuel (cs.drop word.length) (p.put (word.flatMap inner))

/-- The letters of the characters that have an escape of one letter. -/
def escapeLetters : List (Char × Char) :=
  [('\x00', '0'), ('\x07', 'a'), ('\x08', 'b'), ('\t', 't'), ('\n', 'n'), ('\x0b', 'v'),
    ('\x0c', 'f'), ('\r', 'r'), ('\x1b', 'e'), ('"', '"'), ('\\', '\\'), ('\x85', 'N'),
    ('\xa0', '_'), ('\u2028', 'L'), ('\u2029', 'P')]

/-- Hexadecimal digits in upper case. -/
def upperHex (width n : Nat) : List Char :=
  (Text.hex width n).map Char.toUpper

/-- One character between double quotes. -/
def doubleEscape (c : Char) : List Char :=
  let n := c.toNat
  if c != '"' && c != '\\' && ((0x20 ≤ n && n ≤ 0x7e) || (0xa0 ≤ n && n ≤ 0xd7ff &&
      c != '\u2028' && c != '\u2029') || (0xe000 ≤ n && n ≤ 0xfffd && c != '\ufeff')) then [c]
  else
    match escapeLetters.lookup c with
    | some d => ['\\', d]
    | none =>
      if n < 0x100 then '\\' :: 'x' :: upperHex 2 n
      else if n < 0x10000 then '\\' :: 'u' :: upperHex 4 n
      else '\\' :: 'U' :: upperHex 8 n

/-- Writes text between double quotes; `held` are characters on the way to the page. A line that
is too long is broken before a space or after an escape, with a backslash at its end. -/
def writeDouble (indent : Nat) (first : Bool) : (held : List Char) → List Char → Page → Page
  | held, [], p => p.put held
  | held, c :: cs, p =>
    let shown := doubleEscape c
    let isEscape := shown != [c]
    let p := if isEscape then (p.put held).put shown else p
    let held := if isEscape then [] else held
    let breakHere := !first && !cs.isEmpty && (c == ' ' || isEscape) &&
      bestWidth < p.column + held.length
    if breakHere then
      let p := (p.put (held ++ ['\\'])).newLine indent
      if isEscape then
        let p := if cs.head? == some ' ' then p.put ['\\'] else p
        writeDouble indent false [] cs p
      else writeDouble indent false [c] cs (p.put ['\\'])
    else writeDouble indent false (if isEscape then held else held ++ [c]) cs p

/-- Writes a text after a key. -/
def writeText (indent : Nat) (s : String) (p : Page) : Page :=
  let cs := s.toList
  match Style.ofText s with
  | .plain => writeRuns indent (fun c => [c]) false (cs.length + 1) cs (p.put [' '])
  | .single =>
    let inner (c : Char) : List Char := if c == '\'' then [c, c] else [c]
    (writeRuns indent inner true (cs.length + 1) cs (p.put [' ', '\''])).put ['\'']
  | .double => (writeDouble indent true [] cs (p.put [' ', '"'])).put ['"']

mutual

/-- Writes a value after its key; the lines below it are indented. -/
def writeValue (indent : Nat) : Value → Page → Page
  | .none, p => p.put " null".toList
  | .bool b, p => p.put (if b then " true".toList else " false".toList)
  | .int n, p => p.put (' ' :: (toString n).toList)
  | .text s, p => writeText (indent + 2) s p
  | .map _ es, p =>
    if es.isEmpty then p.put " \x7b\x7d".toList
    else writeEntries (indent + 2) es (p.newLine (indent + 2))
  | _, p => p

/-- Writes the entries of a mapping on lines of their own. -/
def writeEntries (indent : Nat) : List (Value × Value) → Page → Page
  | [], p => p
  | [(k, v)], p => writeEntry indent k v p
  | (k, v) :: es, p => writeEntries indent es ((writeEntry indent k v p).newLine indent)

/-- Writes one entry. -/
def writeEntry (indent : Nat) (k v : Value) (p : Page) : Page :=
  match k with
  | .text k => writeValue indent v (p.put (k.toList ++ [':']))
  | _ => writeValue indent v (p.put [':'])

end

/-- Whether the texts of two keys are in order. -/
def keysInOrder (a b : Value × Value) : Bool :=
  match a.1, b.1 with
  | .text s, .text t => !decide (t < s)
  | _, _ => true

mutual

/-- A value with the keys of all mappings in it in order. -/
def sortedValue : Value → Value
  | .map b es => .map b ((sortedValues es).mergeSort keysInOrder)
  | v => v

/-- Entries with values whose keys are in order. -/
def sortedValues : List (Value × Value) → List (Value × Value)
  | [] => []
  | (k, v) :: es => (k, sortedValue v) :: sortedValues es

end

/-- Entries in the order of their keys, at every depth. -/
def sorted (es : List (Value × Value)) : List (Value × Value) :=
  (sortedValues es).mergeSort keysInOrder

/-- The document of a mapping. -/
def write (es : List (Value × Value)) : String :=
  if es.isEmpty then "\x7b\x7d\n" else String.ofList ((writeEntries 0 es {}).endLine '\n').text

end TapScript.Yaml

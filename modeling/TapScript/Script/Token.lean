import TapScript.Text.Quoted

/-! # Tokens

A command line is a sequence of tokens between spaces and tabs. A quote of either kind opens a
span in which everything up to the next quote of that kind is literal; the closing quote ends the
token, and so does the end of the line. A token is quoted if a quote opened while it was read.
-/

namespace TapScript

/-- A piece of a command line. -/
structure Token where
  text : String
  quoted : Bool
  deriving DecidableEq, Repr

namespace Token

/-- A character between tokens. -/
def isGap (c : Char) : Bool :=
  c == ' ' || c == '\t'

/-- A character that opens a literal span. -/
def isQuote (c : Char) : Bool :=
  c == '"' || c == '\''

/-- What the reader of a line has in hand, its characters last first. -/
inductive Reading
  | between
  | bare (taken : List Char)
  | within (quote : Char) (taken : List Char)

namespace Reading

/-- The characters taken so far, last first. -/
def taken : Reading → List Char
  | between => []
  | bare cs | within _ cs => cs

/-- The token in hand, if there is one. -/
def finish : Reading → List Token
  | between => []
  | bare cs => [⟨String.ofList cs.reverse, false⟩]
  | within _ cs => [⟨String.ofList cs.reverse, true⟩]

/-- The tokens of the rest of a line. -/
def tokens : Reading → List Char → List Token
  | r, [] => r.finish
  | within q taken, c :: cs =>
    if c = q then (within q taken).finish ++ tokens between cs
    else tokens (within q (c :: taken)) cs
  | r, c :: cs =>
    if isGap c then r.finish ++ tokens between cs
    else if isQuote c then tokens (within c r.taken) cs
    else tokens (bare (c :: r.taken)) cs

end Reading

/-- The tokens of a line. -/
def scan (line : String) : List Token :=
  Reading.between.tokens line.toList

/-- A token as it can be written in a line, quoted ones between a quote that they lack. -/
def written (t : Token) : String :=
  if !t.quoted then t.text
  else if t.text.toList.contains '"' then "'" ++ t.text ++ "'"
  else "\"" ++ t.text ++ "\""

/-- The form of a token in messages. -/
def shown (t : Token) : String :=
  if t.quoted then s!"Token({Text.quoted t.text}, quoted=True)" else s!"Token({Text.quoted t.text})"

/-- Whether a text stands between two quotes of one kind. -/
def isDelimited (s : String) : Bool :=
  match s.toList with
  | [] | [_] => false
  | c :: cs => isQuote c && cs.getLast? == some c

/-- A text without its first and last character. -/
def inner (s : String) : String :=
  String.ofList (s.toList.drop 1).dropLast

end Token

end TapScript

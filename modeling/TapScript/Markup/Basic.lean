/-! # Markup

Printed texts may hold style tags between brackets. A tag is left out of what is seen, and a
backslash before a tag makes it plain text. Escaping a text makes all tags in it plain.
-/

namespace TapScript.Markup

/-- A character that may open a tag. -/
def opensTag (c : Char) : Bool :=
  ('a' ≤ c && c ≤ 'z') || c = '#' || c = '/' || c = '@'

/-- What stands between the brackets of the tag that a text starts with. -/
def tag? : List Char → Option (List Char)
  | '[' :: c :: cs =>
    let body := cs.takeWhile fun d => d != '[' && d != ']'
    if opensTag c ∧ (cs.drop body.length).head? = some ']' then some (c :: body) else none
  | _ => none

/-- A tag with its brackets. -/
def bracketed (body : List Char) : List Char :=
  '[' :: body ++ [']']

/-- A part of a text: plain text, or a tag with the place of its bracket. -/
inductive Piece
  | plain (cs : List Char)
  | tag (body : List Char) (position : Nat)
  deriving DecidableEq, Repr

/-- The parts of a text that starts at a position. Of the backslashes before a tag every second
one is left out, and an odd one makes the tag plain; before any other bracket one is left out. -/
def pieces (position : Nat) : List Char → List Piece
  | [] => []
  | c :: cs =>
    let slashes := (c :: cs).takeWhile (· == '\\')
    let n := slashes.length
    let rest := (c :: cs).drop n
    match tag? rest with
    | some body =>
      let shown := List.replicate (n / 2) '\\'
      let next := pieces (position + n + body.length + 2) (rest.drop (body.length + 2))
      if n % 2 = 1 then .plain (shown ++ bracketed body) :: next
      else .plain shown :: .tag body (position + n) :: next
    | none =>
      if n = 0 then .plain [c] :: pieces (position + 1) cs
      else
        let shown := if rest.head? = some '[' then slashes.drop 1 else slashes
        .plain shown :: pieces (position + n) rest
termination_by cs => cs.length
decreasing_by all_goals grind

/-- A text with a backslash more before each tag than twice those that stood there. -/
def escapeTags : List Char → List Char
  | [] => []
  | c :: cs =>
    let slashes := (c :: cs).takeWhile (· == '\\')
    let n := slashes.length
    let rest := (c :: cs).drop n
    match tag? rest with
    | some body =>
      slashes ++ slashes ++ '\\' :: bracketed body ++ escapeTags (rest.drop (body.length + 2))
    | none => if n = 0 then c :: escapeTags cs else slashes ++ escapeTags rest
termination_by cs => cs.length
decreasing_by all_goals grind

/-- A text in which all tags are plain. A single backslash at the end is doubled, since a tag may
follow. -/
def escape (s : String) : String :=
  let cs := escapeTags s.toList
  match cs.reverse with
  | '\\' :: '\\' :: _ => String.ofList cs
  | '\\' :: _ => String.ofList (cs ++ ['\\'])
  | _ => String.ofList cs

end TapScript.Markup

import TapScript.Fault
import TapScript.Markup.Basic
import TapScript.Markup.Style

/-! # Rendering

Rendering a text leaves its tags out. Each closing tag must close an open one: the innermost of its
style, or any if it names none.
-/

namespace TapScript.Markup

/-- The name in a tag, which ends before an equality sign. -/
def tagName (body : List Char) : List Char :=
  body.takeWhile (· != '=')

/-- The error of a closing tag that closes no open one. -/
def unmatched (body : List Char) (position : Nat) : MarkupError :=
  let tag := String.ofList (bracketed body)
  ⟨s!"closing tag '{tag}' at position {position} doesn't match any open tag"⟩

/-- The error of a closing tag without a name when none is open. -/
def nothingOpen (position : Nat) : MarkupError :=
  ⟨s!"closing tag '[/]' at position {position} has nothing to close"⟩

/-- The open tags after a tag, given by the styles they name, the innermost first. -/
def follow (body : List Char) (position : Nat) (opened : List String) :
    Except MarkupError (List String) :=
  match tagName body with
  | '/' :: name =>
    if Text.trim name = [] then
      match opened with
      | [] => .error (nothingOpen position)
      | _ :: outer => .ok outer
    else
      let style := Style.canonical (String.ofList (Text.trim name))
      if opened.contains style then .ok (opened.erase style)
      else .error (unmatched body position)
  | name => .ok (Style.canonical (String.ofList name) :: opened)

/-- What is seen of some parts, when some tags are open. -/
def renderPieces : List Piece → (opened : List String) → Except MarkupError (List Char)
  | [], _ => .ok []
  | .plain cs :: ps, opened => (renderPieces ps opened).map (cs ++ ·)
  | .tag body position :: ps, opened => do renderPieces ps (← follow body position opened)

/-- A control character that is never printed. -/
def isDropped (c : Char) : Bool :=
  c = '\x07' || c = '\x08' || c = '\x0b' || c = '\x0c' || c = '\r'

/-- What is seen of a text. -/
def render (s : String) : Except MarkupError String :=
  (renderPieces (pieces 0 s.toList) []).map fun cs =>
    String.ofList (cs.filter (!isDropped ·))

end TapScript.Markup

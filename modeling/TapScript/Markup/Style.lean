import TapScript.Text.Blank
import TapScript.Text.Case

/-! # Styles

A style is named by words in any order: attributes, colours, a background and a link. A closing
tag may name the style of its opening tag in other words for the same.
-/

namespace TapScript.Markup

/-- A style, as far as words describe one. -/
structure Style where
  attributes : List (String × Bool) := []
  color : Option String := none
  background : Option String := none
  link : Option String := none
  deriving DecidableEq, Repr

namespace Style

/-- The attributes of styles, in the order in which they are named. -/
def attributeNames : List String :=
  ["bold", "dim", "italic", "underline", "blink", "blink2", "reverse", "conceal", "strike",
    "underline2", "frame", "encircle", "overline"]

/-- Short names of attributes. -/
def shortNames : List (String × String) :=
  [("b", "bold"), ("d", "dim"), ("i", "italic"), ("u", "underline"), ("r", "reverse"),
    ("c", "conceal"), ("s", "strike"), ("uu", "underline2"), ("o", "overline")]

/-- The attribute that a word names. -/
def attribute? (word : String) : Option String :=
  if attributeNames.contains word then some word else shortNames.lookup word

/-- The colours that have names of their own. -/
def colorNames : List String :=
  let basic := ["black", "red", "green", "yellow", "blue", "magenta", "cyan", "white"]
  "default" :: basic ++ basic.map ("bright_" ++ ·)

/-- Whether a word names a colour, or writes one by its three hexadecimal parts. -/
def isColor (word : String) : Bool :=
  colorNames.contains word ||
    match word.toList with
    | '#' :: ds => ds.length = 6 && ds.all fun c => c.isDigit || ('a' ≤ c && c ≤ 'f')
    | _ => false

/-- The words of a text. -/
def words (s : String) : List String :=
  let rec go : List Char → List (List Char)
    | [] => [[]]
    | c :: cs =>
      match go cs with
      | [] => []
      | w :: ws => if Text.isBlank c then [] :: w :: ws else (c :: w) :: ws
  ((go s.toList).filter (· ≠ [])).map String.ofList

/-- A text in lower case. -/
def lowered (s : String) : String :=
  String.ofList (s.toList.map Text.lower)

/-- The style with an attribute turned on or off. -/
def set (s : Style) (name : String) (on : Bool) : Style :=
  { s with attributes := s.attributes.filter (·.1 != name) ++ [(name, on)] }

/-- The style that some words add to another; nothing if one of them has no meaning. -/
def read? : List String → Style → Option Style
  | [], s => some s
  | given :: ws, s =>
    let word := lowered given
    if word = "on" ∨ word = "not" ∨ word = "link" then
      match ws with
      | [] => none
      | next :: ws =>
        if word = "on" then
          if isColor (lowered next) then read? ws { s with background := some (lowered next) }
          else none
        else if word = "not" then (attribute? next).bind fun a => read? ws (s.set a false)
        else read? ws { s with link := some next }
    else
      match attribute? word with
      | some a => read? ws (s.set a true)
      | none => if isColor word then read? ws { s with color := some word } else none

/-- The words for a style in their usual order. -/
def text (s : Style) : String :=
  let attributes := attributeNames.filterMap fun a =>
    (s.attributes.lookup a).map fun on => if on then a else "not " ++ a
  let colors := s.color.toList ++ (s.background.map ("on " ++ ·)).toList
  let all := attributes ++ colors ++ (s.link.map ("link " ++ ·)).toList
  if all.isEmpty then "none" else " ".intercalate all

/-- The usual name of a style: its words in their usual order, or else the name itself. -/
def canonical (name : String) : String :=
  if Text.trimmed name = "none" then "none"
  else
    match read? (words name) {} with
    | some s => s.text
    | none => lowered (Text.trimmed name)

end Style

end TapScript.Markup

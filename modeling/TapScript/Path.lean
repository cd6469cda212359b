import TapScript.Text.Quoted
import TapScript.Text.Split

/-! # Paths

A path is a root and a list of names. Reading one drops empty names and single dots and keeps
double dots, which only a file tree can resolve.
-/

namespace TapScript

/-- Where a path starts: at the working directory, or at the root, written once or twice. -/
inductive Anchor
  | here
  | root
  | doubleRoot
  deriving DecidableEq, Repr

/-- A path of a file system with slashes between names. -/
structure Path where
  anchor : Anchor
  parts : List String
  deriving DecidableEq, Repr

namespace Anchor

/-- The written form of the start of a path. -/
def text : Anchor → String
  | here => ""
  | root => "/"
  | doubleRoot => "//"

/-- The anchor that leading slashes write: exactly two are kept apart from one. -/
def ofSlashes : Nat → Anchor
  | 0 => here
  | 2 => doubleRoot
  | _ => root

end Anchor

namespace Path

/-- The names that a text holds between its slashes, without empty ones and single dots. -/
def namesOf (s : String) : List String :=
  (Text.pieces '/' s).filter fun n => n != "" && n != "."

/-- The path that a text writes. -/
def ofText (s : String) : Path :=
  ⟨.ofSlashes (s.toList.takeWhile (· == '/')).length, namesOf s⟩

instance : Coe String Path := ⟨ofText⟩

/-- The written form, a single dot for the empty path. -/
def text (p : Path) : String :=
  if p.anchor = .here ∧ p.parts = [] then "."
  else p.anchor.text ++ "/".intercalate p.parts

instance : ToString Path := ⟨text⟩

def isAbsolute (p : Path) : Bool :=
  p.anchor != .here

/-- The path `q` taken from `p`; an absolute `q` replaces `p`. -/
def join (p q : Path) : Path :=
  if q.isAbsolute then q else ⟨p.anchor, p.parts ++ q.parts⟩

/-- The last name, empty for a root and for the empty path. -/
def name (p : Path) : String :=
  p.parts.getLastD ""

/-- The path without its last name. -/
def parent (p : Path) : Path :=
  { p with parts := p.parts.dropLast }

/-- A name split before its last dot, unless that dot is the first or last character. -/
def splitName (name : String) : String × String :=
  let cs := name.toList.reverse
  let ext := cs.takeWhile (· != '.')
  let stem := (cs.dropWhile (· != '.')).drop 1
  if ext.isEmpty || stem.isEmpty then (name, "")
  else (String.ofList stem.reverse, String.ofList ('.' :: ext.reverse))

/-- The last name without its suffix. -/
def stem (p : Path) : String :=
  (splitName p.name).1

/-- The suffix of the last name, with its dot. -/
def suffix (p : Path) : String :=
  (splitName p.name).2

/-- The path with another suffix; nothing when there is no name to put it on. -/
def withSuffix? (p : Path) (s : String) : Option Path :=
  if p.name = "" then none
  else some { p with parts := p.parts.dropLast ++ [p.stem ++ s] }

/-- What remains of the names of `p` below `q`. -/
def below? (p q : Path) : Option (List String) :=
  if p.anchor = q.anchor && q.parts.isPrefixOf p.parts then some (p.parts.drop q.parts.length)
  else none

@[simp] theorem join_absolute {p q : Path} (h : q.isAbsolute = true) : p.join q = q := by
  simp [join, h]

end Path

end TapScript

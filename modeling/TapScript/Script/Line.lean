import TapScript.FileTree
import TapScript.Text.Blank
import TapScript.Text.Split

/-! # Lines

A script is read line by line. Lines are numbered from one; blank lines and comments count but
hold no command.
-/

namespace TapScript

/-- A line that holds a command. -/
structure Line where
  number : Nat
  text : String
  deriving DecidableEq, Repr

namespace Line

/-- Whether a line holds a command: it is neither blank nor a comment. -/
def isExecutable (line : List Char) : Bool :=
  match Text.trim line with
  | [] => false
  | '/' :: '/' :: _ => false
  | _ => true

/-- A line without the carriage return that may end it. -/
def withoutReturn (line : List Char) : List Char :=
  if line.getLast? = some '\r' then line.dropLast else line

/-- The lines that hold commands, numbered on from a first number. -/
def numbered : Nat → List (List Char) → List Line
  | _, [] => []
  | n, l :: ls =>
    let text := withoutReturn l
    if isExecutable text then ⟨n, String.ofList text⟩ :: numbered (n + 1) ls
    else numbered (n + 1) ls

/-- The lines of a script that hold commands. -/
def scan (contents : String) : List Line :=
  numbered 1 (Text.splitOn '\n' contents.toList)

end Line

namespace Text

/-- Every line end as a line feed. -/
def unifyLineEnds : List Char → List Char
  | [] => []
  | '\r' :: '\n' :: cs => '\n' :: unifyLineEnds cs
  | '\r' :: cs => '\n' :: unifyLineEnds cs
  | c :: cs => c :: unifyLineEnds cs

/-- The bytes after a byte order mark; a mark that is cut off leaves nothing. -/
def dropMark : List UInt8 → List UInt8
  | 0xef :: 0xbb :: 0xbf :: bs => bs
  | [0xef, 0xbb] | [0xef] => []
  | bs => bs

/-- The text of a script file. -/
def ofScriptBytes (bs : List UInt8) : Except DecodeError String :=
  (decode (dropMark bs)).map fun cs => String.ofList (unifyLineEnds cs)

end Text

namespace FileTree

/-- The bytes of a file; a program file is not taken for text. -/
def readBytes (t : FileTree) (p : Path) : Except Mishap (List UInt8) :=
  (t.read p).map fun c => match c with | .bytes bs => bs | .program _ => []

/-- The text of a script file. -/
def readScript (t : FileTree) (p : Path) : Except Mishap String := do
  (Text.ofScriptBytes (← t.readBytes p)).mapError .decoding

end FileTree

end TapScript

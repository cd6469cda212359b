import TapScript.Text.Quoted

/-! # File errors

What a file system answers when it cannot do what it is asked, with the path as it was given.
-/

namespace TapScript

/-- Why the file system refused. -/
inductive FileError.Cause
  | missing
  | alreadyExists
  | notDirectory
  | isDirectory
  | invalid
  | nameTooLong
  | notEmpty
  deriving DecidableEq, Repr

/-- A refusal of the file system. -/
structure FileError where
  cause : FileError.Cause
  path : String
  deriving DecidableEq, Repr

namespace FileError

/-- The error number of a cause. -/
def Cause.number : Cause → Nat
  | missing => 2
  | alreadyExists => 17
  | notDirectory => 20
  | isDirectory => 21
  | invalid => 22
  | nameTooLong => 36
  | notEmpty => 39

def Cause.message : Cause → String
  | missing => "No such file or directory"
  | alreadyExists => "File exists"
  | notDirectory => "Not a directory"
  | isDirectory => "Is a directory"
  | invalid => "Invalid argument"
  | nameTooLong => "File name too long"
  | notEmpty => "Directory not empty"

def message (e : FileError) : String :=
  s!"[Errno {e.cause.number}] {e.cause.message}: {Text.quoted e.path}"

end FileError

end TapScript

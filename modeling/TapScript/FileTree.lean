import TapScript.Library.Module

/-! # File trees

A file system is a table from locations, given as the names from the root down, to directories
and files. Paths are walked name by name, so that a double dot leads to the directory above and
every name but the last must lead to a directory.
-/

namespace TapScript

/-- The names that lead from the root of a file system to a place in it. -/
abbrev Location := List String

/-- What a file holds: bytes, or the program that the module of that file is. -/
inductive Content
  | bytes (bs : List UInt8)
  | program (m : Module)

/-- What stands at a location. -/
inductive Entry
  | dir
  | file (c : Content)

namespace Entry

def isFile : Entry → Bool
  | file _ => true
  | dir => false

def isDir : Entry → Bool
  | dir => true
  | file _ => false

end Entry

/-- A file system, with the working directory and the home directories of its users. -/
structure FileTree where
  entries : List (Location × Entry)
  here : Location
  homes : List (String × Path)

namespace FileTree

open FileError (Cause)

/-- What stands at a location; the root is always a directory. -/
def entryAt? (t : FileTree) (l : Location) : Option Entry :=
  if l = [] then some .dir else t.entries.lookup l

/-- The tree with an entry at a location, in place of what stood there. -/
def put (t : FileTree) (l : Location) (e : Entry) : FileTree :=
  { t with entries := t.entries.filter (·.1 != l) ++ [(l, e)] }

/-- The tree without the entries of which the location test holds. -/
def dropWhere (t : FileTree) (p : Location → Bool) : FileTree :=
  { t with entries := t.entries.filter fun e => !p e.1 }

/-- The longest name that a directory can hold, in bytes. -/
def longestName : Nat := 255

/-- The longest path that can be walked, in bytes. -/
def longestPath : Nat := 4095

/-- One step of a walk, from a location to the one that a name leads to. -/
def step (t : FileTree) (l : Location) (name : String) : Except Cause Location :=
  match t.entryAt? l with
  | none => .error .missing
  | some (.file _) => .error .notDirectory
  | some .dir =>
    if name = ".." then .ok l.dropLast
    else if longestName < name.utf8ByteSize then .error .nameTooLong
    else .ok (l ++ [name])

/-- The location that a path starts from. -/
def start (t : FileTree) (p : Path) : Location :=
  if p.isAbsolute then [] else t.here

/-- The location that a path leads to; nothing needs to stand there. -/
def reach (t : FileTree) (p : Path) : Except Cause Location :=
  if longestPath < p.text.utf8ByteSize then .error .nameTooLong
  else p.parts.foldlM t.step (t.start p)

/-- What stands where a path leads. -/
def status (t : FileTree) (p : Path) : Except Cause Entry := do
  match t.entryAt? (← t.reach p) with
  | some e => .ok e
  | none => .error .missing

/-- Whether something stands where a path leads that passes a test. A path that no directory
can hold is an error, not an absence. -/
def probe (t : FileTree) (p : Path) (test : Entry → Bool) : Except FileError Bool :=
  if p.text.toList.contains '\x00' then .ok false
  else
    match t.status p with
    | .ok e => .ok (test e)
    | .error .nameTooLong => .error ⟨.nameTooLong, p.text⟩
    | .error _ => .ok false

def isFile (t : FileTree) (p : Path) : Except FileError Bool :=
  t.probe p Entry.isFile

def isDir (t : FileTree) (p : Path) : Except FileError Bool :=
  t.probe p Entry.isDir

def exists? (t : FileTree) (p : Path) : Except FileError Bool :=
  t.probe p fun _ => true

/-- The content of a file. -/
def read (t : FileTree) (p : Path) : Except Mishap Content :=
  if p.text.toList.contains '\x00' then .error .nullByte
  else
    match t.status p with
    | .ok (.file c) => .ok c
    | .ok .dir => .error (.file ⟨.isDirectory, p.text⟩)
    | .error c => .error (.file ⟨c, p.text⟩)

/-- The tree after a file is written. -/
def write (t : FileTree) (p : Path) (c : Content) : Except Mishap FileTree :=
  let refuse (cause : Cause) : Except Mishap FileTree := .error (.file ⟨cause, p.text⟩)
  if p.text.toList.contains '\x00' then .error .nullByte
  else
    match t.reach p with
    | .error e => refuse e
    | .ok l =>
      match t.entryAt? l, t.entryAt? l.dropLast with
      | some .dir, _ => refuse .isDirectory
      | some (.file _), _ => .ok (t.put l (.file c))
      | none, some .dir => .ok (t.put l (.file c))
      | none, some (.file _) => refuse .notDirectory
      | none, none => refuse .missing

/-- The tree with a new directory in an existing one. -/
def makeDir (t : FileTree) (p : Path) : Except FileError FileTree :=
  match t.reach p with
  | .error e => .error ⟨e, p.text⟩
  | .ok l =>
    match t.entryAt? l, t.entryAt? l.dropLast with
    | some _, _ => .error ⟨.alreadyExists, p.text⟩
    | none, some .dir => .ok (t.put l .dir)
    | none, some (.file _) => .error ⟨.notDirectory, p.text⟩
    | none, none => .error ⟨.missing, p.text⟩

/-- `makeDir`, content with a directory that exists already. -/
def ensureDir (t : FileTree) (p : Path) : Except FileError FileTree :=
  match t.makeDir p with
  | .ok t => .ok t
  | .error e =>
    if e.cause = .missing then .error e
    else do if ← t.isDir p then .ok t else .error e

/-- `ensureDir` for a path given by its names in reverse, making the missing directories above. -/
def ensureDirsAbove (t : FileTree) (anchor : Anchor) : List String → Except FileError FileTree
  | [] => t.ensureDir ⟨anchor, []⟩
  | name :: above =>
    let p : Path := ⟨anchor, (name :: above).reverse⟩
    match t.ensureDir p with
    | .ok t => .ok t
    | .error e =>
      if e.cause = .missing then do
        let t ← ensureDirsAbove t anchor above
        t.ensureDir p
      else .error e

/-- The tree with a directory at a path and all missing directories above it. -/
def ensureDirs (t : FileTree) (p : Path) : Except Mishap FileTree :=
  if p.text.toList.contains '\x00' then .error .nullByte
  else (t.ensureDirsAbove p.anchor p.parts.reverse).mapError .file

/-- Whether a location lies strictly below another. -/
def isBelow (above l : Location) : Bool :=
  above.isPrefixOf l && above != l

/-- The tree without the directory at a path and all that lies below it. What lies below goes
first, and stays gone when the directory itself cannot be removed. -/
def removeTree (t : FileTree) (p : Path) : Except Mishap Unit × FileTree :=
  let refuse (cause : Cause) : Except Mishap Unit := .error (.file ⟨cause, p.text⟩)
  match t.reach p with
  | .error e => (refuse e, t)
  | .ok l =>
    match t.entryAt? l with
    | none => (refuse .missing, t)
    | some (.file _) => (refuse .notDirectory, t)
    | some .dir =>
      let emptied := t.dropWhere (isBelow l)
      match p.parts.getLast?, emptied.reach p with
      | none, _ => (refuse .invalid, emptied)
      | some _, .error e => (refuse e, emptied)
      | some name, .ok l' =>
        if name = ".." then (refuse .notEmpty, emptied)
        else (.ok (), emptied.dropWhere (· == l'))

/-- The entries strictly below a location, with their names from there. -/
def below (t : FileTree) (l : Location) : List (List String × Entry) :=
  (t.entries.filter fun e => isBelow l e.1).map fun e => (e.1.drop l.length, e.2)

/-- The path of a directory below the one at a location that is too long for it to be opened, if
there is one. The paths are those from a path that leads to the location. -/
def unopened? (t : FileTree) (p : Path) (l : Location) : Option Path :=
  (t.below l).findSome? fun (names, e) =>
    let path : Path := ⟨p.anchor, p.parts ++ names⟩
    if e.isDir && decide (longestPath < path.text.utf8ByteSize) then some path else none

/-- The names in the directory at a location. -/
def names (t : FileTree) (l : Location) : List String :=
  (t.below l).filterMap fun e => match e.1 with | [n] => some n | _ => none

/-- The path with a leading tilde replaced by the home directory that it names. -/
def expandHome (t : FileTree) (p : Path) : Except Mishap Path :=
  match p.anchor, p.parts with
  | .here, first :: rest =>
    match first.toList with
    | '~' :: user =>
      match t.homes.lookup (String.ofList user) with
      | some home => .ok ⟨home.anchor, home.parts ++ rest⟩
      | none => .error .noHome
    | _ => .ok p
  | _, _ => .ok p

end FileTree

end TapScript

import TapScript.Config.Settings
import TapScript.Script.Command

/-! # Libraries

A namespaced command is provided by a module file below the library root: the file named by the
namespace, or the file that stands for the directory of that name. A registry keeps each library
that it has loaded under a key, so that one key is loaded at most once.
-/

namespace TapScript

/-- A loaded library, with the namespace under which it was loaded first. -/
structure Library where
  name : String
  file : Path
  module : Module
  origin : List String

/-- The libraries loaded so far, and how to find others. -/
structure Registry where
  root : Option Path
  cacheKey : CacheKey
  loaded : List (String × Library) := []

namespace Library

/-- The routine of a command. -/
def routine (l : Library) (command : String) : Except Fault Routine := do
  match ← l.module.routine? command with
  | some r => return r
  | none => throw (.ofProblem (.noSuchCommand l.name l.file.text command))

/-- The names of the commands. -/
def commandNames (l : Library) : Except Fault (List String) :=
  l.module.commands.map fun commands => commands.map (·.1)

end Library

namespace Registry

/-- A namespace as it is written. -/
def dotted (segments : List String) : String :=
  ".".intercalate segments

/-- The key of a namespace; the empty namespace has no last segment. -/
def key (r : Registry) (segments : List String) : Except Fault String :=
  match r.cacheKey, segments.getLast? with
  | .path, _ => .ok (dotted segments)
  | .leaf, some s => .ok s
  | .leaf, none => .error (.mishap .noLastSegment)

/-- The path that a namespace names below the root, without a suffix. -/
def base (root : Path) (segments : List String) : Path :=
  segments.foldl (fun (p : Path) (s : String) => p.join (.ofText s)) root

/-- The files that can provide a namespace, in the order in which they are tried. -/
def candidates (root : Path) (segments : List String) : Except Fault (List Path) :=
  let b := base root segments
  match b.withSuffix? ".py" with
  | some file => .ok [file, b.join "__init__.py"]
  | none => .error (.mishap (.noName b.text))

/-- The first of some paths that is a file. -/
def firstFile? (t : FileTree) : List Path → Except Fault (Option Path)
  | [] => .ok none
  | p :: ps => do
    if ← (t.isFile p).mapError .ofFile then return some p else firstFile? t ps

/-- The file that provides a namespace. -/
def modulePath (r : Registry) (t : FileTree) (segments : List String) : Except Fault Path :=
  match r.root with
  | none => .error (.ofProblem (.noLibraries (dotted segments)))
  | some root => do
    match ← firstFile? t (← candidates root segments) with
    | some p => return p
    | none =>
      let b := base root segments
      .error (.ofProblem (.libraryNotFound b.text b.name (dotted segments)))

/-- The module of a file; a file that is no program defines nothing. -/
def moduleOf (t : FileTree) (p : Path) : Except Fault Module := do
  match ← (t.read p).mapError .mishap with
  | .program m => return m
  | .bytes _ => return ⟨none, [], none⟩

/-- The library of a namespace, read from its file. -/
def fetch (r : Registry) (t : FileTree) (key : String) (segments : List String) :
    Except Fault Library := do
  let file ← r.modulePath t segments
  let broken (f : Fault) : Fault :=
    .ofProblem (.libraryBroken file.text f.message (dotted segments))
  let module ← (moduleOf t file).mapError broken
  match module.fault with
  | some f => .error (broken f)
  | none => return ⟨key, file, module, segments⟩

/-- The library of a namespace, loaded on first use. -/
def load (t : FileTree) (segments : List String) (r : Registry) :
    Except Fault Library × Registry :=
  if segments = [] then (.error (.ofProblem .builtinLibrary), r)
  else
    match r.key segments with
    | .error f => (.error f, r)
    | .ok key =>
      match r.loaded.lookup key with
      | some l => (.ok l, r)
      | none =>
        match r.fetch t key segments with
        | .error f => (.error f, r)
        | .ok l => (.ok l, { r with loaded := r.loaded ++ [(key, l)] })

/-- A fault of loading, at the place of the command that needs the library. -/
def blame (c : Command) : Fault → Fault
  | .problem p q => .problem p (if p.category = .libraryLoad then c.place else q)
  | f => f

/-- The libraries that some commands name, all loaded, each listed once. -/
def prepare (t : FileTree) : List Command → Registry → Except Fault (List Library) × Registry
  | [], r => (.ok [], r)
  | c :: cs, r =>
    if c.library = [] then prepare t cs r
    else
      match r.load t c.library with
      | (.error f, r) => (.error (blame c f), r)
      | (.ok l, r) =>
        match prepare t cs r with
        | (.ok ls, r) => (.ok (l :: ls.filter (·.name != l.name)), r)
        | (.error f, r) => (.error f, r)

/-- The namespace that a file below the root stands for, given by its names from there. -/
def namespaceOf (names : List String) : List String :=
  match names.getLast? with
  | some "__init__.py" => names.dropLast
  | some n => names.dropLast ++ [(Path.splitName n).1]
  | none => []

/-- A segment that a listing leaves out. -/
def isHidden (segment : String) : Bool :=
  match segment.toList with
  | '.' :: _ | '_' :: _ => true
  | _ => false

/-- Whether the entries of a listing are in order. -/
def inOrder (a b : List String) : Bool :=
  !(decide (b < a))

/-- The libraries below the root, as namespaces and files. All directories below the root are opened
for it, those without libraries too. -/
def scan (r : Registry) (t : FileTree) : Except Fault (List (List String × Path)) := do
  let some root := r.root | return []
  unless ← (t.isDir root).mapError .ofFile do return []
  match t.reach root with
  | .error _ => return []
  | .ok l =>
    match t.unopened? root l with
    | some p => throw (.ofFile ⟨.nameTooLong, p.text⟩)
    | none =>
      let files := ((t.below l).map (·.1)).filter fun ns => (ns.getLastD "").endsWith ".py"
      return (files.mergeSort inOrder).filterMap fun names =>
        let segments := namespaceOf names
        if segments = [] ∨ segments.any isHidden then none
        else some (segments, ⟨root.anchor, root.parts ++ names⟩)

end Registry

end TapScript

import TapScript.Yaml.File

/-! # Lookup files

The dictionaries of a run come from files: a data file holds one, and a program file defines one
under a name, or else by all its public names together.
-/

namespace TapScript

namespace Module

/-- The value that a module defines under a name, or else the mapping of its public names. -/
def dictionary (m : Module) (name : Option String) : Value :=
  match name.bind fun n => if n = "" then none else m.members.lookup n with
  | some member => member.value
  | none => .ofPairs ((m.members.filter fun d => !isPrivate d.1).map fun d => (d.1, d.2.value))

end Module

namespace FileTree

/-- The value that a program file defines under a name. -/
def readProgram (t : FileTree) (p : Path) (name : Option String) : Except Fault Value := do
  match ← (t.read p).mapError .mishap with
  | .bytes _ => return .emptyMap
  | .program m =>
    match m.fault with
    | some f => throw f
    | none => return m.dictionary name

/-- The dictionary in a lookup file, empty without a file. -/
def readLookup (t : FileTree) (file : Option Path) (name : Option String) :
    Except Fault Value := do
  let some p := file | return .emptyMap
  let refuse (e : LookupFileError) : Fault := .mishap (.lookupFile e)
  unless ← (t.exists? p).mapError .ofFile do throw (refuse (.missing p.text))
  let suffix := p.suffix.toLower
  let v ←
    if suffix = ".yaml" ∨ suffix = ".yml" ∨ suffix = ".json" then
      (t.readData p).mapError .mishap
    else if suffix = ".py" then t.readProgram p name
    else throw (refuse (.unsupported p.text))
  if v.isMap then return v else throw (refuse (.noMapping p.text))

end FileTree

end TapScript

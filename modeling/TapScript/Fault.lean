import TapScript.Arity
import TapScript.Config.Issue
import TapScript.FileError
import TapScript.Integer
import TapScript.Path
import TapScript.Regex.Error
import TapScript.Text.Utf8
import TapScript.Value.Text

/-! # Faults

What ends a command or a run: a problem with the script, which has a place in it, a failed check,
or a mishap outside the script. A fault of the first two kinds that has no place yet gets the
place of the innermost command that was running.
-/

namespace TapScript

/-- The families of script problems. -/
inductive Category
  | script
  | parse
  | malformed
  | resolution
  | libraryLoad
  | missingArgument
  | unknownCommand
  | driver
  | notFound
  deriving DecidableEq, Repr

namespace Category

/-- The family that a family belongs to. -/
def parent? : Category → Option Category
  | script => none
  | malformed => some parse
  | libraryLoad => some resolution
  | notFound => some driver
  | parse | resolution | missingArgument | unknownCommand | driver => some script

/-- Whether a problem of this family can have a dictionary path. -/
def hasPath : Category → Bool
  | resolution | libraryLoad => true
  | _ => false

end Category

/-- What a dictionary path names. -/
inductive Dictionary
  | value
  | element
  deriving DecidableEq, Repr

namespace Dictionary

def noun : Dictionary → String
  | value => "value"
  | element => "element"

end Dictionary

/-- Something wrong with a script or with what it asks for. -/
inductive Problem
  | noCommandName
  | undefined (kind : Dictionary) (path walked : String)
  | notLocator (path typeName : String)
  | noLibraries (library : String)
  | libraryNotFound (base name library : String)
  | libraryBroken (file cause library : String)
  | builtinLibrary
  | noSuchCommand (library file command : String)
  | unknownCommand (name : String)
  | unknownCheck (name : String)
  | noDuration
  | noScript
  | noElement (command : String)
  | noCheck
  | noText (action : String)
  | noCoordinates (action : String) (names : List String)
  | badNumber (action text : String)
  | badDuration (text : String)
  | nestedTooDeep (limit : Int)
  | scriptNotFound (path : String)
  | elementAbsent (locator strategy : String)
  | elementLate (locator strategy : String) (timeout : Int)
  | elementHidden
  | callFailed (action cause : String)
  | noSession
  | reported (category : Category) (message : String) (path : Option String)
  deriving DecidableEq, Repr

namespace Problem

def category : Problem → Category
  | noCommandName => .malformed
  | undefined .. | notLocator .. => .resolution
  | noLibraries _ | libraryNotFound .. | libraryBroken .. | builtinLibrary => .libraryLoad
  | noSuchCommand .. | unknownCommand _ | unknownCheck _ => .unknownCommand
  | noDuration | noScript | noElement _ | noCheck | noText _ | noCoordinates .. =>
    .missingArgument
  | badNumber .. | badDuration _ => .parse
  | nestedTooDeep _ | scriptNotFound _ => .script
  | elementAbsent .. | elementLate .. => .notFound
  | elementHidden | callFailed .. | noSession => .driver
  | reported c _ _ => c

/-- The dictionary path or library that the problem is about. -/
def path? : Problem → Option String
  | undefined _ p _ | notLocator p _ => some p
  | noLibraries l | libraryNotFound _ _ l | libraryBroken _ _ l => some l
  | reported _ _ p => p
  | _ => none

def message : Problem → String
  | noCommandName => "Missing command name"
  | undefined k p w => s!"Undefined {k.noun} '{p}' (no '{w}')"
  | notLocator p t => s!"Element '{p}' resolves to {t}, expected a locator string"
  | noLibraries l => s!"No library directory configured for '{l}'"
  | libraryNotFound b n _ => s!"Library not found: {b} (looked for {n}.py and {n}/__init__.py)"
  | libraryBroken f c _ => s!"Failed to load library {f}: {c}"
  | builtinLibrary => "Built-in commands have no library"
  | noSuchCommand l f c => s!"Library '{l}' ({f}) has no command '{c}'"
  | unknownCommand n => s!"Unknown command '{n}'"
  | unknownCheck n => s!"Unknown assertion '{n}'"
  | noDuration => "A duration in ms must be supplied for sleep command"
  | noScript => "A script path must be supplied for runScript command"
  | noElement c => s!"An element must be supplied for {c} command"
  | noCheck => "A check name and an element path must be supplied for assert command"
  | noText a => s!"No text given for {a} command"
  | noCoordinates a [x, y] =>
    s!"Both {x} and {y} coordinates (in that order) must be supplied for {a} command"
  | noCoordinates a names =>
    s!"{ArityError.enumeration names} (in that order) must be supplied for {a} command"
  | badNumber a t => s!"Expected a number for {a}, got '{t}'"
  | badDuration t => s!"Invalid sleep duration '{t}'"
  | nestedTooDeep n => s!"runScript nested deeper than {n} levels"
  | scriptNotFound p => s!"Script not found: {p}"
  | elementAbsent l s => s!"Element '{l}' ({s}) not found"
  | elementLate l s t => s!"Element '{l}' ({s}) not found within {t}ms"
  | elementHidden => "Cannot swipe an element that is not visible"
  | callFailed a c => s!"{a} failed: {c}"
  | noSession => "No automation session is active"
  | reported _ m _ => m

end Problem

/-- Where in a script something happened, as far as it is known. -/
structure Place where
  line : Option Int := none
  source : Option Path := none
  deriving DecidableEq, Repr

namespace Place

/-- A message with its place before it. -/
def locate (p : Place) (message : String) : String :=
  match p.line, p.source with
  | none, _ => message
  | some n, some f => s!"{f.name} line {n}: {message}"
  | some n, none => s!"line {n}: {message}"

/-- A known line is kept; otherwise the place is the other one. -/
def orElse (p q : Place) : Place :=
  if p.line.isSome then p else q

end Place

/-- A failed check, with what was found and what was asked for. -/
structure Mismatch where
  message : String
  actual : Value := .none
  expected : Value := .none

/-- What is wrong with a lookup file as a whole. -/
inductive LookupFileError
  | missing (path : String)
  | unsupported (path : String)
  | noMapping (path : String)
  deriving DecidableEq, Repr

namespace LookupFileError

def message : LookupFileError → String
  | missing p => s!"Lookup file not found: {p}"
  | unsupported p => s!"Unsupported lookup file type: {p}"
  | noMapping p => s!"Lookup file {p} does not define a mapping"

end LookupFileError

/-- A text that is no markup, and what is wrong with it. -/
structure MarkupError where
  message : String
  deriving DecidableEq, Repr

/-- A mishap that is no problem of the script. -/
inductive Mishap
  | file (e : FileError)
  | nullByte
  | decoding (e : Text.DecodeError)
  | pattern (e : Regex.Error)
  | arity (e : ArityError)
  | noReceiver
  | badInteger (e : IntegerError)
  | noLastSegment
  | noName (path : String)
  | noHome
  | notFinite
  | document
  | noSuchValue (reason : String)
  | lookupFile (e : LookupFileError)
  | notMapping (typeName : String)
  | keysNotText
  | settings (issues : List Issue)
  | markup (e : MarkupError)
  | page (message : String)
  | reported (kind message : String)
  deriving DecidableEq, Repr

namespace Mishap

def message : Mishap → String
  | file e => e.message
  | nullByte => "embedded null byte"
  | decoding e => e.message
  | pattern e => e.message
  | arity e => e.message
  | noReceiver => "not enough values to unpack (expected at least 1, got 0)"
  | badInteger e => e.message
  | noLastSegment => "tuple index out of range"
  | noName p => s!"PosixPath({Text.quoted p}) has an empty name"
  | noHome => "Could not determine home directory."
  | notFinite => "cannot convert float NaN to integer"
  | document => "malformed document"
  | noSuchValue r => r
  | lookupFile e => e.message
  | notMapping t => s!"'{t}' object has no attribute 'items'"
  | keysNotText => "keywords must be strings"
  | settings issues => s!"{issues.length} invalid settings"
  | markup e => e.message
  | page m => m
  | reported _ m => m

end Mishap

/-- What ends a command or a run. -/
inductive Fault
  | problem (problem : Problem) (place : Place)
  | mismatch (mismatch : Mismatch) (place : Place)
  | mishap (mishap : Mishap)

namespace Fault

/-- A script problem whose place is not known yet. -/
def ofProblem (p : Problem) : Fault :=
  .problem p {}

/-- A refusal of the file system. -/
def ofFile (e : FileError) : Fault :=
  .mishap (.file e)

/-- The text of a fault, with its place if it has one. -/
def message : Fault → String
  | problem p at_ => at_.locate p.message
  | mismatch m at_ => at_.locate m.message
  | mishap m => m.message

/-- The place of a fault that can have one. -/
def place? : Fault → Option Place
  | problem _ p | mismatch _ p => some p
  | mishap _ => none

/-- The fault with a place, unless it has a line already or can have none. -/
def placed (p : Place) : Fault → Fault
  | problem x q => problem x (q.orElse p)
  | mismatch x q => mismatch x (q.orElse p)
  | mishap x => mishap x

@[simp] theorem placed_mishap (p : Place) (m : Mishap) : (mishap m).placed p = mishap m := rfl

theorem place?_placed {p : Place} {f : Fault} :
    (f.placed p).place? = f.place?.map (·.orElse p) := by
  cases f <;> rfl

end Fault

end TapScript

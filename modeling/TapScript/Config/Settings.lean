/-! # Settings

What a run can be told: where its script and its lookup files are, which browser to use, how to
wait for elements, and where to leave the results.
-/

namespace TapScript

/-- How long to wait for an element, and how often to look, in milliseconds. -/
structure Polling where
  interval : Nat
  timeout : Int
  interval_pos : 0 < interval := by decide
  deriving DecidableEq, Repr

/-- Looking once a second for nine seconds. -/
def Polling.usual : Polling := ⟨1000, 9000, by decide⟩

/-- How commands are run. -/
structure Execution where
  commandDelay : Int := 1000
  polling : Polling := .usual
  labelName : String := "label"
  maxDepth : Int := 16
  deriving DecidableEq, Repr

/-- Where the script, the lookup files and the libraries are, and which names to take from lookup
files that are programs. -/
structure Places where
  script : Option String := none
  globalsFile : Option String := none
  elementsFile : Option String := none
  librariesDir : Option String := none
  globalsAttribute : String := "gp"
  elementsAttribute : String := "id"
  deriving DecidableEq, Repr

/-- The browsers that can be driven. -/
inductive BrowserKind
  | chromium
  | firefox
  | webkit
  deriving DecidableEq, Repr

/-- Which browser to use: a remote one, or one that is launched, and the size of its pages. -/
structure BrowserSettings where
  remote : Option String := none
  kind : BrowserKind := .chromium
  headless : Bool := true
  width : Int := 1280
  height : Int := 720
  deriving DecidableEq, Repr

/-- What libraries are kept under: the last segment of their namespace, or all of it. -/
inductive CacheKey
  | leaf
  | path
  deriving DecidableEq, Repr

/-- All settings. -/
structure Settings where
  version : Int := 1
  debug : Bool := false
  places : Places := {}
  baseUrl : Option String := none
  browser : BrowserSettings := {}
  execution : Execution := {}
  cacheKey : CacheKey := .leaf
  outputDirectory : Option String := none
  deriving DecidableEq, Repr

namespace BrowserKind

def name : BrowserKind → String
  | chromium => "chromium"
  | firefox => "firefox"
  | webkit => "webkit"

/-- All kinds of browser. -/
def all : List BrowserKind := [chromium, firefox, webkit]

end BrowserKind

namespace CacheKey

def name : CacheKey → String
  | leaf => "leaf"
  | path => "path"

/-- All keys. -/
def all : List CacheKey := [leaf, path]

end CacheKey

end TapScript

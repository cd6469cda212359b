import TapScript.Config.Settings
import TapScript.Driver.Basic

/-! # Browsers

A browser is reached through its launcher, which has to be started first. The browser is connected
to, or launched, once; leaving it closes it and stops the launcher, in this order.
-/

namespace TapScript

/-- A call on the launcher of browsers, or on the browser itself. -/
inductive BrowserCall
  | start
  | choose (kind : BrowserKind)
  | connect (url : String)
  | launch (headless : Bool)
  | newContext (width height : Int)
  | newPage
  | close
  | stop

/-- Where browsers come from. -/
structure Launcher (σ : Type) where
  respond : BrowserCall → Act σ Unit

/-- A browser, as far as it has been reached. -/
structure Browser (σ : Type) where
  world : World σ
  started : Bool := false
  connected : Bool := false

/-- A dealing with a browser. -/
abbrev Browsing (σ α : Type) := ExceptT Fault (StateM (Browser σ)) α

namespace Browsing

variable {σ α : Type}

/-- An act on the world while a browser is dealt with. -/
def act (a : Act σ α) : Browsing σ α := fun s =>
  let (r, w) := a.run s.world
  (r, { s with world := w })

end Browsing

namespace Launcher

open Browsing

variable {σ : Type} (l : Launcher σ) (b : BrowserSettings)

/-- A call on the launcher. -/
def call (c : BrowserCall) : Browsing σ Unit :=
  act (l.respond c)

/-- Reaches the browser, unless it has been reached already. -/
def connect : Browsing σ Unit := do
  unless (← get).connected do
    l.call .start
    modify fun s => { s with started := true }
    l.call (.choose b.kind)
    match b.remote with
    | none | some "" => l.call (.launch b.headless)
    | some url => l.call (.connect url)
    modify fun s => { s with connected := true }

/-- Leaves the browser. -/
def disconnect : Browsing σ Unit := do
  if (← get).connected then
    l.call .close
    modify fun s => { s with connected := false }
  if (← get).started then
    l.call .stop
    modify fun s => { s with started := false }

/-- Opens a page of its own, in a browser that is reached first if need be. -/
def newPage : Browsing σ Unit := do
  l.connect b
  l.call (.newContext b.width b.height)
  l.call .newPage

/-- Reaches the browser, and leaves it again if that fails. -/
def enter : Browsing σ Unit :=
  tryCatch (l.connect b) fun f => do
    l.disconnect
    throw f

end Launcher

end TapScript

import TapScript.CommandLine.Program
import TapScript.Simulation.Display
import TapScript.Simulation.Page

/-! # The command line

The program works on a picture of the files below the working directory, and puts what a command
changed back into them. Runs are rehearsed in a simulated browser.
-/

namespace TapScript.CommandLine

/-- The location of a directory. -/
def locationOf (path : String) : Location :=
  Path.namesOf path

/-- The text of a location as an absolute path. -/
def absolute (l : Location) : String :=
  (Location.toPath l).text

/-- Adds the file at a location to a picture, if there is one. -/
def addFile (l : Location) (t : FileTree) : IO FileTree := do
  let here ← IO.currentDir
  let path := here / absolute l
  if (← path.pathExists) && !(← path.isDir) then
    return t.put l (.file (.bytes (← IO.FS.readBinFile path).toList))
  else return t

/-- Adds the directories above a location to a picture. -/
def addDirsAbove (l : Location) (t : FileTree) : FileTree :=
  ((Location.upward l).drop 1).foldl
    (fun t l => if (t.entryAt? l).isSome then t else t.put l .dir) t

/-- Adds what lies below a directory to a picture. -/
partial def addBelow (l : Location) (t : FileTree) : IO FileTree := do
  let here ← IO.currentDir
  let mut t := t.put l .dir
  for e in ← (here / absolute l).readDir do
    let below := l ++ [e.fileName]
    if ← e.path.isDir then t ← addBelow below t else t ← addFile below t
  return t

/-- The files that a command can see: those below the working directory, the settings files above
it and at home, and those that the command line names. -/
def look (words : List String) : IO FileTree := do
  let here := locationOf (← IO.currentDir).toString
  let home := (← IO.getEnv "HOME").map Path.ofText
  let homes := home.toList.map fun p => ("", p)
  let mut t : FileTree := ⟨(Location.upward here).map fun l => (l, .dir), here, homes⟩
  t ← addBelow here t
  for l in (Location.upward here).drop 1 do
    for name in Settings.fileNames do
      t ← addFile (l ++ [name]) t
  let named := (Settings.homeFile? t).toList ++ words.map Path.ofText
  for p in named do
    let l := Location.resolve (t.start p) p
    t ← addFile l (addDirsAbove l t)
  return t

/-- The bytes of an entry that is a file. -/
def bytesOf : Entry → Option (List UInt8)
  | .file (.bytes bs) => some bs
  | _ => none

/-- Puts the changes between two pictures into the files. -/
def putBack (before after : FileTree) : IO Unit := do
  let here ← IO.currentDir
  for (l, e) in before.entries.reverse do
    if (after.entries.lookup l).isNone then
      let path := here / absolute l
      if ← path.pathExists then
        if e.isDir then IO.FS.removeDirAll path else IO.FS.removeFile path
  for (l, e) in after.entries do
    let path := here / absolute l
    match bytesOf e with
    | none => if (before.entries.lookup l).isNone then IO.FS.createDirAll path
    | some bs =>
      if (before.entries.lookup l).bind bytesOf != some bs then
        IO.FS.writeBinFile path (ByteArray.mk bs.toArray)

/-- The variables that the program looks at. -/
def readEnvironment : IO Environment := do
  let names := "DEBUG" :: Environment.settingVariables.map (·.1)
  let found ← names.mapM fun n => return (← IO.getEnv n).map fun v => (n, v)
  return found.filterMap id

end TapScript.CommandLine

open TapScript TapScript.CommandLine

/-- Carries out the command line of the process. -/
def main (words : List String) : IO UInt32 := do
  let files ← look words
  let machine : Machine Simulation := ⟨Simulation.launcher, Simulation.page, Simulation.host⟩
  let e := CommandLine.run machine Simulation.display (← readEnvironment) words ⟨files, {}⟩
  putBack files e.terminal.world.files
  IO.print e.terminal.printed
  match e.stopped with
  | some (.misuse m) => IO.eprintln m.message
  | some (.fault f) => IO.eprintln f.message
  | _ => pure ()
  return e.code.toUInt32

import Stencil.CommandLine.Run

/-!
# The program

The outer layer: it hands the arguments, the variables and the files that may be read to the command line,
and prints and writes what comes back.  There is no network here, so every request finds no host.
-/

namespace Stencil.Program

open CommandLine (Surroundings Outcome RunState)

/-- The variables that count. -/
def variableNames : List String :=
  [Configuration.pathVariable, "GL_TOKEN", "GL_BASEURL"]

/-- The way to a host when there is no network. -/
def offline : Http.Transport Unit Gitlab.Fault := fun _ state =>
  (.error (.unreachable "there is no network"), state)

/-- The directory where archives are unpacked; it is never written to the machine. -/
def unpackDirectory : List Char := "/tmp/glfast-template".toList

/-- The variables and the home directory. -/
def environment : IO Environment := do
  let assignments ← variableNames.filterMapM fun name => do
    return (← IO.getEnv name).map fun value => (name, value)
  return ⟨assignments, ((← IO.getEnv "HOME").getD "").toList⟩

/-- Puts a file of the machine on the disk, if there is one. -/
def takeFile (disk : Disk) (path : String) : IO Disk := do
  try
    let bytes ← IO.FS.readBinFile path
    let put : Disk.Change Unit := do
      Disk.ensureDirectories (Disk.parent path.toList)
      Disk.writeFile path.toList bytes.toList
    return (put.run disk).2
  catch _ => return disk

/-- The disk as far as a command may read it: the usual configuration files, the named one, and every file
that an argument names. -/
def readDisk (e : Environment) (arguments : List String) : IO Disk := do
  let here := Disk.segments (← IO.currentDir).toString.toList
  let base : Disk.Change Unit := do
    Disk.ensureDirectories (Disk.below ['/'] here)
    Disk.ensureDirectories unpackDirectory
  let disk := { (base.run {}).2 with here }
  let usual := (Configuration.usualPaths e).map String.ofList
  (usual ++ (e.get? Configuration.pathVariable).toList ++ arguments).foldlM takeFile disk

/-- Writes to the machine what a place of the disk holds. -/
def writePlace (route : Disk.Route) (node : Disk.Node) : IO Unit := do
  let path := String.ofList (Disk.below ['/'] route)
  match node with
  | .directory _ => IO.FS.createDirAll path
  | .file content _ => IO.FS.writeBinFile path ⟨content.toArray⟩
  | .link _ => pure ()

/-- Writes to the machine what a command changed. -/
def writeDisk (before after : Disk) : IO Unit := do
  for (route, node) in after.places do
    let isUnpacked := (Disk.segments unpackDirectory).isPrefixOf route
    if !isUnpacked && before.get? route != some node then writePlace route node

/-- A line as it is printed. -/
def lineText : Console.Line → String
  | .text s => s
  | .row cells => "  ".intercalate cells

end Stencil.Program

open Stencil Stencil.Program in
/-- Runs the command that the arguments ask for. -/
def main (arguments : List String) : IO UInt32 := do
  let environment ← environment
  let disk ← readDisk environment arguments
  let around : CommandLine.Surroundings Unit :=
    { environment
      transport := offline
      directory := unpackDirectory
      places := Log.JournalPlaces.below environment.home
      time := Data.decimal (← IO.monoMsNow) }
  let outcome := CommandLine.Outcome.ofArguments around arguments
    { workspace := { disk }, session := { network := () } }
  for entry in outcome.log do
    IO.eprintln entry.line
  for line in outcome.state.lines do
    IO.println (lineText line)
  match outcome.usage with
  | some fault => IO.eprintln ("Error: " ++ fault.message)
  | none => pure ()
  match outcome.fault with
  | some fault => IO.eprintln ("Error: " ++ fault.message)
  | none => pure ()
  writeDisk disk outcome.state.workspace.disk
  return UInt32.ofNat outcome.code

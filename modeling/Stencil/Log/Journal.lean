import Stencil.Disk.Operations
import Stencil.Log

/-!
# Where records go

Records are handed to the console and, once that is asked for, to one file as well.  The level of all loggers
decides which records are made at all; the file has a level of its own, which is set when the file is opened
and never changes.
-/

namespace Stencil.Log

/-- The name above all names of loggers. -/
def rootName : String := "glfast"

/-- The name of a logger: one that is not below the root is put there. -/
def loggerName (name : String) : String :=
  if name = rootName ∨ (rootName ++ ".").toList.isPrefixOf name.toList then name
  else rootName ++ "." ++ name

/-- The file that records go to. -/
structure JournalFile where
  /-- The path from the root. -/
  path : List Char
  /-- The rank from which on records are written. -/
  rank : Int
deriving DecidableEq, Repr

/-- Where records are handed to. -/
inductive Handler
  /-- The console. -/
  | console
  /-- A file. -/
  | file (file : JournalFile)
deriving DecidableEq, Repr

/-- The level of all loggers, and what they hand their records to. -/
structure Journal where
  /-- The rank from which on records are made, once a logger was asked for. -/
  rank : Int := 0
  /-- What is attached, the oldest first. -/
  handlers : List Handler := []
deriving DecidableEq, Repr

/-- The files that are used when none is named, and when a directory may not be made. -/
structure JournalPlaces where
  /-- The usual file. -/
  usual : List Char
  /-- The file of last resort. -/
  fallback : List Char

/-- The usual place is in the home directory. -/
def JournalPlaces.below (home : List Char) : JournalPlaces :=
  ⟨Disk.below home [".glfast".toList, "glfast.log".toList], "/tmp/glfast.log".toList⟩

/-- A line of the file. -/
def fileLine (time logger : String) (entry : Entry) : String :=
  time ++ " | " ++ logger ++ " | " ++ entry.level.name ++ " | " ++ entry.message ++ "\n"

namespace Handler

/-- Whether a handler is the console. -/
def isConsole : Handler → Bool
  | .console => true
  | .file _ => false

/-- The file of a handler. -/
def file? : Handler → Option JournalFile
  | .console => none
  | .file opened => some opened

/-- Takes a record that was made: a file takes those that reach its own level.  What the console shows is
kept nowhere. -/
def take (time logger : String) (entry : Entry) : Handler → Disk.Change Unit
  | .console => pure ()
  | .file opened =>
    if opened.rank ≤ entry.level.rank then
      Disk.appendFile opened.path (Text.Utf8.encode (fileLine time logger entry).toList)
    else pure ()

end Handler

namespace Journal

/-- The journal once a logger was asked for: the console is attached, and with it comes the usual level. -/
def rooted (j : Journal) : Journal :=
  if j.handlers.any Handler.isConsole then j
  else { rank := threshold false, handlers := j.handlers ++ [.console] }

/-- The rank from which on records are made. -/
def level (j : Journal) : Int :=
  j.rooted.rank

/-- Whether details are recorded. -/
def verbose (j : Journal) : Bool :=
  j.level ≤ Level.debug.rank

/-- Sets whether details are recorded. -/
def setVerbosity (j : Journal) (verbose : Bool) : Journal :=
  { j.rooted with rank := threshold verbose }

/-- The file that records go to, once there is one. -/
def file (j : Journal) : Option JournalFile :=
  j.handlers.findSome? Handler.file?

/-- Attaches a file. -/
def attach (j : Journal) (file : JournalFile) : Journal :=
  { j with handlers := j.handlers ++ [.file file] }

/-- Whether a record is made. -/
def isMade (j : Journal) (level : Level) : Bool :=
  j.level ≤ level.rank

/-- Makes a record, and hands it to everything that is attached. -/
def record (j : Journal) (time logger : String) (entry : Entry) : Disk.Change Unit :=
  if j.isMade entry.level then j.handlers.forM fun handler => handler.take time logger entry
  else pure ()

/-- The record that a file is in use. -/
def openedEntry (path : List Char) : Entry :=
  ⟨.debug, "File logging enabled: " ++ String.ofList path⟩

/-- The path of the file that is asked for. -/
def target (places : JournalPlaces) (given : Option String) : List Char :=
  ((given.filter (· ≠ "")).map fun path => Disk.tidy path.toList).getD places.usual

/-- Makes the directories for a file; where they may not be made, the file of last resort is used. -/
def prepare (makeDirectories : List Char → Disk.Change Unit) (places : JournalPlaces) (path : List Char) :
    Disk.Change (List Char) :=
  tryCatch (do makeDirectories (Disk.parent path); return path) fun fault =>
    match fault.cause with
    | .denied => return places.fallback
    | _ => throw fault

/-- Opens a file for the records, unless there is one already, and sets the level of all loggers.  The path is
the one in use, and the records are those made by opening. -/
def openFile (makeDirectories : List Char → Disk.Change Unit) (places : JournalPlaces) (time : String)
    (given : Option String) (verbose : Bool) (j : Journal) :
    Disk.Change (List Char × List Entry × Journal) :=
  match j.rooted.file with
  | some file => return (file.path, [], j.rooted)
  | none => do
    let path ← prepare makeDirectories places (target places given)
    let absolute := (← get).absolute path
    Disk.appendFile absolute []
    let opened := (j.rooted.attach ⟨absolute, threshold verbose⟩).setVerbosity verbose
    opened.record time rootName (openedEntry path)
    return (path, if opened.isMade .debug then [openedEntry path] else [], opened)

end Journal

end Stencil.Log

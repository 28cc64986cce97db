/-!
# Log records

What a run reports while it works: messages with a level, kept in order.  A failure keeps the records made
before it.
-/

namespace Stencil.Log

/-- How important a record is: more important records have greater ranks. -/
structure Level where
  /-- The rank. -/
  rank : Int
deriving DecidableEq, Repr

namespace Level

/-- Detail for those who look for a fault. -/
def debug : Level := ⟨10⟩

/-- Progress. -/
def info : Level := ⟨20⟩

/-- Something that was passed over. -/
def warning : Level := ⟨30⟩

/-- A failure. -/
def error : Level := ⟨40⟩

/-- The names of the ranks that have one. -/
def names : List (Int × String) :=
  [(50, "CRITICAL"), (40, "ERROR"), (30, "WARNING"), (20, "INFO"), (10, "DEBUG"), (0, "NOTSET")]

/-- The name of a level. -/
def name (level : Level) : String :=
  (names.lookup level.rank).getD ("Level " ++ toString level.rank)

end Level

/-- A record of a run. -/
structure Entry where
  /-- How important it is. -/
  level : Level
  /-- What it says. -/
  message : String
deriving DecidableEq, Repr

/-- The rank from which on records are kept. -/
def threshold (verbose : Bool) : Int :=
  if verbose then Level.debug.rank else Level.info.rank

/-- The records that reach the level of a run. -/
def visible (verbose : Bool) (entries : List Entry) : List Entry :=
  entries.filter fun entry => threshold verbose ≤ entry.level.rank

/-- A record as one line. -/
def Entry.line (entry : Entry) : String :=
  entry.level.name ++ " " ++ entry.message

end Stencil.Log

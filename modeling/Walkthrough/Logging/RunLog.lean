import Walkthrough.Disk
import Walkthrough.Failure.Basic
import Walkthrough.Logging.Date

/-! The log file of a day, which is attached to a logger while a run lasts. -/
namespace Walkthrough

/-- A file that a logger writes to, from a level of its own on. -/
structure LogHandler where
  id : Nat
  level : Int
  path : Path
  deriving DecidableEq, Repr, Inhabited

/-- A logger. Level 0 stands for none. -/
structure Logger where
  name : String
  level : Int := 0
  handlers : List LogHandler := []
  deriving DecidableEq, Repr, Inhabited

namespace Logger

/-- A number that no handler has. -/
def freshId (l : Logger) : Nat := (l.handlers.map (·.id + 1)).foldl max 0

def attach (l : Logger) (h : LogHandler) : Logger := { l with handlers := l.handlers ++ [h] }

def detach (l : Logger) (id : Nat) : Logger :=
  { l with handlers := l.handlers.filter (·.id != id) }

/-- The name of a level. -/
def levelName (level : Int) : String :=
  if level = 0 then "NOTSET"
  else if level = 10 then "DEBUG"
  else if level = 20 then "INFO"
  else if level = 30 then "WARNING"
  else if level = 40 then "ERROR"
  else if level = 50 then "CRITICAL"
  else s!"Level {level}"

/-- A line with the time at which it was written. -/
def line (l : Logger) (time : String) (level : Int) (message : String) : String :=
  time ++ " " ++ levelName level ++ " [" ++ l.name ++ "] " ++ message ++ "\n"

/-- Whether the logger takes messages of a level. -/
def takes (l : Logger) (level : Int) : Bool := 0 < level && l.level ≤ level

/-- Writes a line to the files of all handlers that take its level. -/
def write (l : Logger) (disk : Disk) (cwd : Path) (time : String) (level : Int)
    (message : String) : Except Disk.Error Disk :=
  if l.takes level then
    (l.handlers.filter (·.level ≤ level)).foldlM
      (fun disk h => disk.append cwd h.path (l.line time level message)) disk
  else .ok disk

end Logger

/-- What an open log took hold of: its handler, and the level that the logger had before. -/
structure Attachment where
  handler : LogHandler
  previousLevel : Int
  deriving DecidableEq, Repr, Inhabited

/-- The log of runs in a directory, open or not. -/
structure RunLog where
  dir : Path
  level : Int := 20
  attached : Option Attachment := none
  deriving DecidableEq, Repr, Inhabited

namespace RunLog

/-- The file of a day. -/
def file (dir : Path) (today : Date) : Path := dir.child ("run-" ++ today.text ++ ".log")

/-- The logger with the handler of a log, at a level that lets the log's messages through. -/
def joined (l : Logger) (h : LogHandler) : Logger :=
  let l := l.attach h
  if l.level = 0 ∨ h.level < l.level then { l with level := h.level } else l

/-- Opens the log on a logger once its file is there; an open log stays as it is. -/
def attach (r : RunLog) (l : Logger) (path : Path) : RunLog × Logger :=
  match r.attached with
  | some _ => (r, l)
  | none =>
    let h : LogHandler := ⟨l.freshId, r.level, path⟩
    ({ r with attached := some ⟨h, l.level⟩ }, joined l h)

/-- Closes the log and gives the logger its level back; a closed log stays as it is. -/
def close (r : RunLog) (l : Logger) : RunLog × Logger :=
  match r.attached with
  | none => (r, l)
  | some a =>
    ({ r with attached := none }, { l.detach a.handler.id with level := a.previousLevel })

/-- The file that an open log writes to. -/
def path? (r : RunLog) : Option Path := r.attached.map (·.handler.path)

/-- Makes the directory and the file of a day. -/
def prepare (dir : Path) (disk : Disk) (cwd : Path) (today : Date) :
    Except Disk.Error (Disk × Path) := do
  let path := file dir today
  let disk ← disk.ensurePath cwd dir
  return (← disk.append cwd path "", path)

/-- Opens the log of today. Returns the file that it writes to. -/
def open_ (r : RunLog) (l : Logger) (disk : Disk) (cwd : Path) (today : Date) :
    Except Disk.Error (RunLog × Logger × Disk × Path) :=
  match r.path? with
  | some path => .ok (r, l, disk, path)
  | none => do
    let (disk, path) ← prepare r.dir disk cwd today
    let (r, l) := r.attach l path
    return (r, l, disk, path)

end RunLog
end Walkthrough

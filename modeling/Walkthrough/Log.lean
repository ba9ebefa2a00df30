/-! Lines that a run leaves in its log. -/
namespace Walkthrough

inductive LogLevel where
  | warning
  | error
  deriving DecidableEq, Repr

def LogLevel.name : LogLevel → String
  | warning => "WARNING"
  | error => "ERROR"

/-- A line with the name of the part of the program that wrote it. -/
structure LogLine where
  level : LogLevel
  source : String
  message : String
  deriving DecidableEq, Repr

def LogLine.text (l : LogLine) : String := l.level.name ++ " " ++ l.source ++ ": " ++ l.message

end Walkthrough

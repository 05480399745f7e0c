import QueryGuard.Text.Case

/-!
# `QueryGuard.Log.Level`: how much a record matters

A level has a name and a number, and levels are compared by their
numbers. Six of them are known by name; whoever writes a record may use
others.
-/

set_option autoImplicit false

namespace QueryGuard.Log

/-- A level of records. -/
structure Level where
  name : String
  /-- The number that levels are compared by. -/
  severity : Int
  deriving DecidableEq, Repr

namespace Level

/-- No level of its own. -/
def notSet : Level := ⟨"NOTSET", 0⟩

/-- For whoever looks for a fault. -/
def debug : Level := ⟨"DEBUG", 10⟩

/-- What went as it should. -/
def info : Level := ⟨"INFO", 20⟩

/-- What may become a fault. -/
def warning : Level := ⟨"WARNING", 30⟩

/-- A fault. -/
def error : Level := ⟨"ERROR", 40⟩

/-- A fault that stops the program. -/
def critical : Level := ⟨"CRITICAL", 50⟩

/-- The names that levels are known by, two of them twice. -/
def known : List (String × Level) :=
  [("CRITICAL", .critical), ("FATAL", .critical), ("ERROR", .error), ("WARN", .warning),
    ("WARNING", .warning), ("INFO", .info), ("DEBUG", .debug), ("NOTSET", .notSet)]

/-- The level of a name in capitals. -/
def ofName? (name : String) : Option Level := known.lookup name

/-- The threshold that a setting asks for: the severity of a level by
its name in either case, or that of ordinary information. -/
def threshold (setting : String) : Int :=
  ((ofName? (Text.upper setting)).getD info).severity

end Level

end QueryGuard.Log

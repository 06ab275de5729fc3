/-!
# Logging

How the log of a program with a client in it looks.  There is one log: setting it up a second time fails.
-/
namespace ChatClient

/-- How much is logged, from the least on. -/
inductive LogLevel where
  | error
  | warn
  | info
  | debug
  | trace
deriving DecidableEq, Repr

namespace LogLevel

def name : LogLevel → String
  | .error => "ERROR"
  | .warn => "WARN"
  | .info => "INFO"
  | .debug => "DEBUG"
  | .trace => "TRACE"

def ofName? (name : String) : Option LogLevel :=
  [LogLevel.error, .warn, .info, .debug, .trace].find? fun l => l.name == name

end LogLevel

structure Logging where
  level : LogLevel := .info
  json : Bool := false
  spanEvents : Bool := false
  fileLine : Bool := true
  threadNames : Bool := false
  target : Bool := true
deriving DecidableEq, Repr

namespace Logging

def standard : Logging := {}

def development : Logging :=
  { level := .debug, spanEvents := true, threadNames := true }

def production : Logging :=
  { json := true, fileLine := false }

def withLevel (l : Logging) (level : LogLevel) : Logging :=
  { l with level }

/-- Sets up the log of a program that may have one already; `none` says that it has. -/
def install? (installed : Option Logging) (l : Logging) : Option Logging :=
  match installed with
  | some _ => none
  | none => some l

def alreadyInstalledMessage : String := "Tracing subscriber already initialized"

end Logging

end ChatClient

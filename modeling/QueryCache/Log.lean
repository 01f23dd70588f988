/-! Records of what a component reports. -/

set_option autoImplicit false

namespace QueryCache

inductive LogLevel where
  | trace
  | debug
  | info
  | success
  | warning
  | error
  | critical
  deriving DecidableEq, Repr

namespace LogLevel

def all : List LogLevel := [.trace, .debug, .info, .success, .warning, .error, .critical]

def name : LogLevel → String
  | .trace => "TRACE"
  | .debug => "DEBUG"
  | .info => "INFO"
  | .success => "SUCCESS"
  | .warning => "WARNING"
  | .error => "ERROR"
  | .critical => "CRITICAL"

def severity : LogLevel → Nat
  | .trace => 5
  | .debug => 10
  | .info => 20
  | .success => 25
  | .warning => 30
  | .error => 40
  | .critical => 50

/-- The sign that stands for a level. -/
def icon : LogLevel → String
  | .trace => "\u270f\ufe0f"
  | .debug => "🐞"
  | .info => "\u2139\ufe0f"
  | .success => "\u2705"
  | .warning => "\u26a0\ufe0f"
  | .error => "\u274c"
  | .critical => "\u2620\ufe0f"

def ofName? (name : String) : Option LogLevel := all.find? (·.name == name)

end LogLevel

structure LogRecord where
  level : LogLevel
  /-- The component that reports. -/
  source : String
  text : String
  deriving DecidableEq, Repr

end QueryCache

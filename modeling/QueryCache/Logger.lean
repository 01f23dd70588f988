import QueryCache.Log.Layout
import QueryCache.Settings.Components

/-! A logger that writes records from a level on, each laid out by a format.

A colouring logger writes the sequences that put styles on and take them off, a plain one leaves
them out. What a format asks of a record and the record does not tell keeps the record from
being written. -/

set_option autoImplicit false

namespace QueryCache

/-- The component that a logger is named for: the last part of a dotted name. -/
def LogRecord.sourceOf (name : String) : String :=
  String.ofList ((Text.split '.' name.toList).getLastD [])

/-- The names of the styles of a level. -/
def LogLevel.styles : LogLevel → List String
  | .trace => ["cyan", "bold"]
  | .debug => ["blue", "bold"]
  | .info => ["bold"]
  | .success => ["green", "bold"]
  | .warning => ["yellow", "bold"]
  | .error => ["red", "bold"]
  | .critical => ["RED", "bold"]

/-- The sequence that puts the styles of a level on. -/
def LogLevel.style (level : LogLevel) : String :=
  String.join (level.styles.filterMap fun name => Style.ofName? name.toList)

def LayoutPart.render? (colored : Bool) (record : LogRecord) : LayoutPart → Option (List Char)
  | .plain c => some [c]
  | .field f => f.render? record
  | .style code => some (if colored then (code.getD record.level.style).toList else [])

/-- The level of a name. -/
def LogLevel.named (name : String) : Except Failure LogLevel :=
  match ofName? name with
  | some level => .ok level
  | none => .error (.invalid ("Level '" ++ name ++ "' does not exist"))

namespace LoggerSettings

/-- The whole format of a record. -/
def formatText (s : LoggerSettings) : String := String.join (s.format.map (·.2))

/-- The parts of a record and of what follows each: a line break and a fault, if it tells one. -/
def layout (s : LoggerSettings) : Except Failure (List LayoutPart) :=
  match LayoutPart.ofFormat? (s.formatText.toList ++ "\n\x7bexception\x7d".toList) with
  | some parts => .ok parts
  | none => .error (.invalid "Invalid format, color markups could not be parsed correctly")

/-- What is written for texts at named levels, reported by a component. -/
def printed (s : LoggerSettings) (source : String) (reports : List (String × String)) :
    Except Failure String := do
  let least ← LogLevel.named (s.level.map Char.toUpper)
  let parts ← s.layout
  let written ← reports.mapM fun (name, text) => do
    let record : LogRecord := ⟨← LogLevel.named name, source, text⟩
    if record.level.severity < least.severity then return []
    return ((parts.mapM (LayoutPart.render? s.colorize record)).map List.flatten).getD []
  return String.ofList written.flatten

end LoggerSettings

end QueryCache

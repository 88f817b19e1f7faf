import Ensemble.Failure

/-!
# The log

Messages have a level, and the log takes those that are at least as urgent as its own level.  The
level of the log is chosen by two variables of the environment: one names a level, the other asks
for the level of debugging.
-/

namespace Ensemble

/-- How urgent a message is. -/
inductive LogLevel where
  | error
  | warn
  | info
  | debug
  | trace
  deriving DecidableEq, Repr

namespace LogLevel

/-- The name of a level. -/
def name : LogLevel → String
  | error => "ERROR"
  | warn => "WARN"
  | info => "INFO"
  | debug => "DEBUG"
  | trace => "TRACE"

/-- The place of a level, the most urgent first. -/
def rank : LogLevel → Nat
  | error => 0
  | warn => 1
  | info => 2
  | debug => 3
  | trace => 4

/-- The words that name a level. -/
def words : List (String × LogLevel) :=
  [("error", error), ("warn", warn), ("warning", warn), ("info", info), ("debug", debug),
    ("trace", trace)]

/-- Reads the name of a level, in any letter case and with blanks around it. -/
def read (text : String) : Attempt LogLevel :=
  let word := String.ofList (Text.asciiLower (Text.trim text.toList))
  match words.lookup word with
  | some level => .ok level
  | none => .error (.invalid (.unknownLogLevel word))

/-- Whether a variable of the environment asks for the level of debugging. -/
def asksForDebug (value : String) : Bool :=
  value == "1" || Text.sameIgnoringAsciiCase value.toList "true".toList

/-- The level that the variables of the environment choose. -/
def ofEnvironment (named debugging : Option String) : LogLevel :=
  match named.map read with
  | some (.ok level) => level
  | _ => if debugging.any asksForDebug then debug else info

/-- Whether a log of a level takes messages of another. -/
def takes (log message : LogLevel) : Bool :=
  message.rank ≤ log.rank

/-- Every log takes errors. -/
@[simp] theorem takes_error (log : LogLevel) : log.takes error = true := by
  cases log <;> rfl

end LogLevel

/-- A message for the log. -/
structure LogMessage where
  level : LogLevel
  text : String
  deriving DecidableEq, Repr

/-- The entry that a message makes in the log. -/
def LogMessage.entry (m : LogMessage) : String :=
  "[" ++ m.level.name ++ "] " ++ m.text

/-- The lines of the entries that messages make in a log of a level. -/
def LogLevel.lines (log : LogLevel) (messages : List LogMessage) : List String :=
  (messages.filter fun m => log.takes m.level).flatMap fun m =>
    (Text.lines (m.entry ++ "\n").toList).map String.ofList

end Ensemble

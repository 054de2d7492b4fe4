/-!
What the library logs. An event has a level, a message and named values in a fixed order.
-/

namespace Freehold

inductive Level where
  | trace
  | debug
  | info
  | warn
  | error
deriving DecidableEq

def Level.text : Level → String
  | trace => "TRACE"
  | debug => "DEBUG"
  | info => "INFO"
  | warn => "WARN"
  | error => "ERROR"

structure Note where
  message : String
  fields : List (String × String)
deriving DecidableEq

def Note.add (n : Note) (key value : String) : Note := { n with fields := n.fields ++ [(key,value)] }

structure Event where
  level : Level
  note : Note
deriving DecidableEq

namespace Event

def trace (message : String) (fields : List (String × String)) : Event := ⟨.trace,⟨message,fields⟩⟩

def debug (message : String) (fields : List (String × String)) : Event := ⟨.debug,⟨message,fields⟩⟩

def info (message : String) (fields : List (String × String)) : Event := ⟨.info,⟨message,fields⟩⟩

def warn (message : String) (fields : List (String × String)) : Event := ⟨.warn,⟨message,fields⟩⟩

def error (message : String) (fields : List (String × String)) : Event := ⟨.error,⟨message,fields⟩⟩

/-- The level, the message and every value as `key=value`, with a space before each but the first. -/
def text (e : Event) : String :=
  e.note.fields.foldl (fun s (key,value) => s ++ " " ++ key ++ "=" ++ value)
    (e.level.text ++ " " ++ e.note.message)

end Event

end Freehold

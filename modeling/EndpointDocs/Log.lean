import EndpointDocs.Text.Basic

/-!
# Log

What a run has to say about its decisions, in order.
-/

namespace EndpointDocs

inductive LogLevel where
  | debug
  | trace
deriving DecidableEq, Repr

def LogLevel.name : LogLevel → Text
  | debug => "DEBUG".toList
  | trace => "TRACE".toList

structure LogLine where
  level : LogLevel
  message : Text
deriving DecidableEq, Repr

abbrev Log := List LogLine

namespace Log

def debug (message : Text) : Log :=
  [⟨.debug, message⟩]

def trace (message : Text) : Log :=
  [⟨.trace, message⟩]

end Log

end EndpointDocs

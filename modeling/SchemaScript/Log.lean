/-!
# Log: what the tool reports while it works

A log is the list of its entries, oldest first; it only grows at the end.
-/

namespace SchemaScript

/-- How serious a log entry is. -/
inductive Level
  | error
  | warn
  | info
  | debug
  deriving DecidableEq, Repr

namespace Level

/-- The level's name as it is printed. -/
def label : Level → String
  | error => "ERROR"
  | warn => "WARN"
  | info => "INFO"
  | debug => "DEBUG"

/-- Errors come first, details last. -/
def rank : Level → Nat
  | error => 0
  | warn => 1
  | info => 2
  | debug => 3

/-- Whether an entry of level `l` is shown when everything up to `limit` is. -/
def shownAt (limit l : Level) : Bool := l.rank ≤ limit.rank

end Level

/-- One reported event. -/
structure Entry where
  level : Level
  text : String
  deriving DecidableEq, Repr

end SchemaScript

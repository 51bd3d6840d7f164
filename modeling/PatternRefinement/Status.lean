/-!
# Status messages

## Main Definitions

* `Severity` — whether a message tells of a failure
* `StatusMessage` — what the user is shown
-/

namespace PatternRefinement

/-- Whether a message tells of a failure. -/
inductive Severity where
  | info
  | error
  deriving Repr, DecidableEq

/-- What the user is shown. -/
structure StatusMessage where
  severity : Severity
  text : String
  deriving Repr, DecidableEq

namespace StatusMessage

/-- A message that tells of no failure. -/
def info (text : String) : StatusMessage := ⟨.info, text⟩

/-- A message that tells of a failure. -/
def error (text : String) : StatusMessage := ⟨.error, text⟩

/-- Whether a message tells of a failure. -/
def isError (message : StatusMessage) : Bool := message.severity == .error

end StatusMessage

end PatternRefinement

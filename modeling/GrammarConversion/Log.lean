/-!
# Log records

What a conversion has to say about itself is data: each operation gives back the records it made,
in order, and the command line decides which of them are shown.
-/

namespace GrammarConversion

/-- How much a record matters. -/
inductive Level where
  | debug
  | info
  | warning
  | error
  | critical
  deriving DecidableEq, Repr

namespace Level

def name : Level → String
  | .debug => "DEBUG"
  | .info => "INFO"
  | .warning => "WARNING"
  | .error => "ERROR"
  | .critical => "CRITICAL"

def rank : Level → Nat
  | .debug => 0
  | .info => 1
  | .warning => 2
  | .error => 3
  | .critical => 4

end Level

/-- A record of a log: how much it matters, the part of the program it comes from, and a text. -/
structure LogRecord where
  level : Level
  source : String
  message : String
  deriving DecidableEq, Repr

def LogRecord.atLeast (level : Level) (records : List LogRecord) : List LogRecord :=
  records.filter fun record => decide (level.rank ≤ record.level.rank)

def LogRecord.text (record : LogRecord) : String :=
  record.level.name ++ ":" ++ record.source ++ ":" ++ record.message

end GrammarConversion

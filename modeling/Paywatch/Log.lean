import Paywatch.Failure

/-!
# Log records

A record has a level, a text and, where an unexpected failure was met, that
failure.
-/

namespace Paywatch

inductive Level where
  | debug
  | info
  | warning
  | error
  | critical
  deriving DecidableEq, Repr

def Level.text : Level → String
  | debug => "DEBUG"
  | info => "INFO"
  | warning => "WARNING"
  | error => "ERROR"
  | critical => "CRITICAL"

structure LogRecord where
  level : Level
  text : String
  cause : Option Failure := none
  deriving DecidableEq, Repr

end Paywatch

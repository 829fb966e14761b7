/-!
# Log records
-/

namespace CompilerCommands

inductive LogLevel where
  | debug
  | info
  | warning
  deriving DecidableEq, Repr

inductive LogSource where
  | dryRun
  | command
  deriving DecidableEq, Repr

structure LogRecord where
  level : LogLevel
  source : LogSource
  message : String
  deriving DecidableEq, Repr

end CompilerCommands

import TankGauge.Transport.Basic

/-!
# What can go wrong

A configuration is unreadable, or readable and against a rule. Together with a refusal of the
transport and a start that could not be made these are the failures of the program, and each has
one wording.
-/

namespace TankGauge

/-- Why a configuration is refused. -/
inductive ConfigError
  /-- It cannot be read. -/
  | corrupted
  /-- It breaks a rule. -/
  | invalid (rule : String)
deriving DecidableEq, Repr

/-- The wording of a refused configuration. -/
def ConfigError.message : ConfigError → String
  | .corrupted => "config corrupted"
  | .invalid rule => "validation failed: " ++ rule

/-- Any failure of the program. -/
inductive Failure
  | transport (cause : TransportError)
  | config (cause : ConfigError)
  | init (what : String)
deriving DecidableEq, Repr

namespace Failure

/-- The wording of what lies under a failure. -/
def causeMessage : Failure → String
  | transport e => e.message
  | config e => e.message
  | init what => what

/-- The wording of a failure: its kind and what lies under it. -/
def message : Failure → String
  | transport e => "transport: " ++ e.message
  | config e => "config: " ++ e.message
  | init what => "init: " ++ what

end Failure

end TankGauge

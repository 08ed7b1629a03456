import MessageExchange.Fault
import MessageExchange.Text.Blank

/-! What a gateway is configured with, and what makes a configuration usable. -/

namespace MessageExchange

open Text

/-- Which wire to use: the selected one if it is there, else the default one. -/
structure WireChoice where
  selected : Option String
  fallback : String
  deriving DecidableEq, Repr

structure Settings where
  name : String
  wire : WireChoice
  /-- How long an unclaimed acknowledgement is kept, in seconds. -/
  ttl : Nat
  /-- How often stale acknowledgements are looked for, in seconds. -/
  sweepPeriod : Nat
  endpointFile : Option String
  logFilter : Option String
  deriving DecidableEq, Repr

namespace Settings

/-- Both times where nothing else is said, in seconds. -/
def defaultSecs : Nat := 300

def validate (s : Settings) : Except Misconfiguration Unit :=
  if isBlank s.name then .error .blankGatewayName
  else if isBlank s.wire.fallback then .error .unnamedDefaultWire
  else if s.wire.selected.any isBlank then .error .blankSelectedWire
  else if s.ttl = 0 ∨ s.sweepPeriod = 0 then .error .idleCorrelation
  else .ok ()

end Settings

end MessageExchange

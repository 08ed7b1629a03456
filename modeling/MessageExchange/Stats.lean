/-! Counters of an outbound pipeline. -/

namespace MessageExchange

structure Stats where
  enqueued : Nat
  sent : Nat
  failed : Nat
  dropped : Nat
  deriving DecidableEq, Repr

namespace Stats

def zero : Stats := ⟨0, 0, 0, 0⟩

/-- Accepted and not yet accounted for. -/
def inFlight (s : Stats) : Nat := s.enqueued - (s.sent + s.failed + s.dropped)

end Stats

end MessageExchange

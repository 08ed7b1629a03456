import MessageExchange.Correlation.Desk
import MessageExchange.Event

/-! What the outside sees of the gateway, in order: log events, ended calls, and what was handed to
listeners, handlers and wires. -/

namespace MessageExchange

open Correlation (Ticket)

/-- On whose behalf an event is logged. -/
inductive Site
  | caller
  | worker
  | sweeper
  deriving DecidableEq, Repr

inductive Effect
  | logged (site : Site) (event : Event)
  /-- A call that waited for an acknowledgement has ended. -/
  | answered (call : Ticket) (result : Except Fault Notification)
  /-- A shutdown call has ended, with the counters it found. -/
  | stopped (call : Ticket) (result : Except Fault Stats)
  /-- A shutdown call that has nothing to report has ended. -/
  | finished (call : Ticket)
  /-- A call was given up by its caller. -/
  | cancelled (call : Ticket)
  | handed (listener : String) (notification : Notification)
  | handled (handler : String) (direction : Direction) (delivery : Delivery)
  /-- A wire was shut down and let go of the gateway named. -/
  | released (wire : String) (gateway : Option String)
  /-- What a wire pushed during a send was turned down. -/
  | notificationRefused (fault : Fault)
  | deliveryRefused (fault : Fault)

end MessageExchange

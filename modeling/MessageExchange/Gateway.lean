import MessageExchange.Correlation.Correlator
import MessageExchange.Inbound
import MessageExchange.Settings
import MessageExchange.Wire

/-! One gateway: its way out, its two correlators, and its handlers for inbound documents. -/

namespace MessageExchange

open Correlation Outbound Text

structure Gateway where
  name : String
  /-- The wire it is bound to. -/
  wire : Nat
  inbound : Inbound
  submission : Correlator
  relay : Correlator
  pipeline : Pipeline
  /-- Some shutdown call has begun. -/
  stopped : Bool
  deriving DecidableEq

namespace Gateway

def start (s : Settings) (wire : Nat) (wireId : String) (now : Instant) : Gateway where
  name := s.name
  wire := wire
  inbound := Inbound.empty
  submission := Correlator.start .submission s.ttl s.sweepPeriod now
  relay := Correlator.start .relay s.ttl s.sweepPeriod now
  pipeline := Pipeline.start wireId
  stopped := false

def correlator (g : Gateway) : Kind → Correlator
  | .submission => g.submission
  | .relay => g.relay

def setCorrelator (g : Gateway) (kind : Kind) (c : Correlator) : Gateway :=
  match kind with
  | .submission => { g with submission := c }
  | .relay => { g with relay := c }

def notify (g : Gateway) (site : Site) (n : Notification) (now : Instant) : Gateway × Handover :=
  let (c, h) := (g.correlator n.kind).deliver site n now
  (g.setCorrelator n.kind c, h)

def take (g : Gateway) (site : Site) (now : Instant) : List Push → Gateway × List Effect
  | [] => (g, [])
  | .notification draft :: rest =>
    let (g, h) := g.notify site (draft.appear now) now
    let refused := match h.result with
      | .ok _ => []
      | .error fault => [.notificationRefused fault]
    let (g, after) := g.take site now rest
    (g, h.effects ++ refused ++ after)
  | .delivery d :: rest =>
    let (result, effects) := g.inbound.dispatch site d
    let refused := match result with
      | .ok _ => []
      | .error fault => [.deliveryRefused fault]
    let (g, after) := g.take site now rest
    (g, effects ++ refused ++ after)

/-- A shutdown call comes in. Only the first one shuts anything down; the others end with the counters
they find. -/
def shutdown (g : Gateway) (call : Ticket) : Gateway × Option Stats :=
  if g.stopped then (g, some g.pipeline.stats)
  else ({ g with stopped := true, pipeline := g.pipeline.shutdown call ⟨0⟩ }, none)

/-- The periodic sweep of a correlator ends. -/
def halt (g : Gateway) (kind : Kind) : Gateway :=
  g.setCorrelator kind { g.correlator kind with sweeper := none }

/-- The periodic sweep of a correlator has ended, and the correlator closes. -/
def close (g : Gateway) (kind : Kind) : Gateway × List Effect :=
  let (c, turnedAway) := (g.correlator kind).shutdown
  (g.setCorrelator kind c, turnedAway)

/-- The end of a shutdown call, by what the wire has answered. -/
def reply (g : Gateway) (call : Ticket) (stats : Stats) (answer : Except Fault Unit) : List Effect :=
  [.logged .caller (.gatewayStopped g.name stats), .stopped call (answer.map fun _ => stats)]

/-- A shutdown call whose wire has answered runs to its end, and nothing comes in between. The correlators
close, submission first, and the call ends with the counters of the pipeline. -/
def conclude (g : Gateway) (call : Ticket) (stats : Stats) (answer : Except Fault Unit) :
    Gateway × List Effect :=
  let (g, first) := g.close .submission
  let (g, second) := g.close .relay
  (g, first ++ second ++ g.reply call stats answer)

def isPending (g : Gateway) (t : Ticket) : Bool :=
  g.submission.desk.isPending t || g.relay.desk.isPending t || g.pipeline.isPending t

def cancel (g : Gateway) (t : Ticket) : Gateway :=
  { g with
    submission := g.submission.cancel t
    relay := g.relay.cancel t
    pipeline := if g.pipeline.isPending t then g.pipeline.cancel t else g.pipeline }

def summary (g : Gateway) : String :=
  let s := g.pipeline.stats
  "Gateway \x7b name: " ++ quoted ("Gateway:" ++ g.name) ++ ", transport_id: " ++
    quoted g.pipeline.wire ++ ", stats: PipelineStats \x7b enqueued: " ++ toString s.enqueued ++
    ", sent: " ++ toString s.sent ++ ", failed: " ++ toString s.failed ++ ", dropped: " ++
    toString s.dropped ++ " \x7d \x7d"

def contextSummary (g : Gateway) : String :=
  "TransportContext \x7b gateway_name: " ++ quoted g.name ++ ", pending_submission_results: " ++
    toString g.submission.pending ++ ", pending_relay_results: " ++ toString g.relay.pending ++
    " \x7d"

end Gateway

end MessageExchange

import MessageExchange.Delivery
import MessageExchange.Message
import MessageExchange.Route
import MessageExchange.Stats

/-! The structured log. Each event is a constructor; its fields, all of them text, are given by
`Event.fields`. -/

namespace MessageExchange

open Text

inductive Level
  | error
  | warn
  | info
  | debug
  | trace
  deriving DecidableEq, Repr

def Level.text : Level → String
  | .error => "error"
  | .warn => "warn"
  | .info => "info"
  | .debug => "debug"
  | .trace => "trace"

/-- Names one message on its way through a pipeline. -/
structure Trail where
  wire : String
  seq : Nat
  message : String
  deriving DecidableEq, Repr

inductive Event
  | registryEmpty
  | registryDuplicate (id : String)
  | registryReady (count : Nat) (fallback : String)
  | registryUnresolved (selected : Option String) (fallback : String)
  | registryFellBack (selected id : String)
  | gatewayCreated (gateway wire : String) (ttl sweepPeriod : Nat)
  | gatewayStopped (gateway : String) (stats : Stats)
  | enqueued (trail : Trail)
  | refused (wire message : String)
  | dispatched (trail : Trail) (route : String) (role : Role)
  | sent (trail : Trail)
  | sendFailed (trail : Trail) (fault : Fault)
  | sendPanicked (trail : Trail) (panic : String)
  | dropped (trail : Trail)
  | drainTimedOut (wire : String) (timeout : Nat)
  | workerStopped (wire : String)
  | pipelineStopped (wire : String) (stats : Stats)
  | lateDelivery (table key : String)
  | woke (kind : Kind) (about : String) (count : Nat)
  | stored (kind : Kind) (about : String)
  | replaced (kind : Kind) (about : String)
  | claimed (notification : Notification)
  | calledBack (notification : Notification)
  | waitTimedOut (kind : Kind) (about : String) (waited : Nat)
  | swept (table : String) (removed remaining : Nat)
  | received (delivery : Delivery)
  | droppedIncomplete (sender documentType : String) (cause : Misfit)
  | droppedUnclassified (sender documentType : String) (cause : Misfit)
  | droppedUnhandled (direction : Direction) (sender : String)
  | handlerFailed (direction : Direction) (sender : String) (fault : Fault)
  | profileSkipped (tag url profile : String)
  | routeSkipped (tag : String) (fault : Fault)
  deriving DecidableEq

namespace Event

def name : Event → String
  | registryEmpty => "registry_no_transports"
  | registryDuplicate _ => "registry_duplicate_transport"
  | registryReady _ _ => "registry_reinitialized"
  | registryUnresolved _ _ => "registry_resolve_failed"
  | registryFellBack _ _ => "registry_fallback_to_default"
  | gatewayCreated _ _ _ _ => "gateway_created"
  | gatewayStopped _ _ => "gateway_shutdown"
  | enqueued _ => "pipeline_enqueued"
  | refused _ _ => "pipeline_rejected"
  | dispatched _ _ _ => "pipeline_dispatched"
  | sent _ => "pipeline_send_ok"
  | sendFailed _ _ | sendPanicked _ _ => "pipeline_send_failed"
  | dropped _ | drainTimedOut _ _ | pipelineStopped _ _ => "pipeline_shutdown"
  | workerStopped _ => "pipeline_worker_stopped"
  | lateDelivery _ _ => "correlation_late_delivery"
  | woke _ _ _ => "correlation_delivered"
  | stored _ _ | replaced _ _ => "correlation_stored"
  | claimed _ => "correlation_claimed"
  | calledBack _ => "correlation_callback"
  | waitTimedOut _ _ _ => "correlation_timeout"
  | swept _ _ _ => "correlation_swept"
  | received _ => "inbound_receive"
  | droppedIncomplete _ _ _ => "inbound_drop_missing_attachment"
  | droppedUnclassified _ _ _ => "inbound_drop_unclassified"
  | droppedUnhandled _ _ => "inbound_drop_no_handler"
  | handlerFailed _ _ _ => "inbound_handler_failed"
  | profileSkipped _ _ _ | routeSkipped _ _ => "discovery_endpoint_skipped"

def level : Event → Level
  | registryEmpty | registryDuplicate _ | registryUnresolved _ _ => .error
  | droppedIncomplete _ _ _ | droppedUnclassified _ _ _ | droppedUnhandled _ _ => .error
  | registryFellBack _ _ | sendFailed _ _ | sendPanicked _ _ | dropped _ => .warn
  | drainTimedOut _ _ | replaced _ _ | handlerFailed _ _ _ | routeSkipped _ _ => .warn
  | registryReady _ _ | gatewayCreated _ _ _ _ | gatewayStopped _ _ => .info
  | workerStopped _ | pipelineStopped _ _ => .info
  | stored _ _ | claimed _ => .trace
  | _ => .debug

def component : Event → String
  | registryEmpty | registryDuplicate _ | registryReady _ _ => "transport_registry"
  | registryUnresolved _ _ | registryFellBack _ _ => "transport_registry"
  | gatewayCreated _ _ _ _ | gatewayStopped _ _ => "gateway"
  | enqueued _ | refused _ _ | drainTimedOut _ _ | pipelineStopped _ _ => "outbound_pipeline"
  | dispatched _ _ _ | sent _ | sendFailed _ _ | sendPanicked _ _ => "outbound_worker"
  | dropped _ | workerStopped _ => "outbound_worker"
  | lateDelivery _ _ => "correlation_table"
  | woke _ _ _ | stored _ _ | replaced _ _ | claimed _ => "notification_correlator"
  | calledBack _ | waitTimedOut _ _ _ => "notification_correlator"
  | swept _ _ _ => "correlation_sweeper"
  | received _ | droppedIncomplete _ _ _ | droppedUnclassified _ _ _ => "inbound_demux"
  | droppedUnhandled _ _ | handlerFailed _ _ _ => "inbound_demux"
  | profileSkipped _ _ _ | routeSkipped _ _ => "discovery"

def trailFields (t : Trail) (state : String) : List (String × String) :=
  [("transport_id", t.wire), ("seq", toString t.seq), ("msg_id", t.message), ("state", state)]

def details : Event → List (String × String)
  | registryEmpty => []
  | registryDuplicate id => [("transport_id", id)]
  | registryReady n fallback => [("transports", toString n), ("default_transport", fallback)]
  | registryUnresolved selected fallback =>
    [("selected", quotedOption selected), ("default_transport", fallback)]
  | registryFellBack selected id => [("selected", selected), ("transport_id", id)]
  | gatewayCreated gateway wire ttl period =>
    [("gateway", gateway), ("transport_id", wire), ("ttl_secs", toString ttl),
      ("sweep_period_secs", toString period)]
  | gatewayStopped gateway stats =>
    [("gateway", gateway), ("sent", toString stats.sent), ("failed", toString stats.failed),
      ("dropped", toString stats.dropped)]
  | enqueued t => trailFields t "queued"
  | refused wire message => [("transport_id", wire), ("msg_id", message)]
  | dispatched t route role =>
    trailFields t "dispatched" ++ [("route", route), ("peer_role", role.text)]
  | sent t => trailFields t "sent"
  | sendFailed t fault =>
    trailFields t "failed" ++ [("code", fault.exchangeCode.getD "-"), ("err", fault.text)]
  | sendPanicked t panic => trailFields t "failed" ++ [("panic", panic)]
  | dropped t => trailFields t "dropped"
  | drainTimedOut wire timeout =>
    [("transport_id", wire), ("drain_timeout_ms", toString timeout)]
  | workerStopped wire => [("transport_id", wire)]
  | pipelineStopped wire stats =>
    [("transport_id", wire), ("enqueued", toString stats.enqueued), ("sent", toString stats.sent),
      ("failed", toString stats.failed), ("dropped", toString stats.dropped)]
  | lateDelivery table key => [("table", table), ("key", quoted key)]
  | woke kind about n =>
    [("kind", kind.text), ("ref_to_msg_id", about), ("woken", toString n)]
  | stored kind about | replaced kind about => [("kind", kind.text), ("ref_to_msg_id", about)]
  | claimed n | calledBack n => [("notification", n.text)]
  | waitTimedOut kind about waited =>
    [("kind", kind.text), ("ref_to_msg_id", about), ("waited_ms", toString waited)]
  | swept table removed remaining =>
    [("table", table), ("removed", toString removed), ("remaining", toString remaining)]
  | received d =>
    [("sender_id", d.sender), ("document_type_id", d.documentType),
      ("class", d.documentClass.text), ("attachments", toString d.attachments.length)]
  | droppedIncomplete sender documentType cause | droppedUnclassified sender documentType cause =>
    [("sender_id", sender), ("document_type_id", documentType),
      ("err", (Fault.classification cause).text)]
  | droppedUnhandled direction sender =>
    [("direction", "incoming-" ++ direction.text), ("sender_id", sender)]
  | handlerFailed direction sender fault =>
    [("direction", "incoming-" ++ direction.text), ("sender_id", sender), ("err", fault.text)]
  | profileSkipped tag url profile =>
    [("log_prefix", tag), ("endpoint_url", url), ("transport_profile", profile),
      ("reason", "transport_profile_mismatch")]
  | routeSkipped tag fault =>
    [("log_prefix", tag), ("err", fault.text), ("reason", "invalid_descriptor")]

def fields (e : Event) : List (String × String) :=
  ("event", e.name) :: ("level", e.level.text) :: ("component", e.component) :: e.details

end Event

end MessageExchange

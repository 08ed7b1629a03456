import MessageExchange.Event

/-! From the endpoints that serve a receiver to routes. An endpoint of another transport profile is
passed over; of the others each gives either a route or a fault. -/

namespace MessageExchange

structure Endpoint where
  participant : String
  profile : String
  url : String
  certificate : Certificate
  deriving DecidableEq

/-- What came of a look-up: what was found, and what it had to report. -/
structure Lookup (α : Type) where
  found : List α
  faults : List Fault
  events : List Event

def Lookup.failed {α : Type} (fault : Fault) : Lookup α := ⟨[], [fault], []⟩

namespace Route

/-- All it takes to route one document to one receiver. -/
structure Query where
  sender : String
  receiver : String
  documentType : String
  process : String
  profile : String
  role : Role
  deriving DecidableEq

namespace Query

def route (q : Query) (e : Endpoint) : Except Fault Route :=
  [.sender q.sender, .url e.url, .documentType q.documentType, .process q.process,
    .profile e.profile, .role q.role, .certificate e.certificate].foldl Draft.set .empty |>.build

def weigh (q : Query) (tag : String) (e : Endpoint) : Lookup Route :=
  if e.profile = q.profile then
    match q.route e with
    | .ok r => ⟨[r], [], []⟩
    | .error fault => ⟨[], [fault], [.routeSkipped tag fault]⟩
  else ⟨[], [], [.profileSkipped tag e.url e.profile]⟩

/-- The routes through the endpoints that were found, in their order. What the look-up itself had to
report comes first. -/
def routes (q : Query) (tag : String) (endpoints : Lookup Endpoint) : Lookup Route :=
  let parts := endpoints.found.map (q.weigh tag)
  ⟨parts.flatMap (·.found), endpoints.faults ++ parts.flatMap (·.faults),
    endpoints.events ++ parts.flatMap (·.events)⟩

end Query

end Route

end MessageExchange

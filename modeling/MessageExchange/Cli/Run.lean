import MessageExchange.Cli.Arguments
import MessageExchange.Cli.LogFilter
import MessageExchange.Network.Run
import MessageExchange.Route.EndpointFile
import MessageExchange.Settings.Reader

/-! A run of the program: it reads its settings, sets up one gateway over a loopback wire, sends one
document if asked to, and then waits for the signal to stop. -/

namespace MessageExchange.Cli

/-- Why the program gave up. -/
inductive Failure
  | usage (usage : Usage)
  | unreadable (path : String) (failure : ReadFailure)
  /-- What is wrong with a text that is not JSON5 is not told. -/
  | malformed (path : String)
  | misshapen (path : String) (cause : Settings.Misshape)
  | fault (fault : Fault)
  deriving DecidableEq

namespace Failure

def ofLoad (path : String) : Settings.LoadFailure → Failure
  | .unreadable failure => .unreadable path failure
  | .malformed => .malformed path
  | .misshapen cause => .misshapen path cause
  | .invalid cause => .fault (.configuration cause)

def text : Failure → String
  | usage u => u.text
  | unreadable path failure => "unable to read config file " ++ path ++ ": " ++ failure.text
  | malformed path => "invalid config file " ++ path ++ ": "
  | misshapen path cause => "invalid config file " ++ path ++ ": " ++ cause.text
  | fault f => f.text

end Failure

/-- Why the document asked for was not sent or not answered. -/
inductive DemoFailure
  | noEndpointFile
  | noEndpoint (receiver : String)
  | fault (fault : Fault)
  deriving DecidableEq

def demoProfile : String := "bdxr-transport-ebms3-as4-v1p0"

def DemoFailure.text : DemoFailure → String
  | .noEndpointFile => "--demo-receiver requires discovery.static_file in the config"
  | .noEndpoint receiver => "no " ++ demoProfile ++ " endpoint found for '" ++ receiver ++ "'"
  | .fault f => f.text

/-- What the program says in its log about itself. -/
inductive Remark
  | starting (name : String)
  | lookupFault (fault : Fault)
  | demoQueued (id receiver : String)
  | demoAnswered (id : String) (verdict : Verdict)
  | demoFailed (cause : DemoFailure)
  | running (wire : String)
  | stopped (stats : Stats)
  | result (notification : Notification)
  deriving DecidableEq

namespace Remark

def level : Remark → Level
  | lookupFault _ => .warn
  | demoFailed _ => .error
  | _ => .info

def text : Remark → String
  | starting name => "starting gateway '" ++ name ++ "'"
  | lookupFault fault => "discovery: " ++ fault.text
  | demoQueued id receiver => "demo document " ++ id ++ " queued for " ++ receiver
  | demoAnswered id verdict => "demo document " ++ id ++ ": relay " ++ verdict.text
  | demoFailed cause => "demo send failed: " ++ cause.text
  | running wire => "gateway running on transport '" ++ wire ++ "', press Ctrl-C to stop"
  | stopped s =>
    "gateway stopped: " ++ toString s.enqueued ++ " enqueued, " ++ toString s.sent ++ " sent, " ++
      toString s.failed ++ " failed, " ++ toString s.dropped ++ " dropped"
  | result n => n.kind.text ++ " result for " ++ n.about ++ ": " ++ n.verdict.text

end Remark

/-- What a run has said so far: its log, what the listener for results logged beside it, and its
complaints. -/
structure Record where
  filter : LogFilter
  log : List Remark
  results : List Remark
  complaints : List String
  deriving DecidableEq

namespace Record

/-- Nothing was said yet. Settings with a filter that cannot be read are complained about. -/
def start (s : Settings) : Record :=
  match s.logFilter with
  | none => ⟨.usual, [], [], []⟩
  | some text => match LogFilter.read? text with
    | some filter => ⟨filter, [], [], []⟩
    | none => ⟨.usual, [], [], ["ignoring invalid logging.filter '" ++ text ++ "'"]⟩

def add (r : Record) (remarks : List Remark) : Record :=
  { r with log := r.log ++ remarks.filter fun m => r.filter.passes m.level }

def hear (r : Record) (effects : List Effect) : Record :=
  let heard := effects.filterMap fun
    | .handed _ n => some (Remark.result n)
    | _ => none
  { r with results := r.results ++ heard.filter fun m => r.filter.passes m.level }

end Record

structure Report where
  exitCode : Nat
  record : Record
  deriving DecidableEq

def Report.failed (r : Record) (cause : Failure) : Report :=
  ⟨2, { r with complaints := r.complaints ++ ["configurable-gateway failed: " ++ cause.text] }⟩

/-- A run that waits for the signal to stop. -/
structure Running where
  network : Network
  record : Record

/-- How the answer to a call that waits for an acknowledgement reads. -/
def answerIn (effects : List Effect) : Option (Except Fault Notification) :=
  effects.findSome? fun
    | .answered _ result => some result
    | _ => none

/-- Enqueues a document over a route and waits for its relay receipt. -/
def sendDemo (net : Network) (record : Record) (receiver : String) (timeout : Span) (p : Payload)
    (route : Route) : Running :=
  match net.step (.enqueue 0 (Message.empty.push p) route) with
  | (net, .refused fault, effects) =>
    ⟨net, (record.hear effects).add [.demoFailed (.fault fault)]⟩
  | (net, _, effects) =>
    let record := (record.hear effects).add [.demoQueued p.id receiver]
    let (net, _, atOnce) := net.step (.await 0 .relay p.id timeout)
    match answerIn atOnce with
    | some (.ok n) => ⟨net, record.add [.demoAnswered p.id n.verdict]⟩
    | some (.error fault) => ⟨net, record.add [.demoFailed (.fault fault)]⟩
    | none =>
      let (net, _, later) := net.step (.advance timeout)
      match answerIn later with
      | some (.ok n) => ⟨net, record.add [.demoAnswered p.id n.verdict]⟩
      | some (.error fault) => ⟨net, record.add [.demoFailed (.fault fault)]⟩
      | none => ⟨net, record⟩

def demoQuery (s : Settings) (receiver : String) : Route.Query where
  sender := s.name
  receiver := receiver
  documentType := "urn:demo:document::1.0"
  process := "urn:demo:process"
  profile := demoProfile
  role := .consumer

/-- Sends the demo document by the first route to its receiver. Whatever becomes of it, the gateway
runs on. -/
def demo (files : Files) (s : Settings) (args : Arguments) (receiver : String) (seed : Nat)
    (net : Network) (record : Record) : Running :=
  match s.endpointFile with
  | none => ⟨net, record.add [.demoFailed .noEndpointFile]⟩
  | some path =>
    let found := (demoQuery s receiver).routes "demo" (Endpoint.inFile files path receiver)
    let record := record.add (found.faults.map .lookupFault)
    match found.found with
    | [] => ⟨net, record.add [.demoFailed (.noEndpoint receiver)]⟩
    | route :: _ =>
      match Payload.fresh (.ofNat seed) "application/xml" "<DemoRequest/>".toUTF8.toList with
      | .error fault => ⟨net, record.add [.demoFailed (.fault fault)]⟩
      | .ok p => sendDemo net record receiver (.ofMillis args.demoTimeoutMs) p route

/-- The gateway over the one wire there is, with the program's own handlers and listener. -/
def setUp (s : Settings) : Except Fault (Network × String) := do
  let net ← (Network.start s.wire [Wire.loopback]).1
  match net.step (.create s) with
  | (net, .created wire, _) =>
    return (net.run [.handle 0 .request ⟨"request", none⟩, .handle 0 .response ⟨"response", none⟩,
      .listen 0 .submission "results"], wire)
  | (_, .refused fault, _) => throw fault
  | _ => throw (.configuration (.defaultWireMissing s.wire.fallback))

/-- Everything up to the wait for the signal. Generated ids grow from `seed`. -/
def launch (files : Files) (args : Arguments) (seed : Nat) : Except Report Running :=
  match Settings.load files args.config with
  | .error failure => .error (.failed ⟨.usual, [], [], []⟩ (.ofLoad args.config failure))
  | .ok s =>
    let record := (Record.start s).add [.starting s.name]
    match setUp s with
    | .error fault => .error (.failed record (.fault fault))
    | .ok (net, wire) =>
      let net := { net with seed := seed + 1 }
      let r : Running := match args.demoReceiver with
        | none => ⟨net, record⟩
        | some receiver => demo files s args receiver seed net record
      .ok { r with record := r.record.add [.running wire] }

def countersIn (effects : List Effect) : Option (Except Fault Stats) :=
  effects.findSome? fun
    | .stopped _ result => some result
    | _ => none

def Running.stop (r : Running) : Report :=
  let (_, _, effects) := r.network.step (.shutdown 0)
  let record := r.record.hear effects
  match countersIn effects with
  | some (.ok stats) => ⟨0, record.add [.stopped stats]⟩
  | some (.error fault) => .failed record (.fault fault)
  | none => ⟨0, record⟩

/-- A whole run, stopped as soon as it waits for the signal. -/
def run (files : Files) (args : List String) (seed : Nat) : Report :=
  let silent : Record := ⟨.usual, [], [], []⟩
  match Arguments.read args with
  | .error .help => ⟨0, silent⟩
  | .error usage => .failed silent (.usage usage)
  | .ok args => match launch files args seed with
    | .error report => report
    | .ok running => running.stop

end MessageExchange.Cli

import MessageExchange.Outbound.Pipeline

/-! Wires carry messages. Each attempt to send ends with an outcome; on the way a wire may push
notifications and documents to the gateway it is attached to. At most one gateway is attached at a
time. -/

namespace MessageExchange

open Outbound

/-- What a wire hands to its gateway of its own accord. -/
inductive Push
  | notification (draft : Notification.Draft)
  | delivery (d : Delivery)
  deriving DecidableEq

/-- What a scripted wire does with a message: what it pushes, and how the attempt ends. -/
structure Behavior where
  pushes : List Push
  outcome : Outcome
  deriving DecidableEq

def Behavior.plain : Behavior := ⟨[], .accepted⟩

structure Transmission where
  role : Role
  message : String
  url : String
  payloads : Nat
  deriving DecidableEq, Repr

inductive Nature
  /-- Treats each message as told, by its id, and holds the messages it is told to hold. -/
  | scripted (behaviors : List (String × Behavior)) (registerFault shutdownFault : Option Fault)
      (held : List String)
  /-- Remembers what it sent. The messages listed under a code fail with it. -/
  | recording (failures : List (String × String)) (attempted : List String) (shutdowns : Nat)
  /-- Acknowledges every message at once, on its own authority. -/
  | loopback
  deriving DecidableEq

structure Wire where
  id : String
  nature : Nature
  /-- The gateway it is attached to. -/
  attached : Option Nat
  sends : List Transmission
  deriving DecidableEq

namespace Wire

def scripted (id : String) (behaviors : List (String × Behavior))
    (registerFault shutdownFault : Option Fault) : Wire :=
  ⟨id, .scripted behaviors registerFault shutdownFault [], none, []⟩

def recording (id : String) : Wire := ⟨id, .recording [] [] 0, none, []⟩

def loopbackId : String := "loopback"

def loopback : Wire := ⟨loopbackId, .loopback, none, []⟩

def sentFrom (side : Role) (i : Item) : Transmission :=
  ⟨side, i.message.id, i.route.url.val, i.message.size⟩

/-- A message goes out by the entry for the side that its route names. -/
def transmission (i : Item) : Transmission :=
  match i.route.role with
  | .consumer => sentFrom .consumer i
  | .provider => sentFrom .provider i

def remember (w : Wire) (i : Item) : Wire := { w with sends := w.sends ++ [transmission i] }

def receipt (kind : Kind) (about : String) (seed : Nat) : Push :=
  .notification
    ⟨kind, Payload.Id.generate (.ofNat seed), about, .receipt, "loopback receipt", .ago 0⟩

/-- One attempt to send: the wire afterwards, what it pushes, and the outcome. There is none while
the wire holds the message. -/
def attempt (w : Wire) (i : Item) (seed : Nat) : Option (Wire × List Push × Outcome) :=
  let id := i.message.id
  match w.nature with
  | .scripted behaviors _ _ held =>
    if id ∈ held then none
    else
      let b := (behaviors.lookup id).getD Behavior.plain
      some (w.remember i, b.pushes, b.outcome)
  | .recording failures attempted shutdowns =>
    let tried := { w with nature := .recording failures (id :: attempted) shutdowns }
    match failures.lookup id with
    | some code =>
      some (tried, [], .failed (.exchange code ("injected failure for " ++ id)))
    | none => some (tried.remember i, [], .accepted)
  | .loopback => some (w, [receipt .submission id seed, receipt .relay id (seed + 1)], .accepted)

/-- Attaches a gateway, unless the wire refuses or has one. -/
def attach (w : Wire) (gateway : Nat) : Except Fault Wire :=
  let free : Except Fault Wire :=
    match w.attached with
    | some _ => .error (.configuration (.wireTaken w.id))
    | none => .ok { w with attached := some gateway }
  match w.nature with
  | .scripted _ (some fault) _ _ => .error fault
  | _ => free

/-- Lets go of the gateway. The wire may report a fault, and has let go all the same. -/
def shutdown (w : Wire) : Wire × Except Fault Unit :=
  let w := { w with attached := none }
  match w.nature with
  | .scripted _ _ (some fault) _ => (w, .error fault)
  | .recording failures attempted n => ({ w with nature := .recording failures attempted (n + 1) }, .ok ())
  | _ => (w, .ok ())

/-- Scripted wires tell when they are shut down. -/
def tells (w : Wire) : Bool :=
  match w.nature with
  | .scripted _ _ _ _ => true
  | _ => false

def hold (w : Wire) (id : String) : Wire :=
  match w.nature with
  | .scripted b r s held => { w with nature := .scripted b r s (id :: held) }
  | _ => w

def release (w : Wire) (id : Option String) : Wire :=
  match w.nature with
  | .scripted b r s held =>
    { w with nature := .scripted b r s (match id with | some id => held.filter (· != id) | none => []) }
  | _ => w

def fail (w : Wire) (id code : String) : Wire :=
  match w.nature with
  | .recording failures attempted n => { w with nature := .recording ((id, code) :: failures) attempted n }
  | _ => w

def attempted (w : Wire) (id : String) : Bool :=
  match w.nature with
  | .recording _ attempted _ => attempted.contains id
  | _ => w.sends.any (·.message == id)

def shutdowns (w : Wire) : Nat :=
  match w.nature with
  | .recording _ _ n => n
  | _ => 0

end Wire

end MessageExchange

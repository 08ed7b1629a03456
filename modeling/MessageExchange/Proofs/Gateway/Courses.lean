import MessageExchange.Gateway
import MessageExchange.Proofs.Correlation.Listening
import MessageExchange.Proofs.Outbound.Tally

/-! Runs of a gateway, one move at a time and in any order. Its way out is a course of its pipeline. Sends
end however and whenever they like, and the wire lets go however and whenever it likes: no wire is singled
out. A shutdown call goes from one wait to the next, and between any two of its moves anything else may
happen. It may be given up wherever it waits. -/

namespace MessageExchange

open Correlation (Ticket Wait Correlator)

def Effect.stopped? : Effect → Option (Ticket × Except Fault Stats)
  | stopped t result => some (t, result)
  | _ => none

namespace Gateway

/-- How far a shutdown call has come that has left the pipeline. -/
inductive Stage
  /-- It waits for the wire to let go. -/
  | wire
  /-- The wire has answered. It has told the periodic sweep of a correlator to end, waits for that, and
  closes the correlator then. -/
  | correlator (kind : Kind) (answer : Except Fault Unit)
  /-- Both correlators are closed. -/
  | closed (answer : Except Fault Unit)

/-- Here the call waits, and can be given up. -/
def Stage.waits : Stage → Bool
  | closed _ => false
  | _ => true

def Stage.past (answer : Except Fault Unit) : Kind → Stage
  | .submission => correlator .relay answer
  | .relay => closed answer

def Stage.answer? : Stage → Option (Except Fault Unit)
  | wire => none
  | correlator _ answer => some answer
  | closed answer => some answer

/-- The correlator of the kind has closed by then. -/
def Stage.hasClosed : Stage → Kind → Bool
  | wire, _ => false
  | correlator next _, kind => next == .relay && kind == .submission
  | closed _, _ => true

theorem Stage.hasClosed_past {answer : Except Fault Unit} {kind kind' : Kind}
    (h : (past answer kind).hasClosed kind' = true) :
    kind' = kind ∨ (correlator kind answer).hasClosed kind' = true := by
  cases kind <;> cases kind' <;> simp_all [past, hasClosed]

/-- A call that is given up while it waits for a periodic sweep leaves it told to end. -/
def Stage.forsake (g : Gateway) : Stage → Gateway
  | correlator kind _ => g.halt kind
  | _ => g

/-- A shutdown call that has left the pipeline, and the counters it will end with. -/
structure Ending where
  call : Ticket
  stats : Stats
  stage : Stage

structure Course where
  waiting : Span
  storage : Instant
  gateway : Gateway
  ending : Option Ending
  /-- The ticket of the next call. -/
  next : Ticket

inductive Move
  | enqueue (message : Message) (route : Route)
  /-- The worker's own move. -/
  | work
  /-- The send in progress ends. -/
  | finish (outcome : Outbound.Outcome)
  /-- The drain time of the watching call may be up. -/
  | expire
  | notify (site : Site) (draft : Notification.Draft)
  | handle (direction : Direction) (handler : Handler)
  | listen (kind : Kind) (listener : String)
  | await (kind : Kind) (id : String) (timeout : Span)
  /-- A call whose deadline has come gives up. -/
  | timeOut (kind : Kind) (wait : Wait String)
  | sweep (kind : Kind)
  /-- The periodic sweep looks at the clock. -/
  | tick (kind : Kind)
  | shutdown
  /-- The pipeline's shutdown call goes on. -/
  | attend
  /-- The wire has let go of the gateway, or says why not. -/
  | released (answer : Except Fault Unit)
  /-- The periodic sweep that the shutdown call waits for has ended. The correlator closes. -/
  | close (kind : Kind)
  /-- The shutdown call ends. -/
  | reply
  | cancel (call : Ticket)
  /-- A call is made elsewhere. -/
  | elsewhere
  | pass (span : Span)
  | age (span : Span)

inductive Note
  /-- To messages, on the way out. -/
  | outbound (note : Outbound.Note)
  | seen (effect : Effect)
  /-- The wire is asked to let go of the gateway named. -/
  | releasing (wire : Nat) (gateway : String)
  | released (answer : Except Fault Unit)

namespace Note

def outbound? : Note → Option Outbound.Note
  | outbound note => some note
  | _ => none

def answer? : Note → Option (Ticket × Except Fault Notification)
  | seen e => e.answer?
  | _ => none

def stopped? : Note → Option (Ticket × Except Fault Stats)
  | seen e => e.stopped?
  | _ => none

def releasing? : Note → Option (Nat × String)
  | releasing wire gateway => some (wire, gateway)
  | _ => none

def released? : Note → Option (Except Fault Unit)
  | released answer => some answer
  | _ => none

end Note

@[simp] theorem correlator_setCorrelator (g : Gateway) (kind kind' : Kind) (r : Correlator) :
    (g.setCorrelator kind r).correlator kind' = if kind' = kind then r else g.correlator kind' := by
  cases kind <;> cases kind' <;> rfl

@[simp] theorem pipeline_setCorrelator (g : Gateway) (kind : Kind) (r : Correlator) :
    (g.setCorrelator kind r).pipeline = g.pipeline := by
  cases kind <;> rfl

theorem desk_halt (g : Gateway) (kind kind' : Kind) :
    ((g.halt kind).correlator kind').desk = (g.correlator kind').desk ∧
      ((g.halt kind).correlator kind').kind = (g.correlator kind').kind := by
  rw [halt, correlator_setCorrelator]
  split_ifs with hk
  · rw [hk]
    exact ⟨rfl, rfl⟩
  · exact ⟨rfl, rfl⟩

theorem desk_forsake (stage : Stage) (g : Gateway) (kind : Kind) :
    ((stage.forsake g).correlator kind).desk = (g.correlator kind).desk ∧
      ((stage.forsake g).correlator kind).kind = (g.correlator kind).kind := by
  cases stage with
  | correlator kind' answer => exact desk_halt g kind' kind
  | _ => exact ⟨rfl, rfl⟩

theorem forsake_frame (stage : Stage) (g : Gateway) :
    (stage.forsake g).pipeline = g.pipeline ∧ (stage.forsake g).stopped = g.stopped ∧
      (stage.forsake g).wire = g.wire ∧ (stage.forsake g).name = g.name := by
  cases stage with
  | correlator kind answer => cases kind <;> exact ⟨rfl, rfl, rfl, rfl⟩
  | _ => exact ⟨rfl, rfl, rfl, rfl⟩

theorem close_frame (g : Gateway) (kind : Kind) :
    (g.close kind).1.pipeline = g.pipeline ∧ (g.close kind).1.stopped = g.stopped ∧
      (g.close kind).1.wire = g.wire ∧ (g.close kind).1.name = g.name := by
  cases kind <;> exact ⟨rfl, rfl, rfl, rfl⟩

namespace Course

def start (s : Settings) (wire : Nat) (wireId : String) (waiting : Span) (storage : Instant)
    (next : Ticket) : Course :=
  ⟨waiting, storage, Gateway.start s wire wireId storage, none, next⟩

def outbound (c : Course) : Outbound.Course := ⟨c.waiting, c.gateway.pipeline, c.next⟩

def along (c : Course) (m : Outbound.Move) : Course × List Note :=
  let (o, notes) := c.outbound.step m
  ({ c with gateway := { c.gateway with pipeline := o.pipeline } }, notes.map .outbound)

def correlate (c : Course) (kind : Kind) (f : Correlator → Correlator × List Effect) :
    Course × List Note :=
  let (r, effects) := f (c.gateway.correlator kind)
  ({ c with gateway := c.gateway.setCorrelator kind r }, effects.map .seen)

def isPending (c : Course) (t : Ticket) : Bool :=
  c.gateway.isPending t || c.ending.any fun e => e.call == t && e.stage.waits

def forsake (c : Course) (t : Ticket) : Course :=
  match c.ending with
  | none => c
  | some e =>
    if e.call = t ∧ e.stage.waits then { c with gateway := e.stage.forsake c.gateway, ending := none }
    else c

/-- One move. One that is not possible changes nothing. -/
def step (c : Course) : Move → Course × List Note
  | .enqueue m r => c.along (.enqueue m r)
  | .work => c.along .work
  | .finish o => c.along (.finish o)
  | .expire => c.along .expire
  | .notify site draft =>
    let (g, h) := c.gateway.notify site (draft.appear c.storage) c.storage
    ({ c with gateway := g }, h.effects.map .seen)
  | .handle direction handler =>
    match c.gateway.inbound.register direction handler with
    | .error _ => (c, [])
    | .ok inbound => ({ c with gateway := { c.gateway with inbound } }, [])
  | .listen kind listener =>
    match (c.gateway.correlator kind).listen listener with
    | .error _ => (c, [])
    | .ok r => ({ c with gateway := c.gateway.setCorrelator kind r }, [])
  | .await kind id timeout =>
    let (c', notes) := c.correlate kind (·.await c.next id timeout c.waiting)
    ({ c' with next := c.next + 1 }, notes)
  | .timeOut kind w =>
    if w ∈ (c.gateway.correlator kind).desk.due c.waiting then c.correlate kind (·.timeOut w)
    else (c, [])
  | .sweep kind => c.correlate kind fun r => ((r.sweep c.storage).1, [])
  | .tick kind => c.correlate kind (·.tick c.storage)
  | .shutdown =>
    let (g, found) := c.gateway.shutdown c.next
    ({ c with gateway := g, next := c.next + 1 },
      (found.map fun stats => .seen (.stopped c.next (.ok stats))).toList)
  | .attend =>
    let (c', notes) := c.along .attend
    match (notes.filterMap Note.outbound?).findSome? Outbound.Note.ended? with
    | none => (c', notes)
    | some (call, stats) =>
      ({ c' with ending := some ⟨call, stats, .wire⟩ },
        notes ++ [.releasing c.gateway.wire c.gateway.name])
  | .released answer =>
    match c.ending with
    | some ⟨call, stats, .wire⟩ =>
      ({ c with ending := some ⟨call, stats, .correlator .submission answer⟩ }, [.released answer])
    | _ => (c, [])
  | .close kind =>
    match c.ending with
    | some ⟨call, stats, .correlator kind' answer⟩ =>
      if kind' = kind then
        let (g, effects) := c.gateway.close kind
        ({ c with gateway := g, ending := some ⟨call, stats, .past answer kind⟩ }, effects.map .seen)
      else (c, [])
    | _ => (c, [])
  | .reply =>
    match c.ending with
    | some ⟨call, stats, .closed answer⟩ =>
      ({ c with ending := none }, (c.gateway.reply call stats answer).map .seen)
    | _ => (c, [])
  | .cancel t =>
    if c.isPending t then
      (Course.forsake { c with gateway := c.gateway.cancel t } t, [.seen (.cancelled t)])
    else (c, [])
  | .elsewhere => ({ c with next := c.next + 1 }, [])
  | .pass span => ({ c with waiting := ⟨c.waiting.nanos + span.nanos⟩ }, [])
  | .age span => ({ c with storage := c.storage.add span }, [])

def after (c : Course) (moves : List Move) : Course := moves.foldl (fun c m => (c.step m).1) c

def notes (c : Course) : List Move → List Note
  | [] => []
  | m :: rest => (c.step m).2 ++ (c.step m).1.notes rest

theorem after_append (c : Course) (us vs : List Move) :
    c.after (us ++ vs) = (c.after us).after vs := List.foldl_append

theorem notes_append (c : Course) (us vs : List Move) :
    c.notes (us ++ vs) = c.notes us ++ (c.after us).notes vs := by
  induction us generalizing c with
  | nil => rfl
  | cons m rest ih =>
    rw [List.cons_append, notes, ih, notes, List.append_assoc]
    rfl

/-- Giving a call up matters to the ending if it is the call of the ending, and waits there. -/
theorem forsake_cases (c : Course) (t : Ticket) :
    (∃ e, c.ending = some e ∧ e.call = t ∧ e.stage.waits = true ∧
      c.forsake t = { c with gateway := e.stage.forsake c.gateway, ending := none }) ∨
    (∀ e, c.ending = some e → e.stage.waits = true → e.call ≠ t) ∧ c.forsake t = c := by
  cases he : c.ending with
  | none => exact .inr ⟨nofun, by simp only [forsake, he]⟩
  | some e =>
    by_cases hown : e.call = t ∧ e.stage.waits = true
    · exact .inl ⟨e, rfl, hown.1, hown.2, by simp only [forsake, he, if_pos hown]⟩
    · refine .inr ⟨fun e' he' hwaits ht => hown ?_, by simp only [forsake, he, if_neg hown]⟩
      obtain rfl := Option.some.inj he'
      exact ⟨ht, hwaits⟩

/-- What each of the moves keeps, given all that was noted so far, holds along the run. -/
theorem run_of_step {P : Course → List Note → Prop} (moves : List Move)
    (hstep : ∀ c notes, P c notes → ∀ m ∈ moves, P (c.step m).1 (notes ++ (c.step m).2))
    {c : Course} {notes : List Note} (h : P c notes) : P (c.after moves) (notes ++ c.notes moves) := by
  induction moves generalizing c notes with
  | nil => exact (List.append_nil notes).symm ▸ h
  | cons m rest ih =>
    have hfirst := hstep c notes h m List.mem_cons_self
    have hrest := ih (fun c notes h m' hm => hstep c notes h m' (List.mem_cons_of_mem m hm)) hfirst
    rwa [List.append_assoc] at hrest

end Course

end Gateway

end MessageExchange

import MessageExchange.Proofs.Outbound.Moves

/-! Runs of a pipeline, one move at a time and in any order. A send in progress ends whenever it likes
and however it likes, so no wire is singled out. `Stepped` says once what a move can do; what holds along
a run is proved from it, case by case. -/

namespace MessageExchange.Outbound

open Correlation (Ticket)

structure Course where
  waiting : Span
  pipeline : Pipeline
  /-- The ticket of the next call. -/
  next : Ticket

inductive Move
  | enqueue (message : Message) (route : Route)
  /-- The worker's own move. -/
  | work
  /-- The send in progress ends. -/
  | finish (outcome : Outcome)
  | shutdown (drain : Span)
  /-- The call whose turn it is goes on. -/
  | attend
  /-- The watching call looks at the clock. -/
  | expire
  | cancel (call : Ticket)
  | letGo
  | pass (span : Span)

inductive Note
  | accepted (message : Message) (route : Route)
  | refused (fault : Fault)
  /-- The wire is asked to send it. -/
  | invoked (item : Item)
  | finished (item : Item) (outcome : Outcome)
  | dropped (item : Item)
  | ended (call : Ticket) (stats : Stats)

namespace Note

def accepted? : Note → Option (Message × Route)
  | accepted m r => some (m, r)
  | _ => none

def invoked? : Note → Option Item
  | invoked i => some i
  | _ => none

def finished? : Note → Option (Item × Outcome)
  | finished i o => some (i, o)
  | _ => none

def dropped? : Note → Option Item
  | dropped i => some i
  | _ => none

def ended? : Note → Option (Ticket × Stats)
  | ended t stats => some (t, stats)
  | _ => none

end Note

namespace Pipeline

def current (p : Pipeline) : List Item :=
  match p.worker with
  | .sending i => [i]
  | _ => []

def taken (p p' : Pipeline) : List Note :=
  match p'.worker with
  | .sending i => [.invoked i]
  | _ => (p.queue.take (p.queue.length - p'.queue.length)).map .dropped

end Pipeline

namespace Course

def start (wire : String) : Course := ⟨⟨0⟩, Pipeline.start wire, 0⟩

/-- One move. One that is not possible changes nothing. -/
def step (c : Course) : Move → Course × List Note
  | .enqueue m r =>
    let (answer, p, _) := c.pipeline.enqueue m r
    ({ c with pipeline := p },
      match answer with
      | .ok _ => [.accepted m r]
      | .error fault => [.refused fault])
  | .work =>
    match c.pipeline.work with
    | none => (c, [])
    | some (p, _) => ({ c with pipeline := p }, c.pipeline.taken p)
  | .finish o =>
    match c.pipeline.worker with
    | .sending i => ({ c with pipeline := (c.pipeline.account i o).1 }, [.finished i o])
    | _ => (c, [])
  | .shutdown drain =>
    ({ c with pipeline := c.pipeline.shutdown c.next drain, next := c.next + 1 }, [])
  | .attend =>
    match c.pipeline.attend c.waiting with
    | none => (c, [])
    | some (p, _, ended) =>
      ({ c with pipeline := p }, ended.toList.map fun e => .ended e.1 e.2)
  | .expire => ({ c with pipeline := (c.pipeline.expire c.waiting).1 }, [])
  | .cancel t =>
    if c.pipeline.isPending t then ({ c with pipeline := c.pipeline.cancel t }, []) else (c, [])
  | .letGo => ({ c with pipeline := c.pipeline.letGo }, [])
  | .pass span => ({ c with waiting := ⟨c.waiting.nanos + span.nanos⟩ }, [])

def after (c : Course) (moves : List Move) : Course := moves.foldl (fun c m => (c.step m).1) c

def notes (c : Course) : List Move → List Note
  | [] => []
  | m :: rest => (c.step m).2 ++ (c.step m).1.notes rest

def accepted (c : Course) (moves : List Move) : List (Message × Route) :=
  (c.notes moves).filterMap Note.accepted?

def invoked (c : Course) (moves : List Move) : List Item :=
  (c.notes moves).filterMap Note.invoked?

def finished (c : Course) (moves : List Move) : List (Item × Outcome) :=
  (c.notes moves).filterMap Note.finished?

def dropped (c : Course) (moves : List Move) : List Item :=
  (c.notes moves).filterMap Note.dropped?

variable {c : Course}

theorem after_append (c : Course) (us vs : List Move) :
    c.after (us ++ vs) = (c.after us).after vs := List.foldl_append

theorem notes_append (c : Course) (us vs : List Move) :
    c.notes (us ++ vs) = c.notes us ++ (c.after us).notes vs := by
  induction us generalizing c with
  | nil => rfl
  | cons m rest ih =>
    rw [List.cons_append, notes, ih, notes, List.append_assoc]
    rfl

theorem orderly_step (h : c.pipeline.Orderly) (m : Move) : (c.step m).1.pipeline.Orderly := by
  cases m with
  | enqueue m r => exact h.enqueue m r
  | work =>
    simp only [step]
    split
    · exact h
    next p events hw => exact h.work hw
  | finish o =>
    simp only [step]
    split
    next i hw => exact h.account i o
    · exact h
  | shutdown drain => exact h.shutdown c.next drain
  | attend =>
    simp only [step]
    split
    · exact h
    next p events ended ha => exact h.attend ha
  | expire => exact h.expire c.waiting
  | cancel t =>
    simp only [step]
    split_ifs
    · exact h.cancel t
    · exact h
  | letGo => exact h.letGo
  | pass span => exact h

theorem orderly_after (h : c.pipeline.Orderly) (moves : List Move) :
    (c.after moves).pipeline.Orderly := by
  induction moves generalizing c with
  | nil => exact h
  | cons m rest ih => exact ih (orderly_step h m)

/-- All that one move of an orderly pipeline can do. -/
inductive Stepped (c : Course) : Move → Course → List Note → Prop
  /-- The move is not possible. -/
  | stay {m} : Stepped c m c []
  | refuse {m r} (fault : Fault) : Stepped c (.enqueue m r) c [.refused fault]
  | accept {m r} (open_ : c.pipeline.accepting = true) :
    Stepped c (.enqueue m r)
      { c with pipeline := { c.pipeline with
          next := c.pipeline.next + 1, queue := c.pipeline.queue ++ [⟨c.pipeline.next, m, r⟩],
          stats := { c.pipeline.stats with enqueued := c.pipeline.stats.enqueued + 1 } } }
      [.accepted m r]
  | invoke {i rest} (idle : c.pipeline.worker = .idle) (queue : c.pipeline.queue = i :: rest)
    (free : c.pipeline.order ≠ .given) :
    Stepped c .work { c with pipeline := { c.pipeline with worker := .sending i, queue := rest } }
      [.invoked i]
  | obey {i rest} (idle : c.pipeline.worker = .idle) (queue : c.pipeline.queue = i :: rest)
    (told : c.pipeline.order = .given) :
    Stepped c .work { c with pipeline := { c.pipeline with worker := .dropping } } []
  | drop {i rest} (dropping : c.pipeline.worker = .dropping) (queue : c.pipeline.queue = i :: rest) :
    Stepped c .work
      { c with pipeline := { c.pipeline with
          queue := rest,
          stats := { c.pipeline.stats with dropped := c.pipeline.stats.dropped + 1 } } }
      [.dropped i]
  | stop (queue : c.pipeline.queue = []) (why : c.pipeline.worker = .dropping ∨
      c.pipeline.worker = .idle ∧ (c.pipeline.order = .given ∨ c.pipeline.accepting = false)) :
    Stepped c .work { c with pipeline := { c.pipeline with worker := .stopped } } []
  | finish {i} (sending : c.pipeline.worker = .sending i) (o : Outcome) :
    Stepped c (.finish o) { c with pipeline := (c.pipeline.account i o).1 } [.finished i o]
  | shutdown (drain : Span) :
    Stepped c (.shutdown drain)
      { c with pipeline := c.pipeline.shutdown c.next drain, next := c.next + 1 } []
  /-- A call gets its turn, and watches the worker. -/
  | turn {t drain rest} (calls : c.pipeline.calls = ⟨t, .queued drain⟩ :: rest)
    (unwatched : c.pipeline.unwatched = true) :
    Stepped c .attend
      { c with pipeline := { c.pipeline with
          unwatched := false,
          calls := ⟨t, .draining drain
            (if drain.nanos = 0 then none else some ⟨c.waiting.nanos + drain.nanos⟩)⟩ :: rest } }
      []
  | leave {call rest} (calls : c.pipeline.calls = call :: rest)
    (why : call.phase.waits = true ∧ c.pipeline.unwatched = false ∨
      call.phase.waits = false ∧ c.pipeline.worker = .stopped) :
    Stepped c .attend { c with pipeline := { c.pipeline with calls := rest } }
      [.ended call.ticket c.pipeline.stats]
  | lapse {t drain deadline rest}
    (calls : c.pipeline.calls = ⟨t, .draining drain (some deadline)⟩ :: rest)
    (lapsed : c.pipeline.Lapsed c.waiting) :
    Stepped c .expire
      { c with pipeline := { c.pipeline with order := .given, calls := ⟨t, .abandoning⟩ :: rest } }
      []
  | cancel {t} (pending : c.pipeline.isPending t = true) :
    Stepped c (.cancel t) { c with pipeline := c.pipeline.cancel t } []
  | letGo : Stepped c .letGo { c with pipeline := c.pipeline.letGo } []
  | pass (span : Span) :
    Stepped c (.pass span) { c with waiting := ⟨c.waiting.nanos + span.nanos⟩ } []

theorem stepped_work {p : Pipeline} {events : List Event} (hw : c.pipeline.work = some (p, events)) :
    Stepped c .work { c with pipeline := p } (c.pipeline.taken p) := by
  rcases Pipeline.work_cases hw with ⟨i, rest, hidle, hq, hfree, rfl, -⟩ |
    ⟨i, rest, hidle, hq, htold, rfl, -⟩ | ⟨i, rest, hdropping, hq, rfl, -⟩ | ⟨hq, hwhy, rfl, -⟩
  · exact .invoke hidle hq hfree
  · have hnone : c.pipeline.taken { c.pipeline with worker := .dropping } = [] := by
      simp [Pipeline.taken]
    rw [hnone]
    exact .obey hidle hq htold
  · have hone : c.pipeline.taken { c.pipeline with
        queue := rest, stats := { c.pipeline.stats with dropped := c.pipeline.stats.dropped + 1 } } =
        [.dropped i] := by
      simp [Pipeline.taken, hdropping, hq]
    rw [hone]
    exact .drop hdropping hq
  · have hnone : c.pipeline.taken { c.pipeline with worker := .stopped } = [] := by
      simp [Pipeline.taken, hq]
    rw [hnone]
    exact .stop hq hwhy

theorem stepped (h : c.pipeline.Orderly) (m : Move) : Stepped c m (c.step m).1 (c.step m).2 := by
  cases m with
  | enqueue m r =>
    simp only [step]
    rcases h.enqueue_cases m r with ⟨fault, hanswer, hp⟩ | ⟨hopen, hanswer, hp⟩
    · rw [hanswer, hp]
      exact .refuse fault
    · rw [hanswer, hp]
      exact .accept hopen
  | work =>
    simp only [step]
    split
    · exact .stay
    next p events hw => exact stepped_work hw
  | finish o =>
    simp only [step]
    split
    next i hsending => exact .finish hsending o
    · exact .stay
  | shutdown drain => exact .shutdown drain
  | attend =>
    simp only [step]
    split
    · exact .stay
    next p events ended ha =>
      obtain ⟨⟨t, phase⟩, rest, hcalls, ⟨drain, hphase, hun, rfl, rfl⟩ | ⟨hwhy, rfl, rfl⟩⟩ :=
        Pipeline.attend_cases ha
      · cases hphase
        exact .turn hcalls hun
      · exact .leave hcalls hwhy
  | expire =>
    simp only [step]
    rcases Pipeline.expire_cases c.pipeline c.waiting with
      ⟨-, hp⟩ | ⟨t, drain, deadline, rest, hcalls, hlapsed, hp⟩
    · rw [hp]
      exact .stay
    · rw [hp]
      exact .lapse hcalls hlapsed
  | cancel t =>
    simp only [step]
    split_ifs with hpending
    · exact .cancel hpending
    · exact .stay
  | letGo => exact .letGo
  | pass span => exact .pass span

end Course

end MessageExchange.Outbound

import MessageExchange.Network.Run
import MessageExchange.Proofs.Network.Courses

/-! A network of one gateway over one loopback wire, between two acts. Nothing is queued, nothing is on its
way and nobody has asked it to stop, so whatever is enqueued is sent in the same act, and the call that
stops it finds the counters as they stand. -/

namespace MessageExchange

open Correlation (Ticket)
open Outbound (Pipeline Item Outcome)

namespace Outbound.Pipeline

/-- Nothing is queued, nothing is on its way and there was no shutdown call. -/
structure Ready (p : Pipeline) (stats : Stats) : Prop where
  accepting : p.accepting = true
  stats : p.stats = stats
  queue : p.queue = []
  worker : p.worker = .idle
  order : p.order = .pending
  unwatched : p.unwatched = true
  calls : p.calls = []

variable {p : Pipeline} {stats : Stats}

theorem Ready.start (wire : String) : (Pipeline.start wire).Ready Stats.zero :=
  ⟨rfl, rfl, rfl, rfl, rfl, rfl, rfl⟩

theorem Ready.work (h : p.Ready stats) : p.work = none := by
  simp [Pipeline.work, h.worker, h.queue, h.order, h.accepting]

theorem Ready.drive {σ : Type} (h : p.Ready stats)
    (attempt : σ → Item → Option (σ × Outcome × List Effect)) (n : Nat) (s : σ) :
    Pipeline.drive attempt n s p = (s, p, []) := by
  cases n with
  | zero => rfl
  | succ n => simp only [Pipeline.drive, h.worker, h.work]

def holding (p : Pipeline) (m : Message) (r : Route) : Pipeline :=
  { p with
    next := p.next + 1, queue := [⟨p.next, m, r⟩],
    stats := { p.stats with enqueued := p.stats.enqueued + 1 } }

theorem Ready.enqueue (h : p.Ready stats) {m : Message} {head : Payload} (hm : m.head = .ok head)
    (r : Route) :
    p.enqueue m r = (.ok (), p.holding m r, [.enqueued (p.trail ⟨p.next, m, r⟩)]) := by
  simp [Pipeline.enqueue, hm, h.accepting, Pipeline.closed, h.worker, h.queue, holding]

theorem Ready.drive_holding {σ : Type} (h : p.Ready stats) {m : Message} {r : Route}
    {attempt : σ → Item → Option (σ × Outcome × List Effect)} {s s' : σ} {during : List Effect}
    (ha : attempt s ⟨p.next, m, r⟩ = some (s', .accepted, during)) :
    let driven := Pipeline.drive attempt (p.holding m r).bound s (p.holding m r)
    driven.1 = s' ∧
      driven.2.1.Ready { stats with enqueued := stats.enqueued + 1, sent := stats.sent + 1 } := by
  intro driven
  have hready : ({ p.holding m r with
      queue := [], worker := .idle,
      stats := { (p.holding m r).stats with sent := (p.holding m r).stats.sent + 1 } } : Pipeline).Ready
        { stats with enqueued := stats.enqueued + 1, sent := stats.sent + 1 } := by
    refine ⟨h.accepting, ?_, rfl, rfl, h.order, h.unwatched, h.calls⟩
    simp only [holding, h.stats]
  have hfree : ¬ p.order = .given := by simp [h.order]
  have htaken : (p.holding m r).work =
      some ({ p.holding m r with worker := .sending ⟨p.next, m, r⟩, queue := [] },
        [.dispatched ((p.holding m r).trail ⟨p.next, m, r⟩) r.text r.role]) := by
    simp [Pipeline.work, holding, h.worker, hfree]
  have hidle : (p.holding m r).worker = .idle := h.worker
  have hbound : (p.holding m r).bound = 6 := rfl
  simp only [driven, hbound, Pipeline.drive, hidle, htaken, ha, Pipeline.account, hready.work]
  exact ⟨trivial, hready⟩

theorem Ready.drive_shutdown {σ : Type} (h : p.Ready stats)
    (attempt : σ → Item → Option (σ × Outcome × List Effect)) (s : σ) (t : Ticket) (n : Nat) :
    Pipeline.drive attempt (n + 2) s (p.shutdown t ⟨0⟩) =
      (s, { p.shutdown t ⟨0⟩ with worker := .stopped }, [.logged .worker (.workerStopped p.wire)]) := by
  simp [Pipeline.drive, Pipeline.work, Pipeline.shutdown, h.worker, h.queue]

theorem Ready.attendAll_shutdown (h : p.Ready stats) (t : Ticket) (now : Span) :
    let last : Pipeline := { p.shutdown t ⟨0⟩ with worker := .stopped }
    ∃ q, last.attendAll now (2 * last.calls.length + 1) =
      (q, [.pipelineStopped p.wire stats], [(t, stats)]) := by
  simp [Pipeline.attendAll, Pipeline.attend, Pipeline.shutdown, h.calls, h.unwatched, h.stats]

end Outbound.Pipeline

namespace Gateway

structure Aside (g g' : Gateway) : Prop where
  wire : g'.wire = g.wire
  stopped : g'.stopped = g.stopped
  pipeline : g'.pipeline = g.pipeline

variable {g g' g'' : Gateway}

theorem Aside.refl (g : Gateway) : g.Aside g := ⟨rfl, rfl, rfl⟩

theorem Aside.trans (h1 : g.Aside g') (h2 : g'.Aside g'') : g.Aside g'' :=
  ⟨h2.wire.trans h1.wire, h2.stopped.trans h1.stopped, h2.pipeline.trans h1.pipeline⟩

theorem aside_setCorrelator (g : Gateway) (kind : Kind) (c : Correlation.Correlator) :
    g.Aside (g.setCorrelator kind c) := by
  cases kind <;> exact ⟨rfl, rfl, rfl⟩

theorem aside_take (g : Gateway) (site : Site) (now : Instant) (pushes : List Push) :
    g.Aside (g.take site now pushes).1 := by
  induction pushes generalizing g with
  | nil => exact .refl g
  | cons push rest ih =>
    cases push with
    | notification draft => exact (aside_setCorrelator g _ _).trans (ih _)
    | delivery d => exact ih g

theorem mem_close {e : Effect} {kind : Kind} (he : e ∈ (g.close kind).2) :
    ∃ call fault, e = .answered call (.error fault) := by
  obtain ⟨w, -, rfl⟩ := List.mem_map.1 he
  exact ⟨_, _, rfl⟩

end Gateway

namespace Network

def loop : Wire := { Wire.loopback with attached := some 0 }

/-- Nothing is asked for; time passes. -/
inductive Act.Passes : Act → Prop
  | advance (span : Span) : Passes (.advance span)
  | age (span : Span) : Passes (.age span)

/-- One gateway over the loopback wire, with these counters, between two acts. -/
structure Serves (net : Network) (stats : Stats) : Prop where
  wires : net.wires = [loop]
  alone : ∃ g, net.gateways = [g] ∧ g.wire = 0 ∧ g.stopped = false ∧ g.pipeline.Ready stats

variable {net net' : Network} {stats : Stats}

/-- One gateway goes on: its worker, then its calls, then what their ends bring about. -/
theorem settleOne_eq {i : Nat} {g : Gateway} {p q : Pipeline} {worked : List Effect}
    {events : List Event} {ended : List (Ticket × Stats)} (hi : net.gateways[i]? = some g)
    (hdrive : Pipeline.drive (attempt g.wire) g.pipeline.bound net g.pipeline = (net', p, worked))
    (hattend : p.attendAll net'.waiting (2 * p.calls.length + 1) = (q, events, ended)) :
    net.settleOne i =
      let rest := ended.foldl (fun r e =>
        let next := r.1.conclude i e.1 e.2
        (next.1, r.2 ++ next.2)) (net'.withPipeline i q, [])
      (rest.1, worked ++ events.map (.logged .caller) ++ rest.2) := by
  simp only [settleOne, hi, hdrive, hattend]
  rfl

theorem seat_alone {g : Gateway} (hg : net.gateways = [g]) : net.gateways[0]? = some g := by
  rw [hg]
  rfl

theorem settle_alone {g : Gateway} (hg : net.gateways = [g]) : net.settle = net.settleOne 0 := by
  rw [Network.settle, hg]
  simp

theorem conclude_loop {i : Nat} {g : Gateway} (hi : net.gateways[i]? = some g)
    (hwire : net.wires[g.wire]? = some loop) (call : Ticket) (stats : Stats) :
    ∃ closing, (net.conclude i call stats).2 = closing ++
        [.logged .caller (.gatewayStopped g.name stats), .stopped call (.ok stats)] ∧
      ∀ e ∈ closing, ∃ call fault, e = .answered call (.error fault) := by
  refine ⟨(g.close .submission).2 ++ ((g.close .submission).1.close .relay).2, ?_, fun e he => ?_⟩
  · simp only [conclude, hi, hwire]
    rfl
  · exact (List.mem_append.1 he).elim Gateway.mem_close Gateway.mem_close

/-- The loopback wire takes every message, and what it pushes goes to the correlators. -/
theorem attempt_loop (hwires : net.wires = [loop]) {g : Gateway} (hg : net.gateways = [g]) (i : Item) :
    ∃ net' g' during, attempt 0 net i = some (net', .accepted, during) ∧ net'.wires = [loop] ∧
      net'.gateways = [g'] ∧ g.Aside g' := by
  let pushes := [Wire.receipt .submission i.message.id net.seed,
    Wire.receipt .relay i.message.id (net.seed + 1)]
  have hattempt : loop.attempt i net.seed = some (loop, pushes, .accepted) := rfl
  have hwire : net.wires[0]? = some loop := by rw [hwires]; rfl
  refine ⟨{ net with
      wires := net.wires.set 0 loop, seed := net.seed + 2,
      gateways := net.gateways.set 0 (g.take .worker net.storage pushes).1 },
    (g.take .worker net.storage pushes).1, (g.take .worker net.storage pushes).2, ?_, ?_, ?_,
    Gateway.aside_take g .worker net.storage pushes⟩
  · have hattached : loop.attached = some 0 := rfl
    simp [attempt, hwire, hattempt, take, hattached, hg]
  · simp [hwires]
  · simp [hg]

namespace Serves

theorem settle (h : net.Serves stats) : net.settle = (net, []) := by
  obtain ⟨g, hgateways, hwire, hstopped, hready⟩ := h.alone
  have hi := seat_alone hgateways
  have hone : net.settleOne 0 = (net, []) := by
    rw [settleOne_eq hi (hready.drive _ _ _) (Gateway.Course.attendAll_of_calls_nil hready.calls _ _)]
    exact congrArg (·, []) (withPipeline_self hi)
  rw [settle_alone hgateways, hone]

/-- An act that leaves the wires alone and does no more to the gateway than to its correlators and handlers. -/
theorem of_aside (h : net.Serves stats) {g g' : Gateway} (hi : net.gateways[0]? = some g)
    (ha : g.Aside g') (hgateways : net'.gateways = [g']) (hwires : net'.wires = net.wires) :
    net'.Serves stats := by
  obtain ⟨g₀, hsame, hwire, hstopped, hready⟩ := h.alone
  rw [hsame] at hi
  cases hi
  exact ⟨hwires.trans h.wires, g', hgateways, ha.wire.trans hwire, ha.stopped.trans hstopped,
    ha.pipeline ▸ hready⟩

theorem set (h : net.Serves stats) {g g' : Gateway} (hi : net.gateways[0]? = some g) (ha : g.Aside g') :
    ({ net with gateways := net.gateways.set 0 g' } : Network).Serves stats := by
  refine h.of_aside hi ha ?_ rfl
  obtain ⟨g₀, hsame, -⟩ := h.alone
  rw [hsame]
  rfl

theorem tryOn (h : net.Serves stats) {α : Type} {check : Gateway → Except Fault α}
    {change : Gateway → α → Gateway} (hc : ∀ (g : Gateway) a, g.Aside (change g a)) :
    (net.tryOn 0 fun g => (check g).map (change g)).1.Serves stats := by
  unfold Network.tryOn
  split
  · exact h
  next g hi =>
    cases hcheck : check g with
    | error fault => simpa only [hcheck, Except.map] using h
    | ok a => simpa only [hcheck, Except.map] using h.set hi (hc g a)

/-- After an act that leaves the gateway serving there is nothing to go on. -/
theorem step_eq {a : Act} (h : (net.act a).1.Serves stats) : net.step a = net.act a := by
  simp only [step, h.settle, List.append_nil]

theorem step_handle (h : net.Serves stats) (direction : Direction) (handler : Handler) :
    (net.step (.handle 0 direction handler)).1.Serves stats := by
  have haside (g : Gateway) (inbound : Inbound) : g.Aside { g with inbound } := ⟨rfl, rfl, rfl⟩
  have hact : (net.act (.handle 0 direction handler)).1.Serves stats := h.tryOn haside
  rwa [step_eq hact]

theorem step_listen (h : net.Serves stats) (kind : Kind) (listener : String) :
    (net.step (.listen 0 kind listener)).1.Serves stats := by
  have hact : (net.act (.listen 0 kind listener)).1.Serves stats :=
    h.tryOn fun g c => Gateway.aside_setCorrelator g kind c
  rwa [step_eq hact]

theorem step_await (h : net.Serves stats) (kind : Kind) (id : String) (timeout : Span) :
    (net.step (.await 0 kind id timeout)).1.Serves stats := by
  have hact : (net.act (.await 0 kind id timeout)).1.Serves stats := by
    simp only [act]
    split
    · exact h
    next g hi =>
      let (c, effects) := (g.correlator kind).await net.next id timeout net.waiting
      have hset := h.set hi (Gateway.aside_setCorrelator g kind c)
      exact ⟨hset.wires, hset.alone⟩
  rwa [step_eq hact]

theorem timeOut (h : net.Serves stats) (p : Place) : (net.timeOut p).1.Serves stats := by
  unfold Network.timeOut
  split
  · exact h
  next g hi =>
    obtain ⟨g₀, hsame, -⟩ := id h.alone
    have hseat : p.gateway = 0 := by
      have hlt := (List.getElem?_eq_some_iff.1 hi).1
      rw [hsame, List.length_singleton] at hlt
      omega
    rw [hseat] at hi ⊢
    exact h.set hi (Gateway.aside_setCorrelator g p.kind _)

theorem timeOuts (h : net.Serves stats) (ps : List Place) :
    (ps.foldl (fun net p => (net.timeOut p).1) net).Serves stats := by
  induction ps generalizing net with
  | nil => exact h
  | cons p rest ih => exact ih (h.timeOut p)

theorem step_advance (h : net.Serves stats) (span : Span) : (net.step (.advance span)).1.Serves stats := by
  have hact : (net.act (.advance span)).1.Serves stats := by
    have hpassed : ({ net with waiting := ⟨net.waiting.nanos + span.nanos⟩ } : Network).Serves stats :=
      ⟨h.wires, h.alone⟩
    simp only [act, advance, foldl_fst Network.timeOut]
    exact hpassed.timeOuts _
  rwa [step_eq hact]

theorem tick (h : net.Serves stats) (kind : Kind) : (net.tick kind).1.Serves stats := by
  obtain ⟨g, hgateways, -⟩ := id h.alone
  have hi := seat_alone hgateways
  refine h.of_aside hi (g.aside_setCorrelator kind ((g.correlator kind).tick net.storage).1) ?_ rfl
  simp only [Network.tick, hgateways, List.map_cons, List.map_nil]

theorem step_age (h : net.Serves stats) (span : Span) : (net.step (.age span)).1.Serves stats := by
  have hact : (net.act (.age span)).1.Serves stats := by
    have hpassed : ({ net with storage := net.storage.add span } : Network).Serves stats :=
      ⟨h.wires, h.alone⟩
    exact (hpassed.tick .relay).tick .submission
  rwa [step_eq hact]

theorem run (h : net.Serves stats) {acts : List Act} (hacts : ∀ a ∈ acts, a.Passes) :
    (net.run acts).Serves stats := by
  induction acts generalizing net with
  | nil => exact h
  | cons a rest ih =>
    obtain ⟨ha, hrest⟩ := List.forall_mem_cons.1 hacts
    cases ha with
    | advance span => exact ih (h.step_advance span) hrest
    | age span => exact ih (h.step_age span) hrest

theorem step_enqueue (h : net.Serves stats) {m : Message} {head : Payload} (hm : m.head = .ok head)
    (r : Route) :
    (net.step (.enqueue 0 m r)).2.1 = .done ∧
      (net.step (.enqueue 0 m r)).1.Serves
        { stats with enqueued := stats.enqueued + 1, sent := stats.sent + 1 } := by
  obtain ⟨g, hgateways, hwire, hstopped, hready⟩ := h.alone
  have hi := seat_alone hgateways
  let queued := g.pipeline.holding m r
  let net₁ := net.withPipeline 0 queued
  have hact : (net.act (.enqueue 0 m r)).1 = net₁ ∧ (net.act (.enqueue 0 m r)).2.1 = .done := by
    simp only [act, hi, hready.enqueue hm r]
    exact ⟨rfl, rfl⟩
  have hgateways₁ : net₁.gateways = [{ g with pipeline := queued }] := by
    simp [net₁, withPipeline, onGateway, hgateways]
  have hi₁ := seat_alone hgateways₁
  obtain ⟨net₂, g₂, during, hattempt, hwires₂, hgateways₂, haside⟩ :=
    attempt_loop (show net₁.wires = [loop] from h.wires) hgateways₁ ⟨g.pipeline.next, m, r⟩
  rw [← hwire] at hattempt
  obtain ⟨hend, hready₂⟩ := hready.drive_holding hattempt
  generalize hdriven : Pipeline.drive (attempt g.wire) queued.bound net₁ queued = driven at hend hready₂
  obtain ⟨net', p, worked⟩ := driven
  obtain rfl : net₂ = net' := hend.symm
  have hsettle : net₁.settle.1 = net₂.withPipeline 0 p := by
    rw [settle_alone hgateways₁, settleOne_eq hi₁ hdriven
      (Gateway.Course.attendAll_of_calls_nil hready₂.calls _ _)]
    rfl
  refine ⟨?_, ?_, ?_⟩
  · simp only [step, hact.2]
  · simp only [step, hact.1, hsettle]
    exact hwires₂
  · simp only [step, hact.1, hsettle]
    refine ⟨{ g₂ with pipeline := p }, ?_, haside.wire.trans hwire,
      haside.stopped.trans hstopped, hready₂⟩
    simp [withPipeline, onGateway, hgateways₂]

theorem step_shutdown (h : net.Serves stats) :
    ∃ before, (net.step (.shutdown 0)).2.2 = before ++ [.stopped net.next (.ok stats)] ∧
      ∀ e ∈ before, (∃ site event, e = .logged site event) ∨ ∃ call result, e = .answered call result := by
  obtain ⟨g, hgateways, hwire, hstopped, hready⟩ := h.alone
  let asked : Gateway := { g with stopped := true, pipeline := g.pipeline.shutdown net.next ⟨0⟩ }
  let net₁ : Network := { net with gateways := [asked], next := net.next + 1 }
  have hshutdown : g.shutdown net.next = (asked, none) := by simp [Gateway.shutdown, hstopped, asked]
  have hact : net.act (.shutdown 0) = (net₁, .started net.next, []) := by
    simp [act, hshutdown, hgateways, net₁]
  have hdriven := hready.drive_shutdown (attempt g.wire) net₁ net.next 2
  rw [show 2 + 2 = asked.pipeline.bound by
    simp [asked, Pipeline.bound, Pipeline.shutdown, hready.queue]] at hdriven
  obtain ⟨q, hattend⟩ := hready.attendAll_shutdown net.next net₁.waiting
  let ended : Gateway := { asked with pipeline := q }
  have hwire₁ : (net₁.withPipeline 0 q).wires[ended.wire]? = some loop := by
    rw [show ended.wire = 0 from hwire, show (net₁.withPipeline 0 q).wires = [loop] from h.wires]
    rfl
  have hended : (net₁.withPipeline 0 q).gateways[0]? = some ended := rfl
  obtain ⟨closing, hclosing, hturned⟩ := conclude_loop hended hwire₁ net.next stats
  refine ⟨[.logged .worker (.workerStopped g.pipeline.wire)] ++
    [.logged .caller (.pipelineStopped g.pipeline.wire stats)] ++
    (closing ++ [.logged .caller (.gatewayStopped ended.name stats)]), ?_, ?_⟩
  · have hone : (net₁.settleOne 0).2 = [.logged .worker (.workerStopped g.pipeline.wire)] ++
        [.logged .caller (.pipelineStopped g.pipeline.wire stats)] ++ (closing ++
          [.logged .caller (.gatewayStopped ended.name stats), .stopped net.next (.ok stats)]) := by
      have hseat : net₁.gateways[0]? = some asked := rfl
      rw [settleOne_eq hseat hdriven hattend]
      simp only [List.foldl_cons, List.foldl_nil]
      rw [hclosing]
      rfl
    have halone : net₁.settle = net₁.settleOne 0 := settle_alone rfl
    rw [step, hact]
    simp only [halone, hone]
    simp
  · simp only [List.mem_append, List.mem_singleton]
    rintro e ((rfl | rfl) | he | rfl)
    · exact .inl ⟨_, _, rfl⟩
    · exact .inl ⟨_, _, rfl⟩
    · obtain ⟨call, fault, rfl⟩ := hturned e he
      exact .inr ⟨_, _, rfl⟩
    · exact .inl ⟨_, _, rfl⟩

end Serves

end Network

end MessageExchange

import MessageExchange.Proofs.Network.Courses
import MessageExchange.Proofs.Network.Views

/-! A network is one way among many to order the moves of its traffic. Between two acts it rests: no message
is on its way over a wire, and no shutdown call waits for one. Acts, and all that goes on because of them,
are moves that lead from rest to rest, as long as no gateway is let go of. -/

namespace MessageExchange

open Correlation (Ticket)
open Outbound (Pipeline Item Outcome)

namespace Network

namespace Traffic

variable {t t' t'' : Traffic}

def Leads (t t' : Traffic) : Prop := ∃ moves, t.after moves = t'

theorem Leads.refl (t : Traffic) : t.Leads t := ⟨[], rfl⟩

theorem Leads.trans (h1 : t.Leads t') (h2 : t'.Leads t'') : t.Leads t'' := by
  obtain ⟨us, rfl⟩ := h1
  obtain ⟨vs, rfl⟩ := h2
  exact ⟨us ++ vs, List.foldl_append⟩

theorem Leads.of_step (m : Move) (h : (t.step m).1 = t') : t.Leads t' := ⟨[m], h⟩

/-- Every gateway is in a run of its own, and there is a wire for it. Of those that are yet to come there is
nothing. -/
structure Formed (t : Traffic) : Prop where
  reached : ∀ (i : Nat) (g : Gateway), t.net.gateways[i]? = some g → (t.view i g).Reached
  bound : ∀ (i : Nat) (g : Gateway), t.net.gateways[i]? = some g → ∃ wire, t.net.wires[g.wire]? = some wire
  vacant : ∀ i, t.net.gateways.length ≤ i → Vacant t i

theorem Formed.moved {m : Move} {notes : List Note} (h : t.Formed) (hm : Moved t m t' notes) :
    t'.Formed := by
  have hwires := reattached_moved hm
  refine ⟨fun j g' hj => ?_, fun j g' hj => ?_, fun j hj => (vacant_moved hm h.vacant hj).2.1⟩
  · rcases advances hm hj with ⟨g, hg, ⟨heq, -, -⟩ | ⟨gm, -, hstep, -⟩⟩ |
      ⟨rfl, -, hreleasing, -, -, s, w, id, rfl, -⟩
    · exact heq ▸ h.reached j g hg
    · have hleads := Gateway.Course.Leads.step (t.view j g) gm
      rw [hstep] at hleads
      exact (h.reached j g hg).leads hleads
    · refine ⟨s, w, id, t'.net.waiting, t'.net.storage, t'.net.next, ?_⟩
      rw [view, hreleasing, (h.vacant _ le_rfl).releasing]
      exact .refl _
  · have hstill : ∀ w : Nat, (∃ wire, t.net.wires[w]? = some wire) → ∃ wire, t'.net.wires[w]? = some wire := by
      rintro w ⟨wire, hw⟩
      obtain ⟨wire', hw', -⟩ := hwires.still hw
      exact ⟨wire', hw'⟩
    rcases advances hm hj with ⟨g, hg, ha⟩ | ⟨-, -, -, -, -, s, w, id, rfl, hw⟩
    · exact ha.wire ▸ hstill g.wire (h.bound j g hg)
    · exact hstill w hw

theorem Formed.leads (h : t.Formed) (hl : t.Leads t') : t'.Formed := by
  obtain ⟨moves, rfl⟩ := hl
  induction moves generalizing t with
  | nil => exact h
  | cons m rest ih => exact ih (h.moved (Traffic.moved t m))

end Traffic

/-- The network between two acts: no message is on its way, and no call waits for a wire. -/
def resting (net : Network) : Traffic := ⟨net, fun _ => none, fun _ => none⟩

def Leads (net net' : Network) : Prop := net.resting.Leads net'.resting

variable {net net' net'' : Network}

theorem Leads.refl (net : Network) : net.Leads net := Traffic.Leads.refl _

theorem Leads.trans (h1 : net.Leads net') (h2 : net'.Leads net'') : net.Leads net'' :=
  Traffic.Leads.trans h1 h2

theorem Leads.of_step (m : Move) (h : (net.resting.step m).1 = net'.resting) : net.Leads net' :=
  Traffic.Leads.of_step m h

theorem put_eq {t : Traffic} (h : t.releasing = fun _ => none) (i : Nat) (c : Gateway.Course) :
    t.put i c =
      { t with net := { t.net with gateways := t.net.gateways.set i c.gateway, next := c.next } } := by
  obtain ⟨net, passing, releasing⟩ := t
  obtain rfl : releasing = fun _ => none := h
  simp only [Traffic.put, Option.map_none, Option.bind_fun_none]
  exact congrArg _ (Function.update_eq_self i (fun _ => (none : Option Release)))

theorem leads_own {i : Nat} {g : Gateway} (hi : net.gateways[i]? = some g) {m : Gateway.Move}
    (hm : m.own = true) {c : Gateway.Course} (hc : ((net.course g).step m).1 = c) :
    net.Leads { net with gateways := net.gateways.set i c.gateway, next := c.next } := by
  refine .of_step (.own i m) ?_
  subst hc
  refine Eq.trans ?_ (put_eq (t := net.resting) rfl i _)
  simp only [Traffic.step, Traffic.move, resting, hi, Option.bind_eq_bind, Option.bind_some, guard, hm,
    if_true]
  rfl

theorem leads_set {i : Nat} {g g' : Gateway} (hi : net.gateways[i]? = some g) {m : Gateway.Move}
    (hm : m.own = true) (hc : ((net.course g).step m).1 = net.course g') :
    net.Leads { net with gateways := net.gateways.set i g' } :=
  leads_own hi hm hc

theorem leads_map {f : Gateway → Gateway} {m : Gateway.Move} (hm : m.own = true)
    (hf : ∀ g, ((net.course g).step m).1 = net.course (f g)) :
    net.Leads { net with gateways := net.gateways.map f } := by
  -- those in `done` have moved already
  suffices h : ∀ done rest, ({ net with gateways := done ++ rest }).Leads
      { net with gateways := done ++ rest.map f } from h [] net.gateways
  intro done rest
  induction rest generalizing done with
  | nil => exact .refl _
  | cons g rest ih =>
    have hseat : (done ++ g :: rest)[done.length]? = some g := by simp
    have hset : (done ++ g :: rest).set done.length (f g) = (done ++ [f g]) ++ rest := by simp
    have hfirst : ({ net with gateways := done ++ g :: rest } : Network).Leads
        { net with gateways := (done ++ g :: rest).set done.length (f g) } := leads_set hseat hm (hf g)
    rw [hset] at hfirst
    have hlast := ih (done ++ [f g])
    rw [List.append_assoc done [f g] (rest.map f)] at hlast
    exact hfirst.trans hlast

theorem leads_onGateway {i : Nat} {g : Gateway} (hi : net.gateways[i]? = some g) {m : Gateway.Move}
    (hm : m.own = true) {f : Gateway → Gateway} (hc : ((net.course g).step m).1 = net.course (f g)) :
    net.Leads (net.onGateway i f) := by
  have hset := leads_set hi hm hc
  rwa [onGateway, List.modify_eq_set_getElem?, hi]

theorem leads_tryOn {i : Nat} {f : Gateway → Except Fault Gateway} {m : Gateway.Move}
    (hm : m.own = true)
    (hf : ∀ g g', f g = .ok g' → ((net.course g).step m).1 = net.course g') :
    net.Leads (net.tryOn i f).1 := by
  unfold tryOn
  split
  next => exact .refl net
  next g hi =>
    split
    next => exact .refl net
    next g' hg => exact leads_set hi hm (hf g g' hg)

theorem leads_notifyAll (i : Nat) (drafts : List Notification.Draft) :
    net.Leads (net.notifyAll i drafts).1 := by
  induction drafts generalizing net with
  | nil => exact .refl net
  | cons draft rest ih =>
    unfold notifyAll
    split
    next => exact .refl net
    next g hi => exact (leads_set hi (m := .notify .caller draft) rfl rfl).trans ih

theorem leads_timeOut {p : Place} (hp : net.Due p) : net.Leads (net.timeOut p).1 := by
  obtain ⟨g, hi, hw⟩ := hp
  simp only [timeOut, hi]
  refine leads_set hi (m := .timeOut p.kind p.wait) rfl ?_
  simp only [Gateway.Course.step]
  exact congrArg Prod.fst (if_pos hw)

theorem leads_timeOuts (h : net.resting.Formed) {ps : List Place} (hdue : ∀ p ∈ ps, net.Due p)
    (hnodup : ps.Nodup) : net.Leads (ps.foldl (fun net p => (net.timeOut p).1) net) := by
  induction ps generalizing net with
  | nil => exact .refl net
  | cons p rest ih =>
    have hp := hdue p List.mem_cons_self
    have hfirst := leads_timeOut hp
    obtain ⟨hnew, hrest⟩ := List.nodup_cons.1 hnodup
    refine hfirst.trans (ih (h.leads hfirst) (fun q hq => ?_) hrest)
    exact due_timeOut h.reached hp (hdue q (List.mem_cons_of_mem _ hq)) fun heq => hnew (heq ▸ hq)

theorem leads_advance (h : net.resting.Formed) (span : Span) : net.Leads (net.advance span).1 := by
  have hpass : net.Leads { net with waiting := ⟨net.waiting.nanos + span.nanos⟩ } :=
    .of_step (.pass span) rfl
  have hformed := h.leads hpass
  rw [advance, foldl_fst timeOut]
  exact hpass.trans (leads_timeOuts hformed (fun p => due_of_mem) (nodup_due hformed.reached))

theorem leads_tick (kind : Kind) : net.Leads (net.tick kind).1 := by
  simp only [tick, List.map_map]
  exact leads_map (m := .tick kind) rfl fun g => rfl

theorem leads_age (span : Span) : net.Leads (net.age span).1 := by
  have hage : net.Leads { net with storage := net.storage.add span } := .of_step (.age span) rfl
  exact (hage.trans (leads_tick .relay)).trans (leads_tick .submission)

theorem leads_create (net : Network) (s : Settings) : net.Leads (net.create s).2.1 := by
  obtain ⟨result, net', seen, hc⟩ : ∃ result net' seen, net.create s = (result, net', seen) :=
    ⟨_, _, _, rfl⟩
  rw [hc]
  cases result with
  | error fault =>
    rw [create_error hc]
    exact .refl net
  | ok id =>
    obtain ⟨w, wire, wire', -, -, -, rfl⟩ := create_ok hc
    refine .of_step (.create s) ?_
    simp only [Traffic.step, Traffic.move, resting, hc, List.getElem?_concat_length, Option.map_some,
      Option.getD_some]

theorem leads_act (h : net.resting.Formed) {a : Act} (ha : ∀ i, a ≠ .letGo i) :
    net.Leads (net.act a).1 := by
  cases a with
  | create s =>
    have hcreate := leads_create net s
    simp only [act]
    split <;> simp_all
  | enqueue i m r =>
    simp only [act]
    split
    · exact .refl net
    next g hi => exact leads_onGateway hi (m := .enqueue m r) rfl rfl
  | notify i draft => exact leads_notifyAll i [draft]
  | deliver i d =>
    simp only [act]
    split <;> exact .refl net
  | handle i direction handler =>
    refine leads_tryOn (m := .handle direction handler) rfl fun g g' hg => ?_
    cases hr : g.inbound.register direction handler with
    | error fault => simp [hr, Except.map] at hg
    | ok inbound =>
      simp only [hr, Except.map, Except.ok.injEq] at hg
      simp only [Gateway.Course.step, course, hr, hg]
  | listen i kind listener =>
    refine leads_tryOn (m := .listen kind listener) rfl fun g g' hg => ?_
    cases hr : (g.correlator kind).listen listener with
    | error fault => simp [hr, Except.map] at hg
    | ok r =>
      simp only [hr, Except.map, Except.ok.injEq] at hg
      simp only [Gateway.Course.step, course, hr, hg]
  | await i kind id timeout =>
    simp only [act]
    split
    · exact .refl net
    next g hi => exact leads_own hi (m := .await kind id timeout) rfl rfl
  | sweep i kind =>
    simp only [act]
    split
    · exact .refl net
    next g hi => exact leads_set hi (m := .sweep kind) rfl rfl
  | shutdown i =>
    simp only [act]
    split
    · exact .refl net
    next g hi => exact leads_own hi (m := .shutdown) rfl rfl
  | letGo i => exact absurd rfl (ha i)
  | cancel t =>
    simp only [act]
    split_ifs
    · exact leads_map (m := .cancel t) rfl fun g => Gateway.Course.cancel_eq _ t rfl
    · exact .refl net
  | advance span => exact leads_advance h span
  | age span => exact leads_age span
  | hold w id => exact .of_step (.hold w id) rfl
  | release w id => exact .of_step (.release w id) rfl
  | fail w id code => exact .of_step (.fail w id code) rfl
  | pushNotifications w drafts =>
    simp only [act]
    split
    · exact .refl net
    split
    · exact .refl net
    next i hattached => exact leads_notifyAll i drafts
  | pushDelivery w d =>
    simp only [act]
    split
    · exact .refl net
    split <;> exact .refl net

/-! What goes on until it rests. -/

/-- The network while a wire hands over what it has to push for one gateway. -/
def sending (net : Network) (i : Nat) (p : Passage) : Traffic :=
  ⟨net, Function.update (fun _ => none) i (some p), fun _ => none⟩

theorem passing_sending (net : Network) (i : Nat) (p : Passage) :
    (net.sending i p).passing i = some p := by
  simp only [sending, Function.update_self]

def stopping (net : Network) (i : Nat) (r : Release) : Traffic :=
  ⟨net, fun _ => none, Function.update (fun _ => none) i (some r)⟩

theorem releasing_stopping (net : Network) (i : Nat) (r : Release) :
    (net.stopping i r).releasing i = some r := by
  simp only [stopping, Function.update_self]

theorem hand_sending (net : Network) (i : Nat) (p : Passage) (target : Option Nat) (push : Push) :
    ((net.sending i p).hand .worker target push).1 = (net.take .worker target [push]).1.sending i p := by
  cases target with
  | none => rfl
  | some k =>
    cases hk : net.gateways[k]? with
    | none => simp only [Traffic.hand, sending, take, Option.bind_some, hk, Option.map_none]
    | some g =>
      simp only [Traffic.hand, take, Option.bind_some, hk, Option.map_some, sending]
      cases push with
      | notification draft => exact put_eq (t := net.sending i p) rfl k _
      | delivery d =>
        obtain ⟨hlt, rfl⟩ := List.getElem?_eq_some_iff.1 hk
        simp only [Gateway.take]
        rw [List.set_getElem_self hlt]

theorem leads_pushes (net : Network) (i : Nat) (target : Option Nat) (pushes : List Push) (o : Outcome) :
    (net.sending i ⟨target, pushes, o⟩).Leads
      ((net.take .worker target pushes).1.sending i ⟨target, [], o⟩) := by
  induction pushes generalizing net with
  | nil =>
    rw [take_nil]
    exact .refl _
  | cons push rest ih =>
    rw [take_cons]
    refine Traffic.Leads.trans (.of_step (.push i) ?_) (ih _)
    have hleft : { net.sending i ⟨target, push :: rest, o⟩ with
        passing := Function.update (net.sending i ⟨target, push :: rest, o⟩).passing i
          (some ⟨target, rest, o⟩) } = net.sending i ⟨target, rest, o⟩ := by
      simp only [sending, Function.update_idem]
    have hpush := Traffic.step_push (net.passing_sending i ⟨target, push :: rest, o⟩) rfl rfl
    refine (congrArg Prod.fst hpush).trans ?_
    exact (congrArg (fun t => (Traffic.hand t .worker target push).1) hleft).trans
      (hand_sending net i _ target push)

theorem leads_finish {i : Nat} {g : Gateway} (hi : net.gateways[i]? = some g) {item : Item}
    (hsending : g.pipeline.worker = .sending item) (target : Option Nat) (o : Outcome) :
    (net.sending i ⟨target, [], o⟩).Leads
      (net.withPipeline i (g.pipeline.account item o).1).resting := by
  refine .of_step (.finish i) ?_
  refine (Traffic.step_finish hi hsending (net.passing_sending i ⟨target, [], o⟩) rfl).trans ?_
  rw [put_eq rfl, withPipeline_eq hi]
  simp only [sending, resting, Traffic.view, Function.update_idem, Function.update_eq_self]

theorem wire_take (net : Network) (site : Site) (target : Option Nat) (pushes : List Push) (i : Nat) :
    ((net.take site target pushes).1.gateways[i]?).map Gateway.wire =
      (net.gateways[i]?).map Gateway.wire := by
  have htaken : ∀ g : Gateway, (g.take site net.storage pushes).1.wire = g.wire := by
    intro g
    induction pushes generalizing g with
    | nil => rfl
    | cons push rest ih =>
      cases push with
      | notification draft =>
        exact (ih _).trans (Gateway.Course.wire_step (net.course g) (.notify site draft))
      | delivery d => exact ih g
  rw [take_eq]
  cases target with
  | none => rfl
  | some k =>
    simp only [onGateway, List.getElem?_modify, Option.map_eq_map, Option.map_map]
    congr 1
    funext g
    by_cases hk : k = i <;> simp [hk, htaken]

theorem leads_attempt {i w : Nat} {p : Pipeline} (hw : (net.gateways[i]?).map Gateway.wire = some w)
    {item : Item} (hsending : p.worker = .sending item) {o : Outcome} {effects : List Effect}
    (ha : attempt w net item = some (net', o, effects)) :
    (net.withPipeline i p).Leads (net'.withPipeline i (p.account item o).1) ∧
      (net'.gateways[i]?).map Gateway.wire = some w := by
  simp only [attempt, Option.bind_eq_bind, Option.bind_eq_some_iff] at ha
  obtain ⟨wire, hwire, ⟨wire', pushes, o'⟩, htakes, hnet⟩ := ha
  cases hnet
  have hstill := (wire_take { net with wires := net.wires.set w wire', seed := net.seed + 2 } .worker
    wire'.attached pushes i).trans hw
  refine ⟨?_, hstill⟩
  obtain ⟨g, hi, rfl⟩ := Option.map_eq_some_iff.1 hw
  obtain ⟨g', hi', -⟩ := Option.map_eq_some_iff.1 hstill
  have hcurrent : p.current.head? = some item := by
    rw [Pipeline.current, hsending]
    rfl
  have hseat := seat_withPipeline hi p
  have hattempt : ((net.withPipeline i p).resting.step (.attempt i)).1 =
      ({ net with wires := net.wires.set g.wire wire', seed := net.seed + 2 }.withPipeline i p).sending i
        ⟨wire'.attached, pushes, o'⟩ := by
    simp only [Traffic.step, Traffic.move, resting, hseat, Option.bind_eq_bind, Option.bind_some,
      hcurrent, Option.isNone_none]
    simp only [withPipeline, onGateway, hwire, htakes, Option.bind_some]
    rfl
  have hpushed := leads_pushes
    ({ net with wires := net.wires.set g.wire wire', seed := net.seed + 2 }.withPipeline i p) i
    wire'.attached pushes o'
  rw [← take_withPipeline] at hpushed
  have hlast := leads_finish (seat_withPipeline hi' p) hsending wire'.attached o'
  rw [withPipeline_withPipeline] at hlast
  exact Traffic.Leads.trans (.of_step (.attempt i) hattempt) (hpushed.trans hlast)

/-- The worker goes on. The pipeline is driven apart from its gateway, which keeps an old one meanwhile. -/
theorem leads_drive {i w : Nat} (n : Nat) {p : Pipeline}
    (hw : (net.gateways[i]?).map Gateway.wire = some w) :
    (net.withPipeline i p).Leads
      ((Pipeline.drive (attempt w) n net p).1.withPipeline i (Pipeline.drive (attempt w) n net p).2.1) := by
  induction n generalizing net p with
  | zero => exact .refl _
  | succ n ih =>
    unfold Pipeline.drive
    split
    next item hsending =>
      split
      next => exact .refl _
      next net' o during hattempt =>
        obtain ⟨hsent, hstill⟩ := leads_attempt hw hsending hattempt
        exact hsent.trans (ih hstill)
    next hnot =>
      split
      next => exact .refl _
      next p' events hwork =>
        obtain ⟨g, hi, -⟩ := Option.map_eq_some_iff.1 hw
        have hseat := seat_withPipeline hi p
        have hmove : (net.withPipeline i p).Leads
            ((net.withPipeline i p).onGateway i fun g => { g with pipeline := p' }) := by
          refine leads_onGateway hseat (m := .work) rfl ?_
          simp only [Gateway.Course.step, Gateway.Course.along, Gateway.Course.outbound,
            Outbound.Course.step, course, hwork]
        have hpiped := withPipeline_withPipeline net i p p'
        rw [withPipeline] at hpiped
        rw [hpiped] at hmove
        exact hmove.trans (ih hw)

theorem leads_turn {i : Nat} {g : Gateway} (hi : net.gateways[i]? = some g) {wire : Wire}
    (hw : net.wires[g.wire]? = some wire) {p : Pipeline} {events : List Event}
    (ha : g.pipeline.attend net.waiting = some (p, events, none)) : net.Leads (net.withPipeline i p) := by
  obtain ⟨notes, hstep, hasked⟩ := Gateway.Course.attend_eq (c := net.course g) ha
  have hseat : net.resting.net.gateways[i]? = some g := hi
  have hwire : net.resting.net.wires[g.wire]? = some wire := hw
  have hview : (net.resting.view i g).step .attend = _ := hstep
  have hput := put_eq (t := net.resting) rfl i ((net.course g).step .attend).1
  rw [hstep] at hput
  rw [withPipeline_eq hi]
  refine .of_step (.attend i) (Eq.trans ?_ hput)
  simp only [Traffic.step, Traffic.move, hseat, hwire, hview, hasked, Option.bind_eq_bind, Option.bind_some,
    Option.toList_none, List.map_nil, if_true]
  rfl

section

variable {i : Nat} {g : Gateway} {e : Gateway.Ending} {answer : Except Fault Unit} {call : Ticket}
  {stats : Stats}

theorem put_stopping (net : Network) (i : Nat) (r : Release) (c : Gateway.Course) :
    (net.stopping i r).put i c =
      let moved : Network := { net with gateways := net.gateways.set i c.gateway, next := c.next }
      match c.ending with
      | none => moved.resting
      | some ending => moved.stopping i { r with ending } := by
  cases h : c.ending with
  | none => simp [Traffic.put, stopping, resting, h, Function.update_idem, Function.update_eq_self]
  | some ending => simp [Traffic.put, stopping, h, Function.update_idem]

theorem view_stopping (net : Network) (i : Nat) (r : Release) (g : Gateway) :
    (net.stopping i r).view i g = { net.course g with ending := some r.ending } := by
  simp [Traffic.view, stopping, course]

theorem step_stopping (hi : net.gateways[i]? = some g) {m : Gateway.Move} (hm : m.own = true)
    (r : Release) :
    ((net.stopping i r).step (.own i m)).1 =
      (net.stopping i r).put i ({ net.course g with ending := some r.ending }.step m).1 := by
  have hseat : (net.stopping i r).net.gateways[i]? = some g := hi
  rw [← view_stopping net i r g]
  simp only [Traffic.step, Traffic.move, hseat, Option.bind_eq_bind, Option.bind_some, guard, hm, if_true]
  rfl

theorem leads_answer (hi : net.gateways[i]? = some g) :
    (net.stopping i ⟨⟨call, stats, .wire⟩, answer⟩).Leads
      (net.stopping i ⟨⟨call, stats, .correlator .submission answer⟩, answer⟩) := by
  refine .of_step (.answer i) ?_
  have hseat : (net.stopping i ⟨⟨call, stats, .wire⟩, answer⟩).net.gateways[i]? = some g := hi
  have hstep := Gateway.Course.released_eq
    (c := { net.course g with ending := some ⟨call, stats, .wire⟩ }) rfl answer
  have hput : ((net.stopping i ⟨⟨call, stats, .wire⟩, answer⟩).step (.answer i)).1 =
      (net.stopping i ⟨⟨call, stats, .wire⟩, answer⟩).put i
        { net.course g with ending := some ⟨call, stats, .correlator .submission answer⟩ } := by
    simp only [Traffic.step, Traffic.move, hseat, releasing_stopping, view_stopping, hstep,
      Option.bind_eq_bind, Option.bind_some]
    rfl
  refine hput.trans ((put_stopping ..).trans ?_)
  obtain ⟨hlt, rfl⟩ := List.getElem?_eq_some_iff.1 hi
  simp only [course, List.set_getElem_self]

theorem leads_close (hi : net.gateways[i]? = some g) (kind : Kind) :
    (net.stopping i ⟨⟨call, stats, .correlator kind answer⟩, answer⟩).Leads
      (Network.stopping { net with gateways := net.gateways.set i (g.close kind).1 } i
        ⟨⟨call, stats, .past answer kind⟩, answer⟩) := by
  refine .of_step (.own i (.close kind)) ((step_stopping hi rfl _).trans ?_)
  rw [Gateway.Course.close_eq (c := { net.course g with ending := _ }) rfl]
  exact put_stopping ..

theorem leads_reply (hi : net.gateways[i]? = some g) :
    (net.stopping i ⟨⟨call, stats, .closed answer⟩, answer⟩).Leads net.resting := by
  refine .of_step (.own i .reply) ((step_stopping hi rfl _).trans ?_)
  rw [Gateway.Course.reply_eq (c := { net.course g with ending := _ }) rfl]
  refine (put_stopping ..).trans ?_
  obtain ⟨hlt, rfl⟩ := List.getElem?_eq_some_iff.1 hi
  simp only [course, List.set_getElem_self]

/-- The wire has been shut down: the correlators close, and the call ends. -/
theorem leads_stopped (hi : net.gateways[i]? = some g) :
    (net.stopping i ⟨⟨call, stats, .wire⟩, answer⟩).Leads
      (Network.resting
        { net with gateways := net.gateways.set i (g.conclude call stats answer).1 }) := by
  have hlt := (List.getElem?_eq_some_iff.1 hi).1
  let half : Network := { net with gateways := net.gateways.set i (g.close .submission).1 }
  have hhalf : half.gateways[i]? = some (g.close .submission).1 := List.getElem?_set_self hlt
  let both : Network :=
    { half with gateways := half.gateways.set i ((g.close .submission).1.close .relay).1 }
  have hboth : both.gateways[i]? = some ((g.close .submission).1.close .relay).1 :=
    List.getElem?_set_self (by rwa [List.length_set])
  have hsame : both =
      { net with gateways := net.gateways.set i (g.conclude call stats answer).1 } := by
    simp only [both, half, List.set_set]
    rfl
  rw [← hsame]
  exact (leads_answer hi).trans ((leads_close hi .submission).trans
    ((leads_close hhalf .relay).trans (leads_reply hboth)))

end

theorem leads_leave {i : Nat} {g : Gateway} (hi : net.gateways[i]? = some g) {wire : Wire}
    (hw : net.wires[g.wire]? = some wire) {p : Pipeline} {events : List Event} {e : Ticket × Stats}
    (ha : g.pipeline.attend net.waiting = some (p, events, some e)) :
    net.Leads ((net.withPipeline i p).conclude i e.1 e.2).1 := by
  obtain ⟨call, stats⟩ := e
  obtain ⟨notes, hstep, hasked⟩ := Gateway.Course.attend_eq (c := net.course g) ha
  have hseat : net.resting.net.gateways[i]? = some g := hi
  have hwire : net.resting.net.wires[g.wire]? = some wire := hw
  have hview : (net.resting.view i g).step .attend = _ := hstep
  have hfree : (net.resting.step (.attend i)).1 =
      Network.stopping { net.withPipeline i p with wires := net.wires.set g.wire wire.shutdown.1 } i
        ⟨⟨call, stats, .wire⟩, wire.shutdown.2⟩ := by
    simp only [Traffic.step, Traffic.move, hseat, hwire, hview, hasked, Option.bind_eq_bind, Option.bind_some,
      Option.toList_some, List.map_cons, List.map_nil, reduceCtorEq, if_false, Option.map_some,
      Option.some_or]
    rw [withPipeline_eq hi]
    rfl
  have hseat' := seat_withPipeline hi p
  have hbound : (net.withPipeline i p).wires[g.wire]? = some wire := hw
  let freed : Network := { net.withPipeline i p with wires := net.wires.set g.wire wire.shutdown.1 }
  have hfreed : freed.gateways[i]? = some { g with pipeline := p } := hseat'
  refine Traffic.Leads.trans (.of_step (.attend i) hfree) ?_
  simp only [conclude, hseat', hbound]
  exact leads_stopped hfreed

theorem leads_attendAll {i : Nat} {g : Gateway} (hi : net.gateways[i]? = some g) {wire : Wire}
    (hw : net.wires[g.wire]? = some wire) (hcalls : g.pipeline.calls.length ≤ 1) (n : Nat) :
    net.Leads ((net.withPipeline i (g.pipeline.attendAll net.waiting n).1).concludeAll i
      (g.pipeline.attendAll net.waiting n).2.2) := by
  induction n generalizing net g with
  | zero => exact (withPipeline_self hi).symm ▸ .refl net
  | succ n ih =>
    unfold Pipeline.attendAll
    split
    next => exact (withPipeline_self hi).symm ▸ .refl net
    next p events ended ha =>
      obtain ⟨hleft, hover⟩ := Gateway.Course.calls_attend hcalls ha
      cases ended with
      | none =>
        have hseat := seat_withPipeline hi p
        have hlast := ih hseat hw hleft
        rw [withPipeline_withPipeline] at hlast
        exact (leads_turn hi hw ha).trans hlast
      | some e =>
        -- the call that left was the only one, so nothing goes on behind it
        rw [Gateway.Course.attendAll_of_calls_nil (hover rfl)]
        exact leads_leave hi hw ha

theorem leads_settleOne (h : net.resting.Formed) (i : Nat) : net.Leads (net.settleOne i).1 := by
  unfold settleOne
  split
  next => exact .refl net
  next g hi =>
    have hdrive := leads_drive g.pipeline.bound (p := g.pipeline)
      (show (net.gateways[i]?).map Gateway.wire = some g.wire by rw [hi, Option.map_some])
    rw [withPipeline_self hi] at hdrive
    simp only
    -- from here on only where the worker has come to rest matters, not how it got there
    generalize Pipeline.drive (attempt g.wire) g.pipeline.bound net g.pipeline = r at hdrive
    obtain ⟨net₁, p, worked⟩ := r
    have hformed := h.leads hdrive
    rw [foldl_fst (fun net (e : Ticket × Stats) => net.conclude i e.1 e.2)]
    cases hi₁ : net₁.gateways[i]? with
    | none =>
      change net.Leads ((net₁.withPipeline i _).concludeAll i _)
      rw [withPipeline_of_none hi₁, concludeAll_of_none hi₁]
      rwa [withPipeline_of_none hi₁] at hdrive
    | some g₁ =>
      have hseat := seat_withPipeline hi₁ p
      obtain ⟨wire, hw⟩ := hformed.bound i _ hseat
      have hlast := leads_attendAll hseat hw (hformed.reached i _ hseat).calls_le (2 * p.calls.length + 1)
      rw [withPipeline_withPipeline] at hlast
      exact hdrive.trans hlast

theorem leads_settle (h : net.resting.Formed) : net.Leads net.settle.1 := by
  rw [settle, foldl_fst settleOne]
  generalize List.range net.gateways.length = seats
  induction seats generalizing net with
  | nil => exact .refl net
  | cons i rest ih =>
    have hfirst := leads_settleOne h i
    exact hfirst.trans (ih (h.leads hfirst))

theorem leads_step (h : net.resting.Formed) {a : Act} (ha : ∀ i, a ≠ .letGo i) :
    net.Leads (net.step a).1 := by
  have hact := leads_act h ha
  exact hact.trans (leads_settle (h.leads hact))

theorem leads_run (h : net.resting.Formed) {acts : List Act} (hkept : ∀ i, .letGo i ∉ acts) :
    net.Leads (net.run acts) := by
  induction acts generalizing net with
  | nil => exact .refl net
  | cons a rest ih =>
    have hfirst : net.Leads (net.step a).1 := by
      refine leads_step h fun i hi => hkept i ?_
      rw [hi]
      exact List.mem_cons_self
    exact hfirst.trans (ih (h.leads hfirst) fun i hi => hkept i (List.mem_cons_of_mem a hi))

end Network

end MessageExchange

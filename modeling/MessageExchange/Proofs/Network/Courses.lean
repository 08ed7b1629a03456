import MessageExchange.Network.Run
import MessageExchange.Proofs.Correlation.Runs
import MessageExchange.Proofs.Gateway.Shutdown

/-! What a network is made of: gateways, each at a course of its own, what wires push to them, shutdown
calls that go on, and deadlines that have come. -/

namespace MessageExchange

open Correlation (Ticket Correlator Desk)
open Outbound (Pipeline)

namespace Gateway

namespace Course

def Leads (c c' : Course) : Prop := ∃ moves, c.after moves = c'

theorem Leads.refl (c : Course) : c.Leads c := ⟨[], rfl⟩

theorem Leads.step (c : Course) (m : Move) : c.Leads (c.step m).1 := ⟨[m], rfl⟩

theorem Leads.trans {c c' c'' : Course} (h1 : c.Leads c') (h2 : c'.Leads c'') : c.Leads c'' := by
  obtain ⟨us, rfl⟩ := h1
  obtain ⟨vs, rfl⟩ := h2
  exact ⟨us ++ vs, after_append c us vs⟩

def Reached (c : Course) : Prop :=
  ∃ s wire wireId waiting storage next, (start s wire wireId waiting storage next).Leads c

theorem Reached.leads {c c' : Course} (h : c.Reached) (hl : c.Leads c') : c'.Reached := by
  obtain ⟨s, wire, wireId, waiting, storage, next, hc⟩ := h
  exact ⟨s, wire, wireId, waiting, storage, next, hc.trans hl⟩

theorem Reached.sound {c : Course} (h : c.Reached) : ∃ notes, c.Sound notes := by
  obtain ⟨s, wire, wireId, waiting, storage, next, moves, rfl⟩ := h
  exact ⟨_, (Sound.start s wire wireId waiting storage next).run moves⟩

theorem Reached.calls_le {c : Course} (h : c.Reached) : c.gateway.pipeline.calls.length ≤ 1 := by
  obtain ⟨s, wire, wireId, waiting, storage, next, moves, rfl⟩ := h
  by_cases hm : .shutdown ∈ moves
  · obtain ⟨us, vs, rfl, hus⟩ := List.eq_append_cons_of_mem hm
    rcases (begun_after hus vs).stage.calls_cases with hcalls | ⟨phase, hcalls, -⟩
    · exact (congrArg List.length hcalls).trans_le zero_le_one
    · exact (congrArg List.length hcalls).le
  · have hrunning := (Running.start s wire wireId waiting storage next).run hm
    simp [hrunning.calls]

theorem calls_attend {p p' : Pipeline} {now : Span} {events : List Event}
    {ended : Option (Ticket × Stats)} (h : p.calls.length ≤ 1)
    (ha : p.attend now = some (p', events, ended)) :
    p'.calls.length ≤ 1 ∧ (ended.isSome → p'.calls = []) := by
  unfold Pipeline.attend at ha
  split at ha
  · cases ha
  next call rest hcalls =>
    have hrest : rest = [] := by simpa [hcalls] using h
    subst hrest
    simp only at ha
    split at ha <;> split_ifs at ha <;> cases ha <;> simp

theorem attendAll_of_calls_nil {p : Pipeline} (h : p.calls = []) (now : Span) (n : Nat) :
    p.attendAll now n = (p, [], []) := by
  cases n <;> simp [Pipeline.attendAll, Pipeline.attend, h]

theorem cancel_eq_self {r : Correlator} {t : Ticket} (h : r.desk.isPending t = false) :
    r.cancel t = r := by
  have hwaits : r.desk.waits.filter (fun w => !([t].contains w.ticket)) = r.desk.waits := by
    rw [List.filter_eq_self]
    intro w hw
    have hne := List.any_eq_false.1 h w hw
    simpa using hne
  simp only [Correlator.cancel, Correlation.Desk.cancel, Correlation.Desk.endCalls, hwaits]

theorem cancel_eq (c : Course) (t : Ticket) (hr : c.ending = none) :
    (c.step (.cancel t)).1 = { c with gateway := c.gateway.cancel t } := by
  simp only [step]
  split_ifs with hp
  · simp [forsake, hr]
  · simp only [isPending, Gateway.isPending, hr, Option.any_none, Bool.or_false, Bool.or_eq_true,
      not_or, Bool.not_eq_true] at hp
    have hsame : c.gateway.cancel t = c.gateway := by
      simp [Gateway.cancel, cancel_eq_self hp.1.1, cancel_eq_self hp.1.2, hp.2]
    rw [hsame]

theorem attend_eq {c : Course} {p : Pipeline} {events : List Event} {ended : Option (Ticket × Stats)}
    (ha : c.gateway.pipeline.attend c.waiting = some (p, events, ended)) :
    ∃ notes, c.step .attend =
        ({ c with
            gateway := { c.gateway with pipeline := p }
            ending := (ended.map fun e => ⟨e.1, e.2, .wire⟩).or c.ending }, notes) ∧
      notes.filterMap Note.releasing? = ended.toList.map fun _ => (c.gateway.wire, c.gateway.name) := by
  simp only [step, along, outbound, Outbound.Course.step, ha]
  cases ended <;> exact ⟨_, rfl, rfl⟩

end Course

end Gateway

namespace Network

def course (net : Network) (g : Gateway) : Gateway.Course :=
  ⟨net.waiting, net.storage, g, none, net.next⟩

def Reached (net : Network) : Prop :=
  ∀ (i : Nat) (g : Gateway), net.gateways[i]? = some g → (net.course g).Reached

variable {net : Network}

theorem foldl_fst {α : Type} (f : Network → α → Network × List Effect) (as : List α)
    (effects : List Effect) :
    (as.foldl (fun (net, effects) a =>
        let (net, more) := f net a
        (net, effects ++ more)) (net, effects)).1 =
      as.foldl (fun net a => (f net a).1) net := by
  induction as generalizing net effects with
  | nil => rfl
  | cons a rest ih => exact ih _

def withPipeline (net : Network) (i : Nat) (p : Pipeline) : Network :=
  net.onGateway i fun g => { g with pipeline := p }

theorem withPipeline_withPipeline (net : Network) (i : Nat) (p p' : Pipeline) :
    (net.withPipeline i p).withPipeline i p' = net.withPipeline i p' := by
  simp only [withPipeline, onGateway, List.modify_modify_eq]
  rfl

theorem take_pipeline (g : Gateway) (p : Pipeline) (site : Site) (now : Instant) (pushes : List Push) :
    ({ g with pipeline := p }.take site now pushes).1 =
      { (g.take site now pushes).1 with pipeline := p } := by
  induction pushes generalizing g with
  | nil => rfl
  | cons push rest ih =>
    cases push with
    | notification draft =>
      have hnotify : ({ g with pipeline := p }.notify site (draft.appear now) now).1 =
          { (g.notify site (draft.appear now) now).1 with pipeline := p } := by
        simp only [Gateway.notify]
        cases (draft.appear now).kind <;> rfl
      simp only [Gateway.take]
      rw [hnotify]
      exact ih _
    | delivery d => exact ih g

theorem take_eq (net : Network) (site : Site) (target : Option Nat) (pushes : List Push) :
    (net.take site target pushes).1 =
      match target with
      | none => net
      | some k => net.onGateway k fun g => (g.take site net.storage pushes).1 := by
  cases target with
  | none => rfl
  | some k =>
    simp only [take, Option.bind_some, onGateway, List.modify_eq_set_getElem?]
    cases net.gateways[k]? <;> rfl

theorem take_cons (net : Network) (site : Site) (target : Option Nat) (push : Push) (rest : List Push) :
    (net.take site target (push :: rest)).1 = ((net.take site target [push]).1.take site target rest).1 := by
  simp only [take_eq]
  cases target with
  | none => rfl
  | some k =>
    simp only [onGateway, List.modify_modify_eq]
    congr 2
    funext g
    cases push <;> rfl

theorem take_nil (net : Network) (site : Site) (target : Option Nat) :
    (net.take site target []).1 = net := by
  rw [take_eq]
  cases target with
  | none => rfl
  | some k => exact congrArg (fun gateways => { net with gateways }) (List.modify_id k net.gateways)

theorem take_withPipeline (net : Network) (i : Nat) (p : Pipeline) (site : Site) (target : Option Nat)
    (pushes : List Push) :
    (net.take site target pushes).1.withPipeline i p =
      ((net.withPipeline i p).take site target pushes).1 := by
  rw [take_eq, take_eq]
  cases target with
  | none => rfl
  | some k =>
    simp only [withPipeline, onGateway]
    by_cases hki : k = i
    · subst hki
      rw [List.modify_modify_eq, List.modify_modify_eq]
      congr 1
      congr 1
      funext g
      exact (take_pipeline g p site net.storage pushes).symm
    · rw [List.modify_modify_ne _ _ _ hki]

theorem withPipeline_eq {i : Nat} {g : Gateway} (hi : net.gateways[i]? = some g) (p : Pipeline) :
    net.withPipeline i p = { net with gateways := net.gateways.set i { g with pipeline := p } } := by
  rw [withPipeline, onGateway, List.modify_eq_set_getElem?, hi]
  rfl

theorem withPipeline_self {i : Nat} {g : Gateway} (hi : net.gateways[i]? = some g) :
    net.withPipeline i g.pipeline = net := by
  rw [withPipeline_eq hi]
  obtain ⟨hlt, rfl⟩ := List.getElem?_eq_some_iff.1 hi
  exact congrArg (fun gateways => { net with gateways }) (List.set_getElem_self hlt)

theorem withPipeline_of_none {i : Nat} (hi : net.gateways[i]? = none) (p : Pipeline) :
    net.withPipeline i p = net := by
  simp only [withPipeline, onGateway, List.modify_eq_set_getElem?, hi]
  rfl

theorem seat_withPipeline {i : Nat} {g : Gateway} (hi : net.gateways[i]? = some g) (p : Pipeline) :
    (net.withPipeline i p).gateways[i]? = some { g with pipeline := p } := by
  simp [withPipeline, onGateway, hi]

/-- Shutdown calls of one gateway turn to its wire, one after the other. -/
def concludeAll (net : Network) (i : Nat) (ended : List (Ticket × Stats)) : Network :=
  ended.foldl (fun net e => (net.conclude i e.1 e.2).1) net

theorem concludeAll_of_none {i : Nat} (hi : net.gateways[i]? = none) (ended : List (Ticket × Stats)) :
    net.concludeAll i ended = net := by
  induction ended with
  | nil => rfl
  | cons e rest ih =>
    have hfirst : (net.conclude i e.1 e.2).1 = net := by simp only [conclude, hi]
    rw [concludeAll, List.foldl_cons, hfirst]
    exact ih

def Due (net : Network) (p : Place) : Prop :=
  ∃ g, net.gateways[p.gateway]? = some g ∧ p.wait ∈ (g.correlator p.kind).desk.due net.waiting

theorem due_of_mem {p : Place} (hp : p ∈ net.due) : net.Due p := by
  simp only [due, List.mem_mergeSort, List.mem_flatMap, List.mem_append, List.mem_map] at hp
  obtain ⟨⟨g, i⟩, hi, ⟨w, hw, rfl⟩ | ⟨w, hw, rfl⟩⟩ := hp
  · exact ⟨g, List.mem_zipIdx_iff_getElem?.1 hi, hw⟩
  · exact ⟨g, List.mem_zipIdx_iff_getElem?.1 hi, hw⟩

theorem Reached.seated (h : net.Reached) {i : Nat} {g : Gateway} (hi : net.gateways[i]? = some g)
    (kind : Kind) : (g.correlator kind).desk.Seated net.next := by
  obtain ⟨notes, hsound⟩ := (h i g hi).sound
  exact hsound.seated kind

theorem nodup_due (h : net.Reached) : net.due.Nodup := by
  rw [due, (List.mergeSort_perm _ _).nodup_iff, List.nodup_flatMap]
  constructor
  · rintro ⟨g, i⟩ hi
    have hone : ∀ kind, (((g.correlator kind).desk.due net.waiting).map
        fun w => (⟨i, kind, w⟩ : Place)).Nodup := fun kind =>
      (((h.seated (List.mem_zipIdx_iff_getElem?.1 hi) kind).nodup_due net.waiting).of_map _).map
        fun _ _ heq => (Place.mk.inj heq).2.2
    refine (hone .submission).append (hone .relay) fun p hp hp' => ?_
    obtain ⟨w, -, rfl⟩ := List.mem_map.1 hp
    obtain ⟨w', -, heq⟩ := List.mem_map.1 hp'
    exact absurd (Place.mk.inj heq).2.1 nofun
  · have hindex : (net.gateways.zipIdx.map Prod.snd).Nodup := by
      rw [List.zipIdx_map_snd]
      exact List.nodup_range'
    refine (List.pairwise_map.1 hindex).imp fun hne p hp hp' => hne ?_
    simp only [List.mem_append, List.mem_map] at hp hp'
    obtain ⟨w, -, rfl⟩ | ⟨w, -, rfl⟩ := hp
    all_goals obtain ⟨w', -, heq⟩ | ⟨w', -, heq⟩ := hp'
    all_goals exact (Place.mk.inj heq).1.symm

theorem due_timeOut (h : net.Reached) {p q : Place} (hp : net.Due p) (hq : net.Due q) (hne : p ≠ q) :
    (net.timeOut p).1.Due q := by
  obtain ⟨i, kind, w⟩ := p
  obtain ⟨j, kind', w'⟩ := q
  obtain ⟨g, hi, hw⟩ := hp
  obtain ⟨g', hj, hw'⟩ := hq
  dsimp only at hi hw hj hw'
  simp only [timeOut, hi]
  by_cases hij : i = j
  · subst hij
    obtain rfl : g = g' := Option.some.inj (hi.symm.trans hj)
    refine ⟨_, List.getElem?_set_self (List.getElem?_eq_some_iff.1 hi).1, ?_⟩
    rw [Gateway.correlator_setCorrelator]
    split_ifs with hk
    · obtain rfl : kind' = kind := hk
      obtain ⟨hin, hpast⟩ := Desk.mem_due.1 hw'
      have hticket : w'.ticket ≠ w.ticket := fun ht =>
        hne (by rw [(h.seated hi kind').eq_of_ticket hin (Desk.mem_due.1 hw).1 ht])
      have hleft : w' ∈ ((g.correlator kind').desk.timeOut w).waits := by
        rw [Desk.waits_timeOut]
        exact List.mem_filter.2 ⟨hin, bne_iff_ne.2 hticket⟩
      exact Desk.mem_due.2 ⟨hleft, hpast⟩
    · exact hw'
  · exact ⟨g', (List.getElem?_set_ne hij).trans hj, hw'⟩

end Network

end MessageExchange

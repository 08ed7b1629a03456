import MessageExchange.Proofs.Network.Relaying

/-! A loopback wire acknowledges everything it sends, to the gateway that sent it and in the order in which
that gateway accepted it. A send that is under way can always go on, and a gateway that has been shut down
has had everything acknowledged. -/

namespace MessageExchange

open Correlation (Ticket)
open Outbound (Item Outcome)
open Outbound.Course (numbered tally)

namespace Network.Traffic

open Gateway (sends)
open Gateway.Course (office)
open Outbound.Course (parcel lane)

variable {t t' : Traffic} {m : Move} {notes more : List Note} {i : Nat}

/-! A send that is under way can always go on. -/

/-- The gateway sends, and its wire has so many things left to push at most. -/
def Busy (t : Traffic) (i k : Nat) : Prop :=
  ∃ g p item, t.net.gateways[i]? = some g ∧ g.pipeline.worker = .sending item ∧ t.passing i = some p ∧
    p.pushes.length ≤ k

def Calm (t : Traffic) (i : Nat) : Prop :=
  ∃ g, t.net.gateways[i]? = some g ∧ g.pipeline.current = [] ∧ t.passing i = none

/-- The moves by which a message that was taken up is carried over the wire. -/
def carry (i : Nat) : List Move := [.attempt i, .push i, .push i, .finish i]

theorem hand_pipeline {site : Site} {target : Option Nat} {push : Push}
    (h : t.hand site target push = (t', more)) {g : Gateway} (hi : t.net.gateways[i]? = some g) :
    ∃ g', t'.net.gateways[i]? = some g' ∧ g'.pipeline = g.pipeline := by
  rcases hand_cases h with ⟨rfl, -⟩ | ⟨j, g₀, draft, c, gnotes, -, -, hj, hstep, rfl, -⟩
  · exact ⟨g, hi, rfl⟩
  · have hc : (t.put j c).net.gateways = t.net.gateways.set j c.gateway := rfl
    by_cases hij : j = i
    · subst hij
      obtain rfl := Option.some.inj (hi.symm.trans hj)
      obtain ⟨hlt, -⟩ := List.getElem?_eq_some_iff.1 hi
      have hpipeline := ((t.view j g).outward_step (.notify site draft)).1
      rw [hstep] at hpipeline
      exact ⟨c.gateway, hc ▸ List.getElem?_set_self hlt, hpipeline⟩
    · exact ⟨g, hc ▸ (List.getElem?_set_ne hij).trans hi, rfl⟩

theorem Calm.carry (h : Calm t i) : Calm (t.after (carry i)) i := by
  obtain ⟨g, hi, hidle, hnone⟩ := h
  have hattempt : t.step (.attempt i) = (t, []) := by simp [step, move, hi, hnone, hidle]
  have hpush : t.step (.push i) = (t, []) := by simp [step, move, hnone]
  have hfinish : t.step (.finish i) = (t, []) := by simp [step, move, hi, hnone]
  simp only [Traffic.carry, after, List.foldl_cons, List.foldl_nil, hattempt, hpush, hfinish]
  exact ⟨g, hi, hidle, hnone⟩

theorem Busy.push {k : Nat} (h : Busy t i (k + 1)) : Busy (t.step (.push i)).1 i k := by
  obtain ⟨g, p, item, hi, hsending, hp, hk⟩ := h
  cases hpushes : p.pushes with
  | nil =>
    have hstep : t.step (.push i) = (t, []) := by simp [step, move, hp, hpushes]
    rw [hstep]
    exact ⟨g, p, item, hi, hsending, hp, by simp [hpushes]⟩
  | cons push rest =>
    have hrest : rest.length ≤ k := by
      rw [hpushes, List.length_cons] at hk
      omega
    obtain ⟨t', more, hh⟩ : ∃ t' more, { t with
      passing := Function.update t.passing i (some { p with pushes := rest }) }.hand .worker p.target push =
        (t', more) := ⟨_, _, rfl⟩
    rw [step_push hp hpushes hh]
    obtain ⟨g', hi', hpipeline⟩ := hand_pipeline hh (i := i) hi
    refine ⟨g', { p with pushes := rest }, item, hi', hpipeline ▸ hsending, ?_, hrest⟩
    rw [(hand_passing hh).1]
    exact Function.update_self ..

theorem Busy.finish (h : Busy t i 0) : Calm (t.step (.finish i)).1 i := by
  obtain ⟨g, p, item, hi, hsending, hp, hk⟩ := h
  have hdone : p.pushes = [] := List.length_eq_zero_iff.1 (Nat.le_zero.1 hk)
  have hidle : (g.pipeline.account item p.outcome).1.current = [] := by cases p.outcome <;> rfl
  obtain ⟨hlt, -⟩ := List.getElem?_eq_some_iff.1 hi
  rw [step_finish hi hsending hp hdone]
  exact ⟨_, List.getElem?_set_self hlt, hidle, Function.update_self ..⟩

theorem Acknowledging.attempt (h : Acknowledging t notes) {g : Gateway}
    (hi : t.net.gateways[i]? = some g) (hloop : Looped t.net g.wire) {item : Item}
    (hsending : g.pipeline.worker = .sending item) : Busy (t.step (.attempt i)).1 i 2 := by
  cases hp : t.passing i with
  | some p =>
    have hstep : t.step (.attempt i) = (t, []) := by simp [step, move, hi, hp]
    obtain ⟨item', -, hleft⟩ := (h.relayed i g hi hloop).1.underway p hp
    have hlength := hleft.length_le
    rw [List.length_append, List.length_map, List.length_singleton] at hlength
    rw [hstep]
    exact ⟨g, p, item, hi, hsending, hp, Nat.le_of_succ_le_succ hlength⟩
  | none =>
    obtain ⟨wire, hw, hnature⟩ := hloop
    have hcurrent : g.pipeline.current.head? = some item := by
      rw [Outbound.Pipeline.current, hsending]
      rfl
    simp only [step, move, hi, hp, hcurrent, hw, Wire.attempt, hnature, Option.bind_eq_bind,
      Option.bind_some, Option.isNone_none, Option.pure_def]
    exact ⟨g, _, item, hi, hsending, Function.update_self .., le_rfl⟩

theorem Acknowledging.carry (h : Acknowledging t notes) {g : Gateway}
    (hi : t.net.gateways[i]? = some g) (hloop : Looped t.net g.wire) :
    Calm (t.after (carry i)) i := by
  rcases g.pipeline.current_cases with hidle | ⟨item, -, hsending⟩
  · refine Calm.carry ⟨g, hi, hidle, ?_⟩
    cases hp : t.passing i with
    | none => rfl
    | some p =>
      obtain ⟨item, hsending, -⟩ := (h.relayed i g hi hloop).1.underway p hp
      simp [Outbound.Pipeline.current, hsending] at hidle
  · exact (h.attempt hi hloop hsending).push.push.finish

theorem count_errands (items : List Item) (kind : Kind) :
    (items.flatMap (errand i)).countP (Deed.acknowledges i kind) = items.length := by
  induction items with
  | nil => rfl
  | cons item rest ih =>
    rw [List.flatMap_cons, List.countP_append, ih, List.length_cons, Nat.add_comm]
    congr 1
    cases kind <;> simp [errand, Deed.acknowledges]

/-- Everything that a gateway accepts is sent and acknowledged. -/
structure Acknowledged (t : Traffic) (notes : List Note) (i : Nat) (g : Gateway) : Prop where
  /-- Messages are taken up in the order in which they were accepted, each once, and are acknowledged
  before the next one is taken up. -/
  order : deeds i notes <+:
    (numbered ((sends (notesOf i notes)).filterMap Outbound.Note.accepted?)).flatMap (errand i)
  /-- What they are acknowledged by is the id of their head. -/
  headed : ∀ a ∈ (sends (notesOf i notes)).filterMap Outbound.Note.accepted?,
    ∃ p, a.1.head = .ok p ∧ a.1.id = p.id
  unfailed : ∀ e ∈ (sends (notesOf i notes)).filterMap Outbound.Note.finished?, e.2 = .accepted
  /-- Nothing that was taken up gets stuck. -/
  carried : let later := notes ++ t.notes (carry i)
    deeds i later = ((sends (notesOf i later)).filterMap Outbound.Note.invoked?).flatMap (errand i)
  /-- Each receipt ends all calls that wait for it as it is handed over. -/
  completes : ∀ p push rest, t.passing i = some p → p.pushes = push :: rest →
    ∃ draft c gnotes, push = .notification draft ∧
      (t.view i g).step (.notify .worker draft) = (c, gnotes) ∧
      (t.step (.push i)).1.net.gateways[i]? = some c.gateway ∧
      (t.step (.push i)).2 = .handed i (some i) push :: gnotes.map (.of i) ∧
      let n := draft.appear t.net.storage
      gnotes.filterMap Gateway.Note.answer? =
          ((g.correlator n.kind).desk.pendingOn n.about).map (·, .ok n) ∧
        (c.gateway.correlator n.kind).desk.pendingOn n.about = []
  /-- The first shutdown call returns when all is done. -/
  shutdown : ∀ call result, (callsOf i notes).head? = some call →
    (call, result) ∈ (notesOf i notes).filterMap Gateway.Note.stopped? →
    let accepted := (sends (notesOf i notes)).filterMap Outbound.Note.accepted?
    result = .ok ⟨accepted.length, accepted.length, 0, 0⟩ ∧
      deeds i notes = (numbered accepted).flatMap (errand i) ∧
      ∀ kind, (deeds i notes).countP (Deed.acknowledges i kind) = accepted.length

theorem mem_deeds_of_finished {e : Item × Outcome}
    (h : e ∈ (sends (notesOf i notes)).filterMap Outbound.Note.finished?) :
    .ended e.1 e.2 ∈ deeds i notes := by
  obtain ⟨send, hsend, he⟩ := List.mem_filterMap.1 h
  obtain ⟨gnote, hgnote, hs⟩ := List.mem_filterMap.1 hsend
  obtain ⟨note, hnote, hn⟩ := List.mem_filterMap.1 hgnote
  refine List.mem_filterMap.2 ⟨note, hnote, ?_⟩
  cases note with
  | of j gnote' =>
    simp only [Note.of?] at hn
    split_ifs at hn with hij
    obtain rfl := Option.some.inj hn
    cases gnote' with
    | outbound send' =>
      obtain rfl := Option.some.inj hs
      cases send' with
      | finished item outcome =>
        obtain rfl := Option.some.inj he
        exact if_pos hij
      | _ => cases he
    | _ => cases hs
  | _ => cases hn

namespace Acknowledging

variable {g : Gateway}

theorem order (hg : Governed t notes) (h : Acknowledging t notes) (hi : t.net.gateways[i]? = some g)
    (hloop : Looped t.net g.wire) :
    deeds i notes <+:
      (numbered ((sends (notesOf i notes)).filterMap Outbound.Note.accepted?)).flatMap (errand i) := by
  have hsound := (hg.tracked i g hi).sound
  have hwhole := hsound.balanced.whole
  rw [hsound.undropped, List.append_nil] at hwhole
  rw [← hwhole, List.flatMap_append, ← (h.relayed i g hi hloop).1.whole, List.append_assoc]
  exact List.prefix_append _ _

theorem unfailed (hg : Governed t notes) (h : Acknowledging t notes) (hi : t.net.gateways[i]? = some g)
    (hloop : Looped t.net g.wire) :
    ∀ e ∈ (sends (notesOf i notes)).filterMap Outbound.Note.finished?, e.2 = .accepted := by
  intro e he
  obtain ⟨item, -, hmem⟩ := List.mem_flatMap.1
    ((h.order hg hi hloop).subset (mem_deeds_of_finished he))
  simp only [errand, List.mem_cons, reduceCtorEq, List.not_mem_nil, or_false, false_or,
    Deed.ended.injEq] at hmem
  exact hmem.2

theorem carried (hg : Governed t notes) (h : Acknowledging t notes) (hi : t.net.gateways[i]? = some g)
    (hloop : Looped t.net g.wire) :
    let later := notes ++ t.notes (Traffic.carry i)
    deeds i later = ((sends (notesOf i later)).filterMap Outbound.Note.invoked?).flatMap (errand i) := by
  intro later
  obtain ⟨g', hi', hidle, -⟩ := h.carry hi hloop
  have hwire : g'.wire = g.wire := by
    have hcreated := (hg.run (Traffic.carry i)).owned.created i
    rw [createdOf_append, hg.owned.created, hi, hi'] at hcreated
    exact (List.cons.inj hcreated).1.symm
  have hloop' : Looped (t.after (Traffic.carry i)).net g'.wire :=
    ((reattached_after t _).looped _).2 (hwire ▸ hloop)
  have hwhole := ((h.run hg (Traffic.carry i)).relayed i g' hi' hloop').1.whole
  rwa [hidle, ahead, List.flatMap_nil, List.append_nil] at hwhole

theorem completes (hg : Governed t notes) (h : Acknowledging t notes) (hi : t.net.gateways[i]? = some g)
    (hloop : Looped t.net g.wire) {p : Passage} {push : Push} {rest : List Push}
    (hp : t.passing i = some p) (hpushes : p.pushes = push :: rest) :
    ∃ draft c gnotes, push = .notification draft ∧
      (t.view i g).step (.notify .worker draft) = (c, gnotes) ∧
      (t.step (.push i)).1.net.gateways[i]? = some c.gateway ∧
      (t.step (.push i)).2 = .handed i (some i) push :: gnotes.map (.of i) ∧
      let n := draft.appear t.net.storage
      gnotes.filterMap Gateway.Note.answer? =
          ((g.correlator n.kind).desk.pendingOn n.about).map (·, .ok n) ∧
        (c.gateway.correlator n.kind).desk.pendingOn n.about = [] := by
  have hrelayed := (h.relayed i g hi hloop).1
  rw [hp] at hrelayed
  obtain ⟨htarget, draft, rfl, -⟩ := hrelayed.passage_left.2 push (hpushes ▸ List.mem_cons_self)
  have hanswers := Gateway.Course.answers_notify (hg.tracked i g hi).sound .worker draft
  obtain ⟨c, gnotes, hstep⟩ :
      ∃ c gnotes, (t.view i g).step (.notify .worker draft) = (c, gnotes) := ⟨_, _, rfl⟩
  rw [hstep] at hanswers
  let left : Traffic :=
    { t with passing := Function.update t.passing i (some { p with pushes := rest }) }
  have hhand : left.hand .worker p.target (.notification draft) = (left.put i c, gnotes.map (.of i)) := by
    rw [htarget]
    exact hand_notification hi hstep
  obtain ⟨hlt, -⟩ := List.getElem?_eq_some_iff.1 hi
  rw [step_push hp hpushes hhand, htarget]
  exact ⟨draft, c, gnotes, rfl, hstep, List.getElem?_set_self hlt, rfl, hanswers⟩

theorem shutdown (hg : Governed t notes) (h : Acknowledging t notes) (hi : t.net.gateways[i]? = some g)
    (hloop : Looped t.net g.wire) {call : Ticket} {result : Except Fault Stats}
    (hcall : (callsOf i notes).head? = some call)
    (hresult : (call, result) ∈ (notesOf i notes).filterMap Gateway.Note.stopped?) :
    let accepted := (sends (notesOf i notes)).filterMap Outbound.Note.accepted?
    result = .ok ⟨accepted.length, accepted.length, 0, 0⟩ ∧
      deeds i notes = (numbered accepted).flatMap (errand i) ∧
      ∀ kind, (deeds i notes).countP (Deed.acknowledges i kind) = accepted.length := by
  intro accepted
  have htracked := hg.tracked i g hi
  have hreturned := h.returned i g hi
  obtain ⟨hrelayed, hanswered⟩ := h.relayed i g hi hloop
  obtain ⟨-, hbegun⟩ := htracked
  simp only [Gateway.Course.Returned, hcall] at hreturned hbegun
  obtain ⟨answer, hanswer, rfl⟩ := hreturned result hresult
  obtain rfl := hanswered.answered answer hanswer
  obtain ⟨-, hrested, -⟩ := hbegun.at_rest (List.ne_nil_of_mem hanswer)
  obtain ⟨hinvoked, hfinished⟩ := hbegun.sound.sent_all hrested.worker
  have hall : deeds i notes = (numbered accepted).flatMap (errand i) := by
    have hwhole := hrelayed.whole
    have hidle : g.pipeline.current = [] := by
      rw [Outbound.Pipeline.current, show g.pipeline.worker = .stopped from hrested.worker]
    rw [hidle, ahead, List.flatMap_nil, List.append_nil] at hwhole
    exact hwhole.trans (congrArg (List.flatMap (errand i)) hinvoked)
  have hlength : (numbered accepted).length = accepted.length := List.length_mapIdx
  refine ⟨congrArg Except.ok ?_, hall, fun kind => ?_⟩
  · have hsent := h.unfailed hg hi hloop
    have hcount : ((sends (notesOf i notes)).filterMap Outbound.Note.finished?).length =
        accepted.length := by
      rw [← hlength, ← hfinished, List.length_map]
    refine Eq.trans hbegun.sound.counted ?_
    rw [tally, hbegun.sound.undropped, List.countP_eq_length.2 (by simpa using hsent),
      List.countP_eq_zero.2 (by simpa using hsent), hcount]
    rfl
  · rw [hall, count_errands, hlength]

end Acknowledging

/-- Whatever happens to it and to the gateways around it, a gateway on a loopback wire sends everything that
it accepts, and everything is acknowledged to it. -/
theorem loopback_acknowledges {wires : List Wire} (hfree : ∀ w ∈ wires, w.attached = none)
    (waiting : Span) (storage : Instant) (next : Ticket) (seed : Nat) (moves : List Move) {i : Nat}
    {g : Gateway}
    (hi : ((start wires waiting storage next seed).after moves).net.gateways[i]? = some g)
    (hloop : Looped ((start wires waiting storage next seed).after moves).net g.wire) :
    Acknowledged ((start wires waiting storage next seed).after moves)
      ((start wires waiting storage next seed).notes moves) i g := by
  have hstart := Governed.start hfree waiting storage next seed
  have hg := hstart.run moves
  have h := (Acknowledging.start wires waiting storage next seed).run hstart moves
  rw [List.nil_append] at hg h
  exact ⟨h.order hg hi hloop, h.headed i g hi, h.unfailed hg hi hloop, h.carried hg hi hloop,
    fun p push rest hp hpushes => h.completes hg hi hloop hp hpushes,
    fun call result hcall hresult => h.shutdown hg hi hloop hcall hresult⟩

def looped : Traffic := start [Wire.loopback] ⟨0⟩ ⟨0⟩ 0 0

def wayBack : Route := { lane with role := .provider }

/-- A call waits for what comes of two messages of one name, one each way. The gateway is shut down while
the first one is on its way. -/
def thereAndBack : List Move :=
  [.furnish ⟨none, "loopback"⟩ [0], .create office, .own 0 (.await .relay "A" ⟨0⟩),
    .own 0 (.enqueue parcel lane), .own 0 (.enqueue parcel wayBack), .own 0 .work, .attempt 0,
    .own 0 .shutdown, .attend 0, .push 0, .push 0, .finish 0, .own 0 .work] ++ carry 0 ++
  [.own 0 .work, .attend 0, .answer 0, .own 0 (.close .submission), .own 0 (.close .relay), .own 0 .reply]

theorem loopback_acknowledges_there_and_back :
    (∀ w ∈ [Wire.loopback], w.attached = none) ∧
      (∃ g, (looped.after thereAndBack).net.gateways[0]? = some g ∧
        Looped (looped.after thereAndBack).net g.wire ∧
        Acknowledged (looped.after thereAndBack) (looped.notes thereAndBack) 0 g) ∧
      (sends (notesOf 0 (looped.notes thereAndBack))).filterMap Outbound.Note.accepted? =
        [(parcel, lane), (parcel, wayBack)] ∧
      (callsOf 0 (looped.notes thereAndBack)).head? = some 1 ∧
      (1, .ok ⟨2, 2, 0, 0⟩) ∈
        (notesOf 0 (looped.notes thereAndBack)).filterMap Gateway.Note.stopped? ∧
      ((notesOf 0 (looped.notes thereAndBack)).filterMap Gateway.Note.answer?).map Prod.fst = [0] := by
  have hfree : ∀ w ∈ [Wire.loopback], w.attached = none := by decide
  have hseat : ((looped.after thereAndBack).net.gateways[0]?).map Gateway.wire = some 0 := by
    decide +kernel
  have hnature : ((looped.after thereAndBack).net.wires[0]?).map Wire.nature = some .loopback := by
    decide +kernel
  obtain ⟨g, hi, hwire⟩ := Option.map_eq_some_iff.1 hseat
  have hloop : Looped (looped.after thereAndBack).net g.wire := by
    rw [hwire]
    exact Option.map_eq_some_iff.1 hnature
  refine ⟨hfree, ⟨g, hi, hloop, ?_⟩, by decide +kernel, by decide +kernel, by decide +kernel,
    by decide +kernel⟩
  unfold looped at hi hloop ⊢
  exact loopback_acknowledges hfree ⟨0⟩ ⟨0⟩ 0 0 thereAndBack hi hloop

end Network.Traffic

end MessageExchange

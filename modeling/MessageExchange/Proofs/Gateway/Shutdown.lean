import MessageExchange.Proofs.Gateway.Moves

/-! The first shutdown call of a gateway, from the moment it comes in. It waits for the worker, then for
the wire, and then closes one correlator after the other; or it is given up on the way. No other call takes
its place, so the wire is asked to let go once at most, and only when there is nothing left to send. -/

namespace MessageExchange.Gateway

open Correlation (Ticket Wait Correlator Desk)
open Outbound (Pipeline)
open Outbound.Course (numbered)

namespace Course

variable {c c' : Course} {m : Move} {notes more : List Note} {t : Ticket}

/-- The wire is asked once to let go of the gateway, when every message that was accepted has been sent
or has failed. From then on messages are only refused. -/
def AskedOnce (wire : Nat) (gateway : String) (notes : List Note) : Prop :=
  ∃ before later, notes = before ++ .releasing wire gateway :: later ∧
    before.filterMap Note.releasing? = [] ∧ later.filterMap Note.releasing? = [] ∧
    (sends before).filterMap Outbound.Note.invoked? =
      numbered ((sends before).filterMap Outbound.Note.accepted?) ∧
    ((sends before).filterMap Outbound.Note.finished?).map Prod.fst =
      numbered ((sends before).filterMap Outbound.Note.accepted?) ∧
    ∀ note ∈ sends later, ∃ fault, note = .refused fault

theorem AskedOnce.append {wire : Nat} {gateway : String} (h : AskedOnce wire gateway notes)
    (hr : more.filterMap Note.releasing? = [])
    (hm : ∀ note ∈ sends more, ∃ fault, note = .refused fault) :
    AskedOnce wire gateway (notes ++ more) := by
  obtain ⟨before, later, rfl, hfirst, hlast, hinvoked, hfinished, hrefused⟩ := h
  refine ⟨before, later ++ more, by simp, hfirst, by simp [hlast, hr], hinvoked, hfinished, ?_⟩
  intro note hnote
  rw [sends_append, List.mem_append] at hnote
  exact hnote.elim (hrefused note) (hm note)

theorem refused_of_rest {o o' : Outbound.Course} {m : Outbound.Move} {more : List Outbound.Note}
    (ho : o.pipeline.Orderly) (hw : o.pipeline.worker = .stopped) (hcalls : o.pipeline.calls = [])
    (hs : Outbound.Course.Stepped o m o' more) : ∀ note ∈ more, ∃ fault, note = .refused fault := by
  cases hs with
  | refuse fault =>
    intro note hnote
    exact ⟨fault, List.mem_singleton.1 hnote⟩
  | accept hopen =>
    rw [(ho.atRest hw).2] at hopen
    exact absurd hopen (by simp)
  | invoke hidle hq hfree => exact absurd (hidle.symm.trans hw) (by simp)
  | drop hdropping hq => exact absurd (hdropping.symm.trans hw) (by simp)
  | finish hsending outcome => exact absurd (hsending.symm.trans hw) (by simp)
  | leave hc hwhy => exact absurd (hcalls.symm.trans hc) (by simp)
  | _ => nofun

theorem steady_stepped {o o' : Outbound.Course} {m : Outbound.Move} {more : List Outbound.Note}
    (h : Patient o.pipeline) (hm : m.shuts = false) (hs : Outbound.Course.Stepped o m o' more) :
    o'.pipeline.calls = o.pipeline.calls ∧ o'.pipeline.unwatched = o.pipeline.unwatched ∧
      o'.pipeline.accepting = o.pipeline.accepting := by
  cases hs with
  | finish hsending outcome => cases outcome <;> exact ⟨rfl, rfl, rfl⟩
  | lapse hcalls hlapsed =>
    have hnone := h.deadline_eq (hcalls ▸ List.mem_cons_self)
    exact absurd hnone (by simp)
  | shutdown drain => exact absurd hm (by simp [Outbound.Move.shuts])
  | turn hcalls hun => exact absurd hm (by simp [Outbound.Move.shuts])
  | leave hcalls hwhy => exact absurd hm (by simp [Outbound.Move.shuts])
  | cancel hpending => exact absurd hm (by simp [Outbound.Move.shuts])
  | letGo => exact absurd hm (by simp [Outbound.Move.shuts])
  | _ => exact ⟨rfl, rfl, rfl⟩

theorem unasked_seen (effects : List Effect) :
    (effects.map Note.seen).filterMap Note.releasing? = [] ∧
      (effects.map Note.seen).filterMap Note.released? = [] := by
  induction effects with
  | nil => exact ⟨rfl, rfl⟩
  | cons e rest ih => exact ih

theorem unasked_outbound (notes : List Outbound.Note) :
    (notes.map Note.outbound).filterMap Note.releasing? = [] ∧
      (notes.map Note.outbound).filterMap Note.released? = [] := by
  induction notes with
  | nil => exact ⟨rfl, rfl⟩
  | cons e rest ih => exact ih

theorem pipeline_cancel (g : Gateway) (t : Ticket) :
    (g.cancel t).pipeline.calls = g.pipeline.calls.filter (·.ticket != t) ∧
      (g.cancel t).pipeline.unwatched = g.pipeline.unwatched ∧
      (g.cancel t).pipeline.accepting = g.pipeline.accepting := by
  simp only [Gateway.cancel]
  split_ifs with hp
  · rw [Pipeline.cancel_eq]
    exact ⟨rfl, rfl, rfl⟩
  · refine ⟨(List.filter_eq_self.2 fun call hcall => ?_).symm, rfl, rfl⟩
    simp only [Pipeline.isPending, List.any_eq_true, not_exists, not_and] at hp
    simpa using hp call hcall

theorem pipeline_forsaken (e : Ending) (g : Gateway) :
    (e.stage.forsake (g.cancel e.call)).pipeline = (g.cancel e.call).pipeline :=
  (forsake_frame e.stage (g.cancel e.call)).1

/-! What a move leaves alone once a shutdown has begun. -/

theorem begun_stepped (h : Sound c notes) (hb : c.gateway.stopped = true)
    (ha : c.gateway.pipeline.accepting = false) (hs : Stepped c m c' more) :
    c'.gateway.stopped = true ∧ c'.gateway.pipeline.accepting = false := by
  cases hs with
  | along hsteady =>
    have hmoved := Outbound.Course.stepped (c := c.outbound) h.orderly (c.outward m)
    exact ⟨hb, (steady_stepped h.patient hsteady hmoved).2.2.trans ha⟩
  | correlate kind hlater htended hquiet => cases kind <;> exact ⟨hb, ha⟩
  | begin_ hrunning => exact absurd (hrunning.symm.trans hb) (by simp)
  | @close call stats kind answer hending => cases kind <;> exact ⟨hb, ha⟩
  | cancel hother => exact ⟨hb, (pipeline_cancel c.gateway _).2.2.trans ha⟩
  | @forsake e hending hwaits =>
    rw [pipeline_forsaken]
    exact ⟨(forsake_frame e.stage (c.gateway.cancel e.call)).2.1.trans hb,
      (pipeline_cancel c.gateway e.call).2.2.trans ha⟩
  | _ => exact ⟨hb, ha⟩

theorem idle_stepped (h : Sound c notes) (hb : m = .shutdown → c.gateway.stopped = true)
    (hcalls : c.gateway.pipeline.calls = []) (hs : Stepped c m c' more) :
    c'.gateway.pipeline.calls = [] := by
  cases hs with
  | along hsteady =>
    have hmoved := Outbound.Course.stepped (c := c.outbound) h.orderly (c.outward m)
    exact (steady_stepped h.patient hsteady hmoved).1.trans hcalls
  | correlate kind hlater htended hquiet => cases kind <;> exact hcalls
  | begin_ hrunning => exact absurd (hrunning.symm.trans (hb rfl)) (by simp)
  | turn hc hun => exact absurd (hcalls.symm.trans hc) (by simp)
  | leave hc hwhy => exact absurd (hcalls.symm.trans hc) (by simp)
  | @close call stats kind answer hending => cases kind <;> exact hcalls
  | cancel hother => rw [(pipeline_cancel c.gateway _).1, hcalls, List.filter_nil]
  | @forsake e hending hwaits =>
    rw [pipeline_forsaken, (pipeline_cancel c.gateway e.call).1, hcalls, List.filter_nil]
  | _ => exact hcalls

theorem untouched_stepped (h : Sound c notes) (hm : m ≠ .shutdown)
    (hcalls : c.gateway.pipeline.calls = []) (hs : Stepped c m c' more) :
    c'.gateway.stopped = c.gateway.stopped ∧
      c'.gateway.pipeline.unwatched = c.gateway.pipeline.unwatched := by
  cases hs with
  | along hsteady =>
    have hmoved := Outbound.Course.stepped (c := c.outbound) h.orderly (c.outward m)
    exact ⟨rfl, (steady_stepped h.patient hsteady hmoved).2.1⟩
  | correlate kind hlater htended hquiet => cases kind <;> exact ⟨rfl, rfl⟩
  | begin_ hrunning => exact absurd rfl hm
  | turn hc hun => exact absurd (hcalls.symm.trans hc) (by simp)
  | leave hc hwhy => exact absurd (hcalls.symm.trans hc) (by simp)
  | @close call stats kind answer hending => cases kind <;> exact ⟨rfl, rfl⟩
  | cancel hother => exact ⟨rfl, (pipeline_cancel c.gateway _).2.1⟩
  | @forsake e hending hwaits =>
    rw [pipeline_forsaken]
    exact ⟨(forsake_frame e.stage (c.gateway.cancel e.call)).2.1,
      (pipeline_cancel c.gateway e.call).2.1⟩
  | _ => exact ⟨rfl, rfl⟩

theorem unready_stepped (hr : c.ending = none) (hcalls : c.gateway.pipeline.calls = [])
    (hs : Stepped c m c' more) : c'.ending = none := by
  cases hs with
  | leave hc hwhy => exact absurd (hcalls.symm.trans hc) (by simp)
  | released hending answer => exact absurd (hr.symm.trans hending) (by simp)
  | close hending => exact absurd (hr.symm.trans hending) (by simp)
  | reply hending => rfl
  | forsake hending hwaits => rfl
  | _ => exact hr

theorem unasked_stepped (hcalls : c.gateway.pipeline.calls = []) (hs : Stepped c m c' more) :
    more.filterMap Note.releasing? = [] := by
  cases hs with
  | along hsteady => exact (unasked_outbound _).1
  | correlate kind hlater htended hquiet => exact (unasked_seen _).1
  | leave hc hwhy => exact absurd (hcalls.symm.trans hc) (by simp)
  | close hending => exact (unasked_seen _).1
  | reply hending => exact (unasked_seen _).1
  | _ => rfl

theorem unreleased_stepped (hr : c.ending = none) (hs : Stepped c m c' more) :
    more.filterMap Note.released? = [] := by
  cases hs with
  | along hsteady => exact (unasked_outbound _).2
  | correlate kind hlater htended hquiet => exact (unasked_seen _).2
  | released hending answer => exact absurd (hr.symm.trans hending) (by simp)
  | close hending => exact (unasked_seen _).2
  | reply hending => exact (unasked_seen _).2
  | _ => rfl

theorem unstopped_outbound (notes : List Outbound.Note) :
    (notes.map Note.outbound).filterMap Note.stopped? = [] := by
  induction notes with
  | nil => rfl
  | cons e rest ih => exact ih

theorem stops_seen (effects : List Effect) :
    (effects.map Note.seen).filterMap Note.stopped? = effects.filterMap Effect.stopped? := by
  rw [List.filterMap_map]
  rfl

theorem unstopped_close (g : Gateway) (kind : Kind) :
    (g.close kind).2.filterMap Effect.stopped? = [] := by
  have hclose : (g.close kind).2 = (g.correlator kind).shutdown.2 := rfl
  rw [hclose, Correlator.shutdown, List.filterMap_map]
  exact List.filterMap_eq_nil_iff.2 fun w _ => rfl

/-- What one move is to a call that has left the pipeline. -/
inductive Onward (c : Course) (e : Ending) : Move → Course → List Note → Prop
  /-- Nothing. -/
  | wait {m : Move} {c' : Course} {more : List Note} (still : c'.ending = some e)
    (unreleased : more.filterMap Note.released? = [])
    (unstopped : ∀ r, (e.call, r) ∉ more.filterMap Note.stopped?) : Onward c e m c' more
  | released (stage : e.stage = .wire) (answer : Except Fault Unit) :
    Onward c e (.released answer)
      { c with ending := some { e with stage := .correlator .submission answer } } [.released answer]
  | close {kind answer} (stage : e.stage = .correlator kind answer) :
    Onward c e (.close kind)
      { c with
        gateway := (c.gateway.close kind).1, ending := some { e with stage := .past answer kind } }
      ((c.gateway.close kind).2.map .seen)
  | reply {answer} (stage : e.stage = .closed answer) :
    Onward c e .reply { c with ending := none } ((c.gateway.reply e.call e.stats answer).map .seen)
  | forsake (waits : e.stage.waits = true) :
    Onward c e (.cancel e.call)
      { c with gateway := e.stage.forsake (c.gateway.cancel e.call), ending := none }
      [.seen (.cancelled e.call)]

theorem onward_stepped {e : Ending} (he : c.ending = some e) (hcalls : c.gateway.pipeline.calls = [])
    (hb : c.gateway.stopped = true) (hearly : e.call < c.next) (hs : Stepped c m c' more) :
    Onward c e m c' more := by
  have hnone : ∀ r, (e.call, r) ∉ ([] : List (Ticket × Except Fault Stats)) := fun _ => List.not_mem_nil
  cases hs with
  | along hsteady =>
    exact .wait he (unasked_outbound _).2 fun r => by rw [unstopped_outbound]; exact hnone r
  | correlate kind hlater htended hquiet =>
    exact .wait he (unasked_seen _).2 fun r => by rw [stops_seen, hquiet]; exact hnone r
  | begin_ hrunning => exact absurd (hrunning.symm.trans hb) (by simp)
  | find hbegun =>
    refine .wait he rfl fun r hr => hearly.ne ?_
    exact (Prod.mk.inj (List.mem_singleton.1 hr)).1
  | turn hc hun => exact absurd (hcalls.symm.trans hc) (by simp)
  | leave hc hwhy => exact absurd (hcalls.symm.trans hc) (by simp)
  | released hending answer =>
    obtain rfl := Option.some.inj (he.symm.trans hending)
    exact .released rfl answer
  | close hending =>
    obtain rfl := Option.some.inj (he.symm.trans hending)
    exact .close rfl
  | reply hending =>
    obtain rfl := Option.some.inj (he.symm.trans hending)
    exact .reply rfl
  | forsake hending hwaits =>
    obtain rfl := Option.some.inj (he.symm.trans hending)
    exact .forsake hwaits
  | _ => exact .wait he rfl hnone

structure Rested (c : Course) (notes : List Note) : Prop where
  worker : c.gateway.pipeline.worker = .stopped
  asked : AskedOnce c.gateway.wire c.gateway.name notes

theorem Rested.step (h : Rested c notes) (hsound : Sound c notes)
    (hcalls : c.gateway.pipeline.calls = []) (m : Move) :
    Rested (c.step m).1 (notes ++ (c.step m).2) ∧
      (c.step m).1.gateway.pipeline.stats = c.gateway.pipeline.stats := by
  obtain ⟨hpipeline, hsends⟩ := outward_step c m
  obtain ⟨hwire, hname⟩ := bound_stepped (stepped hsound m)
  have hs := Outbound.Course.stepped (c := c.outbound) hsound.orderly (c.outward m)
  obtain ⟨hworker, hstats⟩ := Outbound.Course.stopped_step (c := c.outbound) hsound.orderly h.worker hs
  refine ⟨⟨hpipeline ▸ hworker, ?_⟩, hpipeline ▸ hstats⟩
  rw [hwire, hname]
  refine h.asked.append (unasked_stepped hcalls (stepped hsound m)) ?_
  rw [hsends]
  exact refused_of_rest (o := c.outbound) hsound.orderly h.worker hcalls hs

/-- The call `t` has run to its end, and all calls that waited for acknowledgements have ended. -/
structure Concluded (c : Course) (notes : List Note) (t : Ticket) : Prop where
  calls : c.gateway.pipeline.calls = []
  unready : c.ending = none
  rested : Rested c notes
  released : (notes.filterMap Note.released?).length = 1
  fresh : ∀ kind, ∀ w ∈ (c.gateway.correlator kind).desk.waits, t < w.ticket

/-- Where the first shutdown call `t` stands. -/
inductive Underway (c : Course) (notes : List Note) (t : Ticket) : Prop
  /-- It waits for the worker to send what is queued. -/
  | draining {p} (calls : c.gateway.pipeline.calls = [⟨t, p⟩])
    (turn : p.waits = true → c.gateway.pipeline.unwatched = true) (unready : c.ending = none)
    (unasked : notes.filterMap Note.releasing? = [])
    (unreleased : notes.filterMap Note.released? = [])
  /-- It waits for the wire to let go. -/
  | releasing (calls : c.gateway.pipeline.calls = [])
    (ready : c.ending = some ⟨t, c.gateway.pipeline.stats, .wire⟩) (rested : Rested c notes)
    (unreleased : notes.filterMap Note.released? = [])
  /-- The wire has answered. No call that waited for an acknowledgement is left in a correlator that has
  closed. -/
  | closing {stage answer} (calls : c.gateway.pipeline.calls = [])
    (ready : c.ending = some ⟨t, c.gateway.pipeline.stats, stage⟩) (rested : Rested c notes)
    (answered : stage.answer? = some answer) (released : notes.filterMap Note.released? = [answer])
    (fresh : ∀ kind, stage.hasClosed kind = true →
      ∀ w ∈ (c.gateway.correlator kind).desk.waits, t < w.ticket)
  | concluded (concluded : Concluded c notes t)
  /-- It was given up before the wire had answered. -/
  | forsaken (calls : c.gateway.pipeline.calls = []) (unready : c.ending = none)
    (unreleased : notes.filterMap Note.released? = [])
  /-- It was given up when the wire had answered. -/
  | abandoned (calls : c.gateway.pipeline.calls = []) (unready : c.ending = none)
    (rested : Rested c notes) (released : (notes.filterMap Note.released?).length = 1)

theorem Underway.calls_cases (h : Underway c notes t) :
    c.gateway.pipeline.calls = [] ∨ ∃ phase, c.gateway.pipeline.calls = [⟨t, phase⟩] ∧
      (phase.waits = true → c.gateway.pipeline.unwatched = true) := by
  cases h with
  | draining hcalls hturn => exact .inr ⟨_, hcalls, hturn⟩
  | releasing hcalls => exact .inl hcalls
  | closing hcalls => exact .inl hcalls
  | concluded hconcluded => exact .inl hconcluded.calls
  | forsaken hcalls => exact .inl hcalls
  | abandoned hcalls => exact .inl hcalls

theorem Sound.sent_all (h : Sound c notes) (hw : c.gateway.pipeline.worker = .stopped) :
    (sends notes).filterMap Outbound.Note.invoked? =
        numbered ((sends notes).filterMap Outbound.Note.accepted?) ∧
      ((sends notes).filterMap Outbound.Note.finished?).map Prod.fst =
        numbered ((sends notes).filterMap Outbound.Note.accepted?) := by
  have hwhole := h.balanced.whole
  have hends := h.balanced.ends
  rw [h.undropped, (h.orderly.atRest hw).1, List.append_nil, List.append_nil] at hwhole
  simp only [Pipeline.current, hw, List.append_nil] at hends
  exact ⟨hwhole, hends.trans hwhole⟩

theorem rested_of_asked {note : Outbound.Note}
    (h : Sound c (notes ++ [.outbound note, .releasing c.gateway.wire c.gateway.name]))
    (hw : c.gateway.pipeline.worker = .stopped) (hr : notes.filterMap Note.releasing? = []) :
    Rested c (notes ++ [.outbound note, .releasing c.gateway.wire c.gateway.name]) := by
  have hsends : sends (notes ++ [.outbound note, .releasing c.gateway.wire c.gateway.name]) =
      sends (notes ++ [.outbound note]) := by
    rw [sends_append, sends_append]
    rfl
  obtain ⟨hinvoked, hfinished⟩ := h.sent_all hw
  rw [hsends] at hinvoked hfinished
  refine ⟨hw, notes ++ [.outbound note], [], by simp, ?_, rfl, hinvoked, hfinished, nofun⟩
  simp [hr, Note.releasing?]

theorem desk_close (g : Gateway) (kind kind' : Kind) :
    ((g.close kind).1.correlator kind').desk =
      if kind' = kind then Desk.empty else (g.correlator kind').desk := by
  rw [Gateway.close, correlator_setCorrelator]
  split_ifs <;> rfl

/-- Calls that come in after the call `t` are later ones. -/
theorem fresh_stepped (h : Sound c notes) (ht : t < c.next) {kind : Kind}
    (hfresh : ∀ w ∈ (c.gateway.correlator kind).desk.waits, t < w.ticket)
    (hs : Stepped c m c' more) : ∀ w ∈ (c'.gateway.correlator kind).desk.waits, t < w.ticket := by
  intro w hw
  rcases (tended_stepped h.seated hs kind).waits w hw with hold | hnew
  · exact hfresh w hold
  · rw [hnew]
    exact ht

theorem Concluded.step (h : Concluded c notes t) (hsound : Sound c notes)
    (hb : c.gateway.stopped = true) (ht : t < c.next) (m : Move) :
    Concluded (c.step m).1 (notes ++ (c.step m).2) t := by
  have hs := stepped hsound m
  refine ⟨idle_stepped hsound (fun _ => hb) h.calls hs, unready_stepped h.unready h.calls hs,
    (h.rested.step hsound h.calls m).1, ?_, fun kind => fresh_stepped hsound ht (h.fresh kind) hs⟩
  rw [List.filterMap_append, unreleased_stepped h.unready hs, List.append_nil, h.released]

theorem Concluded.of_reply {answer : Except Fault Unit} {stats : Stats}
    (hcalls : c.gateway.pipeline.calls = []) (hrested : Rested { c with ending := none } (notes ++ more))
    (hreleased : notes.filterMap Note.released? = [answer])
    (hmore : more = (c.gateway.reply t stats answer).map .seen)
    (hfresh : ∀ kind, ∀ w ∈ (c.gateway.correlator kind).desk.waits, t < w.ticket) :
    Concluded { c with ending := none } (notes ++ more) t := by
  refine ⟨hcalls, rfl, hrested, ?_, hfresh⟩
  rw [List.filterMap_append, hreleased, hmore]
  rfl

/-- The call has left the pipeline; `Onward` says what a move is to it. -/
theorem Underway.step_left {stage : Stage} (hsound : Sound c notes) (hb : c.gateway.stopped = true)
    (ht : t < c.next) (hcalls : c.gateway.pipeline.calls = [])
    (hready : c.ending = some ⟨t, c.gateway.pipeline.stats, stage⟩) (hrested : Rested c notes)
    (hreleased : notes.filterMap Note.released? = stage.answer?.toList)
    (hfresh : ∀ kind, stage.hasClosed kind = true →
      ∀ w ∈ (c.gateway.correlator kind).desk.waits, t < w.ticket) (m : Move) :
    Underway (c.step m).1 (notes ++ (c.step m).2) t := by
  have hs := stepped hsound m
  have honward := onward_stepped hready hcalls hb ht hs
  have hcalls' := idle_stepped hsound (fun _ => hb) hcalls hs
  obtain ⟨hrested', hstats⟩ := hrested.step hsound hcalls m
  have hfresh' := fun kind hk => fresh_stepped hsound ht (hfresh kind hk) hs
  generalize c.step m = r at hs honward hcalls' hrested' hstats hfresh'
  obtain ⟨c', more⟩ := r
  cases honward with
  | wait hstill hunreleased hunstopped =>
    have hsame : (notes ++ more).filterMap Note.released? = stage.answer?.toList := by
      rw [List.filterMap_append, hunreleased, hreleased, List.append_nil]
    rw [← hstats] at hstill
    cases stage with
    | wire => exact .releasing hcalls' hstill hrested' hsame
    | correlator kind answer => exact .closing hcalls' hstill hrested' rfl hsame hfresh'
    | closed answer => exact .closing hcalls' hstill hrested' rfl hsame hfresh'
  | released hstage answer =>
    obtain rfl : stage = .wire := hstage
    refine .closing hcalls' rfl hrested' rfl ?_ fun kind hk => absurd hk (by simp [Stage.hasClosed])
    rw [List.filterMap_append, hreleased]
    rfl
  | @close kind answer hstage =>
    obtain rfl : stage = .correlator kind answer := hstage
    have hstats' : (c.gateway.close kind).1.pipeline.stats = c.gateway.pipeline.stats := hstats
    have hpast : (Stage.past answer kind).answer? = some answer := by cases kind <;> rfl
    refine .closing hcalls' (by rw [hstats']) hrested' hpast ?_ fun kind' hk => ?_
    · rw [List.filterMap_append, hreleased, (unasked_seen _).2]
      rfl
    · rcases Stage.hasClosed_past hk with rfl | hbefore
      · intro w hw
        rw [desk_close, if_pos rfl] at hw
        exact absurd hw List.not_mem_nil
      · exact hfresh' kind' hbefore
  | @reply answer hstage =>
    obtain rfl : stage = .closed answer := hstage
    exact .concluded (.of_reply hcalls hrested' hreleased rfl fun kind => hfresh kind rfl)
  | forsake hwaits =>
    have hsame : (notes ++ [Note.seen (.cancelled t)]).filterMap Note.released? = stage.answer?.toList := by
      rw [List.filterMap_append, hreleased]
      exact List.append_nil _
    cases stage with
    | wire => exact .forsaken hcalls' rfl hsame
    | correlator kind answer => exact .abandoned hcalls' rfl hrested' (congrArg List.length hsame)
    | closed answer => exact absurd hwaits Bool.false_ne_true

theorem Underway.step (h : Underway c notes t) (hsound : Sound c notes)
    (hb : c.gateway.stopped = true) (ht : t < c.next) (m : Move) :
    Underway (c.step m).1 (notes ++ (c.step m).2) t := by
  have hs := stepped hsound m
  cases h with
  | releasing hcalls hready hrested hunreleased =>
    exact step_left hsound hb ht hcalls hready hrested hunreleased
      (fun kind hk => absurd hk Bool.false_ne_true) m
  | closing hcalls hready hrested hanswered hreleased hfresh =>
    exact step_left hsound hb ht hcalls hready hrested (by rw [hreleased, hanswered]; rfl) hfresh m
  | concluded hconcluded => exact .concluded (hconcluded.step hsound hb ht m)
  | forsaken hcalls hunready hunreleased =>
    refine .forsaken (idle_stepped hsound (fun _ => hb) hcalls hs) (unready_stepped hunready hcalls hs) ?_
    rw [List.filterMap_append, hunreleased, unreleased_stepped hunready hs, List.append_nil]
  | abandoned hcalls hunready hrested hreleased =>
    refine .abandoned (idle_stepped hsound (fun _ => hb) hcalls hs)
      (unready_stepped hunready hcalls hs) (hrested.step hsound hcalls m).1 ?_
    rw [List.filterMap_append, unreleased_stepped hunready hs, List.append_nil, hreleased]
  | @draining phase hcalls hturn hunready hunasked hunreleased =>
    have hsound' := hsound.step m
    generalize c.step m = r at hs hsound'
    obtain ⟨c', more⟩ := r
    have hstill : c'.gateway.pipeline.calls = c.gateway.pipeline.calls →
        c'.gateway.pipeline.unwatched = c.gateway.pipeline.unwatched → c'.ending = c.ending →
        more.filterMap Note.releasing? = [] → more.filterMap Note.released? = [] →
        Underway c' (notes ++ more) t := fun hc hun hr ha hm =>
      .draining (hc.trans hcalls) (fun hp => hun.trans (hturn hp)) (hr.trans hunready)
        (by rw [List.filterMap_append, hunasked, ha]; rfl)
        (by rw [List.filterMap_append, hunreleased, hm]; rfl)
    have hnone : ∀ e, c.ending ≠ some e := fun e he => by simp [hunready] at he
    cases hs with
    | along hsteady =>
      have hmoved := Outbound.Course.stepped (c := c.outbound) hsound.orderly (c.outward m)
      obtain ⟨hc, hun, -⟩ := steady_stepped hsound.patient hsteady hmoved
      exact hstill hc hun rfl (unasked_outbound _).1 (unasked_outbound _).2
    | correlate kind hlater htended hquiet =>
      exact hstill (by rw [pipeline_setCorrelator]) (by rw [pipeline_setCorrelator]) rfl
        (unasked_seen _).1 (unasked_seen _).2
    | begin_ hrunning => exact absurd (hrunning.symm.trans hb) (by simp)
    | turn hc hun =>
      obtain ⟨⟨rfl, rfl⟩, rfl⟩ := by simpa using hcalls.symm.trans hc
      exact .draining rfl nofun hunready (by simpa using hunasked) (by simpa using hunreleased)
    | @leave call rest hc hwhy =>
      obtain ⟨rfl, rfl⟩ := by simpa using hcalls.symm.trans hc
      have hw : c.gateway.pipeline.worker = .stopped := by
        rcases hwhy with ⟨hwaits, hun⟩ | ⟨-, hw⟩
        · rw [hturn hwaits] at hun
          exact absurd hun (by simp)
        · exact hw
      refine .releasing rfl rfl (rested_of_asked hsound' hw hunasked) ?_
      rw [List.filterMap_append, hunreleased]
      rfl
    | released hending answer => exact absurd hending (hnone _)
    | close hending => exact absurd hending (hnone _)
    | reply hending => exact absurd hending (hnone _)
    | @cancel t' hother =>
      obtain ⟨hc, hun, -⟩ := pipeline_cancel c.gateway t'
      by_cases ht' : t' = t
      · refine .forsaken (hc.trans ?_) hunready ?_
        · simp [hcalls, ht']
        · rw [List.filterMap_append, hunreleased]
          rfl
      · refine hstill (hc.trans ?_) hun rfl rfl rfl
        simp [hcalls, Ne.symm ht']
    | forsake hending hwaits => exact absurd hending (hnone _)
    | _ => exact hstill rfl rfl rfl rfl rfl

structure Begun (c : Course) (notes : List Note) (t : Ticket) : Prop where
  sound : Sound c notes
  stopped : c.gateway.stopped = true
  shut : c.gateway.pipeline.accepting = false
  early : t < c.next
  stage : Underway c notes t

theorem Begun.step (h : Begun c notes t) (m : Move) :
    Begun (c.step m).1 (notes ++ (c.step m).2) t := by
  have hs := stepped h.sound m
  obtain ⟨hstopped, hshut⟩ := begun_stepped h.sound h.stopped h.shut hs
  exact ⟨h.sound.step m, hstopped, hshut, h.early.trans_le (later_stepped hs),
    h.stage.step h.sound h.stopped h.early m⟩

theorem Begun.run (h : Begun c notes t) (moves : List Move) :
    Begun (c.after moves) (notes ++ c.notes moves) t :=
  run_of_step (P := (Begun · · t)) moves (fun _ _ h m _ => h.step m) h

structure Running (c : Course) (notes : List Note) : Prop where
  sound : Sound c notes
  running : c.gateway.stopped = false
  calls : c.gateway.pipeline.calls = []
  unwatched : c.gateway.pipeline.unwatched = true
  unready : c.ending = none
  unasked : notes.filterMap Note.releasing? = []
  unreleased : notes.filterMap Note.released? = []

theorem Running.start (s : Settings) (wire : Nat) (wireId : String) (waiting : Span)
    (storage : Instant) (next : Ticket) : Running (start s wire wireId waiting storage next) [] :=
  ⟨Sound.start s wire wireId waiting storage next, rfl, rfl, rfl, rfl, rfl, rfl⟩

theorem Running.step (h : Running c notes) (hm : m ≠ .shutdown) :
    Running (c.step m).1 (notes ++ (c.step m).2) := by
  have hs := stepped h.sound m
  obtain ⟨hstopped, hunwatched⟩ := untouched_stepped h.sound hm h.calls hs
  exact {
    sound := h.sound.step m
    running := hstopped.trans h.running
    calls := idle_stepped h.sound (fun he => absurd he hm) h.calls hs
    unwatched := hunwatched.trans h.unwatched
    unready := unready_stepped h.unready h.calls hs
    unasked := by rw [List.filterMap_append, h.unasked, unasked_stepped h.calls hs, List.append_nil]
    unreleased := by
      rw [List.filterMap_append, h.unreleased, unreleased_stepped h.unready hs, List.append_nil] }

theorem Running.run (h : Running c notes) {moves : List Move} (hm : .shutdown ∉ moves) :
    Running (c.after moves) (notes ++ c.notes moves) :=
  run_of_step moves (fun _ _ h _ hin => h.step fun heq => hm (heq ▸ hin)) h

theorem begin_eq (h : c.gateway.stopped = false) :
    c.step .shutdown =
      ({ c with
          gateway := { c.gateway with
            stopped := true, pipeline := c.gateway.pipeline.shutdown c.next ⟨0⟩ },
          next := c.next + 1 }, []) := by
  simp [step, Gateway.shutdown, h]

theorem Running.begin_ (h : Running c notes) :
    Begun (c.step .shutdown).1 (notes ++ (c.step .shutdown).2) c.next := by
  have hsound := h.sound.step .shutdown
  rw [begin_eq h.running] at hsound ⊢
  refine ⟨hsound, rfl, rfl, c.next.lt_succ_self, ?_⟩
  refine .draining (p := .queued ⟨0⟩) ?_ (fun _ => h.unwatched) h.unready ?_ ?_
  · simp [Pipeline.shutdown, h.calls]
  · rw [List.append_nil, h.unasked]
  · rw [List.append_nil, h.unreleased]

section

variable {s : Settings} {wire : Nat} {wireId : String} {waiting : Span} {storage : Instant}
  {next : Ticket}

/-- After the first shutdown call the gateway has begun to shut down, whatever follows. -/
theorem begun_after {us : List Move} (hus : .shutdown ∉ us) (vs : List Move) :
    let c := start s wire wireId waiting storage next
    Begun (c.after (us ++ .shutdown :: vs)) (c.notes (us ++ .shutdown :: vs)) (c.after us).next := by
  intro c
  have hrunning := (Running.start s wire wireId waiting storage next).run hus
  have hbegun := hrunning.begin_.run vs
  rw [after_append, notes_append]
  rwa [List.nil_append, List.append_assoc] at hbegun

end

end Course

end MessageExchange.Gateway

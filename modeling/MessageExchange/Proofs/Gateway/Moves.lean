import MessageExchange.Proofs.Gateway.Courses

/-! What one move does to each part of a gateway, and what a gateway is always sure of. To its pipeline a
move is a move of the pipeline, so what holds along courses of pipelines holds here. No call of a gateway
sets a drain time, so nothing is ever dropped. -/

namespace MessageExchange

namespace Outbound

def Move.shuts : Move → Bool
  | shutdown _ => true
  | attend => true
  | cancel _ => true
  | letGo => true
  | _ => false

end Outbound

namespace Gateway

open Correlation (Ticket Wait Correlator Desk Handover retention)
open Outbound (Pipeline)
open Outbound.Course (Balanced Stepped tally numbered)

/-- What becomes of a correlator in one move. No call is pending after it that was not before, but for the
one that takes the ticket `next`. -/
structure Tended (r r' : Correlator) (next next' : Ticket) : Prop where
  kind : r'.kind = r.kind
  seated : r'.desk.Seated next'
  waits : ∀ w ∈ r'.desk.waits, w ∈ r.desk.waits ∨ w.ticket = next

namespace Tended

variable {r r' : Correlator} {next : Ticket}

theorem same (h : r.desk.Seated next) (hk : r'.kind = r.kind) (hd : r'.desk = r.desk) :
    Tended r r' next next :=
  ⟨hk, hd ▸ h, fun _ hw => .inl (hd ▸ hw)⟩

theorem mono {next' : Ticket} (h : Tended r r' next next) (hn : next ≤ next') :
    Tended r r' next next' :=
  ⟨h.kind, h.seated.mono hn, h.waits⟩

theorem listen (h : r.desk.Seated next) {listener : String} (hl : r.listen listener = .ok r') :
    Tended r r' next next := by
  rw [Correlator.listen_eq_ite] at hl
  split_ifs at hl
  obtain rfl := Except.ok.inj hl
  exact .same h rfl rfl

theorem sweep (h : r.desk.Seated next) (now : Instant) : Tended r (r.sweep now).1 next next :=
  ⟨rfl, h.sweep _ now, fun _ hw => .inl hw⟩

theorem deliver (h : r.desk.Seated next) (site : Site) (n : Notification) (now : Instant) :
    Tended r (r.deliver site n now).1 next next :=
  ⟨(Correlator.kind_deliver r site n now).1, Correlator.seated_deliver h site n now,
    fun _ hw => .inl (Correlator.mem_waits_of_deliver h site n now hw)⟩

theorem await (h : r.desk.Seated next) (id : String) (timeout now : Span) :
    Tended r (r.await next id timeout now).1 next (next + 1) := by
  refine ⟨rfl, h.wait id timeout now, fun w hw => ?_⟩
  have hwaits : w ∈ (r.desk.wait next id timeout now).1.waits := hw
  rw [Desk.waits_wait, List.mem_append] at hwaits
  refine hwaits.imp_right fun hnew => ?_
  split_ifs at hnew
  · exact absurd hnew List.not_mem_nil
  · rw [List.mem_singleton.1 hnew]

theorem timeOut (h : r.desk.Seated next) (w : Wait String) :
    Tended r (r.timeOut w).1 next next := by
  refine ⟨rfl, h.timeOut w, fun w' hw' => .inl ?_⟩
  have hwaits : w' ∈ (r.desk.timeOut w).waits := hw'
  rw [Desk.waits_timeOut] at hwaits
  exact List.mem_of_mem_filter hwaits

theorem cancel (h : r.desk.Seated next) (t : Ticket) : Tended r (r.cancel t) next next :=
  ⟨rfl, h.cancel t, fun _ hw => .inl (List.mem_of_mem_filter hw)⟩

theorem tick (h : r.desk.Seated next) (now : Instant) : Tended r (r.tick now).1 next next := by
  obtain ⟨hdesk, hkind, -⟩ := Correlator.tick_frame r now
  rcases hdesk with hd | hd
  · exact .same h hkind hd
  · exact ⟨hkind, hd ▸ h.sweep _ now, fun w hw => .inl (by rw [hd] at hw; exact hw)⟩

theorem shutdown (r : Correlator) (next : Ticket) : Tended r r.shutdown.1 next next :=
  ⟨rfl, Desk.Seated.empty next, fun _ hw => absurd hw List.not_mem_nil⟩

end Tended

section

variable {r : Correlator} {next : Ticket}

@[simp] theorem stopped_logged (site : Site) (e : Event) :
    (Effect.logged site e).stopped? = none := rfl

@[simp] theorem stopped_answered (t : Ticket) (result : Except Fault Notification) :
    (Effect.answered t result).stopped? = none := rfl

@[simp] theorem stopped_handed (listener : String) (n : Notification) :
    (Effect.handed listener n).stopped? = none := rfl

/-! A correlator ends no shutdown call. -/

theorem unstopped_claims (n : Notification) (ts : List Ticket) :
    (Correlator.claims n ts).filterMap Effect.stopped? = [] := by
  induction ts with
  | nil => rfl
  | cons t ts ih => exact ih

theorem unstopped_notice (r : Correlator) (site : Site) (about : String) :
    (r.notice site about).filterMap Effect.stopped? = [] := by
  unfold Correlator.notice
  split_ifs <;> rfl

theorem unstopped_deliver (h : r.desk.Seated next) (site : Site) (n : Notification) (now : Instant) :
    (r.deliver site n now).2.effects.filterMap Effect.stopped? = [] := by
  by_cases hk : n.kind = r.kind
  · by_cases hp : r.desk.pendingOn n.about = []
    · cases hl : r.listener with
      | some listener =>
        rw [Correlator.deliver_of_listener h site now hk hp hl]
        simp [Handover.effects, unstopped_notice]
      | none =>
        rw [Correlator.deliver_of_nobody h site now hk hp hl]
        simp [Handover.effects, unstopped_notice]
    · rw [Correlator.deliver_of_pending h site now hk hp]
      simpa [Handover.effects, Correlator.handover] using unstopped_claims n _
  · rw [Correlator.deliver_of_wrong_kind site now hk]
    rfl

theorem unstopped_await (r : Correlator) (t : Ticket) (id : String) (timeout now : Span) :
    (r.await t id timeout now).2.filterMap Effect.stopped? = [] := by
  simp only [Correlator.await]
  split
  · exact unstopped_claims _ _
  · rfl

end

def sends (notes : List Note) : List Outbound.Note := notes.filterMap Note.outbound?

@[simp] theorem sends_append (notes more : List Note) :
    sends (notes ++ more) = sends notes ++ sends more := List.filterMap_append

@[simp] theorem sends_map_outbound (notes : List Outbound.Note) :
    sends (notes.map .outbound) = notes := by
  induction notes with
  | nil => rfl
  | cons note rest ih => exact congrArg (note :: ·) ih

@[simp] theorem sends_map_seen (effects : List Effect) : sends (effects.map .seen) = [] := by
  induction effects with
  | nil => rfl
  | cons e rest ih => exact ih

namespace Course

variable {c : Course} {notes : List Note}

def outward (c : Course) : Move → Outbound.Move
  | .enqueue m r => .enqueue m r
  | .work => .work
  | .finish o => .finish o
  | .expire => .expire
  | .attend => .attend
  | .shutdown => if c.gateway.stopped then .pass ⟨0⟩ else .shutdown ⟨0⟩
  | .cancel t => .cancel t
  | _ => .pass ⟨0⟩

theorem pipeline_forsake (c : Course) (t : Ticket) :
    (c.forsake t).gateway.pipeline = c.gateway.pipeline := by
  obtain ⟨e, -, -, -, h⟩ | ⟨-, h⟩ := forsake_cases c t <;> rw [h]
  exact (forsake_frame e.stage c.gateway).1

theorem outward_step (c : Course) (m : Move) :
    (c.step m).1.gateway.pipeline = (c.outbound.step (c.outward m)).1.pipeline ∧
      sends (c.step m).2 = (c.outbound.step (c.outward m)).2 := by
  cases m with
  | notify site draft => exact ⟨pipeline_setCorrelator _ _ _, sends_map_seen _⟩
  | handle direction handler =>
    simp only [step]
    split <;> exact ⟨rfl, rfl⟩
  | listen kind listener =>
    simp only [step]
    split
    · exact ⟨rfl, rfl⟩
    · exact ⟨pipeline_setCorrelator _ _ _, rfl⟩
  | await kind id timeout => exact ⟨pipeline_setCorrelator _ _ _, sends_map_seen _⟩
  | timeOut kind w =>
    simp only [step]
    split_ifs
    · exact ⟨pipeline_setCorrelator _ _ _, sends_map_seen _⟩
    · exact ⟨rfl, rfl⟩
  | sweep kind => exact ⟨pipeline_setCorrelator _ _ _, rfl⟩
  | tick kind => exact ⟨pipeline_setCorrelator _ _ _, sends_map_seen _⟩
  | shutdown =>
    simp only [step, outward, Gateway.shutdown]
    cases hs : c.gateway.stopped <;> exact ⟨rfl, rfl⟩
  | attend =>
    simp only [step]
    split
    · exact ⟨rfl, sends_map_outbound _⟩
    · refine ⟨rfl, ?_⟩
      rw [sends_append]
      exact (List.append_nil _).trans (sends_map_outbound _)
  | released answer =>
    simp only [step]
    split <;> exact ⟨rfl, rfl⟩
  | close kind =>
    simp only [step]
    split
    · split_ifs
      · exact ⟨(close_frame c.gateway kind).1, sends_map_seen _⟩
      · exact ⟨rfl, rfl⟩
    · exact ⟨rfl, rfl⟩
  | reply =>
    simp only [step]
    split <;> exact ⟨rfl, rfl⟩
  | cancel t =>
    simp only [step, outward, Outbound.Course.step]
    have hpending : c.outbound.pipeline.isPending t = c.gateway.pipeline.isPending t := rfl
    rw [hpending]
    by_cases hp : c.gateway.pipeline.isPending t = true
    · have hany : c.isPending t = true := by simp [isPending, Gateway.isPending, hp]
      rw [if_pos hany, if_pos hp, pipeline_forsake]
      exact ⟨if_pos hp, rfl⟩
    · rw [if_neg hp]
      split_ifs
      · rw [pipeline_forsake]
        exact ⟨if_neg hp, rfl⟩
      · exact ⟨rfl, rfl⟩
  | elsewhere => exact ⟨rfl, rfl⟩
  | pass span => exact ⟨rfl, rfl⟩
  | age span => exact ⟨rfl, rfl⟩
  | _ => exact ⟨rfl, sends_map_outbound _⟩

theorem drain_of_outward {m : Move} {drain : Span} (h : c.outward m = .shutdown drain) :
    drain = ⟨0⟩ := by
  cases m with
  | shutdown =>
    simp only [outward] at h
    split_ifs at h
    exact (Outbound.Move.shutdown.inj h).symm
  | _ => simp [outward] at h

/-- No call waits with a drain time, and none has given the order to drop. -/
structure Patient (p : Pipeline) : Prop where
  calls : ∀ call ∈ p.calls, call.phase = .queued ⟨0⟩ ∨ call.phase = .draining ⟨0⟩ none
  order : p.order ≠ .given

theorem Patient.drain_eq {p : Pipeline} (h : Patient p) {t : Ticket} {drain : Span}
    (hc : ⟨t, .queued drain⟩ ∈ p.calls) : drain = ⟨0⟩ := by
  rcases h.calls _ hc with hq | hq
  · exact Outbound.Phase.queued.inj hq
  · cases hq

theorem Patient.deadline_eq {p : Pipeline} (h : Patient p) {t : Ticket} {drain : Span}
    {deadline : Option Span} (hc : ⟨t, .draining drain deadline⟩ ∈ p.calls) : deadline = none := by
  rcases h.calls _ hc with hq | hq
  · cases hq
  · exact (Outbound.Phase.draining.inj hq).2

theorem patient_step {o o' : Outbound.Course} {m : Outbound.Move} {more : List Outbound.Note}
    (h : Patient o.pipeline) (ho : o.pipeline.Orderly) (hm : ∀ drain, m = .shutdown drain → drain = ⟨0⟩)
    (hs : Stepped o m o' more) :
    Patient o'.pipeline ∧ more.filterMap Outbound.Note.dropped? = [] := by
  cases hs with
  | drop hdropping hq => exact absurd (ho.ordered hdropping) h.order
  | finish hsending outcome => cases outcome <;> exact ⟨⟨h.calls, h.order⟩, rfl⟩
  | shutdown drain =>
    refine ⟨⟨fun call hcall => ?_, h.order⟩, rfl⟩
    rcases List.mem_append.1 hcall with hold | hnew
    · exact h.calls call hold
    · rw [List.mem_singleton.1 hnew, hm drain rfl]
      exact .inl rfl
  | @turn t drain rest hcalls hun =>
    have hrest : ∀ call ∈ rest, call.phase = .queued ⟨0⟩ ∨ call.phase = .draining ⟨0⟩ none :=
      fun call hcall => h.calls call (by rw [hcalls]; exact List.mem_cons_of_mem _ hcall)
    have hdrain : drain = ⟨0⟩ := h.drain_eq (t := t) (by simp [hcalls])
    refine ⟨⟨fun call hcall => ?_, h.order⟩, rfl⟩
    rcases List.mem_cons.1 hcall with rfl | hin
    · rw [hdrain]
      exact .inr rfl
    · exact hrest call hin
  | leave hcalls hwhy =>
    exact ⟨⟨fun call hcall => h.calls call (by rw [hcalls]; exact List.mem_cons_of_mem _ hcall),
      h.order⟩, rfl⟩
  | lapse hcalls hlapsed =>
    have hnone := h.deadline_eq (hcalls ▸ List.mem_cons_self)
    exact absurd hnone (by simp)
  | cancel hpending =>
    rw [Pipeline.cancel_eq]
    refine ⟨⟨fun call hcall => h.calls call (List.mem_of_mem_filter hcall), ?_⟩, rfl⟩
    have horder := h.order
    simp only
    split_ifs
    · simp
    · exact horder
  | letGo =>
    rw [Pipeline.letGo_eq]
    refine ⟨⟨nofun, ?_⟩, rfl⟩
    have horder := h.order
    simp only
    split_ifs
    · simp
    · exact horder
  | _ => exact ⟨⟨h.calls, h.order⟩, rfl⟩

/-- What a gateway is always sure of, given all that was noted so far. -/
structure Sound (c : Course) (notes : List Note) : Prop where
  orderly : c.gateway.pipeline.Orderly
  balanced : Balanced c.gateway.pipeline (sends notes)
  counted : c.gateway.pipeline.stats = tally (sends notes)
  patient : Patient c.gateway.pipeline
  undropped : (sends notes).filterMap Outbound.Note.dropped? = []
  seated : ∀ kind, (c.gateway.correlator kind).desk.Seated c.next
  kinds : ∀ kind, (c.gateway.correlator kind).kind = kind

theorem Sound.start (s : Settings) (wire : Nat) (wireId : String) (waiting : Span)
    (storage : Instant) (next : Ticket) : Sound (start s wire wireId waiting storage next) [] where
  orderly := Pipeline.Orderly.start wireId
  balanced := Balanced.start wireId
  counted := rfl
  patient := ⟨nofun, nofun⟩
  undropped := rfl
  seated kind := by cases kind <;> exact Desk.Seated.empty next
  kinds kind := by cases kind <;> rfl

theorem Sound.dropped_eq (h : Sound c notes) : c.gateway.pipeline.stats.dropped = 0 := by
  rw [h.counted, tally, h.undropped]
  rfl

/-- All that one move of a sound gateway can do. -/
inductive Stepped (c : Course) : Move → Course → List Note → Prop
  /-- The move is not possible, or it is one of the clocks, or made elsewhere. -/
  | idle {m} (waiting : Span) (storage : Instant) {next : Ticket} (later : c.next ≤ next) :
    Stepped c m { c with waiting, storage, next } []
  | handle {m} (inbound : Inbound) :
    Stepped c m { c with gateway := { c.gateway with inbound } } []
  /-- A move of messages. -/
  | along {m} (steady : (c.outward m).shuts = false) :
    Stepped c m
      { c with gateway := { c.gateway with pipeline := (c.outbound.step (c.outward m)).1.pipeline } }
      ((c.outbound.step (c.outward m)).2.map .outbound)
  /-- A move of the calls that wait for acknowledgements. -/
  | correlate {m} (kind : Kind) {r : Correlator} {next : Ticket} (later : c.next ≤ next)
    (tended : Tended (c.gateway.correlator kind) r c.next next) {effects : List Effect}
    (unstopped : effects.filterMap Effect.stopped? = []) :
    Stepped c m { c with gateway := c.gateway.setCorrelator kind r, next } (effects.map .seen)
  /-- The first shutdown call. -/
  | begin_ (running : c.gateway.stopped = false) :
    Stepped c .shutdown
      { c with
        gateway := { c.gateway with
          stopped := true, pipeline := c.gateway.pipeline.shutdown c.next ⟨0⟩ },
        next := c.next + 1 }
      []
  /-- A call that finds a shutdown begun. -/
  | find (begun : c.gateway.stopped = true) :
    Stepped c .shutdown { c with next := c.next + 1 }
      [.seen (.stopped c.next (.ok c.gateway.pipeline.stats))]
  | turn {t rest} (calls : c.gateway.pipeline.calls = ⟨t, .queued ⟨0⟩⟩ :: rest)
    (unwatched : c.gateway.pipeline.unwatched = true) :
    Stepped c .attend
      { c with gateway := { c.gateway with pipeline := { c.gateway.pipeline with
          unwatched := false, calls := ⟨t, .draining ⟨0⟩ none⟩ :: rest } } }
      []
  /-- The pipeline has nothing left for the call, which turns to the wire. -/
  | leave {call rest} (calls : c.gateway.pipeline.calls = call :: rest)
    (why : call.phase.waits = true ∧ c.gateway.pipeline.unwatched = false ∨
      call.phase.waits = false ∧ c.gateway.pipeline.worker = .stopped) :
    Stepped c .attend
      { c with
        gateway := { c.gateway with pipeline := { c.gateway.pipeline with calls := rest } },
        ending := some ⟨call.ticket, c.gateway.pipeline.stats, .wire⟩ }
      [.outbound (.ended call.ticket c.gateway.pipeline.stats),
        .releasing c.gateway.wire c.gateway.name]
  | released {call stats} (ending : c.ending = some ⟨call, stats, .wire⟩)
    (answer : Except Fault Unit) :
    Stepped c (.released answer)
      { c with ending := some ⟨call, stats, .correlator .submission answer⟩ } [.released answer]
  | close {call stats kind answer}
    (ending : c.ending = some ⟨call, stats, .correlator kind answer⟩) :
    Stepped c (.close kind)
      { c with
        gateway := (c.gateway.close kind).1, ending := some ⟨call, stats, .past answer kind⟩ }
      ((c.gateway.close kind).2.map .seen)
  | reply {call stats answer} (ending : c.ending = some ⟨call, stats, .closed answer⟩) :
    Stepped c .reply { c with ending := none } ((c.gateway.reply call stats answer).map .seen)
  | cancel {t} (other : ∀ e, c.ending = some e → e.stage.waits = true → e.call ≠ t) :
    Stepped c (.cancel t) { c with gateway := c.gateway.cancel t } [.seen (.cancelled t)]
  /-- A shutdown call that has left the pipeline is given up. -/
  | forsake {e} (ending : c.ending = some e) (waits : e.stage.waits = true) :
    Stepped c (.cancel e.call)
      { c with gateway := e.stage.forsake (c.gateway.cancel e.call), ending := none }
      [.seen (.cancelled e.call)]

theorem stepped_attend (h : Sound c notes) :
    Stepped c .attend (c.step .attend).1 (c.step .attend).2 := by
  have hs := Outbound.Course.stepped (c := c.outbound) h.orderly .attend
  simp only [step, along]
  generalize c.outbound.step .attend = r at hs
  obtain ⟨o, more⟩ := r
  cases hs with
  | stay => exact .idle c.waiting c.storage le_rfl
  | @turn t drain rest hcalls hun =>
    obtain rfl : drain = ⟨0⟩ := h.patient.drain_eq (hcalls ▸ List.mem_cons_self)
    exact .turn hcalls hun
  | leave hcalls hwhy => exact .leave hcalls hwhy

theorem stepped_cancel (c : Course) (t : Ticket) :
    Stepped c (.cancel t) (Course.forsake { c with gateway := c.gateway.cancel t } t)
      [.seen (.cancelled t)] := by
  obtain ⟨e, he, rfl, hwaits, h⟩ | ⟨hother, h⟩ :=
    forsake_cases { c with gateway := c.gateway.cancel t } t <;> rw [h]
  · exact .forsake he hwaits
  · exact .cancel hother

theorem stepped (h : Sound c notes) (m : Move) : Stepped c m (c.step m).1 (c.step m).2 := by
  have hstay : ∀ m, Stepped c m c [] := fun m => .idle c.waiting c.storage le_rfl
  cases m with
  | enqueue m r => exact .along rfl
  | work => exact .along rfl
  | finish o => exact .along rfl
  | expire => exact .along rfl
  | notify site draft =>
    exact .correlate _ le_rfl (.deliver (h.seated _) site _ _)
      (unstopped_deliver (h.seated _) site _ _)
  | handle direction handler =>
    simp only [step]
    split
    · exact hstay _
    next inbound hi => exact .handle inbound
  | listen kind listener =>
    simp only [step]
    split
    · exact hstay _
    next r hl => exact .correlate kind le_rfl (.listen (h.seated kind) hl) List.filterMap_nil
  | await kind id timeout =>
    exact .correlate kind c.next.le_succ (.await (h.seated kind) id timeout c.waiting)
      (unstopped_await _ c.next id timeout c.waiting)
  | timeOut kind w =>
    simp only [step]
    split_ifs
    · exact .correlate kind le_rfl (.timeOut (h.seated kind) w) rfl
    · exact hstay _
  | sweep kind =>
    exact .correlate kind le_rfl (.sweep (h.seated kind) c.storage) List.filterMap_nil
  | tick kind =>
    exact .correlate kind le_rfl (.tick (h.seated kind) c.storage) (Correlator.filterMap_tick (fun _ => rfl) _ c.storage)
  | shutdown =>
    simp only [step, Gateway.shutdown]
    split_ifs with hs
    · exact .find hs
    · exact .begin_ (Bool.eq_false_iff.2 hs)
  | attend => exact stepped_attend h
  | released answer =>
    simp only [step]
    split
    next call stats he => exact .released he answer
    · exact hstay _
  | close kind =>
    simp only [step]
    split
    next call stats kind' answer he =>
      split_ifs with hk
      · subst hk
        exact .close he
      · exact hstay _
    · exact hstay _
  | reply =>
    simp only [step]
    split
    next call stats answer he => exact .reply he
    · exact hstay _
  | cancel t =>
    simp only [step]
    split_ifs with hp
    · exact stepped_cancel c t
    · exact hstay _
  | elsewhere => exact .idle c.waiting c.storage c.next.le_succ
  | pass span => exact .idle _ c.storage le_rfl
  | age span => exact .idle c.waiting _ le_rfl

section

variable {c' : Course} {m : Move} {more : List Note}

theorem later_stepped (hs : Stepped c m c' more) : c.next ≤ c'.next := by
  cases hs with
  | idle waiting storage hlater => exact hlater
  | correlate kind hlater htended hquiet => exact hlater
  | begin_ hrunning => exact c.next.le_succ
  | find hbegun => exact c.next.le_succ
  | _ => exact le_rfl

theorem tended_cancel {kind : Kind} (h : (c.gateway.correlator kind).desk.Seated c.next) (t : Ticket) :
    Tended (c.gateway.correlator kind) ((c.gateway.cancel t).correlator kind) c.next c.next := by
  cases kind <;> exact .cancel h t

theorem tended_stepped (h : ∀ kind, (c.gateway.correlator kind).desk.Seated c.next)
    (hs : Stepped c m c' more) (kind : Kind) :
    Tended (c.gateway.correlator kind) (c'.gateway.correlator kind) c.next c'.next := by
  have hsame : Tended (c.gateway.correlator kind) (c.gateway.correlator kind) c.next c'.next :=
    (Tended.same (h kind) rfl rfl).mono (later_stepped hs)
  cases hs with
  | correlate kind' hlater htended hquiet =>
    rw [correlator_setCorrelator]
    split_ifs with hk
    · rw [hk]
      exact htended
    · exact hsame
  | @close call stats kind' answer hending =>
    rw [Gateway.close, correlator_setCorrelator]
    split_ifs with hk
    · rw [hk]
      exact .shutdown _ c.next
    · exact hsame
  | cancel hother => exact tended_cancel (h kind) _
  | @forsake e hending hwaits =>
    obtain ⟨hdesk, hkind⟩ := desk_forsake e.stage (c.gateway.cancel e.call) kind
    have hcancel := tended_cancel (h kind) e.call
    exact ⟨hkind.trans hcancel.kind, hdesk ▸ hcancel.seated, hdesk ▸ hcancel.waits⟩
  | _ => cases kind <;> exact hsame

theorem bound_stepped (hs : Stepped c m c' more) :
    c'.gateway.wire = c.gateway.wire ∧ c'.gateway.name = c.gateway.name := by
  cases hs with
  | correlate kind hlater htended hquiet => cases kind <;> exact ⟨rfl, rfl⟩
  | close hending => exact (close_frame c.gateway _).2.2
  | @forsake e hending hwaits => exact (forsake_frame e.stage (c.gateway.cancel e.call)).2.2
  | _ => exact ⟨rfl, rfl⟩

end

namespace Sound

theorem step (h : Sound c notes) (m : Move) : Sound (c.step m).1 (notes ++ (c.step m).2) := by
  obtain ⟨hpipeline, hsends⟩ := outward_step c m
  have hs := Outbound.Course.stepped (c := c.outbound) h.orderly (c.outward m)
  obtain ⟨hpatient, hnone⟩ :=
    patient_step (o := c.outbound) h.patient h.orderly (fun drain => drain_of_outward) hs
  have htended := tended_stepped h.seated (stepped h m)
  rw [← hpipeline] at hpatient
  rw [← hsends] at hnone hs
  exact {
    orderly := by
      rw [hpipeline]
      exact Outbound.Course.orderly_step h.orderly (c.outward m)
    balanced := by
      rw [hpipeline, sends_append]
      exact Balanced.step (c := c.outbound) h.balanced hs
    counted := by
      rw [hpipeline, sends_append]
      exact Outbound.Course.stats_step (c := c.outbound) h.counted hs
    patient := hpatient
    undropped := by rw [sends_append, List.filterMap_append, h.undropped, hnone, List.append_nil]
    seated := fun kind => (htended kind).seated
    kinds := fun kind => (htended kind).kind.trans (h.kinds kind) }

theorem run (h : Sound c notes) (moves : List Move) :
    Sound (c.after moves) (notes ++ c.notes moves) :=
  run_of_step moves (fun _ _ h m _ => h.step m) h

end Sound

end Course

end Gateway

end MessageExchange

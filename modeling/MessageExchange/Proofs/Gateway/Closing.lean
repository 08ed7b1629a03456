import MessageExchange.Proofs.Correlation.Runs
import MessageExchange.Proofs.Gateway.Stages
import MessageExchange.Proofs.Outbound.Returns

/-! What the end of the first shutdown call comes to, whatever the wire answers. Everything accepted has
been sent or has failed before the wire is asked to let go. A call that waits for an acknowledgement gets it
if it arrives before its correlator closes, and is turned away as it closes. Until then it may also give up,
though the wire has answered; and a correlator that has closed takes new calls. From the answer of the wire
on, no message is taken and none is sent. -/

namespace MessageExchange.Gateway

open Correlation (Ticket Wait Correlator Desk)
open Outbound (Pipeline)
open Outbound.Course (numbered tally parcel lane)

/-- The call has its acknowledgement, or it gives up. -/
inductive Note.Leaves (w : Wait String) : Note → Prop
  | answered (n : Notification) (about : n.about = w.key) :
    Leaves w (.seen (.answered w.ticket (.ok n)))
  | timedOut : Leaves w (.seen (.answered w.ticket (.error (.noAnswer w.key w.timeout))))
  | cancelled : Leaves w (.seen (.cancelled w.ticket))

namespace Course

variable {c : Course} {m : Move} {notes : List Note} {t : Ticket}

theorem answers_seen (effects : List Effect) :
    (effects.map Note.seen).filterMap Note.answer? = effects.filterMap Effect.answer? := by
  rw [List.filterMap_map]
  rfl

theorem Begun.rest (h : Begun c notes t) (hr : Rested c notes)
    (hcalls : c.gateway.pipeline.calls = []) (moves : List Move) :
    Rested (c.after moves) (notes ++ c.notes moves) ∧
      (c.after moves).gateway.pipeline.stats = c.gateway.pipeline.stats := by
  refine (run_of_step (P := fun d ns => (Begun d ns t ∧ d.gateway.pipeline.calls = []) ∧
    Rested d ns ∧ d.gateway.pipeline.stats = c.gateway.pipeline.stats) moves ?_ ⟨⟨h, hcalls⟩, hr, rfl⟩).2
  rintro d ns ⟨⟨hbegun, hidle⟩, hrested, hstats⟩ m -
  have hidle' := idle_stepped hbegun.sound (fun _ => hbegun.stopped) hidle (stepped hbegun.sound m)
  obtain ⟨hrested', hsame⟩ := hrested.step hbegun.sound hidle m
  exact ⟨⟨hbegun.step m, hidle'⟩, hrested', hsame.trans hstats⟩

theorem refused_of_shut (ha : c.gateway.pipeline.accepting = false) {m : Message} (r : Route)
    (hm : m.payloads ≠ []) :
    (c.step (.enqueue m r)).2 = [.outbound (.refused (.rejected .pipelineClosed))] := by
  obtain ⟨payloads⟩ := m
  cases payloads with
  | nil => exact absurd rfl hm
  | cons p rest =>
    simp [step, along, Outbound.Course.step, outbound, Pipeline.enqueue, Message.head, ha]

theorem answers_notify (h : Sound c notes) (site : Site) (draft : Notification.Draft) :
    let n := draft.appear c.storage
    let step := c.step (.notify site draft)
    step.2.filterMap Note.answer? =
        ((c.gateway.correlator n.kind).desk.pendingOn n.about).map (·, .ok n) ∧
      (step.1.gateway.correlator n.kind).desk.pendingOn n.about = [] := by
  intro n step
  obtain ⟨-, hanswers, hpending⟩ :=
    Correlator.answers_deliver (h.seated n.kind) site c.storage (h.kinds n.kind).symm
  refine ⟨(answers_seen _).trans hanswers, ?_⟩
  have hgateway : step.1.gateway.correlator n.kind =
      ((c.gateway.correlator n.kind).deliver site n c.storage).1 :=
    (correlator_setCorrelator _ _ _ _).trans (if_pos rfl)
  rw [hgateway, hpending, if_pos rfl]

def turnedAway (g : Gateway) (kind : Kind) : List (Ticket × Except Fault Notification) :=
  (g.correlator kind).desk.waits.map fun w => (w.ticket, .error (.rejected (.correlatorClosed kind w.key)))

theorem answers_shutdown (r : Correlator) :
    r.shutdown.2.filterMap Effect.answer? =
      r.desk.waits.map fun w => (w.ticket, .error (.rejected (.correlatorClosed r.kind w.key))) := by
  simp only [Correlator.shutdown, Desk.close]
  induction r.desk.waits with
  | nil => rfl
  | cons w rest ih => exact congrArg (_ :: ·) ih

theorem answers_close (g : Gateway) {kind : Kind} (hk : (g.correlator kind).kind = kind) :
    ((g.close kind).2.map Note.seen).filterMap Note.answer? = turnedAway g kind := by
  rw [answers_seen, turnedAway]
  refine (answers_shutdown (g.correlator kind)).trans ?_
  rw [hk]

section

variable {kind kind' : Kind} {w : Wait String} {f : Correlator → Correlator × List Effect}

/-- Only the move of its own correlator matters to a call. -/
theorem stays_correlate (hw : w ∈ (c.gateway.correlator kind).desk.waits)
    (hf : kind = kind' → w ∈ (f (c.gateway.correlator kind')).1.desk.waits ∨
      ∃ e ∈ (f (c.gateway.correlator kind')).2, (Note.seen e).Leaves w) :
    w ∈ ((c.correlate kind' f).1.gateway.correlator kind).desk.waits ∨
      ∃ note ∈ (c.correlate kind' f).2, note.Leaves w := by
  simp only [correlate, correlator_setCorrelator]
  by_cases hk : kind = kind'
  · rw [if_pos hk]
    refine (hf hk).imp_right ?_
    rintro ⟨e, he, hleaves⟩
    exact ⟨.seen e, List.mem_map_of_mem he, hleaves⟩
  · rw [if_neg hk]
    exact .inl hw

theorem stays_notify (h : Sound c notes) (site : Site) (draft : Notification.Draft)
    (hw : w ∈ (c.gateway.correlator kind).desk.waits) :
    w ∈ ((c.step (.notify site draft)).1.gateway.correlator kind).desk.waits ∨
      ∃ note ∈ (c.step (.notify site draft)).2, note.Leaves w := by
  have hstep : c.step (.notify site draft) =
      ({ c with gateway := (c.gateway.notify site (draft.appear c.storage) c.storage).1 },
        (c.gateway.notify site (draft.appear c.storage) c.storage).2.effects.map .seen) := rfl
  have hanswers := (answers_notify h site draft).1
  generalize hn : draft.appear c.storage = n at hstep hanswers
  by_cases hk : kind = n.kind
  · subst hk
    by_cases hkey : w.key = n.about
    · right
      have hmem : (w.ticket, .ok n) ∈ (c.step (.notify site draft)).2.filterMap Note.answer? := by
        rw [hanswers]
        exact List.mem_map_of_mem (((h.seated n.kind).mem_pendingOn hw n.about).2 hkey)
      obtain ⟨note, hnote, hanswer⟩ := List.mem_filterMap.1 hmem
      refine ⟨note, hnote, ?_⟩
      cases note with
      | seen e =>
        cases e with
        | answered t r =>
          obtain ⟨rfl, rfl⟩ := Prod.mk.inj (Option.some.inj hanswer)
          exact .answered n hkey.symm
        | _ => cases hanswer
      | _ => cases hanswer
    · left
      have hstays := Correlator.mem_waits_deliver (h.seated n.kind) site c.storage hw
        fun _ => Ne.symm hkey
      rw [hstep]
      simpa only [Gateway.notify, correlator_setCorrelator, if_true] using hstays
  · left
    rw [hstep]
    simpa only [Gateway.notify, correlator_setCorrelator, if_neg hk] using hw

theorem stays_cancel (t : Ticket) (hw : w ∈ (c.gateway.correlator kind).desk.waits) :
    w ∈ ((c.step (.cancel t)).1.gateway.correlator kind).desk.waits ∨
      ∃ note ∈ (c.step (.cancel t)).2, note.Leaves w := by
  by_cases hp : c.isPending t = true
  · have hstep : c.step (.cancel t) =
        (Course.forsake { c with gateway := c.gateway.cancel t } t, [.seen (.cancelled t)]) :=
      if_pos hp
    by_cases ht : w.ticket = t
    · subst ht
      exact .inr ⟨.seen (.cancelled w.ticket), by rw [hstep]; exact List.mem_singleton_self _,
        .cancelled⟩
    · left
      have hstays : w ∈ ((c.gateway.cancel t).correlator kind).desk.waits := by
        have hmem : w ∈ (c.gateway.correlator kind).desk.waits.filter
            fun w => !([t].contains w.ticket) := List.mem_filter.2 ⟨hw, by simpa using ht⟩
        cases kind <;> exact hmem
      rw [hstep]
      obtain ⟨e, -, -, -, hf⟩ | ⟨-, hf⟩ :=
        forsake_cases { c with gateway := c.gateway.cancel t } t <;> rw [hf]
      · exact (desk_forsake e.stage (c.gateway.cancel t) kind).1 ▸ hstays
      · exact hstays
  · rw [show c.step (.cancel t) = (c, []) from if_neg hp]
    exact .inl hw

/-- A call waits on unless its own correlator closes, which moves the shutdown call on. -/
theorem stays_close (hw : w ∈ (c.gateway.correlator kind).desk.waits)
    (hopen : kind' = kind → (c.step (.close kind')).1.ending = c.ending) :
    w ∈ ((c.step (.close kind')).1.gateway.correlator kind).desk.waits := by
  cases he : c.ending with
  | none =>
    simp only [step, he]
    exact hw
  | some e =>
    obtain ⟨call, stats, stage⟩ := e
    cases stage with
    | correlator kind₁ answer =>
      by_cases hk : kind₁ = kind'
      · subst hk
        have hne : kind ≠ kind₁ := by
          rintro rfl
          have hpast := hopen rfl
          rw [close_eq he, he] at hpast
          have hstage := congrArg Ending.stage (Option.some.inj hpast)
          cases kind <;> cases hstage
        rw [close_eq he]
        simp only [desk_close, if_neg hne]
        exact hw
      · simp only [step, he, if_neg hk]
        exact hw
    | _ =>
      simp only [step, he]
      exact hw

theorem stays_or_leaves (h : Sound c notes) (hw : w ∈ (c.gateway.correlator kind).desk.waits)
    (hopen : m = .close kind → (c.step m).1.ending = c.ending) :
    w ∈ ((c.step m).1.gateway.correlator kind).desk.waits ∨ ∃ note ∈ (c.step m).2, note.Leaves w := by
  have hsame : ∀ (g : Gateway) (ns : List Note), g.submission = c.gateway.submission →
      g.relay = c.gateway.relay →
      w ∈ (g.correlator kind).desk.waits ∨ ∃ note ∈ ns, note.Leaves w := by
    intro g ns hsubmission hrelay
    left
    cases kind
    · simp only [correlator, hsubmission]
      exact hw
    · simp only [correlator, hrelay]
      exact hw
  cases m with
  | notify site draft => exact stays_notify h site draft hw
  | handle direction handler =>
    simp only [step]
    split <;> exact hsame _ _ rfl rfl
  | listen kind' listener =>
    simp only [step]
    split
    · exact .inl hw
    next r hl =>
      have hdesk : r.desk = (c.gateway.correlator kind').desk := by
        rw [Correlator.listen_eq_ite] at hl
        split_ifs at hl
        rw [← Except.ok.inj hl]
      refine stays_correlate (f := fun _ => (r, [])) hw fun hk => .inl ?_
      rw [hdesk, ← hk]
      exact hw
  | await kind' id timeout =>
    refine stays_correlate (f := (·.await c.next id timeout c.waiting)) hw fun hk => .inl ?_
    subst hk
    have hwaits := Desk.waits_wait (c.gateway.correlator kind).desk c.next id timeout c.waiting
    simp only [Correlator.await, hwaits]
    exact List.mem_append_left _ hw
  | timeOut kind' w' =>
    simp only [step]
    split_ifs with hdue
    · refine stays_correlate hw fun hk => ?_
      subst hk
      by_cases ht : w.ticket = w'.ticket
      · have hw' := (Desk.mem_due.1 hdue).1
        obtain rfl := (h.seated kind).eq_of_ticket hw hw' ht
        exact .inr ⟨_, List.mem_cons_of_mem _ (List.mem_singleton_self _), .timedOut⟩
      · left
        simp only [Correlator.timeOut, Desk.waits_timeOut]
        exact List.mem_filter.2 ⟨hw, by simpa using ht⟩
    · exact .inl hw
  | sweep kind' => exact stays_correlate hw fun hk => .inl (hk ▸ hw)
  | tick kind' =>
    refine stays_correlate hw fun hk => .inl ?_
    subst hk
    rcases (Correlator.tick_frame (c.gateway.correlator kind) c.storage).1 with hd | hd <;> rw [hd] <;>
      exact hw
  | shutdown =>
    simp only [step, Gateway.shutdown]
    cases c.gateway.stopped <;> exact hsame _ _ rfl rfl
  | attend =>
    simp only [step]
    split <;> exact hsame _ _ rfl rfl
  | released answer =>
    simp only [step]
    split <;> exact .inl hw
  | close kind' => exact .inl (stays_close hw fun hk => hopen (hk ▸ rfl))
  | reply =>
    simp only [step]
    split <;> exact .inl hw
  | cancel t => exact stays_cancel t hw
  | _ => exact hsame _ _ rfl rfl

def WaitsOrLeaves (c : Course) (kind : Kind) (w : Wait String) (moves : List Move) : Prop :=
  w ∈ ((c.after moves).gateway.correlator kind).desk.waits ∨ ∃ note ∈ c.notes moves, note.Leaves w

theorem WaitsOrLeaves.append {us vs : List Move} (hus : c.WaitsOrLeaves kind w us)
    (hvs : w ∈ ((c.after us).gateway.correlator kind).desk.waits →
      (c.after us).WaitsOrLeaves kind w vs) : c.WaitsOrLeaves kind w (us ++ vs) := by
  rw [WaitsOrLeaves, after_append, notes_append]
  simp only [List.mem_append]
  rcases hus with hstays | ⟨note, hnote, hleaves⟩
  · refine (hvs hstays).imp_right ?_
    rintro ⟨note, hnote, hleaves⟩
    exact ⟨note, .inr hnote, hleaves⟩
  · exact .inr ⟨note, .inl hnote, hleaves⟩

theorem waitsOrLeaves_cons {rest : List Move} (h : Sound c notes)
    (hw : w ∈ (c.gateway.correlator kind).desk.waits)
    (hopen : m = .close kind → (c.step m).1.ending = c.ending)
    (hrest : w ∈ ((c.step m).1.gateway.correlator kind).desk.waits →
      (c.step m).1.WaitsOrLeaves kind w rest) : c.WaitsOrLeaves kind w (m :: rest) := by
  have hfirst : c.WaitsOrLeaves kind w [m] := by
    rw [WaitsOrLeaves, Course.notes, Course.notes, List.append_nil]
    exact stays_or_leaves h hw hopen
  exact hfirst.append hrest

theorem Stays.waitsOrLeaves {e : Ending} {moves : List Move} (h : Sound c notes)
    (hs : c.Stays e moves) (hw : w ∈ (c.gateway.correlator kind).desk.waits) :
    c.WaitsOrLeaves kind w moves := by
  induction moves generalizing c notes with
  | nil => exact .inl hw
  | cons m rest ih =>
    exact waitsOrLeaves_cons h hw (fun _ => hs.2.first.trans hs.1.symm)
      fun hstays => ih (h.step m) hs.2 hstays

end

section

variable {p : Passage}

theorem Through.answered_eq (h : c.Through t p) :
    c.answered p = { c.after p.drain with
      ending := some ⟨t, (c.after p.drain).gateway.pipeline.stats, .correlator .submission p.answer⟩ } :=
  congrArg Prod.fst (released_eq h.asked p.answer)

/-- As its correlator closes, a call has waited since the wire answered, or it has left. -/
theorem Through.waitsOrLeaves (h : c.Through t p) (hsound : Sound c notes) {kind : Kind} {w : Wait String}
    (hw : w ∈ ((c.after p.drain).gateway.correlator kind).desk.waits) :
    (c.answered p).WaitsOrLeaves kind w (p.untilClose kind) := by
  have hanswered := (hsound.run p.drain).step (.released p.answer)
  have hw' : w ∈ ((c.answered p).gateway.correlator kind).desk.waits := by
    rw [h.answered_eq]
    exact hw
  cases kind with
  | submission => exact h.first.waitsOrLeaves hanswered hw'
  | relay =>
    refine (h.first.waitsOrLeaves hanswered hw').append fun hstays => ?_
    have hfirst := hanswered.run p.first
    refine waitsOrLeaves_cons hfirst hstays nofun fun hstays' => ?_
    exact h.second.waitsOrLeaves (hfirst.step _) hstays'

theorem Through.at_correlator (h : c.Through t p) (kind : Kind) :
    ((c.answered p).after (p.untilClose kind)).ending =
      some ⟨t, (c.after p.drain).gateway.pipeline.stats, .correlator kind p.answer⟩ := by
  cases kind with
  | submission => exact h.first.last
  | relay =>
    rw [Passage.untilClose, after_append]
    exact h.second.last

theorem Through.at_end (h : c.Through t p) :
    ((c.answered p).after (p.untilClose .relay ++ .close .relay :: p.last)).ending =
      some ⟨t, (c.after p.drain).gateway.pipeline.stats, .closed p.answer⟩ := by
  rw [after_append]
  exact h.last.last

end

theorem bound_after (h : Sound c notes) (moves : List Move) :
    (c.after moves).gateway.wire = c.gateway.wire ∧ (c.after moves).gateway.name = c.gateway.name := by
  induction moves generalizing c notes with
  | nil => exact ⟨rfl, rfl⟩
  | cons m rest ih =>
    obtain ⟨hwire, hname⟩ := bound_stepped (stepped h m)
    obtain ⟨hwires, hnames⟩ := ih (h.step m)
    exact ⟨hwires.trans hwire, hnames.trans hname⟩

/-- The gateway has shut down, and this is how it stays. -/
structure ShutDown (wire : Nat) (gateway : String) (result : Except Fault Unit) (c : Course)
    (notes : List Note) : Prop where
  /-- Everything accepted was sent or failed. -/
  sent : ((sends notes).filterMap Outbound.Note.finished?).map Prod.fst =
    numbered ((sends notes).filterMap Outbound.Note.accepted?)
  undropped : (sends notes).filterMap Outbound.Note.dropped? = []
  /-- The wire was asked to let go after that, and answered, once each. -/
  asked : AskedOnce wire gateway notes
  released : notes.filterMap Note.released? = [result]
  counted : c.gateway.pipeline.stats.enqueued =
    c.gateway.pipeline.stats.sent + c.gateway.pipeline.stats.failed
  shut : ∀ (m : Message) r, m.payloads ≠ [] →
    (c.step (.enqueue m r)).2 = [.outbound (.refused (.rejected .pipelineClosed))]

theorem Begun.shutDown {result : Except Fault Unit} (h : Begun c notes t) (hr : Rested c notes)
    (hn : notes.filterMap Note.released? = [result]) :
    ShutDown c.gateway.wire c.gateway.name result c notes := by
  obtain ⟨-, hsent⟩ := h.sound.sent_all hr.worker
  refine ⟨hsent, h.sound.undropped, hr.asked, hn, ?_, fun m r hm => refused_of_shut h.shut r hm⟩
  have hlength := congrArg List.length hsent
  rw [List.length_map, numbered, List.length_mapIdx] at hlength
  rw [h.sound.counted, Outbound.Course.tally_finished, hlength]
  rfl

theorem Begun.released_once (h : Begun c notes t) : (notes.filterMap Note.released?).length ≤ 1 := by
  cases h.stage with
  | draining hcalls hturn hunready hunasked hunreleased => simp [hunreleased]
  | releasing hcalls hready hrested hunreleased => simp [hunreleased]
  | closing hcalls hready hrested hanswered hreleased => simp [hreleased]
  | concluded hconcluded => exact hconcluded.released.le
  | forsaken hcalls hunready hunreleased => simp [hunreleased]
  | abandoned hcalls hunready hrested hreleased => exact hreleased.le

theorem Begun.shuts_down (h : Begun c notes t) {p : Passage} (hp : c.Through t p) (ws : List Move) :
    let last := c.after (p.moves ++ ws)
    last.gateway.pipeline.stats = (c.after p.drain).gateway.pipeline.stats ∧
      ShutDown last.gateway.wire last.gateway.name p.answer last (notes ++ c.notes (p.moves ++ ws)) := by
  intro last
  obtain ⟨more, hmoves⟩ : ∃ more, p.moves ++ ws = p.drain ++ .released p.answer :: more :=
    ⟨_, by rw [Passage.moves, List.append_assoc, List.cons_append]⟩
  have hasked := h.run p.drain
  obtain ⟨hcalls, -, hrested, hunreleased⟩ := hasked.ready hp.asked
  obtain ⟨hrest, hstats⟩ := hasked.rest hrested hcalls (.released p.answer :: more)
  have hend := hasked.run (.released p.answer :: more)
  rw [List.append_assoc, ← notes_append, ← after_append, ← hmoves] at hrest hend
  rw [← after_append, ← hmoves] at hstats
  have hanswer := congrArg Prod.snd (released_eq hp.asked p.answer)
  have hreleased : (notes ++ c.notes (p.moves ++ ws)).filterMap Note.released? =
      p.answer :: ((c.answered p).notes more).filterMap Note.released? := by
    rw [hmoves, notes_append, ← List.append_assoc, List.filterMap_append, hunreleased, Course.notes,
      List.filterMap_append, hanswer]
    rfl
  have honce := hend.released_once
  rw [hreleased, List.length_cons, Nat.succ_le_succ_iff, Nat.le_zero, List.length_eq_zero_iff] at honce
  rw [honce] at hreleased
  exact ⟨hstats, hend.shutDown hrest hreleased⟩

/-- The first shutdown call, when it runs to its end, in a run with the moves `us` before it and `vs` after
it. Notifications that arrive meanwhile end the calls that wait for them. Every message accepted has been
sent or has failed as the wire is asked to let go. The calls that wait then may still have their answers, or
give up, until their correlator closes; those left are turned away, and nothing is kept for anyone. The call
ends with the fault of the wire or with the counters, and these stay as they are. -/
theorem first_shutdown_closes (s : Settings) (wire : Nat) (wireId : String) (waiting : Span)
    (storage : Instant) (next : Ticket) {us vs : List Move} (hus : .shutdown ∉ us)
    (hreturns : (((start s wire wireId waiting storage next).after us).step .shutdown).1.Returns
      ((start s wire wireId waiting storage next).after us).next vs) :
    let c := start s wire wireId waiting storage next
    let call := (c.after us).next
    let begun := ((c.after us).step .shutdown).1
    ∃ p ws, vs = Passage.moves p ++ ws ∧
      let asked := begun.after p.drain
      let answered := (asked.step (.released p.answer)).1
      let ready := answered.after (p.untilClose .relay ++ .close .relay :: p.last)
      let stats := asked.gateway.pipeline.stats
      (∀ as site draft bs, vs = as ++ .notify site draft :: bs →
        let d := begun.after as
        let n := draft.appear d.storage
        (d.step (.notify site draft)).2.filterMap Note.answer? =
          ((d.gateway.correlator n.kind).desk.pendingOn n.about).map (·, .ok n)) ∧
      (∀ kind,
        let closing := answered.after (p.untilClose kind)
        (∀ w ∈ (asked.gateway.correlator kind).desk.waits,
          answered.WaitsOrLeaves kind w (p.untilClose kind)) ∧
        (closing.step (.close kind)).2.filterMap Note.answer? = turnedAway closing.gateway kind ∧
        ((closing.step (.close kind)).1.gateway.correlator kind).desk = Desk.empty) ∧
      (ready.step .reply).2.filterMap Note.stopped? = [(call, p.answer.map fun _ => stats)] ∧
      stats.dropped = 0 ∧
      ∀ ws',
        let later := us ++ .shutdown :: (p.moves ++ ws')
        (c.after later).gateway.pipeline.stats = stats ∧
          ShutDown wire s.name p.answer (c.after later) (c.notes later) := by
  intro c call begun
  have hrunning := (Running.start s wire wireId waiting storage next).run hus
  have hbegun := hrunning.begin_
  have hunready : begun.ending = none := by
    have hstep := congrArg (·.1.ending) (begin_eq hrunning.running)
    exact hstep.trans hrunning.unready
  obtain ⟨p, ws, hvs, hthrough⟩ := hbegun.through hunready hreturns
  refine ⟨p, ws, hvs, ?_⟩
  intro asked answered ready stats
  have hasked := hbegun.run p.drain
  have hanswered := hasked.step (.released p.answer)
  refine ⟨?_, fun kind => ⟨fun w hw => ?_, ?_, ?_⟩, ?_, hasked.sound.dropped_eq, fun ws' => ?_⟩
  · intro as site draft bs _ d n
    exact (answers_notify (hbegun.run as).sound site draft).1
  · exact hthrough.waitsOrLeaves hbegun.sound hw
  · have hclose := close_eq (hthrough.at_correlator kind)
    have hkinds := (hanswered.run (p.untilClose kind)).sound.kinds kind
    exact (congrArg (·.2.filterMap Note.answer?) hclose).trans (answers_close _ hkinds)
  · have hclose := close_eq (hthrough.at_correlator kind)
    have hdesk := congrArg (fun r => (r.1.gateway.correlator kind).desk) hclose
    exact hdesk.trans ((desk_close _ kind kind).trans (if_pos rfl))
  · exact congrArg (·.2.filterMap Note.stopped?) (reply_eq hthrough.at_end)
  · intro later
    obtain ⟨hstats, hshut⟩ := hbegun.shuts_down hthrough ws'
    have hbound := bound_after (Sound.start s wire wireId waiting storage next) later
    have hwire : (c.after later).gateway.wire = wire := hbound.1
    have hname : (c.after later).gateway.name = s.name := hbound.2
    have hafter : c.after later = begun.after (p.moves ++ ws') := after_append c us _
    have hnotes : c.notes later = c.notes us ++ ((c.after us).step .shutdown).2 ++
        begun.notes (p.moves ++ ws') := by
      rw [notes_append, List.append_assoc]
      rfl
    rw [← hwire, ← hname, hnotes, hafter]
    exact ⟨hstats, hshut⟩

def office : Settings := ⟨"office", ⟨none, "wire"⟩, 300, 300, none, none⟩

def receipt : Notification.Draft := ⟨.submission, "receipt", "A", .receipt, "", .at_ ⟨0⟩⟩

/-- Two calls wait for acknowledgements of the parcel, which is on its way. -/
def before : List Move :=
  [.await .submission "A" ⟨0⟩, .await .relay "A" ⟨0⟩, .enqueue parcel lane, .work]

/-- While the pipeline drains, one of the acknowledgements arrives. -/
def meanwhile : List Move :=
  [.attend, .notify .worker receipt, .finish .accepted, .work, .attend]

def outage : Fault := .configuration (.other "down")

/-- The wire fails as it lets go. The call whose acknowledgement came has its answer, the other one is
turned away. -/
theorem first_shutdown_closes_failing_wire :
    let c := start office 0 "wire" ⟨0⟩ ⟨0⟩ 0
    let vs := meanwhile ++ [.released (.error outage), .close .submission, .close .relay, .reply]
    let run := before ++ .shutdown :: vs
    .shutdown ∉ before ∧ ((c.after before).step .shutdown).1.Returns 2 vs ∧
      (c.notes run).filterMap Note.answer? =
        [(0, .ok (receipt.appear ⟨0⟩)), (1, .error (.rejected (.correlatorClosed .relay "A")))] ∧
      (c.notes run).filterMap Note.stopped? = [(2, .error outage)] ∧
      ∀ ws, (c.after (run ++ ws)).gateway.pipeline.stats = ⟨1, 1, 0, 0⟩ ∧
        ShutDown 0 "office" (.error outage) (c.after (run ++ ws)) (c.notes (run ++ ws)) := by
  intro c vs run
  have hus : .shutdown ∉ before := by simp [before]
  have hcall : (c.after before).next = 2 := by decide +kernel
  have hreturns : ((c.after before).step .shutdown).1.Returns 2 vs := ⟨.error outage, by decide +kernel⟩
  obtain ⟨answer, stats, hlater⟩ : ∃ answer stats, ∀ ws,
      (c.after (run ++ ws)).gateway.pipeline.stats = stats ∧
        ShutDown 0 "office" answer (c.after (run ++ ws)) (c.notes (run ++ ws)) := by
    obtain ⟨p, ws, hvs, -, -, -, -, hlater⟩ :=
      first_shutdown_closes office 0 "wire" ⟨0⟩ ⟨0⟩ 0 hus (hcall.symm ▸ hreturns)
    let asked := ((c.after before).step .shutdown).1.after p.drain
    refine ⟨p.answer, asked.gateway.pipeline.stats, fun ws' => ?_⟩
    have hrun : run ++ ws' = before ++ .shutdown :: (p.moves ++ (ws ++ ws')) := by
      rw [← List.append_assoc p.moves, ← hvs, ← List.cons_append, ← List.append_assoc]
    rw [hrun]
    exact hlater (ws ++ ws')
  have hstats : (c.after run).gateway.pipeline.stats = ⟨1, 1, 0, 0⟩ := by decide +kernel
  have hreleased : (c.notes run).filterMap Note.released? = [.error outage] := by decide +kernel
  have hdone := hlater []
  rw [List.append_nil] at hdone
  obtain rfl : answer = .error outage :=
    (List.cons.inj (hdone.2.released.symm.trans hreleased)).1
  obtain rfl : stats = ⟨1, 1, 0, 0⟩ := hdone.1.symm.trans hstats
  exact ⟨hus, hreturns, by decide +kernel, by decide +kernel, hlater⟩

/-- What may come in between. A call that waits as the wire answers has its acknowledgement before its
correlator closes. Another one comes in after that: the shutdown call returns, and it still waits. -/
theorem first_shutdown_leaves_open :
    let c := (start office 0 "wire" ⟨0⟩ ⟨0⟩ 0).after
      [.await .submission "A" ⟨0⟩, .shutdown, .attend, .work, .attend, .released (.ok ())]
    let later := [.notify .caller receipt, .close .submission, .await .submission "B" ⟨0⟩, .close .relay,
      .reply]
    c.gateway.submission.desk.isPending 0 ∧
      (c.notes later).filterMap Note.answer? = [(0, .ok (receipt.appear ⟨0⟩))] ∧
      (c.notes later).filterMap Note.stopped? = [(1, .ok ⟨0, 0, 0, 0⟩)] ∧
      (c.after later).gateway.submission.desk.isPending 2 ∧
      (c.after later).gateway.submission.desk.size = 1 := by
  decide +kernel

end Course

end MessageExchange.Gateway

import MessageExchange.Proofs.Gateway.Shutdown

/-! A shutdown call that returns has gone through every stage, one after the other. So the moves that it
returns along fall into those that took it on and whatever came in between. -/

namespace MessageExchange.Gateway

open Correlation (Ticket)

inductive Stage.Passes : Stage → Move → Prop
  | released (answer : Except Fault Unit) : Passes .wire (.released answer)
  | close (kind : Kind) (answer : Except Fault Unit) : Passes (.correlator kind answer) (.close kind)
  | reply (answer : Except Fault Unit) : Passes (.closed answer) .reply

/-- Moves that a shutdown call returns along: those that bring it on, and what comes in between. -/
structure Passage where
  /-- Until the wire answers. -/
  drain : List Move
  answer : Except Fault Unit
  /-- Until the correlator for submissions closes. -/
  first : List Move
  /-- Until the correlator for relays closes. -/
  second : List Move
  last : List Move

namespace Passage

def untilClose (p : Passage) : Kind → List Move
  | .submission => p.first
  | .relay => p.first ++ .close .submission :: p.second

def moves (p : Passage) : List Move :=
  p.drain ++ .released p.answer :: (p.untilClose .relay ++ .close .relay :: (p.last ++ [.reply]))

end Passage

namespace Course

variable {c c' : Course} {m : Move} {moves rest : List Move} {notes more : List Note} {t : Ticket}
  {e : Ending}

def Returns (c : Course) (t : Ticket) (moves : List Move) : Prop :=
  ∃ r, (t, r) ∈ (c.notes moves).filterMap Note.stopped?

theorem not_returns_nil : ¬ c.Returns t [] := by
  rintro ⟨r, hr⟩
  exact absurd hr List.not_mem_nil

theorem returns_cons :
    c.Returns t (m :: rest) ↔
      (∃ r, (t, r) ∈ (c.step m).2.filterMap Note.stopped?) ∨ (c.step m).1.Returns t rest := by
  simp only [Returns, Course.notes, List.filterMap_append, List.mem_append, exists_or]

def Stays (c : Course) (e : Ending) : List Move → Prop
  | [] => c.ending = some e
  | m :: rest => c.ending = some e ∧ (c.step m).1.Stays e rest

theorem Stays.first (h : c.Stays e moves) : c.ending = some e := by
  cases moves with
  | nil => exact h
  | cons m rest => exact h.1

theorem Stays.last (h : c.Stays e moves) : (c.after moves).ending = some e := by
  induction moves generalizing c with
  | nil => exact h
  | cons m rest ih => exact ih h.2

def answered (c : Course) (p : Passage) : Course := ((c.after p.drain).step (.released p.answer)).1

/-- The call goes through the stages along the passage, one after the other. -/
structure Through (c : Course) (t : Ticket) (p : Passage) : Prop where
  asked : (c.after p.drain).ending = some ⟨t, (c.after p.drain).gateway.pipeline.stats, .wire⟩
  first : (c.answered p).Stays
    ⟨t, (c.after p.drain).gateway.pipeline.stats, .correlator .submission p.answer⟩ p.first
  second : (((c.answered p).after p.first).step (.close .submission)).1.Stays
    ⟨t, (c.after p.drain).gateway.pipeline.stats, .correlator .relay p.answer⟩ p.second
  last : (((c.answered p).after (p.untilClose .relay)).step (.close .relay)).1.Stays
    ⟨t, (c.after p.drain).gateway.pipeline.stats, .closed p.answer⟩ p.last

theorem released_eq {stats : Stats} (he : c.ending = some ⟨t, stats, .wire⟩)
    (answer : Except Fault Unit) :
    c.step (.released answer) =
      ({ c with ending := some ⟨t, stats, .correlator .submission answer⟩ }, [.released answer]) := by
  simp [step, he]

theorem close_eq {stats : Stats} {kind : Kind} {answer : Except Fault Unit}
    (he : c.ending = some ⟨t, stats, .correlator kind answer⟩) :
    c.step (.close kind) =
      ({ c with
          gateway := (c.gateway.close kind).1, ending := some ⟨t, stats, .past answer kind⟩ },
        (c.gateway.close kind).2.map .seen) := by
  simp [step, he]

theorem reply_eq {stats : Stats} {answer : Except Fault Unit}
    (he : c.ending = some ⟨t, stats, .closed answer⟩) :
    c.step .reply = ({ c with ending := none }, (c.gateway.reply t stats answer).map .seen) := by
  simp [step, he]

/-- A call that has left the pipeline is the first shutdown call. -/
theorem Begun.ready (h : Begun c notes t) (he : c.ending = some e) :
    c.gateway.pipeline.calls = [] ∧ e = ⟨t, c.gateway.pipeline.stats, e.stage⟩ ∧ Rested c notes ∧
      notes.filterMap Note.released? = e.stage.answer?.toList := by
  cases h.stage with
  | draining hcalls hturn hunready => simp [hunready] at he
  | releasing hcalls hready hrested hunreleased =>
    obtain rfl := Option.some.inj (he.symm.trans hready)
    exact ⟨hcalls, rfl, hrested, hunreleased⟩
  | closing hcalls hready hrested hanswered hreleased =>
    obtain rfl := Option.some.inj (he.symm.trans hready)
    exact ⟨hcalls, rfl, hrested, by rw [hreleased, hanswered]; rfl⟩
  | concluded hconcluded => simp [hconcluded.unready] at he
  | forsaken hcalls hunready => simp [hunready] at he
  | abandoned hcalls hunready => simp [hunready] at he

/-- While no call has left the pipeline, only one that comes in now can return. -/
theorem unstopped_stepped (hr : c.ending = none) (ht : t < c.next) (hs : Stepped c m c' more)
    (r : Except Fault Stats) : (t, r) ∉ more.filterMap Note.stopped? := by
  cases hs with
  | along hsteady =>
    rw [unstopped_outbound]
    exact List.not_mem_nil
  | correlate kind hlater htended hquiet =>
    rw [stops_seen, hquiet]
    exact List.not_mem_nil
  | find hbegun =>
    intro hfound
    exact ht.ne (Prod.mk.inj (List.mem_singleton.1 hfound)).1
  | close hending => exact absurd (hr.symm.trans hending) (by simp)
  | reply hending => exact absurd (hr.symm.trans hending) (by simp)
  | _ => exact List.not_mem_nil

theorem Begun.silent (h : Begun c notes t) (hcalls : c.gateway.pipeline.calls = [])
    (hr : c.ending = none) (moves : List Move) : ¬ c.Returns t moves := by
  induction moves generalizing c notes with
  | nil => exact not_returns_nil
  | cons m rest ih =>
    have hs := stepped h.sound m
    rw [returns_cons, not_or]
    refine ⟨fun ⟨r, hstop⟩ => unstopped_stepped hr h.early hs r hstop, ?_⟩
    exact ih (h.step m) (idle_stepped h.sound (fun _ => h.stopped) hcalls hs)
      (unready_stepped hr hcalls hs)

/-- A call that returns has passed the stage it is at. -/
theorem Begun.passes (h : Begun c notes t) (he : c.ending = some e) (hreturns : c.Returns t moves) :
    ∃ us m vs, moves = us ++ m :: vs ∧ c.Stays e us ∧ e.stage.Passes m ∧
      (m ≠ .reply → ((c.after us).step m).1.Returns t vs) := by
  induction moves generalizing c notes with
  | nil => exact absurd hreturns not_returns_nil
  | cons m rest ih =>
    obtain ⟨hcalls, heq, -, -⟩ := h.ready he
    have ht : e.call = t := by rw [heq]
    have honward := onward_stepped he hcalls h.stopped (ht ▸ h.early) (stepped h.sound m)
    have hnext := h.step m
    rw [returns_cons] at hreturns
    generalize hstep : c.step m = r at honward hnext hreturns ih
    obtain ⟨c', more⟩ := r
    have hthis : (c.after []).step m = (c', more) := hstep
    cases honward with
    | wait hstill hunreleased hunstopped =>
      rw [ht] at hunstopped
      obtain ⟨us, m', vs, rfl, hstays, hpasses, hlater⟩ :=
        ih hnext hstill (hreturns.resolve_left fun ⟨r, hr⟩ => hunstopped r hr)
      refine ⟨m :: us, m', vs, rfl, ⟨he, by rw [hstep]; exact hstays⟩, hpasses, ?_⟩
      rw [show c.after (m :: us) = c'.after us from congrArg (·.1.after us) hstep]
      exact hlater
    | released hstage answer =>
      refine ⟨[], _, rest, rfl, he, hstage ▸ .released answer, fun _ => ?_⟩
      rw [hthis]
      exact hreturns.resolve_left fun ⟨r, hr⟩ => absurd hr List.not_mem_nil
    | @close kind answer hstage =>
      refine ⟨[], _, rest, rfl, he, hstage ▸ .close kind answer, fun _ => ?_⟩
      rw [hthis]
      refine hreturns.resolve_left fun ⟨r, hr⟩ => absurd hr ?_
      rw [stops_seen, unstopped_close]
      exact List.not_mem_nil
    | @reply answer hstage => exact ⟨[], _, rest, rfl, he, hstage ▸ .reply answer, fun h => absurd rfl h⟩
    | forsake hwaits =>
      have hcalls' : (e.stage.forsake (c.gateway.cancel e.call)).pipeline.calls = [] := by
        rw [pipeline_forsaken, (pipeline_cancel c.gateway e.call).1, hcalls, List.filter_nil]
      exact absurd (hreturns.resolve_left fun ⟨r, hr⟩ => absurd hr List.not_mem_nil)
        (hnext.silent hcalls' rfl rest)

theorem Begun.leaves (h : Begun c notes t) (hr : c.ending = none) (hreturns : c.Returns t moves) :
    ∃ us vs, moves = us ++ vs ∧
      (c.after us).ending = some ⟨t, (c.after us).gateway.pipeline.stats, .wire⟩ ∧
      (c.after us).Returns t vs := by
  induction moves generalizing c notes with
  | nil => exact absurd hreturns not_returns_nil
  | cons m rest ih =>
    have hs := stepped h.sound m
    have hlater := (returns_cons.1 hreturns).resolve_left fun ⟨r, hstop⟩ =>
      unstopped_stepped hr h.early hs r hstop
    cases he : (c.step m).1.ending with
    | none =>
      obtain ⟨us, vs, rfl, hready, hreturn⟩ := ih (h.step m) he hlater
      exact ⟨m :: us, vs, rfl, hready, hreturn⟩
    | some e =>
      have hstage : e.stage = .wire := by
        generalize c.step m = r at hs he
        obtain ⟨c', more⟩ := r
        cases hs with
        | leave hc hwhy =>
          obtain rfl := Option.some.inj he
          rfl
        | released hending answer => exact absurd (hr.symm.trans hending) (by simp)
        | close hending => exact absurd (hr.symm.trans hending) (by simp)
        | reply hending => exact absurd he nofun
        | forsake hending hwaits => exact absurd he nofun
        | _ => exact absurd (hr.symm.trans he) (by simp)
      obtain ⟨-, heq, -, -⟩ := (h.step m).ready he
      refine ⟨[m], rest, rfl, he.trans ?_, hlater⟩
      rw [heq, hstage]
      rfl

theorem Begun.through (h : Begun c notes t) (hr : c.ending = none) (hreturns : c.Returns t moves) :
    ∃ p ws, moves = Passage.moves p ++ ws ∧ c.Through t p := by
  obtain ⟨us, vs, rfl, hwire, hvs⟩ := h.leaves hr hreturns
  obtain ⟨us', m, vs', rfl, hstays, hpasses, hvs'⟩ := (h.run us).passes hwire hvs
  have hasked := hstays.last
  generalize hstats : (c.after us).gateway.pipeline.stats = stats at hasked hpasses
  cases hpasses with | released answer =>
  rw [← after_append] at hasked hvs'
  have hbegun := h.run (us ++ us')
  obtain rfl : stats = (c.after (us ++ us')).gateway.pipeline.stats :=
    congrArg Ending.stats (hbegun.ready hasked).2.1
  have hanswered := congrArg (·.1.ending) (released_eq hasked answer)
  have hbegun₁ := hbegun.step (.released answer)
  obtain ⟨first, m, vs₁, rfl, hfirst, hpasses₁, hvs₁⟩ := hbegun₁.passes hanswered (hvs' nofun)
  cases hpasses₁ with | close =>
  have hclosed := congrArg (·.1.ending) (close_eq hfirst.last)
  have hbegun₂ := (hbegun₁.run first).step (.close .submission)
  obtain ⟨second, m, vs₂, rfl, hsecond, hpasses₂, hvs₂⟩ := hbegun₂.passes hclosed (hvs₁ nofun)
  cases hpasses₂ with | close =>
  have hclosed' := congrArg (·.1.ending) (close_eq hsecond.last)
  have hbegun₃ := (hbegun₂.run second).step (.close .relay)
  obtain ⟨last, m, ws, rfl, hlast, hpasses₃, -⟩ := hbegun₃.passes hclosed' (hvs₂ nofun)
  cases hpasses₃
  refine ⟨⟨us ++ us', answer, first, second, last⟩, ws, ?_, hasked, hfirst, hsecond, ?_⟩
  · simp [Passage.moves, Passage.untilClose]
  · rw [Passage.untilClose, after_append]
    exact hlast

theorem Begun.replied (h : Begun c notes t) {r : Except Fault Stats}
    (hr : (t, r) ∈ (c.step m).2.filterMap Note.stopped?) :
    Concluded (c.step m).1 (notes ++ (c.step m).2) t := by
  have hs := stepped h.sound m
  cases he : c.ending with
  | none => exact absurd hr (unstopped_stepped he h.early hs r)
  | some e =>
    obtain ⟨hcalls, heq, hrested, hreleased⟩ := h.ready he
    obtain rfl : e.call = t := by rw [heq]
    have honward := onward_stepped he hcalls h.stopped h.early hs
    have hrested' := (hrested.step h.sound hcalls m).1
    generalize c.step m = s at honward hrested' hr
    obtain ⟨c', more⟩ := s
    cases honward with
    | wait hstill hunreleased hunstopped => exact absurd hr (hunstopped r)
    | released hstage answer => exact absurd hr List.not_mem_nil
    | close hstage =>
      rw [stops_seen, unstopped_close] at hr
      exact absurd hr List.not_mem_nil
    | @reply answer hstage =>
      rw [hstage] at hreleased
      refine .of_reply hcalls hrested' hreleased rfl fun kind => ?_
      cases h.stage with
      | @closing stage _ hc hready hrest hanswered hrel hfresh =>
        have hclosed : stage = .closed answer :=
          (congrArg Ending.stage (Option.some.inj (he.symm.trans hready))).symm.trans hstage
        exact hfresh kind (by rw [hclosed]; rfl)
      | draining hc hturn hunready => simp [hunready] at he
      | releasing hc hready =>
        have hwire := congrArg Ending.stage (Option.some.inj (he.symm.trans hready))
        exact absurd (hstage.symm.trans hwire) nofun
      | concluded hconcluded => simp [hconcluded.unready] at he
      | forsaken hc hunready => simp [hunready] at he
      | abandoned hc hunready => simp [hunready] at he
    | forsake hwaits => exact absurd hr List.not_mem_nil

theorem Begun.stays_concluded (h : Begun c notes t) (hc : Concluded c notes t) (moves : List Move) :
    Concluded (c.after moves) (notes ++ c.notes moves) t := by
  refine (run_of_step (P := fun c notes => Begun c notes t ∧ Concluded c notes t) moves ?_ ⟨h, hc⟩).2
  exact fun c notes ⟨h, hc⟩ m _ => ⟨h.step m, hc.step h.sound h.stopped h.early m⟩

/-- Once the call has returned, all that it is to bring about holds. -/
theorem Begun.concluded (h : Begun c notes t) (hreturns : c.Returns t moves) :
    Concluded (c.after moves) (notes ++ c.notes moves) t := by
  induction moves generalizing c notes with
  | nil => exact absurd hreturns not_returns_nil
  | cons m rest ih =>
    rw [Course.notes, ← List.append_assoc]
    rcases returns_cons.1 hreturns with ⟨r, hr⟩ | hlater
    · exact (h.step m).stays_concluded (h.replied hr) rest
    · exact ih (h.step m) hlater

end Course

end MessageExchange.Gateway

import MessageExchange.Proofs.Outbound.Order

/-! What the counters count. They are a function of what was done, so they never fall, and what they leave
open is what is queued or on its way. -/

namespace MessageExchange

namespace Stats

structure Grows (s s' : Stats) : Prop where
  enqueued : s.enqueued ≤ s'.enqueued
  sent : s.sent ≤ s'.sent
  failed : s.failed ≤ s'.failed
  dropped : s.dropped ≤ s'.dropped

def Closed (s : Stats) : Prop := s.enqueued = s.sent + s.failed + s.dropped

theorem inFlight_of_closed {s : Stats} (h : s.Closed) : s.inFlight = 0 := by
  unfold Closed at h
  unfold inFlight
  omega

end Stats

namespace Outbound

namespace Course

variable {c c' : Course} {m : Move} {notes more : List Note}

def tally (notes : List Note) : Stats where
  enqueued := (notes.filterMap Note.accepted?).length
  sent := (notes.filterMap Note.finished?).countP (·.2 = .accepted)
  failed := (notes.filterMap Note.finished?).countP (·.2 ≠ .accepted)
  dropped := (notes.filterMap Note.dropped?).length

theorem tally_grows (notes more : List Note) : (tally notes).Grows (tally (notes ++ more)) := by
  constructor <;> simp [tally]

theorem tally_finished (notes : List Note) :
    (tally notes).sent + (tally notes).failed = (notes.filterMap Note.finished?).length := by
  have hsplit := List.length_eq_countP_add_countP (fun e : Item × Outcome => decide (e.2 = .accepted))
    (l := notes.filterMap Note.finished?)
  simp only [tally]
  rw [hsplit]
  simp

theorem stats_step (h : c.pipeline.stats = tally notes) (hs : Stepped c m c' more) :
    c'.pipeline.stats = tally (notes ++ more) := by
  cases hs with
  | accept hopen => simp [h, tally, Note.accepted?, Note.finished?, Note.dropped?]
  | drop hdropping hq => simp [h, tally, Note.accepted?, Note.finished?, Note.dropped?]
  | finish hsending o =>
    cases o <;> simp [h, tally, Pipeline.account, Note.accepted?, Note.finished?, Note.dropped?]
  | cancel hpending =>
    rw [Pipeline.cancel_eq]
    simp [h]
  | letGo =>
    rw [Pipeline.letGo_eq]
    simp [h]
  | _ => simp [h, tally, Pipeline.shutdown, Note.accepted?, Note.finished?, Note.dropped?]

theorem stats_run (ho : c.pipeline.Orderly) (h : c.pipeline.stats = tally notes) (moves : List Move) :
    (c.after moves).pipeline.stats = tally (notes ++ c.notes moves) := by
  induction moves generalizing c notes with
  | nil => exact (List.append_nil notes).symm ▸ h
  | cons m rest ih =>
    have hrest := ih (orderly_step ho m) (stats_step h (stepped ho m))
    rwa [List.append_assoc] at hrest

theorem stats_after (wire : String) (moves : List Move) :
    ((start wire).after moves).pipeline.stats = tally ((start wire).notes moves) := by
  have hzero : (start wire).pipeline.stats = tally [] := rfl
  exact stats_run (Pipeline.Orderly.start wire) hzero moves

/-- A worker that has stopped is idle for good, and nothing is counted any more. -/
theorem stopped_step (h : c.pipeline.Orderly) (hw : c.pipeline.worker = .stopped)
    (hs : Stepped c m c' more) :
    c'.pipeline.worker = .stopped ∧ c'.pipeline.stats = c.pipeline.stats := by
  cases hs with
  | stay => exact ⟨hw, rfl⟩
  | refuse fault => exact ⟨hw, rfl⟩
  | accept hopen =>
    rw [(h.atRest hw).2] at hopen
    exact absurd hopen (by simp)
  | invoke hidle hq hfree => exact absurd (hidle.symm.trans hw) (by simp)
  | obey hidle hq htold => exact absurd (hidle.symm.trans hw) (by simp)
  | drop hdropping hq => exact absurd (hdropping.symm.trans hw) (by simp)
  | stop hq hwhy => exact ⟨rfl, rfl⟩
  | finish hsending o => exact absurd (hsending.symm.trans hw) (by simp)
  | cancel hpending =>
    rw [Pipeline.cancel_eq]
    exact ⟨hw, rfl⟩
  | letGo =>
    rw [Pipeline.letGo_eq]
    exact ⟨hw, rfl⟩
  | _ => exact ⟨hw, rfl⟩

theorem stopped_after (h : c.pipeline.Orderly) (hw : c.pipeline.worker = .stopped)
    (moves : List Move) :
    (c.after moves).pipeline.worker = .stopped ∧
      (c.after moves).pipeline.stats = c.pipeline.stats := by
  induction moves generalizing c with
  | nil => exact ⟨hw, rfl⟩
  | cons m rest ih =>
    obtain ⟨hworker, hstats⟩ := stopped_step h hw (stepped h m)
    obtain ⟨hstill, hsame⟩ := ih (orderly_step h m) hworker
    exact ⟨hstill, hsame.trans hstats⟩

theorem enqueued_eq {p : Pipeline} (hb : Balanced p notes) (hs : p.stats = tally notes) :
    p.stats.enqueued =
      p.stats.sent + p.stats.failed + p.stats.dropped + p.queue.length + p.current.length := by
  have hwhole := congrArg List.length hb.whole
  have hends := congrArg List.length hb.ends
  have hfinished := tally_finished notes
  simp only [List.length_append, List.length_map, numbered, List.length_mapIdx] at hwhole hends
  rw [hs, hfinished]
  simp only [tally]
  omega

theorem enqueued_after (wire : String) (moves : List Move) :
    let p := ((start wire).after moves).pipeline
    p.stats.enqueued =
      p.stats.sent + p.stats.failed + p.stats.dropped + p.queue.length + p.current.length :=
  enqueued_eq (balanced_after wire moves) (stats_after wire moves)

theorem closed_of_stopped (wire : String) {moves : List Move}
    (hw : ((start wire).after moves).pipeline.worker = .stopped) :
    ((start wire).after moves).pipeline.stats.Closed := by
  have ho : ((start wire).after moves).pipeline.Orderly :=
    orderly_after (Pipeline.Orderly.start wire) moves
  have hall := enqueued_after wire moves
  simp only [(ho.atRest hw).1, Pipeline.current, hw, List.length_nil] at hall
  exact hall

/-- The counters at every moment of every run. Each counts what its name says, none ever falls, and what
is in flight is what is queued together with what is being sent: the subtraction never stops at zero
early. What is dropped is dropped once a drain time has run out. From the moment the worker has stopped
nothing is in flight. -/
theorem counters_account (wire : String) (moves : List Move) :
    let c := start wire
    let p := (c.after moves).pipeline
    p.stats.enqueued = (c.accepted moves).length ∧
      p.stats.enqueued =
        p.stats.sent + p.stats.failed + p.stats.dropped + p.queue.length + p.current.length ∧
      p.stats.inFlight = p.queue.length + p.current.length ∧
      p.stats.sent + p.stats.failed + p.stats.dropped ≤ p.stats.enqueued ∧
      p.stats.sent = (c.finished moves).countP (·.2 = .accepted) ∧
      p.stats.failed = (c.finished moves).countP (·.2 ≠ .accepted) ∧
      p.stats.dropped = (c.dropped moves).length ∧
      (∀ us m vs, moves = us ++ m :: vs → (c.after us).dropped [m] ≠ [] → ∃ t, c.Lapses us t) ∧
      ∀ us vs, moves = us ++ vs →
        (c.after us).pipeline.stats.Grows p.stats ∧
          ((c.after us).pipeline.worker = .stopped → p.stats.inFlight = 0) := by
  intro c p
  have ho : c.pipeline.Orderly := Pipeline.Orderly.start wire
  have hstats : p.stats = tally (c.notes moves) := stats_after wire moves
  have hall : p.stats.enqueued =
      p.stats.sent + p.stats.failed + p.stats.dropped + p.queue.length + p.current.length :=
    enqueued_after wire moves
  have hflight : p.stats.inFlight = p.queue.length + p.current.length := by
    unfold Stats.inFlight
    omega
  refine ⟨?_, hall, hflight, by omega, ?_, ?_, ?_, ?_, ?_⟩
  · rw [hstats]
    rfl
  · rw [hstats]
    rfl
  · rw [hstats]
    rfl
  · rw [hstats]
    rfl
  · rintro us m vs rfl hdropped
    have hworker := dropping_of_dropped (stepped (orderly_after ho us) m) (by
      simpa [dropped, notes] using hdropped)
    exact lapses_of_given wire us ((orderly_after ho us).ordered hworker)
  · rintro us vs rfl
    constructor
    · rw [hstats, notes_append, stats_after]
      exact tally_grows _ _
    · intro hstopped
      obtain ⟨hstill, -⟩ := stopped_after (orderly_after ho us) hstopped vs
      rw [← after_append] at hstill
      exact Stats.inFlight_of_closed (closed_of_stopped wire hstill)

end Course

end Outbound

end MessageExchange

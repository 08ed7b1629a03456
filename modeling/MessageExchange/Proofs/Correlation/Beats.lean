import MessageExchange.Correlation.Correlator
import Mathlib.Order.Basic
import Mathlib.Data.Int.Lemmas

/-! The beat of a periodic sweep, told from the readings of the clock alone. Its periods are counted from
where it started, or from the last sweep that came too late to keep the beat, and it sweeps whenever the
clock gets past the end of one. -/

namespace MessageExchange.Correlation

/-- A clock, with where the periods are counted from and when the last sweep was (or the start). -/
structure Beat where
  origin : Instant
  last : Instant
  now : Instant
  deriving DecidableEq

namespace Beat

variable {b : Beat} {period : Span} {t : Instant}

def start (now : Instant) : Beat := ⟨now, now, now⟩

/-- How many periods have ended by `t`. -/
def ended (b : Beat) (period : Span) (t : Instant) : Int := t.since b.origin / period.nanos

/-- When the period that is under way ends. -/
def ahead (b : Beat) (period : Span) : Instant :=
  ⟨b.origin.nanos + (b.ended period b.now + 1) * period.nanos⟩

def strikes (b : Beat) (period : Span) (t : Instant) : Bool :=
  b.ended period b.now < b.ended period t

/-- The clock moves on to `t`. If that is a sweep more than 5 ms after the period ended, the periods are
counted from there. -/
def step (b : Beat) (period : Span) (t : Instant) : Beat :=
  if b.strikes period t then
    { origin := if ((b.ahead period).add (.ofMillis 5)).nanos < t.nanos then t else b.origin
      last := t
      now := t }
  else { b with now := t }

theorem step_now (b : Beat) (period : Span) (t : Instant) : (b.step period t).now = t := by
  unfold step
  split_ifs <;> rfl

theorem strikes_iff (hperiod : 0 < period.nanos) :
    b.strikes period t = true ↔ (b.ahead period).nanos ≤ t.nanos := by
  have hpos : (0 : Int) < period.nanos := by omega
  have hends : b.ended period b.now + 1 ≤ b.ended period t ↔
      (b.ended period b.now + 1) * period.nanos ≤ t.since b.origin := Int.le_ediv_iff_mul_le hpos
  simp only [strikes, decide_eq_true_eq, ahead]
  rw [← Int.add_one_le_iff, hends, Instant.since]
  omega

theorem now_lt_ahead (hperiod : 0 < period.nanos) : b.now.nanos < (b.ahead period).nanos := by
  by_contra hle
  have hself : b.strikes period b.now = true := (strikes_iff hperiod).2 (not_lt.1 hle)
  simp [strikes] at hself

theorem ahead_start (now : Instant) : (start now).ahead period = now.add period := by
  simp [ahead, ended, start, Instant.since, Instant.add]

theorem ended_eq {n : Int} (hperiod : 0 < period.nanos)
    (hle : b.origin.nanos + n * period.nanos ≤ t.nanos)
    (hlt : t.nanos < b.origin.nanos + (n + 1) * period.nanos) : b.ended period t = n := by
  have hpos : (0 : Int) < period.nanos := by omega
  refine le_antisymm ?_ ?_
  · rw [← Int.lt_add_one_iff, ended, Int.ediv_lt_iff_lt_mul hpos, Instant.since]
    omega
  · rw [ended, Int.le_ediv_iff_mul_le hpos, Instant.since]
    omega

/-- A clock that reaches no end of a period leaves the next one where it is. -/
theorem ahead_step_of_silent (hperiod : 0 < period.nanos) (hle : b.now.nanos ≤ t.nanos)
    (hs : b.strikes period t = false) : (b.step period t).ahead period = b.ahead period := by
  have hpos : (0 : Int) < period.nanos := by omega
  have hmono : b.ended period b.now ≤ b.ended period t := by
    refine Int.ediv_le_ediv hpos ?_
    simp only [Instant.since]
    omega
  have hsame : b.ended period t = b.ended period b.now := by
    simp only [strikes, decide_eq_false_iff_not] at hs
    omega
  simp only [step, hs, Bool.false_eq_true, if_false]
  simp only [ahead, ended] at hsame ⊢
  rw [hsame]

theorem ahead_step_of_late (hs : b.strikes period t = true)
    (hlate : ((b.ahead period).add (.ofMillis 5)).nanos < t.nanos) :
    (b.step period t).ahead period = t.add period := by
  simp only [step, hs, hlate, if_true]
  exact ahead_start t

/-- On the beat, exactly one more period has ended. -/
theorem ahead_step_of_prompt (hperiod : (Span.ofMillis 5).nanos < period.nanos)
    (hs : b.strikes period t = true) (hprompt : t.nanos ≤ ((b.ahead period).add (.ofMillis 5)).nanos) :
    (b.step period t).ahead period = (b.ahead period).add period := by
  have hreached := (strikes_iff (by omega)).1 hs
  have hone : b.ended period t = b.ended period b.now + 1 := by
    refine ended_eq (by omega) hreached ?_
    simp only [Instant.add, ahead] at hprompt
    rw [add_mul _ 1, one_mul]
    omega
  have hstep : b.step period t = ⟨b.origin, t, t⟩ := by
    simp only [step, hs, not_lt.2 hprompt, if_true, if_false]
  have hended : (⟨b.origin, t, t⟩ : Beat).ended period t = b.ended period b.now + 1 := hone
  rw [hstep]
  simp only [ahead, hended, Instant.add, add_mul, one_mul, add_assoc]

/-- At a sweep, the end of the period that begins is where the periodic sweep will be due. -/
theorem ahead_step_of_strikes (hperiod : Sweeper.slack.nanos < period.nanos)
    (hs : b.strikes period t = true) :
    (⟨period, b.ahead period⟩ : Sweeper).next t = ⟨period, (b.step period t).ahead period⟩ := by
  by_cases hlate : ((b.ahead period).add Sweeper.slack).nanos < t.nanos
  · rw [ahead_step_of_late hs hlate, Sweeper.next, if_pos hlate]
  · rw [ahead_step_of_prompt hperiod hs (not_lt.1 hlate), Sweeper.next, if_neg hlate]

/-- The next sweep comes within a period of the last one, and at most 5 ms short of a period after it. -/
structure Steady (b : Beat) (period : Span) : Prop where
  passed : b.last.nanos ≤ b.now.nanos
  near : (b.ahead period).nanos ≤ b.last.nanos + period.nanos
  far : b.last.nanos + period.nanos ≤ (b.ahead period).nanos + (Span.ofMillis 5).nanos

theorem Steady.start (now : Instant) : (start now).Steady period := by
  have hahead : ((Beat.start now).ahead period).nanos = now.nanos + period.nanos := by
    rw [ahead_start]
    rfl
  refine ⟨le_rfl, hahead.le, ?_⟩
  rw [hahead]
  simp only [Beat.start]
  omega

theorem Steady.step (h : b.Steady period) (hperiod : (Span.ofMillis 5).nanos < period.nanos)
    (hle : b.now.nanos ≤ t.nanos) : (b.step period t).Steady period := by
  have hpassed := h.passed
  cases hs : b.strikes period t with
  | false =>
    have hlast : (b.step period t).last = b.last := by simp [Beat.step, hs]
    refine ⟨?_, ?_, ?_⟩ <;> rw [hlast]
    · rw [step_now]
      omega
    · rw [ahead_step_of_silent (by omega) hle hs]
      exact h.near
    · rw [ahead_step_of_silent (by omega) hle hs]
      exact h.far
  | true =>
    have hlast : (b.step period t).last = t := by simp [Beat.step, hs]
    have hreached := (strikes_iff (by omega)).1 hs
    by_cases hlate : ((b.ahead period).add (.ofMillis 5)).nanos < t.nanos
    · have hahead := ahead_step_of_late hs hlate
      refine ⟨?_, ?_, ?_⟩ <;> simp only [step_now, hlast, hahead, Instant.add] <;> omega
    · have hahead := ahead_step_of_prompt hperiod hs (not_lt.1 hlate)
      simp only [Instant.add] at hlate
      refine ⟨?_, ?_, ?_⟩ <;> simp only [step_now, hlast, hahead, Instant.add] <;> omega

/-- A step that takes the clock a whole period past the last sweep is a sweep, and none is that takes it
5 ms less far. -/
theorem Steady.strikes (h : b.Steady period) (hperiod : 0 < period.nanos) :
    ((period.nanos : Int) ≤ t.since b.last → b.strikes period t = true) ∧
      (b.strikes period t = true → (period.nanos : Int) ≤ t.since b.last + (Span.ofMillis 5).nanos) := by
  have hnear := h.near
  have hfar := h.far
  rw [strikes_iff hperiod]
  simp only [Instant.since]
  omega

end Beat

end MessageExchange.Correlation

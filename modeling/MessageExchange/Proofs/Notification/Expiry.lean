import MessageExchange.Proofs.Correlation.Sweeping

/-! When a notification is too old. Ages and spans are compared as signed lengths of time of 64 bits of
milliseconds. Any two dates are less than that apart, so no age is ever too long to be told. A span may be
too long; then it is longer than any age, and it is right to say that it was not outlived. So the comparison
comes out as it would in whole numbers without bounds. -/

namespace MessageExchange

/-! Years. -/

/-- The days from the first day of year one to the first day of a year. Every fourth year has a day more,
but of the years that end a century only every fourth. -/
def daysBefore (year : Int) : Int := 365 * (year - 1) + (year - 1) / 4 - (year - 1) / 100 + (year - 1) / 400

namespace Instant

/-- The first moment of a year. No day has a leap second. -/
def newYear (year : Int) : Instant := ⟨(daysBefore year - daysBefore 1970) * 86400 * 1000000000⟩

/-- The dates are the moments of the years from -262143 to 262142. -/
theorem dated_iff_years {t : Instant} :
    t.Dated ↔ (newYear (-262143)).nanos ≤ t.nanos ∧ t.nanos < (newYear 262143).nanos := by
  have hfirst : (newYear (-262143)).nanos = -8334601228800 * 1000000000 := by decide
  have hlast : (newYear 262143).nanos = 8210266876800 * 1000000000 := by decide
  rw [hfirst, hlast, Dated]

end Instant

/-! Signed lengths of time. -/

/-- A length of time, of no more than 2⁶³ - 1 milliseconds either way. -/
@[ext] structure Elapsed where
  nanos : Int
  fits : nanos.natAbs ≤ Notification.longestSpan.nanos

namespace Elapsed

def ofNanos? (n : Int) : Option Elapsed :=
  if h : n.natAbs ≤ Notification.longestSpan.nanos then some ⟨n, h⟩ else none

theorem ofNanos?_eq_some_iff {n : Int} {e : Elapsed} : ofNanos? n = some e ↔ e.nanos = n := by
  unfold ofNanos?
  split_ifs with hfits
  · rw [Option.some.injEq, Elapsed.ext_iff, eq_comm]
  · refine ⟨nofun, ?_⟩
    rintro rfl
    exact absurd e.fits hfits

theorem ofNanos?_eq_none_iff {n : Int} : ofNanos? n = none ↔ Notification.longestSpan.nanos < n.natAbs := by
  rw [ofNanos?, dite_eq_right_iff, ← Nat.not_le]
  simp only [reduceCtorEq, imp_false]

end Elapsed

def Span.elapsed? (s : Span) : Option Elapsed := Elapsed.ofNanos? s.nanos

theorem Span.elapsed?_eq_none_iff {s : Span} : s.elapsed? = none ↔ Notification.longestSpan.nanos < s.nanos :=
  Elapsed.ofNanos?_eq_none_iff

namespace Instant

def elapsed? (now before : Instant) : Option Elapsed := Elapsed.ofNanos? (now.since before)

theorem Dated.exists_elapsed {now before : Instant} (hnow : now.Dated) (hbefore : before.Dated) :
    ∃ age, now.elapsed? before = some age ∧ age.nanos = now.nanos - before.nanos := by
  have hforth := hbefore.since_le hnow
  have hback := hnow.since_le hbefore
  have hfits : (now.since before).natAbs ≤ Notification.longestSpan.nanos := by
    simp only [since] at hforth hback ⊢
    omega
  exact ⟨⟨_, hfits⟩, dif_pos hfits, rfl⟩

end Instant

namespace Notification

variable {n : Notification} {now : Instant}

/-- The comparison in stages, the span before the age; there is no answer if the age is too long. -/
def outlives? (n : Notification) (now : Instant) (ttl : Span) : Option Bool :=
  match ttl.elapsed? with
  | none => some false
  | some limit => (now.elapsed? n.created).map fun age => decide (limit.nanos < age.nanos)

theorem isOlderThan_iff (hcreated : n.created.Dated) (hnow : now.Dated) (ttl : Span) :
    n.isOlderThan now ttl = true ↔ (ttl.nanos : Int) < now.nanos - n.created.nanos := by
  rw [isOlderThan, Bool.and_eq_true, decide_eq_true_iff, decide_eq_true_iff]
  refine ⟨And.right, fun hold => ⟨?_, hold⟩⟩
  -- a span that is outlived is shorter than an age, so it can be compared
  exact Int.ofNat_le.1 (hold.le.trans (hcreated.since_le hnow))

theorem outlives?_eq (hcreated : n.created.Dated) (hnow : now.Dated) (ttl : Span) :
    n.outlives? now ttl = some (n.isOlderThan now ttl) := by
  obtain ⟨age, hage, hnanos⟩ := hnow.exists_elapsed hcreated
  unfold outlives?
  cases hlimit : ttl.elapsed? with
  | none =>
    have hshort : ¬ ttl.nanos ≤ longestSpan.nanos := Nat.not_le.2 (Span.elapsed?_eq_none_iff.1 hlimit)
    simp only [isOlderThan, hshort, decide_false, Bool.false_and]
  | some limit =>
    have hexact := isOlderThan_iff hcreated hnow ttl
    rw [Span.elapsed?, Elapsed.ofNanos?_eq_some_iff] at hlimit
    simp only [hage, Option.map_some, hlimit, hnanos, Option.some.injEq]
    rw [Bool.eq_iff_iff, hexact, decide_eq_true_iff]

theorem isOlderThan_mono {later : Instant} {ttl shorter : Span} (hlater : now.nanos ≤ later.nanos)
    (hshorter : shorter.nanos ≤ ttl.nanos) (hold : n.isOlderThan now ttl = true) :
    n.isOlderThan later shorter = true := by
  simp only [isOlderThan, Bool.and_eq_true, decide_eq_true_eq] at hold ⊢
  simp only [Instant.since] at hold ⊢
  omega

/-- Ages are told exactly. A notification that was created at a date has outlived a span at another date
just when more than the span lies between them; five minutes are one such span. It has not when it is yet to
be created, nor when just the span has passed. Time makes it no younger, and a longer span no older. The age
is never too long; a span that is too long to be compared is longer than the age, so it is rightly said not
to be outlived. A sweep takes what is older than the span, or has been parked for longer. -/
theorem outlived_exactly (hcreated : n.created.Dated) (hnow : now.Dated) (ttl : Span) :
    (n.isOlderThan now ttl = true ↔ (ttl.nanos : Int) < now.nanos - n.created.nanos) ∧
      (n.isExpired now = true ↔ 5 * 60 * 1000000000 < now.nanos - n.created.nanos) ∧
      (now.nanos ≤ n.created.nanos → n.isOlderThan now ttl = false) ∧
      (now = n.created.add ttl → n.isOlderThan now ttl = false) ∧
      (∀ later : Instant, now.nanos ≤ later.nanos →
        n.isOlderThan now ttl = true → n.isOlderThan later ttl = true) ∧
      (∀ shorter : Span, shorter.nanos ≤ ttl.nanos →
        n.isOlderThan now ttl = true → n.isOlderThan now shorter = true) ∧
      (∃ age, now.elapsed? n.created = some age ∧ age.nanos = now.nanos - n.created.nanos) ∧
      n.outlives? now ttl = some (n.isOlderThan now ttl) ∧
      (longestSpan.nanos < ttl.nanos →
        ttl.elapsed? = none ∧ now.nanos - n.created.nanos < ttl.nanos ∧ n.isOlderThan now ttl = false) ∧
      ∀ since : Instant, Correlation.Desk.isStale (Correlation.retention ttl) now since n = true ↔
        (ttl.nanos : Int) < now.nanos - since.nanos ∨ (ttl.nanos : Int) < now.nanos - n.created.nanos := by
  have hexact := isOlderThan_iff hcreated hnow
  have hnot : ∀ ttl : Span, now.nanos - n.created.nanos ≤ ttl.nanos → n.isOlderThan now ttl = false :=
    fun ttl hyoung => Bool.eq_false_iff.2 fun hold => not_lt.2 hyoung ((hexact ttl).1 hold)
  refine ⟨hexact ttl, hexact lifetime, fun hbefore => hnot ttl (by omega), ?_,
    fun later hlater => isOlderThan_mono hlater le_rfl, fun shorter => isOlderThan_mono le_rfl,
    hnow.exists_elapsed hcreated, outlives?_eq hcreated hnow ttl, fun hlong => ?_, fun since => ?_⟩
  · rintro rfl
    refine hnot ttl ?_
    simp only [Instant.add]
    omega
  · have hage : now.nanos - n.created.nanos < ttl.nanos :=
      (hcreated.since_le hnow).trans_lt (Int.ofNat_lt.2 hlong)
    exact ⟨Span.elapsed?_eq_none_iff.2 hlong, hage, hnot ttl hage.le⟩
  · rw [Correlation.Desk.isStale, Bool.or_eq_true, decide_eq_true_iff, or_comm]
    exact or_congr_right (hexact ttl)

/-- The first date and the last one. All the time between them is not outlived, a nanosecond less is; the
longest span of 64 bits of seconds cannot be compared. -/
theorem outlived_exactly_first_to_last :
    let first := Instant.newYear (-262143)
    let last : Instant := ⟨(Instant.newYear 262143).nanos - 1⟩
    let n : Notification := ⟨.submission, "r", "A", .receipt, "", first⟩
    let whole : Span := ⟨(last.nanos - first.nanos).toNat⟩
    let longest : Span := ⟨2 ^ 64 * 1000000000 - 1⟩
    n.created.Dated ∧ last.Dated ∧ n.isOlderThan last whole = false ∧
      n.isOlderThan last ⟨whole.nanos - 1⟩ = true ∧ n.isExpired last = true ∧ longest.elapsed? = none ∧
      last.nanos - first.nanos < longest.nanos ∧ n.outlives? last longest = some false := by
  intro first last n whole longest
  have hfirst : n.created.Dated := Instant.dated_iff_years.2 ⟨le_rfl, by decide⟩
  have hlast : last.Dated := Instant.dated_iff_years.2 ⟨by decide, by decide⟩
  obtain ⟨-, hexpired, -, hwhole, -⟩ := outlived_exactly hfirst hlast whole
  obtain ⟨hless, -⟩ := outlived_exactly hfirst hlast ⟨whole.nanos - 1⟩
  obtain ⟨-, -, -, -, -, -, -, hstaged, hlong, -⟩ := outlived_exactly hfirst hlast longest
  obtain ⟨hnone, hage, hyoung⟩ := hlong (by decide)
  exact ⟨hfirst, hlast, hwhole (by decide), hless.2 (by decide), hexpired.2 (by decide), hnone, hage,
    by rw [hstaged, hyoung]⟩

end Notification

end MessageExchange

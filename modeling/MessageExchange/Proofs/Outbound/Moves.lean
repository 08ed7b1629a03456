import MessageExchange.Outbound.Pipeline
import Mathlib.Tactic

/-! What each part of a pipeline can do in one move, and what a pipeline is always sure of: only the
first shutdown call can have had its turn, and only a watching call can still give the order to drop. -/

namespace MessageExchange.Outbound

open Correlation (Ticket)

namespace Phase

def waits : Phase → Bool
  | queued _ => true
  | _ => false

def watches : Phase → Bool
  | draining _ _ => true
  | _ => false

end Phase

namespace Pipeline

variable {p p' : Pipeline} {now : Span} {events : List Event}

def watcher (p : Pipeline) : Option Ticket :=
  (p.calls.head?.filter (·.phase.watches)).map (·.ticket)

def Lapsed (p : Pipeline) (now : Span) : Prop :=
  p.worker ≠ .stopped ∧ ∃ t drain deadline rest,
    p.calls = ⟨t, .draining drain (some deadline)⟩ :: rest ∧ deadline.nanos ≤ now.nanos

theorem work_cases (h : p.work = some (p', events)) :
    (∃ i rest, p.worker = .idle ∧ p.queue = i :: rest ∧ p.order ≠ .given ∧
      p' = { p with worker := .sending i, queue := rest } ∧
      events = [.dispatched (p.trail i) i.route.text i.route.role]) ∨
    (∃ i rest, p.worker = .idle ∧ p.queue = i :: rest ∧ p.order = .given ∧
      p' = { p with worker := .dropping } ∧ events = []) ∨
    (∃ i rest, p.worker = .dropping ∧ p.queue = i :: rest ∧
      p' = { p with queue := rest, stats := { p.stats with dropped := p.stats.dropped + 1 } } ∧
      events = [.dropped (p.trail i)]) ∨
    (p.queue = [] ∧
      (p.worker = .dropping ∨ p.worker = .idle ∧ (p.order = .given ∨ p.accepting = false)) ∧
      p' = { p with worker := .stopped } ∧ events = [.workerStopped p.wire]) := by
  unfold work at h
  cases hw : p.worker with
  | idle =>
    cases hq : p.queue with
    | nil =>
      simp only [hw, hq] at h
      split_ifs at h with hstop
      cases h
      refine .inr (.inr (.inr ⟨rfl, .inr ⟨rfl, ?_⟩, rfl, rfl⟩))
      simpa using hstop
    | cons i rest =>
      simp only [hw, hq] at h
      split_ifs at h with hgiven
      · cases h
        exact .inr (.inl ⟨i, rest, rfl, rfl, hgiven, rfl, rfl⟩)
      · cases h
        exact .inl ⟨i, rest, rfl, rfl, hgiven, rfl, rfl⟩
  | dropping =>
    cases hq : p.queue with
    | nil =>
      simp only [hw, hq] at h
      cases h
      exact .inr (.inr (.inr ⟨rfl, .inl rfl, rfl, rfl⟩))
    | cons i rest =>
      simp only [hw, hq] at h
      cases h
      exact .inr (.inr (.inl ⟨i, rest, rfl, rfl, rfl, rfl⟩))
  | sending i => simp [hw] at h
  | stopped => simp [hw] at h

theorem attend_cases {ended : Option (Ticket × Stats)}
    (h : p.attend now = some (p', events, ended)) :
    ∃ c rest, p.calls = c :: rest ∧
      ((∃ drain, c.phase = .queued drain ∧ p.unwatched = true ∧ ended = none ∧
        p' = { p with
          unwatched := false,
          calls := ⟨c.ticket, .draining drain
            (if drain.nanos = 0 then none else some ⟨now.nanos + drain.nanos⟩)⟩ :: rest }) ∨
      ((c.phase.waits = true ∧ p.unwatched = false ∨ c.phase.waits = false ∧ p.worker = .stopped) ∧
        p' = { p with calls := rest } ∧ ended = some (c.ticket, p.stats))) := by
  unfold attend at h
  cases hc : p.calls with
  | nil => simp [hc] at h
  | cons c rest =>
    refine ⟨c, rest, rfl, ?_⟩
    simp only [hc] at h
    cases hphase : c.phase with
    | queued drain =>
      by_cases hun : p.unwatched = true
      · simp only [hphase, hun, if_pos] at h
        cases h
        exact .inl ⟨drain, rfl, hun, rfl, rfl⟩
      · simp only [hphase, if_neg hun] at h
        cases h
        exact .inr ⟨.inl ⟨rfl, Bool.eq_false_iff.2 hun⟩, rfl, rfl⟩
    | draining drain deadline =>
      simp only [hphase] at h
      split_ifs at h with hstop
      cases h
      exact .inr ⟨.inr ⟨rfl, hstop⟩, rfl, rfl⟩
    | abandoning =>
      simp only [hphase] at h
      split_ifs at h with hstop
      cases h
      exact .inr ⟨.inr ⟨rfl, hstop⟩, rfl, rfl⟩

theorem expire_cases (p : Pipeline) (now : Span) :
    (¬ p.Lapsed now ∧ (p.expire now).1 = p) ∨
      ∃ t drain deadline rest, p.calls = ⟨t, .draining drain (some deadline)⟩ :: rest ∧
        p.Lapsed now ∧
        (p.expire now).1 = { p with order := .given, calls := ⟨t, .abandoning⟩ :: rest } := by
  by_cases hlapsed : p.Lapsed now
  · obtain ⟨hworker, t, drain, deadline, rest, hcalls, hle⟩ := id hlapsed
    refine .inr ⟨t, drain, deadline, rest, hcalls, hlapsed, ?_⟩
    simp [expire, hcalls, hle, hworker]
  · refine .inl ⟨hlapsed, ?_⟩
    unfold expire
    split
    next t drain deadline rest hcalls =>
      rw [if_neg]
      rintro ⟨hle, hworker⟩
      exact hlapsed ⟨hworker, t, drain, deadline, rest, hcalls, hle⟩
    next => rfl

theorem watcher_of_cons {c : Call} {l : List Call} (hc : p.calls = c :: l) :
    p.watcher = if c.phase.watches then some c.ticket else none := by
  unfold watcher
  rw [hc, List.head?_cons, Option.filter_some]
  split_ifs <;> rfl

theorem cancel_eq (p : Pipeline) (t : Ticket) :
    p.cancel t = { p with
      calls := p.calls.filter (·.ticket != t),
      order := if p.watcher = some t ∧ p.order = .pending then .waived else p.order } := by
  unfold cancel
  split
  next t' drain deadline rest hcalls =>
    rw [watcher_of_cons hcalls]
    by_cases ht : t' = t
    · by_cases ho : p.order = .pending <;> simp [hcalls, ht, waive, ho, Phase.watches]
    · simp [hcalls, ht, Phase.watches]
  next hnot =>
    have hnone : p.watcher = none := by
      cases hcalls : p.calls with
      | nil => simp [watcher, hcalls]
      | cons c rest =>
        rw [watcher_of_cons hcalls]
        obtain ⟨t', phase⟩ := c
        cases phase with
        | draining drain deadline => exact absurd hcalls (hnot t' drain deadline rest)
        | queued drain => rfl
        | abandoning => rfl
    simp [hnone]

theorem letGo_eq (p : Pipeline) :
    p.letGo = { p with
      accepting := false, unwatched := false, calls := [],
      order := if p.order = .pending then .waived else p.order } := by
  unfold letGo waive
  by_cases ho : p.order = .pending <;> simp [ho]

/-- What a pipeline is always sure of. -/
structure Orderly (p : Pipeline) : Prop where
  /-- Only the first call can have had its turn. -/
  turns : ∀ c ∈ p.calls.tail, c.phase.waits = true
  fresh : p.unwatched = true → p.order = .pending ∧ ∀ c ∈ p.calls, c.phase.waits = true
  /-- A call that still watches has not given the order. -/
  watched : p.watcher.isSome → p.order = .pending
  shut : p.calls ≠ [] ∨ p.unwatched = false → p.accepting = false
  ordered : p.worker = .dropping → p.order = .given
  atRest : p.worker = .stopped → p.queue = [] ∧ p.accepting = false

theorem watcher_eq_none (hc : ∀ c ∈ p.calls, c.phase.waits = true) : p.watcher = none := by
  cases hcalls : p.calls with
  | nil => simp [watcher, hcalls]
  | cons c rest =>
    have hwaits := hc c (by simp [hcalls])
    rw [watcher_of_cons hcalls]
    cases hphase : c.phase <;> simp_all [Phase.waits, Phase.watches]

namespace Orderly

theorem start (wire : String) : (Pipeline.start wire).Orderly :=
  ⟨nofun, fun _ => ⟨rfl, nofun⟩, nofun, by simp [Pipeline.start], nofun, nofun⟩

theorem given_accepting (h : p.Orderly) (hg : p.order = .given) : p.accepting = false := by
  refine h.shut (.inr (Bool.eq_false_iff.2 fun hun => ?_))
  rw [(h.fresh hun).1] at hg
  exact absurd hg (by simp)

theorem open_of_accepting (h : p.Orderly) (ha : p.accepting = true) : p.closed = false := by
  rw [closed, Bool.or_eq_false_iff, beq_eq_false_iff_ne, beq_eq_false_iff_ne]
  constructor
  · intro hw
    rw [h.given_accepting (h.ordered hw)] at ha
    exact absurd ha (by simp)
  · intro hw
    rw [(h.atRest hw).2] at ha
    exact absurd ha (by simp)

theorem enqueue_cases (h : p.Orderly) (m : Message) (r : Route) :
    (∃ fault, (p.enqueue m r).1 = .error fault ∧ (p.enqueue m r).2.1 = p) ∨
      p.accepting = true ∧ (p.enqueue m r).1 = .ok () ∧
        (p.enqueue m r).2.1 = { p with
          next := p.next + 1, queue := p.queue ++ [⟨p.next, m, r⟩],
          stats := { p.stats with enqueued := p.stats.enqueued + 1 } } := by
  unfold Pipeline.enqueue
  cases m.head with
  | error fault => exact .inl ⟨fault, rfl, rfl⟩
  | ok head =>
    cases ha : p.accepting with
    | false => exact .inl ⟨_, rfl, rfl⟩
    | true =>
      refine .inr ⟨rfl, ?_⟩
      rw [h.open_of_accepting ha]
      exact ⟨rfl, rfl⟩

theorem enqueue (h : p.Orderly) (m : Message) (r : Route) : (p.enqueue m r).2.1.Orderly := by
  rcases h.enqueue_cases m r with ⟨fault, -, hp⟩ | ⟨ha, -, hp⟩
  · rw [hp]
    exact h
  · rw [hp]
    refine ⟨h.turns, h.fresh, h.watched, h.shut, h.ordered, fun hw => ?_⟩
    have hshut := (h.atRest hw).2
    rw [ha] at hshut
    exact absurd hshut (by simp)

theorem work (h : p.Orderly) (hw : p.work = some (p', events)) : p'.Orderly := by
  rcases work_cases hw with ⟨i, rest, -, -, -, rfl, -⟩ | ⟨i, rest, -, -, hgiven, rfl, -⟩ |
    ⟨i, rest, hworker, -, rfl, -⟩ | ⟨hqueue, hwhy, rfl, -⟩
  · exact ⟨h.turns, h.fresh, h.watched, h.shut, nofun, nofun⟩
  · exact ⟨h.turns, h.fresh, h.watched, h.shut, fun _ => hgiven, nofun⟩
  · refine ⟨h.turns, h.fresh, h.watched, h.shut, h.ordered, fun hstop => ?_⟩
    exact absurd (hworker.symm.trans hstop) (by simp)
  · refine ⟨h.turns, h.fresh, h.watched, h.shut, nofun, fun _ => ⟨hqueue, ?_⟩⟩
    rcases hwhy with hd | ⟨-, hg | ha⟩
    · exact h.given_accepting (h.ordered hd)
    · exact h.given_accepting hg
    · exact ha

theorem account (h : p.Orderly) (i : Item) (o : Outcome) : (p.account i o).1.Orderly := by
  cases o <;> exact ⟨h.turns, h.fresh, h.watched, h.shut, nofun, nofun⟩

theorem shutdown (h : p.Orderly) (t : Ticket) (drain : Span) : (p.shutdown t drain).Orderly := by
  have hlast : ∀ c ∈ ([⟨t, .queued drain⟩] : List Call), c.phase.waits = true := by
    intro c hc
    rw [List.mem_singleton.1 hc]
    rfl
  refine ⟨?_, fun hun => ⟨(h.fresh hun).1, ?_⟩, ?_, fun _ => rfl, h.ordered,
    fun hw => ⟨(h.atRest hw).1, rfl⟩⟩
  · intro c hc
    simp only [Pipeline.shutdown] at hc
    cases hcalls : p.calls with
    | nil => simp [hcalls] at hc
    | cons c' rest =>
      rw [hcalls, List.cons_append, List.tail_cons] at hc
      rcases List.mem_append.1 hc with hc | hc
      · exact h.turns c (by rw [hcalls]; exact hc)
      · exact hlast c hc
  · intro c hc
    rcases List.mem_append.1 hc with hc | hc
    · exact (h.fresh hun).2 c hc
    · exact hlast c hc
  · intro hwatch
    apply h.watched
    cases hcalls : p.calls with
    | nil => simp [Pipeline.shutdown, watcher, hcalls, Phase.watches] at hwatch
    | cons c' rest => simpa [Pipeline.shutdown, watcher, hcalls] using hwatch

theorem attend (h : p.Orderly) {ended : Option (Ticket × Stats)}
    (ha : p.attend now = some (p', events, ended)) : p'.Orderly := by
  obtain ⟨c, rest, hcalls, hturn | ⟨hwhy, rfl, -⟩⟩ := attend_cases ha
  · obtain ⟨drain, -, hun, -, rfl⟩ := hturn
    have hshut : p.accepting = false := h.shut (.inl (by simp [hcalls]))
    refine ⟨fun c' hc' => ?_, nofun, fun _ => (h.fresh hun).1, fun _ => hshut, h.ordered, h.atRest⟩
    exact h.turns c' (by rw [hcalls]; exact hc')
  · have hrest : ∀ c' ∈ rest, c'.phase.waits = true := fun c' hc' =>
      h.turns c' (by rw [hcalls]; exact hc')
    refine ⟨fun c' hc' => hrest c' (List.mem_of_mem_tail hc'), fun hun => ⟨(h.fresh hun).1, hrest⟩,
      fun hwatch => ?_, fun _ => h.shut (.inl (by simp [hcalls])), h.ordered, h.atRest⟩
    rw [watcher_eq_none hrest] at hwatch
    exact absurd hwatch (by simp)

theorem expire (h : p.Orderly) (now : Span) : (p.expire now).1.Orderly := by
  rcases expire_cases p now with ⟨-, hp⟩ | ⟨t, drain, deadline, rest, hcalls, -, hp⟩
  · rw [hp]
    exact h
  · rw [hp]
    refine ⟨fun c hc => h.turns c (by rw [hcalls]; exact hc), fun hun => ?_, nofun,
      fun _ => h.shut (.inl (by simp [hcalls])), fun _ => rfl, h.atRest⟩
    have hwaits := (h.fresh hun).2 ⟨t, .draining drain (some deadline)⟩ (by simp [hcalls])
    exact absurd hwaits (by simp [Phase.waits])

theorem waits_of_mem (h : p.Orderly) {c head : Call} {rest : List Call}
    (hcalls : p.calls = head :: rest) (hc : c ∈ rest) : c.phase.waits = true :=
  h.turns c (by rw [hcalls]; exact hc)

theorem cancel (h : p.Orderly) (t : Ticket) : (p.cancel t).Orderly := by
  rw [cancel_eq]
  refine ⟨fun c hc => ?_, fun hun => ?_, fun hwatch => ?_, fun hwhy => h.shut (hwhy.imp_left ?_),
    fun hw => ?_, h.atRest⟩
  · cases hcalls : p.calls with
    | nil => simp [hcalls] at hc
    | cons head rest =>
      refine h.waits_of_mem hcalls (List.mem_of_mem_filter (p := (·.ticket != t)) ?_)
      simp only [hcalls, List.filter_cons] at hc
      split_ifs at hc
      · exact hc
      · exact List.mem_of_mem_tail hc
  · obtain ⟨horder, hwaits⟩ := h.fresh hun
    refine ⟨?_, fun c hc => hwaits c (List.mem_of_mem_filter hc)⟩
    simp [watcher_eq_none hwaits, horder]
  · cases hcalls : p.calls with
    | nil => simp [watcher, hcalls] at hwatch
    | cons head rest =>
      have hrest : ∀ c ∈ rest.filter (·.ticket != t), c.phase.waits = true := fun c hc =>
        h.waits_of_mem hcalls (List.mem_of_mem_filter hc)
      by_cases ht : head.ticket = t
      · have hfilter : p.calls.filter (·.ticket != t) = rest.filter (·.ticket != t) := by
          simp [hcalls, ht]
        rw [watcher_eq_none (by simpa [hfilter] using hrest)] at hwatch
        exact absurd hwatch (by simp)
      · have hwatcher : p.watcher.isSome := by
          rw [watcher_of_cons (c := head) (l := rest.filter (·.ticket != t)) (by simp [hcalls, ht])]
            at hwatch
          rw [watcher_of_cons hcalls]
          exact hwatch
        have hother : p.watcher ≠ some t := by
          rw [watcher_of_cons hcalls]
          split_ifs <;> simp [ht]
        simp [hother, h.watched hwatcher]
  · rintro hne hnil
    exact hne (by simp [hnil])
  · simp [h.ordered hw]

theorem letGo (h : p.Orderly) : p.letGo.Orderly := by
  rw [letGo_eq]
  refine ⟨nofun, nofun, nofun, fun _ => rfl, fun hw => ?_, fun hw => ⟨(h.atRest hw).1, rfl⟩⟩
  simp [h.ordered hw]

end Orderly

end Pipeline

end MessageExchange.Outbound

import MessageExchange.Proofs.Outbound.Intake
import MessageExchange.Proofs.Outbound.Log
import MessageExchange.Proofs.Outbound.Returns

/-! A shutdown call with a drain time. It is the first one, so it has its turn at once, and it watches the
worker until it has stopped or the time is up. What is queued at that moment is dropped, and nothing else;
what is being sent then is sent to its end. All this is about runs in which nobody sleeps over his time. -/

namespace MessageExchange.Outbound

open Correlation (Ticket)

namespace Move

def isPass : Move → Bool
  | pass _ => true
  | _ => false

def isExpire : Move → Bool
  | expire => true
  | _ => false

def forsakes (t : Ticket) : Move → Bool
  | cancel t' => t' == t
  | letGo => true
  | _ => false

end Move

namespace Pipeline

/-- It is the turn of a call that has not noticed yet. -/
def Due (p : Pipeline) : Prop := p.unwatched = true ∧ p.calls ≠ []

instance (p : Pipeline) : Decidable p.Due := inferInstanceAs (Decidable (_ ∧ _))

theorem lapsed_iff {p : Pipeline} {now : Span} :
    p.Lapsed now ↔ p.worker ≠ .stopped ∧ (p.calls.head?.any fun call =>
      match call.phase with
      | .draining _ (some deadline) => decide (deadline.nanos ≤ now.nanos)
      | _ => false) = true := by
  unfold Lapsed
  refine and_congr_right fun _ => ?_
  cases p.calls with
  | nil => simp
  | cons call rest =>
    obtain ⟨t, phase⟩ := call
    cases phase with
    | draining drain deadline => cases deadline <;> simp
    | _ => simp

instance (p : Pipeline) (now : Span) : Decidable (p.Lapsed now) := decidable_of_iff _ lapsed_iff.symm

end Pipeline

namespace Course

variable {c c' : Course} {m : Move} {notes : List Note} {t : Ticket} {drain : Span} {up : Nat}

/-- The move comes no later than it should: a call takes its turn before the clock moves on, and before
anything else happens a watching call notices that its time is up. -/
def Prompt (c : Course) (m : Move) : Prop :=
  (m.isPass = true → ¬ c.pipeline.Due) ∧ (c.pipeline.Lapsed c.waiting → m.isExpire = true)

instance (c : Course) (m : Move) : Decidable (c.Prompt m) := inferInstanceAs (Decidable (_ ∧ _))

def Timely (c : Course) : List Move → Prop
  | [] => True
  | m :: rest => c.Prompt m ∧ (c.step m).1.Timely rest

instance decidableTimely (c : Course) : ∀ moves, Decidable (c.Timely moves)
  | [] => .isTrue trivial
  | m :: rest =>
    have := decidableTimely (c.step m).1 rest
    inferInstanceAs (Decidable (_ ∧ _))

theorem timely_append {us vs : List Move} :
    c.Timely (us ++ vs) ↔ c.Timely us ∧ (c.after us).Timely vs := by
  induction us generalizing c with
  | nil => exact iff_and_self.2 fun _ => trivial
  | cons m rest ih => exact (and_congr_right fun _ => ih).trans and_assoc.symm

/-- All that can happen to the first call, as long as it is not given up. -/
theorem head_stepped {phase : Phase} (hs : Stepped c m c' notes) (hm : m.forsakes t = false)
    (hhead : c.pipeline.calls.head? = some ⟨t, phase⟩) :
    (c'.pipeline.calls.head? = some ⟨t, phase⟩ ∧ c'.pipeline.unwatched = c.pipeline.unwatched ∧
        c'.pipeline.order = c.pipeline.order ∧ (m.isPass = false → c'.waiting = c.waiting)) ∨
      (∃ d, phase = .queued d ∧ c.pipeline.unwatched = true ∧ c'.pipeline.unwatched = false ∧
        c'.pipeline.order = c.pipeline.order ∧ c'.pipeline.calls.head? = some ⟨t, .draining d
          (if d.nanos = 0 then none else some ⟨c.waiting.nanos + d.nanos⟩)⟩) ∨
      ((phase.waits = true ∧ c.pipeline.unwatched = false ∨
          phase.waits = false ∧ c.pipeline.worker = .stopped) ∧
        c'.pipeline.unwatched = c.pipeline.unwatched ∧ c'.pipeline.worker = c.pipeline.worker) ∨
      ∃ d deadline, phase = .draining d (some deadline) ∧ c'.pipeline.order = .given ∧
        c'.pipeline.unwatched = c.pipeline.unwatched ∧
        c'.pipeline.calls.head? = some ⟨t, .abandoning⟩ := by
  cases hs with
  | finish hsending o => cases o <;> exact .inl ⟨hhead, rfl, rfl, fun _ => rfl⟩
  | shutdown d =>
    refine .inl ⟨?_, rfl, rfl, fun _ => rfl⟩
    simp [Pipeline.shutdown, List.head?_append, hhead]
  | turn hcalls hun =>
    rw [hcalls, List.head?_cons] at hhead
    cases hhead
    exact .inr (.inl ⟨_, rfl, hun, rfl, rfl, rfl⟩)
  | leave hcalls hwhy =>
    rw [hcalls, List.head?_cons] at hhead
    cases hhead
    exact .inr (.inr (.inl ⟨hwhy, rfl, rfl⟩))
  | lapse hcalls hlapsed =>
    rw [hcalls, List.head?_cons] at hhead
    cases hhead
    exact .inr (.inr (.inr ⟨_, _, rfl, rfl, rfl, rfl⟩))
  | @cancel t' hpending =>
    have hother : t' ≠ t := by simpa [Move.forsakes] using hm
    obtain ⟨rest, hcalls⟩ := List.head?_eq_some_iff.1 hhead
    have hwatcher : c.pipeline.watcher ≠ some t' := by
      rw [Pipeline.watcher_of_cons hcalls]
      split_ifs <;> simp [hother.symm]
    rw [Pipeline.cancel_eq]
    refine .inl ⟨?_, rfl, if_neg fun h => hwatcher h.1, fun _ => rfl⟩
    simp [hcalls, hother.symm]
  | letGo => cases hm
  | pass span => exact .inl ⟨hhead, rfl, rfl, fun hother => by cases hother⟩
  | _ => exact .inl ⟨hhead, rfl, rfl, fun _ => rfl⟩

/-- How far the first shutdown call is: it may wait for the worker until `up`. -/
inductive Stage (c : Course) (t : Ticket) (drain : Span) (up : Nat) : Prop
  | asked (head : c.pipeline.calls.head? = some ⟨t, .queued drain⟩)
    (unwatched : c.pipeline.unwatched = true) (now : c.waiting.nanos + drain.nanos = up)
  | watching (head : c.pipeline.calls.head? = some ⟨t, .draining drain
      (if drain.nanos = 0 then none else some ⟨up⟩)⟩)
    (watched : c.pipeline.unwatched = false)
  | abandoning (head : c.pipeline.calls.head? = some ⟨t, .abandoning⟩)
    (watched : c.pipeline.unwatched = false) (told : c.pipeline.order = .given)
  /-- It has returned. -/
  | returned (stopped : c.pipeline.worker = .stopped) (watched : c.pipeline.unwatched = false)

/-- What holds while the first shutdown call is not given up. The order to drop is given once the time is
up, and by then the call no longer watches. -/
structure Attended (c : Course) (t : Ticket) (drain : Span) (up : Nat) : Prop where
  orderly : c.pipeline.Orderly
  shut : c.pipeline.accepting = false
  stage : c.Stage t drain up
  late : c.pipeline.order = .given → drain.nanos ≠ 0 ∧ up ≤ c.waiting.nanos

theorem unwatched_stepped (hs : Stepped c m c' notes) (hw : c.pipeline.unwatched = false) :
    c'.pipeline.unwatched = false := by
  cases hs with
  | finish hsending o => cases o <;> exact hw
  | turn hcalls hun => rfl
  | cancel hpending =>
    rw [Pipeline.cancel_eq]
    exact hw
  | letGo =>
    rw [Pipeline.letGo_eq]
  | _ => exact hw

theorem clock_stepped (hs : Stepped c m c' notes) : c.waiting.nanos ≤ c'.waiting.nanos := by
  cases hs with
  | pass span => exact Nat.le_add_right _ _
  | _ => exact le_rfl

/-- What is never noted while something holds that every move keeps. -/
theorem quiet_while {α : Type} {f : Note → Option α} {P : Course → Prop}
    (hkeep : ∀ {c}, c.pipeline.Orderly → P c → ∀ m, P (c.step m).1)
    (hquiet : ∀ {c c' m notes}, P c → Stepped c m c' notes → notes.filterMap f = [])
    (ho : c.pipeline.Orderly) (h : P c) (moves : List Move) : (c.notes moves).filterMap f = [] := by
  induction moves generalizing c with
  | nil => rfl
  | cons m rest ih =>
    rw [notes, List.filterMap_append, hquiet h (stepped ho m)]
    exact ih (orderly_step ho m) (hkeep ho h m)

theorem invoked_of_given (ho : c.pipeline.Orderly) (hgiven : c.pipeline.order = .given)
    (moves : List Move) : c.invoked moves = [] := by
  refine quiet_while (P := fun c => c.pipeline.order = .given) given_step ?_ ho hgiven moves
  intro c c' m notes hgiven hs
  cases hs with
  | invoke hidle hq hfree => exact absurd hgiven hfree
  | _ => rfl

theorem invoked_of_stopped (ho : c.pipeline.Orderly) (hstopped : c.pipeline.worker = .stopped)
    (moves : List Move) : c.invoked moves = [] := by
  refine quiet_while (P := fun c => c.pipeline.worker = .stopped)
    (fun ho hstopped m => (stopped_step ho hstopped (stepped ho m)).1) ?_ ho hstopped moves
  intro c c' m notes hstopped hs
  cases hs with
  | invoke hidle hq hfree =>
    rw [hstopped] at hidle
    cases hidle
  | _ => rfl

theorem accepted_of_shut (ho : c.pipeline.Orderly) (hshut : c.pipeline.accepting = false)
    (moves : List Move) : c.accepted moves = [] := by
  refine quiet_while (P := fun c => c.pipeline.accepting = false) ?_ ?_ ho hshut moves
  · intro c ho hshut m
    rw [accepting_step ho m, hshut, Bool.false_and]
  · intro c c' m notes hshut hs
    cases hs with
    | accept hopen =>
      rw [hshut] at hopen
      cases hopen
    | _ => rfl

namespace Attended

theorem stage_step (h : c.Attended t drain up) (hs : Stepped c m c' notes)
    (hm : m.forsakes t = false) (hp : c.Prompt m) : c'.Stage t drain up := by
  cases h.stage with
  | asked hhead hun hnow =>
    have hdue : c.pipeline.Due := by
      refine ⟨hun, ?_⟩
      rintro hnil
      rw [hnil] at hhead
      cases hhead
    have hstill : m.isPass = false := Bool.eq_false_iff.2 fun hpass => hp.1 hpass hdue
    rcases head_stepped hs hm hhead with ⟨hsame, hsameun, -, hclock⟩ |
      ⟨d, hphase, -, hwatched, -, hturn⟩ | ⟨⟨-, hwatched⟩ | ⟨hwaits, -⟩, -⟩ | ⟨d, deadline, hphase, -⟩
    · exact .asked hsame (hsameun.trans hun) (hclock hstill ▸ hnow)
    · cases hphase
      rw [hnow] at hturn
      exact .watching hturn hwatched
    · rw [hun] at hwatched
      cases hwatched
    · cases hwaits
    · cases hphase
  | watching hhead hwatched =>
    rcases head_stepped hs hm hhead with ⟨hsame, hsameun, -⟩ | ⟨d, hphase, -⟩ |
      ⟨⟨hwaits, -⟩ | ⟨-, hstopped⟩, hsameun, hsameworker⟩ | ⟨d, deadline, -, htold, hsameun, hnoticed⟩
    · exact .watching hsame (hsameun.trans hwatched)
    · cases hphase
    · cases hwaits
    · exact .returned (hsameworker.trans hstopped) (hsameun.trans hwatched)
    · exact .abandoning hnoticed (hsameun.trans hwatched) htold
  | abandoning hhead hwatched htold =>
    rcases head_stepped hs hm hhead with ⟨hsame, hsameun, hsameorder, -⟩ | ⟨d, hphase, -⟩ |
      ⟨⟨hwaits, -⟩ | ⟨-, hstopped⟩, hsameun, hsameworker⟩ | ⟨d, deadline, hphase, -⟩
    · exact .abandoning hsame (hsameun.trans hwatched) (hsameorder.trans htold)
    · cases hphase
    · cases hwaits
    · exact .returned (hsameworker.trans hstopped) (hsameun.trans hwatched)
    · cases hphase
  | returned hstopped hwatched =>
    exact .returned (stopped_step h.orderly hstopped hs).1 (unwatched_stepped hs hwatched)

theorem time_up (h : c.Attended t drain up) (hlapsed : c.pipeline.Lapsed c.waiting) :
    drain.nanos ≠ 0 ∧ up ≤ c.waiting.nanos := by
  obtain ⟨hworker, t', d, deadline, rest, hcalls, hle⟩ := hlapsed
  cases h.stage with
  | asked hhead hun hnow =>
    rw [hcalls] at hhead
    cases hhead
  | watching hhead hwatched =>
    rw [hcalls, List.head?_cons] at hhead
    simp only [Option.some.injEq, Call.mk.injEq, Phase.draining.injEq] at hhead
    obtain ⟨-, -, hdeadline⟩ := hhead
    split_ifs at hdeadline with hzero
    cases hdeadline
    exact ⟨hzero, hle⟩
  | abandoning hhead hwatched htold =>
    rw [hcalls] at hhead
    cases hhead
  | returned hstopped hwatched => exact absurd hstopped hworker

theorem step (h : c.Attended t drain up) (hm : m.forsakes t = false) (hp : c.Prompt m) :
    (c.step m).1.Attended t drain up := by
  have hs := stepped h.orderly m
  refine ⟨orderly_step h.orderly m, ?_, h.stage_step hs hm hp, fun hgiven => ?_⟩
  · rw [accepting_step h.orderly m, h.shut]
    rfl
  · have hclock := clock_stepped hs
    rcases order_step hs with hsame | ⟨-, hlapsed, -⟩ | ⟨-, hwaived⟩
    · obtain ⟨hzero, hle⟩ := h.late (hsame.symm.trans hgiven)
      exact ⟨hzero, hle.trans hclock⟩
    · obtain ⟨hzero, hle⟩ := h.time_up hlapsed
      exact ⟨hzero, hle.trans hclock⟩
    · rw [hgiven] at hwaived
      cases hwaived

theorem run (h : c.Attended t drain up) {moves : List Move}
    (hm : ∀ m ∈ moves, m.forsakes t = false) (hp : c.Timely moves) :
    (c.after moves).Attended t drain up := by
  induction moves generalizing c with
  | nil => exact h
  | cons m rest ih =>
    obtain ⟨hnow, hlater⟩ := hp
    exact ih (h.step (hm m List.mem_cons_self) hnow)
      (fun m' hm' => hm m' (List.mem_cons_of_mem m hm')) hlater

theorem start (h : c.pipeline.Orderly) (hopen : c.pipeline.accepting = true) (drain : Span) :
    (c.step (.shutdown drain)).1.Attended c.next drain (c.waiting.nanos + drain.nanos) := by
  have hfresh : ¬ (c.pipeline.calls ≠ [] ∨ c.pipeline.unwatched = false) := fun hwhy => by
    rw [h.shut hwhy] at hopen
    cases hopen
  obtain ⟨hcalls, hun⟩ := not_or.1 hfresh
  rw [not_not] at hcalls
  rw [Bool.not_eq_false] at hun
  refine ⟨orderly_step h _, rfl, .asked ?_ hun rfl, fun hgiven => ?_⟩
  · simp only [Course.step, Pipeline.shutdown, hcalls]
    rfl
  · have hpending := (h.fresh hun).1
    rw [show (c.step (.shutdown drain)).1.pipeline.order = c.pipeline.order from rfl, hpending] at hgiven
    cases hgiven

theorem untaken (h : c.Attended t drain up) (hzero : drain.nanos ≠ 0) (hup : up ≤ c.waiting.nanos)
    {moves : List Move} (hp : c.Timely moves) : c.invoked moves = [] := by
  cases h.stage with
  | asked hhead hun hnow => omega
  | watching hhead hwatched =>
    by_cases hstopped : c.pipeline.worker = .stopped
    · exact invoked_of_stopped h.orderly hstopped moves
    · rw [if_neg hzero] at hhead
      obtain ⟨rest, hcalls⟩ := List.head?_eq_some_iff.1 hhead
      have hlapsed : c.pipeline.Lapsed c.waiting := ⟨hstopped, t, drain, _, rest, hcalls, hup⟩
      cases moves with
      | nil => rfl
      | cons m later =>
        -- the call notices now, before the worker can take anything up
        have hnow := hp.1.2 hlapsed
        cases m with
        | expire =>
          have hgiven : (c.step .expire).1.pipeline.order = .given := by
            simp [Course.step, Pipeline.expire, hcalls, hup, hstopped]
          rw [invoked, notes, List.filterMap_append]
          exact invoked_of_given (orderly_step h.orderly .expire) hgiven later
        | _ => cases hnow
  | abandoning hhead hwatched htold => exact invoked_of_given h.orderly htold moves
  | returned hstopped hwatched => exact invoked_of_stopped h.orderly hstopped moves

end Attended

/-- What becomes of the messages of `c` along the moves if its time is up: none is taken up any more, what
is queued is dropped from the front, and what is on its way comes to its own end. -/
structure CutOff (c : Course) (moves : List Move) : Prop where
  untaken : c.invoked moves = []
  dropped : c.dropped moves ++ (c.after moves).pipeline.queue = c.pipeline.queue
  ended : (c.finished moves).map Prod.fst ++ (c.after moves).pipeline.current = c.pipeline.current
  counted : (c.after moves).pipeline.stats = c.pipeline.stats + tally (c.notes moves)

theorem invoked_append (c : Course) (us vs : List Move) :
    c.invoked (us ++ vs) = c.invoked us ++ (c.after us).invoked vs := by
  rw [invoked, notes_append, List.filterMap_append]
  rfl

theorem dropped_append (c : Course) (us vs : List Move) :
    c.dropped (us ++ vs) = c.dropped us ++ (c.after us).dropped vs := by
  rw [dropped, notes_append, List.filterMap_append]
  rfl

theorem finished_append (c : Course) (us vs : List Move) :
    c.finished (us ++ vs) = c.finished us ++ (c.after us).finished vs := by
  rw [finished, notes_append, List.filterMap_append]
  rfl

/-- Along the way from a shut intake, what is queued is taken up first, then dropped. -/
theorem queue_of_shut (wire : String) {us : List Move}
    (hshut : ((start wire).after us).pipeline.accepting = false)
    (hnone : (start wire).dropped us = []) (vs : List Move) :
    let c := (start wire).after us
    c.invoked vs ++ c.dropped vs ++ (c.after vs).pipeline.queue = c.pipeline.queue := by
  intro c
  have ho : c.pipeline.Orderly := orderly_after (Pipeline.Orderly.start wire) us
  have hbefore : (start wire).invoked us ++ (start wire).dropped us ++ c.pipeline.queue =
      numbered ((start wire).accepted us) := (balanced_after wire us).whole
  have hafter : (start wire).invoked (us ++ vs) ++ (start wire).dropped (us ++ vs) ++
      ((start wire).after (us ++ vs)).pipeline.queue =
        numbered ((start wire).accepted (us ++ vs)) := (balanced_after wire (us ++ vs)).whole
  have hsame : (start wire).accepted (us ++ vs) = (start wire).accepted us := by
    rw [accepted, notes_append, List.filterMap_append]
    exact (congrArg _ (accepted_of_shut ho hshut vs)).trans (List.append_nil _)
  rw [hsame, ← hbefore, invoked_append, dropped_append, hnone, after_append] at hafter
  simpa using hafter

theorem cutOff_of_untaken (wire : String) {us vs : List Move}
    (hshut : ((start wire).after us).pipeline.accepting = false)
    (hnone : (start wire).dropped us = [])
    (huntaken : ((start wire).after us).invoked vs = []) : ((start wire).after us).CutOff vs := by
  have hqueue := queue_of_shut wire hshut hnone vs
  have hbefore := (balanced_after wire us).ends
  have hafter : ((start wire).finished (us ++ vs)).map Prod.fst ++
      ((start wire).after (us ++ vs)).pipeline.current = (start wire).invoked (us ++ vs) :=
    (balanced_after wire (us ++ vs)).ends
  rw [invoked_append, huntaken, List.append_nil, finished_append, List.map_append, List.append_assoc,
    after_append] at hafter
  refine ⟨huntaken, ?_, ?_, ?_⟩
  · simpa [huntaken] using hqueue
  · exact List.append_cancel_left (hafter.trans hbefore.symm)
  · rw [← after_append, stats_after, stats_after, notes_append, tally_append]

/-- The worker goes on for `n` moves of its own, and each send that it begins ends at once. -/
def rounds (n : Nat) : List Move := (List.replicate n [.work, .finish .accepted]).flatten

def ahead (p : Pipeline) : Nat :=
  match p.worker with
  | .stopped => 0
  | .dropping => p.queue.length + 1
  | _ => p.queue.length + 2

/-- A round with a shut intake brings a worker that is not sending nearer to its end, and touches no call. -/
theorem round_step (hshut : c.pipeline.accepting = false) (hfree : c.pipeline.current = []) :
    let c' := c.after [.work, .finish .accepted]
    c'.pipeline.accepting = false ∧ c'.pipeline.current = [] ∧
      c'.pipeline.calls = c.pipeline.calls ∧ ahead c'.pipeline ≤ ahead c.pipeline - 1 := by
  obtain ⟨now, ⟨wire, accepting, number, stats, queue, worker, order, unwatched, calls⟩, next⟩ := c
  obtain rfl : accepting = false := hshut
  cases worker with
  | idle => cases queue <;> cases order <;> simp [after, Course.step, Pipeline.work, Pipeline.account, Pipeline.current, ahead]
  | sending i => cases hfree
  | dropping => cases queue <;> simp [after, Course.step, Pipeline.work, Pipeline.account, Pipeline.current, ahead]
  | stopped => simp [after, Course.step, Pipeline.work, Pipeline.account, Pipeline.current, ahead]

theorem stopped_rounds (hshut : c.pipeline.accepting = false) (hfree : c.pipeline.current = []) {n : Nat}
    (hn : ahead c.pipeline ≤ n) :
    let c' := c.after (rounds n)
    c'.pipeline.worker = .stopped ∧ c'.pipeline.calls = c.pipeline.calls := by
  induction n generalizing c with
  | zero =>
    refine ⟨?_, rfl⟩
    unfold ahead at hn
    cases hw : c.pipeline.worker <;> simp [hw] at hn ⊢
    exact hw
  | succ n ih =>
    obtain ⟨hshut', hfree', hcalls, hless⟩ := round_step hshut hfree
    obtain ⟨hstopped, hcalls'⟩ := ih hshut' hfree' (by omega)
    rw [show rounds (n + 1) = [.work, .finish .accepted] ++ rounds n from rfl, after_append]
    exact ⟨hstopped, hcalls'.trans hcalls⟩

end Course

end MessageExchange.Outbound

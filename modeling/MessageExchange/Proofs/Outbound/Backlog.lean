import MessageExchange.Proofs.Outbound.Draining

/-! What a shutdown call with a drain time drops is the backlog at the moment its time is up: all of it, in
order, and nothing else. As long as nobody sleeps over his time the call returns only after the last send
has come to its end, and then it can return. -/

namespace MessageExchange.Outbound

open Correlation (Ticket)

namespace Course

variable {c c' : Course} {m : Move} {notes : List Note} {t : Ticket} {drain : Span} {up : Nat}

/-- While the clock stands still nobody's time runs out. -/
theorem unlapsed_stepped (ho : c.pipeline.Orderly) (hs : Stepped c m c' notes) (hm : m.isPass = false)
    (hl : ¬ c.pipeline.Lapsed c.waiting) : ¬ c'.pipeline.Lapsed c'.waiting := by
  rintro ⟨hworker, t, drain, deadline, rest, hcalls, hle⟩
  cases hs with
  | finish hsending o =>
    refine hl ⟨by simp [hsending], t, drain, deadline, rest, ?_, hle⟩
    cases o <;> exact hcalls
  | invoke hidle | obey hidle => exact hl ⟨by simp [hidle], t, drain, deadline, rest, hcalls, hle⟩
  | stop => exact hworker rfl
  | shutdown d =>
    cases hbefore : c.pipeline.calls with
    | nil => simp [Pipeline.shutdown, hbefore] at hcalls
    | cons call others =>
      simp only [Pipeline.shutdown, hbefore, List.cons_append, List.cons.injEq] at hcalls
      exact hl ⟨hworker, t, drain, deadline, others, hcalls.1 ▸ hbefore, hle⟩
  | turn hbefore hun =>
    -- the deadline has just been set, and it is yet to come
    simp only [List.cons.injEq, Call.mk.injEq, Phase.draining.injEq] at hcalls
    obtain ⟨⟨-, -, hdeadline⟩, -⟩ := hcalls
    split_ifs at hdeadline with hzero
    cases hdeadline
    have : c.waiting.nanos + _ ≤ c.waiting.nanos := hle
    omega
  | @leave call others hbefore hwhy =>
    change others = _ at hcalls
    rw [hcalls] at hbefore
    cases ho.waits_of_mem hbefore List.mem_cons_self
  | lapse hbefore hlapsed => exact hl hlapsed
  | @cancel t' hpending =>
    rw [Pipeline.cancel_eq] at hworker hcalls
    have hmem : (⟨t, .draining drain (some deadline)⟩ : Call) ∈ c.pipeline.calls :=
      List.mem_of_mem_filter (hcalls ▸ List.mem_cons_self)
    cases hbefore : c.pipeline.calls with
    | nil => simp [hbefore] at hmem
    | cons call others =>
      rw [hbefore, List.mem_cons] at hmem
      rcases hmem with rfl | hmem
      · exact hl ⟨hworker, t, drain, deadline, others, hbefore, hle⟩
      · cases ho.waits_of_mem hbefore hmem
  | letGo =>
    rw [Pipeline.letGo_eq] at hcalls
    cases hcalls
  | pass span => cases hm
  | _ => exact hl ⟨hworker, t, drain, deadline, rest, hcalls, hle⟩

theorem timely_of_unlapsed (ho : c.pipeline.Orderly) (hl : ¬ c.pipeline.Lapsed c.waiting)
    {moves : List Move} (hm : ∀ m ∈ moves, m.isPass = false) :
    c.Timely moves ∧ ¬ (c.after moves).pipeline.Lapsed (c.after moves).waiting := by
  induction moves generalizing c with
  | nil => exact ⟨trivial, hl⟩
  | cons m rest ih =>
    obtain ⟨hstill, hrest⟩ := List.forall_mem_cons.1 hm
    have hprompt : c.Prompt m := by
      refine ⟨fun hpass => ?_, fun hlapsed => absurd hlapsed hl⟩
      rw [hstill] at hpass
      cases hpass
    obtain ⟨htimely, hend⟩ :=
      ih (orderly_step ho m) (unlapsed_stepped ho (stepped ho m) hstill hl) hrest
    exact ⟨⟨hprompt, htimely⟩, hend⟩

namespace Attended

theorem stopped_of_ended {t' : Ticket} {stats : Stats} (h : c.Attended t drain up)
    (hs : Stepped c m c' notes) (he : .ended t' stats ∈ notes) : c.pipeline.worker = .stopped := by
  obtain ⟨-, call, rest, hcalls, -, hwhy⟩ := ended_cases hs he
  rcases hwhy with ⟨hwaits, hwatched⟩ | ⟨-, hstopped⟩
  · have hhead : c.pipeline.calls.head? = some call := by rw [hcalls, List.head?_cons]
    cases h.stage with
    | asked hasked hun =>
      rw [hun] at hwatched
      cases hwatched
    | watching hwatching | abandoning hwatching =>
      rw [hhead] at hwatching
      cases hwatching
      cases hwaits
    | returned hstopped => exact hstopped
  · exact hstopped

theorem pending_of_early (h : c.Attended t drain up) (hearly : drain.nanos = 0 ∨ c.waiting.nanos < up) :
    c.pipeline.order ≠ .given := by
  intro hgiven
  obtain ⟨hzero, hle⟩ := h.late hgiven
  omega

end Attended

theorem undropped_of_early (wire : String) {us : List Move}
    (h : ((start wire).after us).Attended t drain up)
    (hearly : drain.nanos = 0 ∨ ((start wire).after us).waiting.nanos < up) :
    (start wire).dropped us = [] := by
  by_contra hdropped
  exact h.pending_of_early hearly (given_of_dropped (Pipeline.Orderly.start wire) us hdropped)

theorem exists_leave {head : Call} {rest : List Call} (hcalls : c.pipeline.calls = head :: rest)
    (hstopped : c.pipeline.worker = .stopped) :
    ∃ n, (c.after (List.replicate n .attend)).pipeline.calls = rest ∧
      (c.after (List.replicate n .attend)).pipeline.worker = .stopped ∧
      .ended head.ticket c.pipeline.stats ∈ c.notes (List.replicate n .attend) := by
  obtain ⟨t, phase⟩ := head
  cases phase with
  | queued d =>
    cases hun : c.pipeline.unwatched with
    | true =>
      -- it takes its turn first
      refine ⟨2, ?_⟩
      simp [after, notes, Course.step, Pipeline.attend, hcalls, hstopped, hun]
    | false =>
      refine ⟨1, ?_⟩
      simp [after, notes, Course.step, Pipeline.attend, hcalls, hstopped, hun]
  | _ =>
    refine ⟨1, ?_⟩
    simp [after, notes, Course.step, Pipeline.attend, hcalls, hstopped]

/-- Once the worker has stopped, every call can return. -/
theorem exists_return_of_stopped {call : Call} (hcall : call ∈ c.pipeline.calls)
    (hstopped : c.pipeline.worker = .stopped) :
    ∃ n stats, .ended call.ticket stats ∈ c.notes (List.replicate n .attend) := by
  generalize hcalls : c.pipeline.calls = calls at hcall
  induction calls generalizing c with
  | nil => cases hcall
  | cons head rest ih =>
    obtain ⟨n, hrest, hstill, hended⟩ := exists_leave hcalls hstopped
    rcases List.mem_cons.1 hcall with rfl | hlater
    · exact ⟨n, _, hended⟩
    · obtain ⟨k, stats, hreturn⟩ := ih hstill hrest hlater
      refine ⟨n + k, stats, ?_⟩
      rw [← List.replicate_append_replicate, notes_append]
      exact List.mem_append_right _ hreturn

theorem expire_calls (c : Course) :
    (c.step .expire).1.pipeline.calls.map Call.ticket = c.pipeline.calls.map Call.ticket ∧
      ¬ (c.step .expire).1.pipeline.Lapsed (c.step .expire).1.waiting := by
  rcases Pipeline.expire_cases c.pipeline c.waiting with
    ⟨hl, hp⟩ | ⟨t, drain, deadline, rest, hcalls, -, hp⟩
  · rw [Course.step, hp]
    exact ⟨rfl, hl⟩
  · rw [Course.step, hp, hcalls]
    exact ⟨rfl, by rintro ⟨-, t', drain', deadline', rest', hne, -⟩; cases hne⟩

theorem finish_calls (c : Course) (o : Outcome) :
    (c.step (.finish o)).1.pipeline.current = [] ∧
      (c.step (.finish o)).1.pipeline.calls = c.pipeline.calls := by
  cases hw : c.pipeline.worker with
  | sending i => cases o <;> simp [Course.step, hw, Pipeline.account, Pipeline.current]
  | _ => simp [Course.step, hw, Pipeline.current]

/-- From a shut intake every call can return, without the clock moving on and with nobody late. -/
theorem exists_return (ho : c.pipeline.Orderly) (hshut : c.pipeline.accepting = false)
    (hpending : c.pipeline.isPending t = true) :
    ∃ more stats, c.Timely more ∧ .ended t stats ∈ c.notes more := by
  -- whose time is up says so, the send under way ends, and the worker goes on to its end
  let expired := (c.step .expire).1
  let freed := (expired.step (.finish .accepted)).1
  let rested := freed.after (rounds (ahead freed.pipeline))
  obtain ⟨htickets, hl⟩ := expire_calls c
  obtain ⟨hfree, hcalls⟩ := finish_calls expired .accepted
  have horderly : expired.pipeline.Orderly := orderly_step ho .expire
  have hclosed : freed.pipeline.accepting = false := by
    rw [accepting_step horderly, accepting_step ho, hshut]
    rfl
  obtain ⟨hstopped, hsame⟩ := stopped_rounds hclosed hfree (le_refl (ahead freed.pipeline))
  have hin : t ∈ rested.pipeline.calls.map Call.ticket := by
    rw [hsame, hcalls, htickets]
    simpa [Pipeline.isPending] using hpending
  obtain ⟨call, hcall, rfl⟩ := List.mem_map.1 hin
  obtain ⟨n, stats, hended⟩ := exists_return_of_stopped hcall hstopped
  have hprompt : c.Prompt .expire := by
    refine ⟨fun hpass => ?_, fun _ => rfl⟩
    cases hpass
  refine ⟨.expire :: .finish .accepted :: (rounds (ahead freed.pipeline) ++ List.replicate n .attend),
    stats, ⟨hprompt, (timely_of_unlapsed horderly hl ?_).1⟩, ?_⟩
  · intro m hm
    simp only [rounds, List.mem_cons, List.mem_append, List.mem_flatten, List.mem_replicate] at hm
    rcases hm with rfl | ⟨l, ⟨-, rfl⟩, hm⟩ | ⟨-, rfl⟩
    · rfl
    · simp only [List.mem_cons, List.not_mem_nil, or_false] at hm
      rcases hm with rfl | rfl <;> rfl
    · rfl
  · simp only [notes, notes_append, List.mem_append]
    exact .inr (.inr (.inr hended))

theorem cutOff_of_pass (wire : String) {us vs : List Move} {span : Span}
    (h : ((start wire).after us).Attended t drain up)
    (hp : ((start wire).after us).Timely (.pass span :: vs)) (hzero : drain.nanos ≠ 0)
    (hearly : ((start wire).after us).waiting.nanos < up)
    (hup : up ≤ ((start wire).after us).waiting.nanos + span.nanos) :
    (start wire).dropped us = [] ∧ ((start wire).after us).CutOff (.pass span :: vs) := by
  have hnone := undropped_of_early wire h (.inr hearly)
  have hreached := h.step (m := .pass span) rfl hp.1
  exact ⟨hnone, cutOff_of_untaken wire h.shut hnone (hreached.untaken hzero hup hp.2)⟩

theorem CutOff.notMem_invoked (wire : String) {us vs : List Move}
    (h : ((start wire).after us).CutOff vs) {i : Item}
    (hi : i ∈ ((start wire).after us).pipeline.queue) : i ∉ (start wire).invoked (us ++ vs) := by
  rw [invoked_append, h.untaken, List.append_nil]
  intro hinvoked
  exact List.disjoint_of_nodup_append (balanced_after wire us).nodup
    (List.mem_append_left _ hinvoked) hi

theorem CutOff.dropped_of_stopped (wire : String) {us vs : List Move}
    (h : ((start wire).after us).CutOff vs) (hnone : (start wire).dropped us = [])
    (hstopped : ((start wire).after (us ++ vs)).pipeline.worker = .stopped) :
    (start wire).dropped (us ++ vs) = ((start wire).after us).pipeline.queue ∧
      ((start wire).after (us ++ vs)).pipeline.stats.dropped =
        ((start wire).after us).pipeline.queue.length := by
  have hempty := ((orderly_after (Pipeline.Orderly.start wire) (us ++ vs)).atRest hstopped).1
  have hall : (start wire).dropped (us ++ vs) = ((start wire).after us).pipeline.queue := by
    rw [dropped_append, hnone, List.nil_append, ← h.dropped, ← after_append, hempty, List.append_nil]
  refine ⟨hall, ?_⟩
  rw [stats_after, ← hall]
  rfl

/-- A pipeline attends to the call that shuts its intake. -/
theorem attended_after (wire : String) {before us vs : List Move} (drain : Span)
    (hfresh : ∀ m ∈ before, m.shutsIntake = false)
    (hkept : ∀ m ∈ us, m.forsakes ((start wire).after before).next = false)
    (htimely : ((start wire).after before).Timely (.shutdown drain :: (us ++ vs))) :
    let c := (start wire).after before
    let d := (start wire).after (before ++ .shutdown drain :: us)
    d.Attended c.next drain (c.waiting.nanos + drain.nanos) ∧ d.Timely vs := by
  intro c d
  have ho : (start wire).pipeline.Orderly := Pipeline.Orderly.start wire
  have hopen : c.pipeline.accepting = true := by
    have hnone : before.any Move.shutsIntake = false := List.any_eq_false.2 (by simpa using hfresh)
    rw [accepting_after ho, hnone]
    rfl
  obtain ⟨hbefore, hafter⟩ := timely_append.1 htimely.2
  have hasked := Attended.start (orderly_after ho before) hopen drain
  have hd : d = ((c.step (.shutdown drain)).1).after us := after_append (start wire) before _
  rw [hd]
  exact ⟨hasked.run hkept hbefore, hafter⟩

/-- A drain drops exactly the backlog. The intake was open, a call is made with a drain time and is not
given up, and nobody sleeps over his time; sends end whenever and however they like. Without a limit, or
if all is done before the time is up, nothing is dropped. Otherwise, as the clock reaches the limit, nothing
was dropped yet, and from then on exactly what is queued is, in order, and none of it is ever sent, while
what is on its way comes to its own end and counts by it. Whoever returns finds the worker stopped and every
message accounted for, and every call in line can return. -/
theorem bounded_drain (wire : String) {before later : List Move} (drain : Span)
    (hfresh : ∀ m ∈ before, m.shutsIntake = false)
    (hkept : ∀ m ∈ later, m.forsakes ((start wire).after before).next = false)
    (htimely : ((start wire).after before).Timely (.shutdown drain :: later)) :
    let c := start wire
    let t := (c.after before).next
    let up := (c.after before).waiting.nanos + drain.nanos
    let upTo (us : List Move) := before ++ .shutdown drain :: us
    (drain.nanos = 0 ∨ (c.after (upTo later)).waiting.nanos < up ∨
        (∃ us vs, later = us ++ vs ∧ (c.after (upTo us)).waiting.nanos < up ∧
          (c.after (upTo us)).pipeline.queue = []) →
      c.dropped (upTo later) = []) ∧
    (∀ us span vs, later = us ++ .pass span :: vs → drain.nanos ≠ 0 →
      (c.after (upTo us)).waiting.nanos < up →
      up ≤ (c.after (upTo us)).waiting.nanos + span.nanos →
      let d := c.after (upTo us)
      c.dropped (upTo us) = [] ∧ d.CutOff (.pass span :: vs) ∧
        (∀ i ∈ d.pipeline.queue, i ∉ c.invoked (upTo later)) ∧
        ((c.after (upTo later)).pipeline.worker = .stopped →
          c.dropped (upTo later) = d.pipeline.queue ∧
            (c.after (upTo later)).pipeline.stats.dropped = d.pipeline.queue.length)) ∧
    (∀ us m vs t' stats, later = us ++ m :: vs → .ended t' stats ∈ ((c.after (upTo us)).step m).2 →
      c.Final (upTo us) stats) ∧
    ((c.after (upTo later)).pipeline.isPending t = true →
      ∃ more stats, (c.after (upTo later)).Timely more ∧
        .ended t stats ∈ (c.after (upTo later)).notes more) := by
  intro c t up upTo
  have hattended : ∀ us vs, later = us ++ vs → (c.after (upTo us)).Attended t drain up ∧
      (c.after (upTo us)).Timely vs := by
    rintro us vs rfl
    exact attended_after wire drain hfresh (fun m hm => hkept m (List.mem_append_left _ hm)) htimely
  have hwhole : ∀ us vs, upTo (us ++ vs) = upTo us ++ vs := fun us vs => by simp [upTo]
  refine ⟨?_, ?_, ?_, ?_⟩
  · have hend := (hattended later [] (List.append_nil _).symm).1
    rintro (hzero | hearly | ⟨us, vs, rfl, hearly, hempty⟩)
    · exact undropped_of_early wire hend (.inl hzero)
    · exact undropped_of_early wire hend (.inr hearly)
    · obtain ⟨hbefore, -⟩ := hattended us vs rfl
      have hnone := undropped_of_early wire hbefore (.inr hearly)
      have hqueue := (queue_of_shut wire hbefore.shut hnone vs).trans hempty
      obtain ⟨hleft, -⟩ := List.append_eq_nil_iff.1 hqueue
      rw [hwhole, dropped_append, hnone, (List.append_eq_nil_iff.1 hleft).2]
      rfl
  · rintro us span vs rfl hzero hearly hup d
    obtain ⟨hbefore, hafter⟩ := hattended us (.pass span :: vs) rfl
    obtain ⟨hnone, hcut⟩ := cutOff_of_pass wire hbefore hafter hzero hearly hup
    rw [hwhole]
    exact ⟨hnone, hcut, fun i hi => hcut.notMem_invoked wire hi,
      hcut.dropped_of_stopped wire hnone⟩
  · rintro us m vs t' stats rfl hended
    obtain ⟨hbefore, -⟩ := hattended us (m :: vs) rfl
    have hs := stepped hbefore.orderly m
    rw [(ended_cases hs hended).1]
    exact final_of_stopped wire (hbefore.stopped_of_ended hs hended)
  · intro hpending
    have hend := (hattended later [] (List.append_nil _).symm).1
    exact exists_return hend.orderly hend.shut hpending

/-- Three messages are accepted and the call has five nanoseconds. The first is sent in time. The second is
on its way when the time is up, and fails on its own. The third is dropped. -/
theorem bounded_drain_cut_short :
    let c := start "wire"
    let before : List Move := [.enqueue parcel lane, .enqueue parcel lane, .enqueue parcel lane, .work]
    let early : List Move := [.attend, .finish .accepted, .work]
    let late : List Move := [.expire, .finish (.failed .noPayload), .work, .work, .work]
    let later := early ++ .pass ⟨5⟩ :: (late ++ [.attend])
    let run (us : List Move) := before ++ .shutdown ⟨5⟩ :: us
    (∀ m ∈ before, m.shutsIntake = false) ∧
      (∀ m ∈ later, m.forsakes (c.after before).next = false) ∧
      (c.after before).Timely (.shutdown ⟨5⟩ :: later) ∧
      (c.after (run early)).CutOff (.pass ⟨5⟩ :: (late ++ [.attend])) ∧
      c.dropped (run later) = [⟨2, parcel, lane⟩] ∧
      c.Final (run (early ++ .pass ⟨5⟩ :: late)) ⟨3, 1, 1, 1⟩ := by
  intro c before early late later run
  have hfresh : ∀ m ∈ before, m.shutsIntake = false := by simp [before, Move.shutsIntake]
  have hkept : ∀ m ∈ later, m.forsakes (c.after before).next = false := by
    simp [later, early, late, Move.forsakes]
  have htimely : (c.after before).Timely (.shutdown ⟨5⟩ :: later) := by decide +kernel
  obtain ⟨-, hcut, hfinal, -⟩ := bounded_drain "wire" ⟨5⟩ hfresh hkept htimely
  obtain ⟨-, hoff, -, hdropped⟩ := hcut early ⟨5⟩ (late ++ [.attend]) rfl (by decide) (by decide) (by decide)
  have hended := hfinal (early ++ .pass ⟨5⟩ :: late) .attend [] 0 ⟨3, 1, 1, 1⟩ rfl
    (List.mem_singleton.2 rfl)
  exact ⟨hfresh, hkept, htimely, hoff, (hdropped rfl).1, hended⟩

end Course

end MessageExchange.Outbound

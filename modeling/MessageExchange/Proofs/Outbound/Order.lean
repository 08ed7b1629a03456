import MessageExchange.Proofs.Outbound.Balance
import MessageExchange.Wire

/-! The order in which messages go out. They are taken up in the order they were accepted, and the ends
of earlier sends have no say in it. What is dropped is the last of them, and only after the drain time
of a call that was still watching had run out. -/

namespace MessageExchange.Outbound

open Correlation (Ticket)

namespace Course

variable {c : Course}

/-- What begins to hold along the moves begins with one of them. -/
theorem exists_onset {P : Course → Prop} (moves : List Move) (hstart : ¬ P c)
    (hend : P (c.after moves)) :
    ∃ us m vs, moves = us ++ m :: vs ∧ ¬ P (c.after us) ∧ P ((c.after us).step m).1 := by
  induction moves generalizing c with
  | nil => exact absurd hend hstart
  | cons m rest ih =>
    by_cases hm : P (c.step m).1
    · exact ⟨[], m, rest, rfl, hstart, hm⟩
    · obtain ⟨us, m', vs, rfl, hbefore, hafter⟩ := ih hm hend
      exact ⟨m :: us, m', vs, rfl, hbefore, hafter⟩

theorem order_step {c' : Course} {m : Move} {notes : List Note} (hs : Stepped c m c' notes) :
    c'.pipeline.order = c.pipeline.order ∨
      (m = .expire ∧ c.pipeline.Lapsed c.waiting ∧ c'.pipeline.order = .given) ∨
      (c.pipeline.order = .pending ∧ c'.pipeline.order = .waived) := by
  cases hs with
  | lapse hcalls hlapsed => exact .inr (.inl ⟨rfl, hlapsed, rfl⟩)
  | finish hsending o => cases o <;> exact .inl rfl
  | @cancel t hpending =>
    rw [Pipeline.cancel_eq]
    by_cases hwaive : c.pipeline.watcher = some t ∧ c.pipeline.order = .pending
    · exact .inr (.inr ⟨hwaive.2, if_pos hwaive⟩)
    · exact .inl (if_neg hwaive)
  | letGo =>
    rw [Pipeline.letGo_eq]
    by_cases hpending : c.pipeline.order = .pending
    · exact .inr (.inr ⟨hpending, if_pos hpending⟩)
    · exact .inl (if_neg hpending)
  | _ => exact .inl rfl

theorem given_step (h : c.pipeline.Orderly) (hg : c.pipeline.order = .given) (m : Move) :
    (c.step m).1.pipeline.order = .given := by
  rcases order_step (stepped h m) with hsame | ⟨-, -, hgiven⟩ | ⟨hpending, -⟩
  · rw [hsame, hg]
  · exact hgiven
  · exact absurd (hg.symm.trans hpending) (by simp)

theorem given_after (h : c.pipeline.Orderly) (hg : c.pipeline.order = .given) (moves : List Move) :
    (c.after moves).pipeline.order = .given := by
  induction moves generalizing c with
  | nil => exact hg
  | cons m rest ih => exact ih (orderly_step h m) (given_step h hg m)

theorem waived_after (h : c.pipeline.Orderly) (hw : c.pipeline.order = .waived) (moves : List Move) :
    (c.after moves).pipeline.order = .waived := by
  induction moves generalizing c with
  | nil => exact hw
  | cons m rest ih =>
    apply ih (orderly_step h m)
    rcases order_step (stepped h m) with
      hsame | ⟨-, ⟨-, t, drain, deadline, rest, hcalls, -⟩, -⟩ | ⟨hpending, -⟩
    · rw [hsame, hw]
    · have hwatch : c.pipeline.watcher.isSome := by
        rw [Pipeline.watcher_of_cons hcalls]
        rfl
      exact absurd (hw.symm.trans (h.watched hwatch)) (by simp)
    · exact absurd (hw.symm.trans hpending) (by simp)

theorem dropping_of_dropped {c' : Course} {m : Move} {notes : List Note} (hs : Stepped c m c' notes)
    (hd : notes.filterMap Note.dropped? ≠ []) : c.pipeline.worker = .dropping := by
  cases hs with
  | drop hdropping hq => exact hdropping
  | _ => exact absurd rfl hd

theorem given_of_dropped (h : c.pipeline.Orderly) (moves : List Move) (hd : c.dropped moves ≠ []) :
    (c.after moves).pipeline.order = .given := by
  induction moves generalizing c with
  | nil => exact absurd rfl hd
  | cons m rest ih =>
    by_cases hm : (c.step m).2.filterMap Note.dropped? = []
    · refine ih (orderly_step h m) fun hrest => hd ?_
      rw [dropped, notes, List.filterMap_append, hm]
      exact hrest
    · have htold := h.ordered (dropping_of_dropped (stepped h m) hm)
      exact given_after (orderly_step h m) (given_step h htold m) rest

/-- Where a call comes from: it was there, it was just made, it got its turn, or its time ran out. -/
theorem mem_calls_step {c' : Course} {m : Move} {notes : List Note} (hs : Stepped c m c' notes)
    {call : Call} (hcall : call ∈ c'.pipeline.calls) :
    call ∈ c.pipeline.calls ∨
      (∃ drain, m = .shutdown drain ∧ call = ⟨c.next, .queued drain⟩) ∨
      (∃ t drain, m = .attend ∧ c.pipeline.calls.head? = some ⟨t, .queued drain⟩ ∧
        c'.pipeline.watcher = some t ∧ call = ⟨t, .draining drain
          (if drain.nanos = 0 then none else some ⟨c.waiting.nanos + drain.nanos⟩)⟩) ∨
      ∃ t, m = .expire ∧ call = ⟨t, .abandoning⟩ := by
  cases hs with
  | finish hsending o => cases o <;> exact .inl hcall
  | shutdown drain =>
    rcases List.mem_append.1 hcall with hcall | hcall
    · exact .inl hcall
    · exact .inr (.inl ⟨drain, rfl, List.mem_singleton.1 hcall⟩)
  | @turn t drain rest hcalls hun =>
    rcases List.mem_cons.1 hcall with hcall | hcall
    · refine .inr (.inr (.inl ⟨t, drain, rfl, by rw [hcalls]; rfl, ?_, hcall⟩))
      exact Pipeline.watcher_of_cons (c := ⟨t, .draining drain _⟩) (l := rest) rfl
    · exact .inl (by rw [hcalls]; exact List.mem_cons_of_mem _ hcall)
  | leave hcalls hwhy => exact .inl (by rw [hcalls]; exact List.mem_cons_of_mem _ hcall)
  | @lapse t drain deadline rest hcalls hlapsed =>
    rcases List.mem_cons.1 hcall with hcall | hcall
    · exact .inr (.inr (.inr ⟨t, rfl, hcall⟩))
    · exact .inl (by rw [hcalls]; exact List.mem_cons_of_mem _ hcall)
  | cancel hpending =>
    rw [Pipeline.cancel_eq] at hcall
    exact .inl (List.mem_of_mem_filter hcall)
  | letGo => simp [Pipeline.letGo_eq] at hcall
  | _ => exact .inl hcall

/-- The drain time of call `t` ran out: the call had its turn, and as long afterwards as it allows it
was still watching a worker that had not stopped. -/
def Lapses (c : Course) (moves : List Move) (t : Ticket) : Prop :=
  ∃ us drain vs ws xs,
    moves = us ++ .shutdown drain :: (vs ++ .attend :: (ws ++ .expire :: xs)) ∧
      let turn := c.after (us ++ .shutdown drain :: vs)
      let up := c.after (us ++ .shutdown drain :: (vs ++ .attend :: ws))
      (c.after us).next = t ∧ drain.nanos ≠ 0 ∧
        turn.pipeline.calls.head? = some ⟨t, .queued drain⟩ ∧
        (turn.step .attend).1.pipeline.watcher = some t ∧
        up.pipeline.watcher = some t ∧ up.pipeline.worker ≠ .stopped ∧
        turn.waiting.nanos + drain.nanos ≤ up.waiting.nanos

theorem exists_shutdown (moves : List Move) {t : Ticket} {drain : Span}
    (h : c.pipeline.Orderly) (hcall : ⟨t, .queued drain⟩ ∈ (c.after moves).pipeline.calls)
    (hstart : ⟨t, .queued drain⟩ ∉ c.pipeline.calls) :
    ∃ us vs, moves = us ++ .shutdown drain :: vs ∧ (c.after us).next = t := by
  obtain ⟨us, m, vs, rfl, hbefore, hafter⟩ :=
    exists_onset (P := fun c => ⟨t, .queued drain⟩ ∈ c.pipeline.calls) moves hstart hcall
  rcases mem_calls_step (stepped (orderly_after h us) m) hafter with hmem | ⟨drain', rfl, hcall'⟩ | ⟨t', drain', -, -, -, hcall'⟩ |
    ⟨t', -, hcall'⟩
  · exact absurd hmem hbefore
  · cases hcall'
    exact ⟨us, vs, rfl, rfl⟩
  · cases hcall'
  · cases hcall'

theorem exists_turn (moves : List Move) {t : Ticket} {drain deadline : Span}
    (h : c.pipeline.Orderly)
    (hcall : ⟨t, .draining drain (some deadline)⟩ ∈ (c.after moves).pipeline.calls)
    (hstart : ⟨t, .draining drain (some deadline)⟩ ∉ c.pipeline.calls) :
    ∃ us vs, moves = us ++ .attend :: vs ∧
      (c.after us).pipeline.calls.head? = some ⟨t, .queued drain⟩ ∧
      ((c.after us).step .attend).1.pipeline.watcher = some t ∧ drain.nanos ≠ 0 ∧
      deadline.nanos = (c.after us).waiting.nanos + drain.nanos := by
  obtain ⟨us, m, vs, rfl, hbefore, hafter⟩ := exists_onset
    (P := fun c => ⟨t, .draining drain (some deadline)⟩ ∈ c.pipeline.calls) moves hstart hcall
  rcases mem_calls_step (stepped (orderly_after h us) m) hafter with hmem | ⟨drain', -, hcall'⟩ |
    ⟨t', drain', rfl, hhead, hwatch, hcall'⟩ | ⟨t', -, hcall'⟩
  · exact absurd hmem hbefore
  · cases hcall'
  · simp only [Call.mk.injEq, Phase.draining.injEq] at hcall'
    obtain ⟨rfl, rfl, hdeadline⟩ := hcall'
    split_ifs at hdeadline with hzero
    cases hdeadline
    exact ⟨us, vs, rfl, hhead, hwatch, hzero, rfl⟩
  · cases hcall'

/-- The order to drop is never given but by a call whose drain time ran out. -/
theorem lapses_of_given (wire : String) (moves : List Move)
    (hg : ((start wire).after moves).pipeline.order = .given) : ∃ t, (start wire).Lapses moves t := by
  have ho : (start wire).pipeline.Orderly := Pipeline.Orderly.start wire
  obtain ⟨us, m, xs, rfl, hbefore, hafter⟩ :=
    exists_onset (P := fun c => c.pipeline.order = .given) moves (by simp [start, Pipeline.start]) hg
  rcases order_step (stepped (orderly_after ho us) m) with hsame | ⟨rfl, hlapsed, -⟩ | ⟨-, hwaived⟩
  · exact absurd (hsame.symm.trans hafter) hbefore
  · obtain ⟨hworker, t, drain, deadline, rest, hcalls, hle⟩ := hlapsed
    have hstill := Pipeline.watcher_of_cons hcalls
    obtain ⟨us, ws, rfl, hhead, hwatch, hzero, hdeadline⟩ :=
      exists_turn us ho (by rw [hcalls]; exact List.mem_cons_self) (List.not_mem_nil)
    obtain ⟨us, vs, rfl, hticket⟩ :=
      exists_shutdown us ho (List.mem_of_mem_head? hhead) (List.not_mem_nil)
    have hup : us ++ .shutdown drain :: vs ++ .attend :: ws =
        us ++ .shutdown drain :: (vs ++ .attend :: ws) := by simp
    rw [hup] at hstill hworker hle
    refine ⟨t, us, drain, vs, ws, xs, by simp, hticket, hzero, hhead, hwatch, hstill, hworker, ?_⟩
    omega
  · exact absurd (hwaived.symm.trans hafter) (by simp)

theorem isPending_of_watcher {p : Pipeline} {t : Ticket} (hw : p.watcher = some t) :
    p.isPending t = true := by
  cases hcalls : p.calls with
  | nil => simp [Pipeline.watcher, hcalls] at hw
  | cons call rest =>
    rw [Pipeline.watcher_of_cons hcalls] at hw
    split_ifs at hw
    cases hw
    simp [Pipeline.isPending, hcalls]

theorem waived_cancel (h : c.pipeline.Orderly) {t : Ticket} (hw : c.pipeline.watcher = some t) :
    (c.step (.cancel t)).1.pipeline.order = .waived := by
  have hpending := h.watched (by rw [hw]; rfl)
  simp only [step]
  rw [if_pos (isPending_of_watcher hw), Pipeline.cancel_eq]
  exact if_pos ⟨hw, hpending⟩

theorem waived_letGo (hg : c.pipeline.order ≠ .given) :
    (c.step .letGo).1.pipeline.order = .waived := by
  simp only [step]
  rw [Pipeline.letGo_eq]
  cases horder : c.pipeline.order with
  | pending => rfl
  | given => exact absurd horder hg
  | waived => rfl

theorem dropped_of_waived (h : c.pipeline.Orderly) (us : List Move) (m : Move) (vs : List Move)
    (hw : ((c.after us).step m).1.pipeline.order = .waived) :
    c.dropped (us ++ m :: vs) = [] := by
  by_contra hd
  have hgiven := given_of_dropped h (us ++ m :: vs) hd
  have hwaived := waived_after (orderly_step (orderly_after h us) m) hw vs
  rw [after_append] at hgiven
  exact absurd (hwaived.symm.trans hgiven) (by simp)

end Course

/-- The same move, but a send that ends is a success. -/
def Move.mended : Move → Move
  | .finish _ => .finish .accepted
  | m => m

namespace Pipeline

def bare (p : Pipeline) : Pipeline := { p with stats := Stats.zero }

theorem bare_expire (p : Pipeline) (now : Span) : (p.bare.expire now).1.bare = (p.expire now).1.bare := by
  rcases expire_cases p now with ⟨hnot, hp⟩ | ⟨t, drain, deadline, rest, hcalls, hlapsed, hp⟩
  · rcases expire_cases p.bare now with ⟨-, hq⟩ | ⟨_, _, _, _, -, hlapsed, -⟩
    · rw [hp, hq]
      rfl
    · exact absurd hlapsed hnot
  · rcases expire_cases p.bare now with ⟨hnot, -⟩ | ⟨_, _, _, _, hcalls', -, hq⟩
    · exact absurd hlapsed hnot
    · cases hcalls.symm.trans hcalls'
      rw [hp, hq]
      rfl

theorem bare_cancel (p : Pipeline) (t : Ticket) : (p.bare.cancel t).bare = (p.cancel t).bare := by
  rw [cancel_eq, cancel_eq]
  rfl

theorem bare_letGo (p : Pipeline) : p.bare.letGo.bare = p.letGo.bare := by
  rw [letGo_eq, letGo_eq]
  rfl

end Pipeline

def Course.bare (c : Course) : Course := { c with pipeline := c.pipeline.bare }

namespace Course

variable {c : Course} {α : Type}

/-- Counters and outcomes steer nothing. -/
theorem bare_step (c : Course) (m : Move) (f : Note → Option α) (hf : ∀ i o, f (.finished i o) = none)
    (he : ∀ t stats, f (.ended t stats) = none) :
    (c.bare.step m.mended).1.bare = (c.step m).1.bare ∧
      (c.bare.step m.mended).2.filterMap f = (c.step m).2.filterMap f := by
  cases m with
  | enqueue m r =>
    obtain ⟨now, ⟨_, accepting, _, _, _, worker, _, _, _⟩, ticket⟩ := c
    simp only [step, Move.mended, Pipeline.enqueue, bare]
    cases m.head with
    | error fault => exact ⟨rfl, rfl⟩
    | ok head => cases accepting <;> cases worker <;> exact ⟨rfl, rfl⟩
  | work =>
    obtain ⟨now, ⟨_, accepting, _, _, queue, worker, order, _, _⟩, ticket⟩ := c
    cases worker with
    | idle => cases queue <;> cases order <;> cases accepting <;> exact ⟨rfl, rfl⟩
    | dropping => cases queue <;> exact ⟨rfl, rfl⟩
    | sending i => exact ⟨rfl, rfl⟩
    | stopped => exact ⟨rfl, rfl⟩
  | finish o =>
    obtain ⟨now, ⟨_, _, _, _, _, worker, _, _, _⟩, ticket⟩ := c
    cases worker with
    | sending i =>
      have hquiet : ∀ o, [Note.finished i o].filterMap f = [] := fun o => by simp [hf]
      refine ⟨by cases o <;> rfl, (hquiet .accepted).trans (hquiet o).symm⟩
    | idle => exact ⟨rfl, rfl⟩
    | dropping => exact ⟨rfl, rfl⟩
    | stopped => exact ⟨rfl, rfl⟩
  | shutdown drain => exact ⟨rfl, rfl⟩
  | attend =>
    have hquiet : ∀ t stats, [Note.ended t stats].filterMap f = [] := fun t stats => by simp [he]
    obtain ⟨now, ⟨_, _, _, _, _, worker, _, unwatched, calls⟩, ticket⟩ := c
    cases calls with
    | nil => exact ⟨rfl, rfl⟩
    | cons call rest =>
      obtain ⟨t, phase⟩ := call
      cases phase with
      | queued drain =>
        cases unwatched with
        | true => exact ⟨rfl, rfl⟩
        | false => exact ⟨rfl, (hquiet t _).trans (hquiet t _).symm⟩
      | draining drain deadline =>
        cases worker with
        | stopped => exact ⟨rfl, (hquiet t _).trans (hquiet t _).symm⟩
        | _ => exact ⟨rfl, rfl⟩
      | abandoning =>
        cases worker with
        | stopped => exact ⟨rfl, (hquiet t _).trans (hquiet t _).symm⟩
        | _ => exact ⟨rfl, rfl⟩
  | expire =>
    exact ⟨congrArg ({ c with pipeline := · }) (c.pipeline.bare_expire c.waiting), rfl⟩
  | cancel t =>
    have hsame : c.bare.pipeline.isPending t = c.pipeline.isPending t := rfl
    simp only [step, Move.mended, hsame]
    split_ifs
    · exact ⟨congrArg ({ c with pipeline := · }) (c.pipeline.bare_cancel t), rfl⟩
    · exact ⟨rfl, rfl⟩
  | letGo => exact ⟨congrArg ({ c with pipeline := · }) c.pipeline.bare_letGo, rfl⟩
  | pass span => exact ⟨rfl, rfl⟩

theorem bare_notes {c c' : Course} (hc : c.bare = c'.bare) {moves others : List Move}
    (hm : moves.map Move.mended = others.map Move.mended) {f : Note → Option α}
    (hf : ∀ i o, f (.finished i o) = none) (he : ∀ t stats, f (.ended t stats) = none) :
    (c.notes moves).filterMap f = (c'.notes others).filterMap f := by
  induction moves generalizing c c' others with
  | nil =>
    rw [List.map_nil, eq_comm, List.map_eq_nil_iff] at hm
    rw [hm]
    rfl
  | cons m rest ih =>
    cases others with
    | nil => cases hm
    | cons m' rest' =>
      obtain ⟨hhead, htail⟩ := List.cons.inj hm
      obtain ⟨hstate, hnotes⟩ := bare_step c m f hf he
      obtain ⟨hstate', hnotes'⟩ := bare_step c' m' f hf he
      rw [hc, hhead] at hstate hnotes
      rw [notes, notes, List.filterMap_append, List.filterMap_append, ← hnotes, ← hnotes',
        ih (hstate.symm.trans hstate') htail]

/-- How sends end has no say in what is accepted, sent and dropped. -/
theorem outcomes_steer_nothing (c : Course) {moves others : List Move}
    (hm : moves.map Move.mended = others.map Move.mended) :
    c.accepted moves = c.accepted others ∧ c.invoked moves = c.invoked others ∧
      c.dropped moves = c.dropped others :=
  ⟨bare_notes rfl hm (fun _ _ => rfl) fun _ _ => rfl,
    bare_notes rfl hm (fun _ _ => rfl) fun _ _ => rfl,
    bare_notes rfl hm (fun _ _ => rfl) fun _ _ => rfl⟩

theorem transmission_eq (i : Item) : Wire.transmission i = Wire.sentFrom i.route.role i := by
  unfold Wire.transmission
  split
  next hr => rw [hr]
  next hr => rw [hr]

/-- What a wire remembers of a message does not depend on its number. -/
theorem transmissions_numbered (accepted : List (Message × Route)) :
    (numbered accepted).map Wire.transmission =
      accepted.map fun a => ⟨a.2.role, a.1.id, a.2.url.val, a.1.size⟩ := by
  induction accepted using List.reverseRecOn with
  | nil => rfl
  | append_singleton rest a ih =>
    rw [numbered_snoc, List.map_append, List.map_append, ih, List.map_singleton, transmission_eq]
    rfl

/-- First in, first out. The messages that the wire is asked to send are the first ones accepted, each
once, unchanged, and from the side its route names; how earlier sends ended makes no difference. When
the worker has stopped, every accepted message was sent, except the last ones where a drain time ran
out. If the watching call is given up, or the pipeline is let go of before that happens, none is
dropped. -/
theorem first_in_first_out (wire : String) (moves : List Move) :
    let c := start wire
    let all := c.accepted moves
    c.invoked moves <+: numbered all ∧ (c.invoked moves).Nodup ∧
      (c.invoked moves).map Wire.transmission <+:
        all.map (fun a => ⟨a.2.role, a.1.id, a.2.url.val, a.1.size⟩) ∧
      (∀ others, moves.map Move.mended = others.map Move.mended →
        all = c.accepted others ∧ c.invoked moves = c.invoked others ∧
          c.dropped moves = c.dropped others) ∧
      ((c.after moves).pipeline.worker = .stopped →
        (c.finished moves).map Prod.fst ++ c.dropped moves = numbered all) ∧
      (c.dropped moves ≠ [] → ∃ t, c.Lapses moves t) ∧
      (∀ us t vs, moves = us ++ .cancel t :: vs → (c.after us).pipeline.watcher = some t →
        c.dropped moves = []) ∧
      ∀ us vs, moves = us ++ .letGo :: vs → (∀ t, ¬ c.Lapses us t) → c.dropped moves = [] := by
  intro c all
  have ho : c.pipeline.Orderly := Pipeline.Orderly.start wire
  have hbalanced := balanced_after wire moves
  refine ⟨invoked_first wire moves, (invoked_first wire moves).sublist.nodup (nodup_numbered all), ?_,
    fun others => outcomes_steer_nothing c, fun hstop => ?_, fun hd => ?_, ?_, ?_⟩
  · rw [← transmissions_numbered]
    exact (invoked_first wire moves).map Wire.transmission
  · have hqueue := ((orderly_after ho moves).atRest hstop).1
    have hends := hbalanced.ends
    have hwhole := hbalanced.whole
    rw [Pipeline.current, hstop, List.append_nil] at hends
    rw [hqueue, List.append_nil, ← hends] at hwhole
    exact hwhole
  · exact lapses_of_given wire moves (given_of_dropped ho moves hd)
  · rintro us t vs rfl hwatch
    exact dropped_of_waived ho us _ vs (waived_cancel (orderly_after ho us) hwatch)
  · rintro us vs rfl hnone
    refine dropped_of_waived ho us _ vs (waived_letGo fun hg => ?_)
    obtain ⟨t, ht⟩ := lapses_of_given wire us hg
    exact hnone t ht

end Course

end MessageExchange.Outbound

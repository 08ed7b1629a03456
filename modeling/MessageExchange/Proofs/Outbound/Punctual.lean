import MessageExchange.Proofs.Outbound.Backlog
import MessageExchange.Proofs.Outbound.Lines

/-! A line at work sleeps over nobody's time: worker and calls go on until they rest before the clock moves,
and a call whose time is up notices as soon as the clock has moved. So what a drain comes to on a line holds
without further ado. -/

namespace MessageExchange.Outbound

namespace Move

def goesOn : Move → Bool
  | work | finish _ | attend => true
  | _ => false

theorem still_of_goesOn {m : Move} (h : m.goesOn = true) :
    m.isPass = false ∧ m.shutsIntake = false ∧ ∀ t, m.forsakes t = false := by
  cases m <;> first | exact ⟨rfl, rfl, fun _ => rfl⟩ | cases h

end Move

namespace Course

/-- One course comes of the other as all goes on by itself. -/
def Settles (c c' : Course) : Prop := ∃ moves, c.after moves = c' ∧ ∀ m ∈ moves, m.goesOn = true

variable {c c' c'' : Course}

theorem Settles.refl (c : Course) : c.Settles c := ⟨[], rfl, nofun⟩

theorem Settles.step {m : Move} (hm : m.goesOn = true) (h : (c.step m).1 = c') : c.Settles c' :=
  ⟨[m], h, List.forall_mem_singleton.2 hm⟩

theorem Settles.trans (h1 : c.Settles c') (h2 : c'.Settles c'') : c.Settles c'' := by
  obtain ⟨us, rfl, hus⟩ := h1
  obtain ⟨vs, rfl, hvs⟩ := h2
  exact ⟨us ++ vs, after_append c us vs, List.forall_mem_append.2 ⟨hus, hvs⟩⟩

theorem settles_attendAll (n : Nat) (c : Course) :
    c.Settles { c with pipeline := (c.pipeline.attendAll c.waiting n).1 } := by
  induction n generalizing c with
  | zero => exact .refl c
  | succ n ih =>
    unfold Pipeline.attendAll
    split
    next => exact .refl c
    next p events ended hattend =>
      have hstep : (c.step .attend).1 = { c with pipeline := p } := by simp only [Course.step, hattend]
      exact (Settles.step rfl hstep).trans (ih { c with pipeline := p })

/-- While the clock stands still nobody's time runs out and nobody can be late. -/
theorem Settles.punctual (h : c.Settles c') (ho : c.pipeline.Orderly)
    (hl : ¬ c.pipeline.Lapsed c.waiting) :
    c'.pipeline.Orderly ∧ ¬ c'.pipeline.Lapsed c'.waiting ∧
      ∃ moves, c.after moves = c' ∧ (∀ m ∈ moves, m.goesOn = true) ∧ c.Timely moves := by
  obtain ⟨moves, rfl, hm⟩ := h
  obtain ⟨htimely, hend⟩ := timely_of_unlapsed ho hl fun m hmem => (Move.still_of_goesOn (hm m hmem)).1
  exact ⟨orderly_after ho moves, hend, moves, rfl, hm, htimely⟩

end Course

namespace Pipeline

/-- Turns and returns that are still possible, at most. -/
def outstanding (p : Pipeline) : Nat := p.calls.length + if p.unwatched then 1 else 0

theorem outstanding_attend {p p' : Pipeline} {now : Span} {events : List Event}
    {ended : Option (Correlation.Ticket × Stats)} (h : p.attend now = some (p', events, ended)) :
    p'.outstanding < p.outstanding := by
  obtain ⟨c, rest, hcalls, ⟨drain, -, hun, -, rfl⟩ | ⟨-, rfl, -⟩⟩ := attend_cases h
  · simp [outstanding, hcalls, hun]
  · simp [outstanding, hcalls]

theorem not_due_of_attend {p : Pipeline} {now : Span} (ho : p.Orderly) (h : p.attend now = none) :
    ¬ p.Due := by
  rintro ⟨hun, hcalls⟩
  obtain ⟨c, rest, hc⟩ := List.exists_cons_of_ne_nil hcalls
  have hwaits := (ho.fresh hun).2 c (by simp [hc])
  obtain ⟨t, phase⟩ := c
  cases phase with
  | queued drain => simp [attend, hc, hun] at h
  | _ => cases hwaits

theorem not_due_attendAll {p : Pipeline} {now : Span} {n : Nat} (ho : p.Orderly) (hn : p.outstanding ≤ n) :
    ¬ (p.attendAll now n).1.Due := by
  induction n generalizing p with
  | zero =>
    rintro ⟨-, hcalls⟩
    change p.calls ≠ [] at hcalls
    rw [outstanding] at hn
    exact hcalls (List.eq_nil_of_length_eq_zero (by omega))
  | succ n ih =>
    unfold attendAll
    split
    next hattend => exact not_due_of_attend ho hattend
    next p' events ended hattend =>
      have hless := outstanding_attend hattend
      exact ih (ho.attend hattend) (by omega)

end Pipeline

namespace Line

open Course (Settles)

theorem settles_drive (n : Nat) (c : Course) (w : Wire) :
    c.Settles { c with pipeline := (Pipeline.drive attempt n w c.pipeline).2.1 } := by
  induction n generalizing c w with
  | zero => exact .refl c
  | succ n ih =>
    unfold Pipeline.drive
    split
    next i hsending =>
      split
      next => exact .refl c
      next w' o during hattempt =>
        have hstep : (c.step (.finish o)).1 = { c with pipeline := (c.pipeline.account i o).1 } := by
          simp only [Course.step, hsending]
        exact (Settles.step (m := .finish o) rfl hstep).trans (ih _ w')
    next hnot =>
      split
      next => exact .refl c
      next p events hwork =>
        have hstep : (c.step .work).1 = { c with pipeline := p } := by simp only [Course.step, hwork]
        exact (Settles.step rfl hstep).trans (ih { c with pipeline := p } w)

theorem settle_course (l : Line) :
    let driven := (Pipeline.drive attempt l.pipeline.bound l.wire l.pipeline).2.1
    l.settle.1.course = { l.course with
      pipeline := (driven.attendAll l.waiting (2 * driven.calls.length + 1)).1 } := rfl

theorem settles_settle (l : Line) : l.course.Settles l.settle.1.course := by
  rw [settle_course]
  exact (settles_drive l.pipeline.bound l.course l.wire).trans (Course.settles_attendAll _ _)

def Act.moves : Act → List Move
  | enqueue m r => [.enqueue m r]
  | shutdown drain => [.shutdown drain]
  | cancel t => [.cancel t]
  | advance span => [.pass span, .expire]
  | hold _ | release _ => []
  | letGo => [.letGo]

theorem after_moves (l : Line) (a : Act) : l.course.after a.moves = (l.act a).1.course := by
  cases a with
  | enqueue m r =>
    rcases henqueue : l.pipeline.enqueue m r with ⟨fault | done, p, events⟩ <;>
      simp [Act.moves, Course.after, Course.step, course, act, henqueue]
  | cancel t =>
    by_cases hpending : l.pipeline.isPending t = true <;>
      simp [Act.moves, Course.after, Course.step, course, act, hpending]
  | _ => rfl

/-- Between two acts nobody is due and nobody's time is up. -/
structure Rests (l : Line) : Prop where
  orderly : l.pipeline.Orderly
  undue : ¬ l.pipeline.Due
  unlapsed : ¬ l.pipeline.Lapsed l.waiting

variable {l : Line}

theorem rests_settle (ho : l.pipeline.Orderly) (hl : ¬ l.pipeline.Lapsed l.waiting) :
    l.settle.1.Rests := by
  obtain ⟨horderly, hunlapsed, -⟩ := (settles_settle l).punctual ho hl
  obtain ⟨hdriven, -⟩ := (settles_drive l.pipeline.bound l.course l.wire).punctual ho hl
  refine ⟨horderly, ?_, hunlapsed⟩
  change ¬ l.settle.1.course.pipeline.Due
  rw [settle_course]
  refine Pipeline.not_due_attendAll hdriven ?_
  simp only [Pipeline.outstanding]
  split_ifs <;> omega

theorem Rests.act (h : l.Rests) (a : Act) :
    (l.act a).1.pipeline.Orderly ∧ ¬ (l.act a).1.pipeline.Lapsed (l.act a).1.waiting ∧
      l.course.Timely a.moves := by
  have horderly : (l.course.after a.moves).pipeline.Orderly := Course.orderly_after h.orderly a.moves
  have hpunctual : ¬ (l.course.after a.moves).pipeline.Lapsed (l.course.after a.moves).waiting ∧
      l.course.Timely a.moves := by
    by_cases hadvance : ∃ span, a = .advance span
    · -- the clock moves on while nobody is due, and whose time is up says so at once
      obtain ⟨span, rfl⟩ := hadvance
      exact ⟨(Course.expire_calls (l.course.step (.pass span)).1).2,
        ⟨fun _ => h.undue, fun hlapsed => absurd hlapsed h.unlapsed⟩, ⟨nofun, fun _ => rfl⟩, trivial⟩
    · have hstill : ∀ m ∈ a.moves, m.isPass = false := by
        cases a with
        | advance span => exact absurd ⟨span, rfl⟩ hadvance
        | _ => simp [Act.moves, Move.isPass]
      exact (Course.timely_of_unlapsed (c := l.course) h.orderly h.unlapsed hstill).symm
  rw [after_moves] at horderly hpunctual
  exact ⟨horderly, hpunctual⟩

/-- An act, and what goes on because of it, is a run in which nobody is late, and leads to rest. -/
theorem Rests.step (h : l.Rests) (a : Act) :
    (l.step a).1.Rests ∧ ∃ more, l.course.after (a.moves ++ more) = (l.step a).1.course ∧
      (∀ m ∈ more, m.goesOn = true) ∧ l.course.Timely (a.moves ++ more) := by
  obtain ⟨horderly, hunlapsed, hnow⟩ := h.act a
  obtain ⟨-, -, more, hafter, hmore, hlater⟩ := (settles_settle (l.act a).1).punctual horderly hunlapsed
  rw [(step_eq_settle l a).1]
  refine ⟨rests_settle horderly hunlapsed, more, ?_, hmore, Course.timely_append.2 ⟨hnow, ?_⟩⟩
  · rw [Course.after_append, after_moves, hafter]
  · rwa [after_moves]

theorem start_rests (wire : Wire) : (start wire).Rests :=
  ⟨.start wire.id, fun h => h.2 rfl, by rintro ⟨-, t, drain, deadline, rest, hcalls, -⟩; cases hcalls⟩

theorem Rests.run (h : l.Rests) (acts : List Act) :
    (l.after acts).Rests ∧ ∃ moves, l.course.after moves = (l.after acts).course ∧
      (∀ m ∈ moves, m.goesOn = true ∨ ∃ a ∈ acts, m ∈ a.moves) ∧ l.course.Timely moves := by
  induction acts generalizing l with
  | nil => exact ⟨h, [], rfl, List.forall_mem_nil _, trivial⟩
  | cons a rest ih =>
    obtain ⟨hrests, more, hmore, hinside, hnow⟩ := h.step a
    obtain ⟨hend, vs, hvs, hmoves, hlater⟩ := ih hrests
    refine ⟨hend, (a.moves ++ more) ++ vs, ?_, fun m hm => ?_, Course.timely_append.2 ⟨hnow, ?_⟩⟩
    · rw [Course.after_append, hmore]
      exact hvs
    · rcases List.mem_append.1 hm with hm | hm
      · exact (List.mem_append.1 hm).symm.imp (hinside m) fun hm => ⟨a, List.mem_cons_self, hm⟩
      · refine (hmoves m hm).imp_right ?_
        rintro ⟨a', ha', hm⟩
        exact ⟨a', List.mem_cons_of_mem a ha', hm⟩
    · rwa [hmore]

theorem forall_moves {P : Move → Prop} {acts : List Act} {moves : List Move}
    (hm : ∀ m ∈ moves, m.goesOn = true ∨ ∃ a ∈ acts, m ∈ a.moves)
    (hinside : ∀ m : Move, m.goesOn = true → P m) (hacts : ∀ a ∈ acts, ∀ m ∈ a.moves, P m) :
    ∀ m ∈ moves, P m := by
  intro m hmem
  rcases hm m hmem with hgoes | ⟨a, ha, hin⟩
  · exact hinside m hgoes
  · exact hacts a ha m hin

theorem exists_attended (wire : Wire) {before us : List Act} (drain : Span)
    (hopen : ∀ a ∈ before, ∀ m ∈ a.moves, m.shutsIntake = false)
    (hkept : ∀ a ∈ us, ∀ m ∈ a.moves, m.forsakes ((start wire).after before).next = false) :
    let l := (start wire).after before
    let now := (start wire).after (before ++ .shutdown drain :: us)
    now.Rests ∧ ∃ moves, (Course.start wire.id).after moves = now.course ∧
      now.course.Attended l.next drain (l.waiting.nanos + drain.nanos) := by
  intro l now
  obtain ⟨hrests, bs, hbs, hbefore, -⟩ := (start_rests wire).run before
  obtain ⟨hasked, more, hmore, hinside, hnow⟩ := hrests.step (.shutdown drain)
  obtain ⟨hend, cs, hcs, hlater, htimely⟩ := hasked.run us
  have hsame : now = (l.step (.shutdown drain)).1.after us := List.foldl_append
  have hfresh := forall_moves hbefore (fun m hm => (Move.still_of_goesOn hm).2.1) hopen
  have hstays : ∀ m ∈ more ++ cs, m.forsakes l.next = false := fun m hm =>
    (List.mem_append.1 hm).elim (fun hm => (Move.still_of_goesOn (hinside m hm)).2.2 _)
      (forall_moves hlater (fun m hm => (Move.still_of_goesOn hm).2.2 _) hkept m)
  have hwhole : l.course.Timely (.shutdown drain :: (more ++ cs)) :=
    Course.timely_append.2 ⟨hnow, hmore.symm ▸ htimely⟩
  have hall : l.course.after (.shutdown drain :: (more ++ cs)) = now.course := by
    rw [hsame, ← hcs, ← hmore]
    exact Course.after_append l.course (.shutdown drain :: more) cs
  have hbs' : (Course.start wire.id).after bs = l.course := hbs
  rw [← List.append_nil (more ++ cs)] at hwhole
  obtain ⟨hattended, -⟩ := Course.attended_after wire.id drain hfresh (by rw [hbs']; exact hstays)
    (by rw [hbs']; exact hwhole)
  rw [Course.after_append, hbs', hall] at hattended
  refine ⟨hsame ▸ hend, bs ++ .shutdown drain :: (more ++ cs), ?_, hattended⟩
  rw [Course.after_append, hbs', hall]

theorem shutsIntake_moves {a : Act} (hopen : ∀ d, a ≠ .shutdown d) (hheld : a ≠ .letGo) :
    ∀ m ∈ a.moves, m.shutsIntake = false := by
  cases a with
  | shutdown d => exact absurd rfl (hopen d)
  | letGo => exact absurd rfl hheld
  | _ => simp [Act.moves, Move.shutsIntake]

theorem forsakes_moves {a : Act} {t : Correlation.Ticket} (hkept : a ≠ .cancel t) (hheld : a ≠ .letGo) :
    ∀ m ∈ a.moves, m.forsakes t = false := by
  cases a with
  | cancel t' =>
    have hne : t' ≠ t := fun ht => hkept (ht ▸ rfl)
    simp [Act.moves, Move.forsakes, hne]
  | letGo => exact absurd rfl hheld
  | _ => simp [Act.moves, Move.forsakes]

/-- From the moment the clock moves on, what a line does is one run in which nobody is late. -/
theorem Rests.advance (h : l.Rests) (span : Span) (vs : List Act) :
    ∃ moves, l.course.after (.pass span :: moves) = (l.after (.advance span :: vs)).course ∧
      l.course.Timely (.pass span :: moves) := by
  obtain ⟨hpassed, more, hmore, -, hnow⟩ := h.step (.advance span)
  obtain ⟨-, ds, hds, -, hlater⟩ := hpassed.run vs
  have hsame : l.after (.advance span :: vs) = (l.step (.advance span)).1.after vs := rfl
  refine ⟨.expire :: (more ++ ds), ?_, Course.timely_append.2 ⟨hnow, hmore.symm ▸ hlater⟩⟩
  rw [hsame, ← hds, ← hmore]
  exact Course.after_append l.course (.pass span :: .expire :: more) ds

/-- A drain of a line drops exactly the backlog. Without a limit, or before the time is up, nothing is
dropped. Otherwise what is queued as the clock reaches the limit is what will have been dropped in the end. -/
theorem drain_drops_backlog (wire : Wire) {before later : List Act} (drain : Span)
    (hfresh : ∀ d, .shutdown d ∉ before) (hheld : .letGo ∉ before ++ later)
    (hkept : .cancel ((start wire).after before).next ∉ later) :
    let l := start wire
    let up := (l.after before).waiting.nanos + drain.nanos
    let upTo (us : List Act) := l.after (before ++ .shutdown drain :: us)
    (drain.nanos = 0 ∨ (upTo later).waiting.nanos < up → (upTo later).pipeline.stats.dropped = 0) ∧
      ∀ us span vs, later = us ++ .advance span :: vs → drain.nanos ≠ 0 →
        (upTo us).waiting.nanos < up → up ≤ (upTo us).waiting.nanos + span.nanos →
        (upTo us).pipeline.stats.dropped = 0 ∧
          ((upTo later).pipeline.worker = .stopped →
            (upTo later).pipeline.stats.dropped = (upTo us).pipeline.queue.length) := by
  intro l up upTo
  rw [List.mem_append, not_or] at hheld
  have hopen : ∀ a ∈ before, ∀ m ∈ a.moves, m.shutsIntake = false := fun a ha =>
    shutsIntake_moves (fun d heq => hfresh d (heq ▸ ha)) fun heq => hheld.1 (heq ▸ ha)
  have hstays : ∀ a ∈ later, ∀ m ∈ a.moves, m.forsakes (l.after before).next = false := fun a ha =>
    forsakes_moves (fun heq => hkept (heq ▸ ha)) fun heq => hheld.2 (heq ▸ ha)
  have hundropped : ∀ {moves : List Move} {us : List Act},
      (Course.start wire.id).after moves = (upTo us).course →
        (Course.start wire.id).dropped moves = [] → (upTo us).pipeline.stats.dropped = 0 := by
    intro moves us hmoves hnone
    have hstats := congrArg Stats.dropped (Course.stats_after wire.id moves)
    rw [hmoves] at hstats
    exact hstats.trans (congrArg List.length hnone)
  refine ⟨fun hearly => ?_, ?_⟩
  · obtain ⟨-, moves, hmoves, hattended⟩ := exists_attended wire drain hopen hstays
    rw [← hmoves] at hattended
    refine hundropped hmoves (Course.undropped_of_early wire.id hattended ?_)
    rw [hmoves]
    exact hearly
  · rintro us span vs rfl hzero hearly hup
    obtain ⟨hrests, moves, hmoves, hattended⟩ := exists_attended wire drain hopen
      fun a ha => hstays a (List.mem_append_left _ ha)
    obtain ⟨more, hend, hpunctual⟩ := hrests.advance span vs
    have hlast : upTo (us ++ .advance span :: vs) = (upTo us).after (.advance span :: vs) := by
      simp only [upTo, after, List.foldl_append, List.foldl_cons]
    have hbefore : (upTo us).course.waiting.nanos < up := hearly
    have hreached : up ≤ (upTo us).course.waiting.nanos + span.nanos := hup
    have hqueue : (upTo us).pipeline.queue = (upTo us).course.pipeline.queue := rfl
    rw [← hlast] at hend
    rw [hqueue]
    rw [← hmoves] at hattended hpunctual hbefore hreached hend ⊢
    obtain ⟨hnone, hcut⟩ := Course.cutOff_of_pass wire.id hattended hpunctual hzero hbefore hreached
    rw [← Course.after_append] at hend
    refine ⟨hundropped hmoves hnone, fun hstopped => ?_⟩
    have hworker :
        ((Course.start wire.id).after (moves ++ .pass span :: more)).pipeline.worker = .stopped := by
      rw [hend]
      exact hstopped
    have hall := (hcut.dropped_of_stopped wire.id hnone hworker).2
    rw [hend] at hall
    exact hall

end Line

end MessageExchange.Outbound

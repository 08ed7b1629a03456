import MessageExchange.Proofs.Outbound.Log

/-! The log replays what became of every message. Where a message is decides what has been told of it:
one event while it is queued, two while it is being sent, and the whole of a life once it is neither. -/

namespace MessageExchange.Outbound

inductive Ending (t : Trail) : Event → Prop
  | sent : Ending t (.sent t)
  | failed (fault : Fault) : Ending t (.sendFailed t fault)
  | panicked (text : String) : Ending t (.sendPanicked t text)

theorem Ending.trail?_eq {t : Trail} {e : Event} (h : Ending t e) : e.trail? = some t := by
  cases h <;> rfl

theorem Ending.stage_mem {t : Trail} {e : Event} (h : Ending t e) :
    e.stage = ("pipeline_send_ok", some "sent") ∨ e.stage = ("pipeline_send_failed", some "failed") := by
  cases h with
  | sent => exact .inl rfl
  | failed | panicked => exact .inr rfl

theorem Ending.name_mem {t : Trail} {e : Event} (h : Ending t e) :
    e.name = "pipeline_send_ok" ∨ e.name = "pipeline_send_failed" :=
  h.stage_mem.imp (congrArg Prod.fst) (congrArg Prod.fst)

/-- All that is told of a message, from its acceptance to its end. -/
inductive Life (t : Trail) : List Event → Prop
  | ended (route : String) (role : Role) {e : Event} (h : Ending t e) :
    Life t [.enqueued t, .dispatched t route role, e]
  | dropped : Life t [.enqueued t, .dropped t]

def lives : List (List (String × Option String)) :=
  let taken := [("pipeline_enqueued", some "queued"), ("pipeline_dispatched", some "dispatched")]
  [taken ++ [("pipeline_send_ok", some "sent")], taken ++ [("pipeline_send_failed", some "failed")],
    [("pipeline_enqueued", some "queued"), ("pipeline_shutdown", some "dropped")]]

def Settled (log : List Event) : Prop :=
  ∀ d ∈ log, (d.name = "pipeline_dispatched" → ∃ f ∈ log, f.field "seq" = d.field "seq" ∧
      (f.name = "pipeline_send_ok" ∨ f.name = "pipeline_send_failed")) ∧
    d.stage ≠ ("pipeline_shutdown", some "dropped")

/-- The log of a pipeline, the messages it accepted and its counters agree. -/
structure Replays (wire : String) (accepted : List (Message × Route)) (stats : Stats)
    (log : List Event) : Prop where
  /-- Accepted messages are numbered in order. -/
  numbering : log.filter (·.name == "pipeline_enqueued") =
    accepted.mapIdx fun n a => .enqueued ⟨wire, n, a.1.id⟩
  heads : ∀ a ∈ accepted, ∃ head, a.1.head = .ok head ∧ a.1.id = head.id
  /-- The events with the number of a message are a part of one life, from its beginning on. -/
  lived : ∀ n a, accepted[n]? = some a → thread log n ≠ [] ∧
    (∃ life ∈ lives, (thread log n).map Event.stage <+: life) ∧
    ∀ e ∈ thread log n, e.field "msg_id" = some a.1.id
  unborn : ∀ n, accepted.length ≤ n → thread log n = []
  turns : ∀ us e vs, log = us ++ e :: vs → e.name = "pipeline_dispatched" → Settled us
  counts : stats = reckon log

theorem settled_of_told {log : List Event} (h : Settled (told log)) : Settled log := by
  intro d hd
  constructor
  · intro hname
    have htrail : d.trail?.isSome = true := Event.trail?_isSome_of_name (by simp [hname])
    obtain ⟨f, hf, hseq, hend⟩ := (h d (List.mem_filter.2 ⟨hd, htrail⟩)).1 hname
    exact ⟨f, (List.mem_filter.1 hf).1, hseq, hend⟩
  · intro hstage
    have htrail : d.trail?.isSome = true := by
      rw [← d.field_state_isSome, (Prod.mk.inj hstage).2]
      rfl
    exact (h d (List.mem_filter.2 ⟨hd, htrail⟩)).2 hstage

theorem Life.stages_mem {t : Trail} {events : List Event} (h : Life t events) :
    events.map Event.stage ∈ lives := by
  cases h with
  | ended route role hending =>
    rcases hending.stage_mem with hstage | hstage
    · rw [List.map_cons, List.map_cons, List.map_singleton, hstage]
      exact List.mem_cons_self
    · rw [List.map_cons, List.map_cons, List.map_singleton, hstage]
      exact List.mem_cons_of_mem _ List.mem_cons_self
  | dropped => exact List.mem_cons_of_mem _ (List.mem_cons_of_mem _ List.mem_cons_self)

theorem Life.trail_of_mem {t : Trail} {events : List Event} (h : Life t events) {e : Event}
    (he : e ∈ events) : e.trail? = some t := by
  cases h with
  | ended route role hending =>
    simp only [List.mem_cons, List.not_mem_nil, or_false] at he
    rcases he with rfl | rfl | rfl
    · rfl
    · rfl
    · exact hending.trail?_eq
  | dropped =>
    simp only [List.mem_cons, List.not_mem_nil, or_false] at he
    rcases he with rfl | rfl <;> rfl

theorem Life.exists_ending {t : Trail} {events : List Event} (h : Life t events) {e : Event}
    (he : e ∈ events) (hname : e.name = "pipeline_dispatched") : ∃ f ∈ events, Ending t f := by
  cases h with
  | ended route role hending => exact ⟨_, by simp, hending⟩
  | dropped =>
    simp only [List.mem_cons, List.not_mem_nil, or_false] at he
    rcases he with rfl | rfl <;> simp [Event.name] at hname

/-- What has been told of a message, by where it is. -/
inductive Place (p : Pipeline) (i : Item) : List Event → Prop
  | queued (h : i ∈ p.queue) : Place p i [.enqueued (p.trail i)]
  | current (h : i ∈ p.current) :
    Place p i [.enqueued (p.trail i), .dispatched (p.trail i) i.route.text i.route.role]
  | gone {events : List Event} (hq : i ∉ p.queue) (hc : i ∉ p.current)
    (h : Life (p.trail i) events) : Place p i events

namespace Place

variable {p : Pipeline} {i : Item} {events : List Event}

theorem same {p' : Pipeline} (h : Place p i events) (hq : i ∈ p'.queue ↔ i ∈ p.queue)
    (hc : i ∈ p'.current ↔ i ∈ p.current) (hw : p'.wire = p.wire) : Place p' i events := by
  have htrail : p'.trail i = p.trail i := by
    unfold Pipeline.trail
    rw [hw]
  cases h with
  | queued h =>
    rw [← htrail]
    exact .queued (hq.2 h)
  | current h =>
    rw [← htrail]
    exact .current (hc.2 h)
  | gone hnq hnc h =>
    rw [← htrail] at h
    exact .gone (fun h => hnq (hq.1 h)) (fun h => hnc (hc.1 h)) h

theorem ne_nil (h : Place p i events) : events ≠ [] := by
  cases h with
  | queued | current => exact nofun
  | gone _ _ h => cases h <;> exact nofun

theorem stages_prefix (h : Place p i events) : ∃ life ∈ lives, events.map Event.stage <+: life := by
  cases h with
  | queued | current => exact ⟨_, List.mem_cons_self, _, rfl⟩
  | gone _ _ h => exact ⟨_, h.stages_mem, List.prefix_refl _⟩

theorem trail_of_mem (h : Place p i events) {e : Event} (he : e ∈ events) :
    e.trail? = some (p.trail i) := by
  cases h with
  | queued => rw [List.mem_singleton.1 he]; rfl
  | current =>
    simp only [List.mem_cons, List.not_mem_nil, or_false] at he
    rcases he with rfl | rfl <;> rfl
  | gone _ _ h => exact h.trail_of_mem he

end Place

theorem Pipeline.account_ending (p : Pipeline) (i : Item) (o : Outcome) :
    ∃ e, (p.account i o).2 = [e] ∧ Ending (p.trail i) e := by
  cases o with
  | accepted => exact ⟨_, rfl, .sent⟩
  | failed fault => exact ⟨_, rfl, .failed fault⟩
  | panicked text => exact ⟨_, rfl, .panicked _⟩

namespace Course

variable {c c' : Course} {p p' : Pipeline} {accepted : List (Message × Route)} {notes more : List Note}
  {story : List Event}

/-- What has been told of each of the messages accepted so far, and that nothing is told of others. -/
structure Traced (p : Pipeline) (accepted : List (Message × Route)) (story : List Event) : Prop where
  numbering : story.filter (·.name == "pipeline_enqueued") =
    accepted.mapIdx fun n a => .enqueued ⟨p.wire, n, a.1.id⟩
  fresh : ∀ n, accepted.length ≤ n → thread story n = []
  placed : ∀ i ∈ numbered accepted, Place p i (thread story i.seq)

namespace Traced

theorem start (wire : String) : Traced (Pipeline.start wire) [] [] :=
  ⟨rfl, fun _ _ => rfl, nofun⟩

theorem quiet (h : Traced p accepted story) (hq : p'.queue = p.queue) (hc : p'.current = p.current)
    (hw : p'.wire = p.wire) : Traced p' (accepted ++ []) (story ++ []) := by
  rw [List.append_nil, List.append_nil]
  exact ⟨hw ▸ h.numbering, h.fresh, fun i hi => (h.placed i hi).same (by rw [hq]) (by rw [hc]) hw⟩

/-- One message goes on, and the event that is written tells of it. -/
theorem move (h : Traced p accepted story) {j : Item} {e : Event} {t : Trail}
    (hj : j ∈ numbered accepted) (he : e.trail? = some t) (ht : t.seq = j.seq)
    (hname : e.name ≠ "pipeline_enqueued") (hplace : Place p' j (thread story j.seq ++ [e]))
    (hothers : ∀ i, i ≠ j → (i ∈ p'.queue ↔ i ∈ p.queue) ∧ (i ∈ p'.current ↔ i ∈ p.current))
    (hw : p'.wire = p.wire) : Traced p' accepted (story ++ [e]) := by
  constructor
  · have hnone : [e].filter (·.name == "pipeline_enqueued") = [] := by simp [hname]
    rw [List.filter_append, hnone, List.append_nil, hw]
    exact h.numbering
  · intro n hn
    have hlt := seq_lt_of_mem hj
    rw [thread_append, h.fresh n hn, thread_other he (by omega)]
    rfl
  · intro i hi
    rw [thread_append]
    by_cases heq : i = j
    · subst heq
      rw [← ht, thread_same he, ht]
      exact hplace
    · have hne : t.seq ≠ i.seq := fun hseq => heq (eq_of_seq_eq hi hj (hseq.symm.trans ht))
      rw [thread_other he hne, List.append_nil]
      obtain ⟨hq, hc⟩ := hothers i heq
      exact (h.placed i hi).same hq hc hw

theorem enqueue (h : Traced p accepted story) (hb : Balanced p notes)
    (haccepted : notes.filterMap Note.accepted? = accepted) (m : Message) (r : Route)
    (hq : p'.queue = p.queue ++ [⟨p.next, m, r⟩]) (hc : p'.current = p.current)
    (hw : p'.wire = p.wire) :
    Traced p' (accepted ++ [(m, r)]) (story ++ [.enqueued ⟨p.wire, p.next, m.id⟩]) := by
  have hnext : p.next = accepted.length := by rw [hb.next, haccepted]
  have htrail : (Event.enqueued ⟨p.wire, p.next, m.id⟩).trail? = some ⟨p.wire, p.next, m.id⟩ := rfl
  constructor
  · rw [List.filter_append, h.numbering, hw, List.mapIdx_concat, hnext]
    rfl
  · intro n hn
    rw [List.length_append, List.length_singleton] at hn
    have hother : p.next ≠ n := by omega
    rw [thread_append, h.fresh n (by omega), thread_other htrail hother]
    rfl
  · intro i hi
    rw [thread_append]
    rw [numbered_snoc, ← hnext] at hi
    rcases List.mem_append.1 hi with hold | hnew
    · have hlt := seq_lt_of_mem hold
      have hother : p.next ≠ i.seq := by omega
      rw [thread_other htrail hother, List.append_nil]
      refine (h.placed i hold).same ?_ (by rw [hc]) hw
      rw [hq, List.mem_append, List.mem_singleton, or_iff_left]
      rintro rfl
      exact hother rfl
    · obtain rfl := List.mem_singleton.1 hnew
      rw [h.fresh p.next hnext.ge, thread_same htrail, List.nil_append, ← hw]
      refine .queued ?_
      rw [hq]
      exact List.mem_append_right _ (List.mem_singleton.2 rfl)

theorem thread_of_queue (h : Traced p accepted story) {i : Item} (hi : i ∈ numbered accepted)
    (hq : i ∈ p.queue) (hc : i ∉ p.current) : thread story i.seq = [.enqueued (p.trail i)] := by
  generalize hevents : thread story i.seq = events
  have hplace := h.placed i hi
  rw [hevents] at hplace
  cases hplace with
  | queued => rfl
  | current hcurrent => exact absurd hcurrent hc
  | gone hnq => exact absurd hq hnq

theorem thread_of_current (h : Traced p accepted story) {i : Item} (hi : i ∈ numbered accepted)
    (hc : i ∈ p.current) (hq : i ∉ p.queue) :
    thread story i.seq =
      [.enqueued (p.trail i), .dispatched (p.trail i) i.route.text i.route.role] := by
  generalize hevents : thread story i.seq = events
  have hplace := h.placed i hi
  rw [hevents] at hplace
  cases hplace with
  | queued hqueue => exact absurd hqueue hq
  | current => rfl
  | gone _ hnc => exact absurd hc hnc

theorem invoke (h : Traced p (notes.filterMap Note.accepted?) story) (hb : Balanced p notes) {i : Item}
    {rest : List Item} (hidle : p.worker = .idle) (hq : p.queue = i :: rest) :
    Traced { p with worker := .sending i, queue := rest } (notes.filterMap Note.accepted? ++ [])
      (story ++ [.dispatched (p.trail i) i.route.text i.route.role]) := by
  have hqueued : i ∈ p.queue := hq ▸ List.mem_cons_self
  have hnone : p.current = [] := by simp [Pipeline.current, hidle]
  have hmem := hb.mem_of_queue hqueued
  rw [List.append_nil]
  refine h.move hmem rfl rfl (by simp [Event.name]) ?_ (fun j hj => ?_) rfl
  · rw [h.thread_of_queue hmem hqueued (by simp [hnone])]
    exact .current (List.mem_singleton.2 rfl)
  · rw [hq, hnone]
    simp [Pipeline.current, hj]

theorem finish (h : Traced p (notes.filterMap Note.accepted?) story) (hb : Balanced p notes) {i : Item}
    (hsending : p.worker = .sending i) (o : Outcome) :
    Traced (p.account i o).1 (notes.filterMap Note.accepted? ++ []) (story ++ (p.account i o).2) := by
  have hone : p.current = [i] := by simp [Pipeline.current, hsending]
  have hcurrent : i ∈ p.current := hone ▸ List.mem_singleton.2 rfl
  have hmem := hb.mem_of_current hcurrent
  have hnq := hb.notMem_queue_of_current hcurrent
  have hthread := h.thread_of_current hmem hcurrent hnq
  have htrail : (p.account i o).1.trail i = p.trail i := by cases o <;> rfl
  have hqueue : (p.account i o).1.queue = p.queue := by cases o <;> rfl
  have hnone : (p.account i o).1.current = [] := by cases o <;> rfl
  obtain ⟨e, he, hending⟩ := p.account_ending i o
  rw [he, List.append_nil]
  refine h.move hmem hending.trail?_eq rfl ?_ ?_ (fun j hj => ?_) (by cases o <;> rfl)
  · rcases hending.name_mem with hname | hname <;> simp [hname]
  · rw [hthread]
    refine .gone (by rwa [hqueue]) (by simp [hnone]) ?_
    rw [htrail]
    exact .ended _ _ hending
  · rw [hqueue, hnone, hone]
    simp [hj]

theorem drop (h : Traced p (notes.filterMap Note.accepted?) story) (hb : Balanced p notes) {i : Item}
    {rest : List Item} (hdropping : p.worker = .dropping) (hq : p.queue = i :: rest) {stats : Stats} :
    Traced { p with queue := rest, stats } (notes.filterMap Note.accepted? ++ [])
      (story ++ [.dropped (p.trail i)]) := by
  have hqueued : i ∈ p.queue := hq ▸ List.mem_cons_self
  have hnone : p.current = [] := by simp [Pipeline.current, hdropping]
  have hmem := hb.mem_of_queue hqueued
  rw [List.append_nil]
  refine h.move hmem rfl rfl (by simp [Event.name]) ?_ (fun j hj => ?_) rfl
  · rw [h.thread_of_queue hmem hqueued (by simp [hnone])]
    exact .gone (hb.notMem_rest hq) (by simp [Pipeline.current, hdropping]) .dropped
  · rw [hq]
    simp [Pipeline.current, hj]

theorem step (h : Traced c.pipeline (notes.filterMap Note.accepted?) story)
    (hb : Balanced c.pipeline notes) {m : Move} (hs : Stepped c m c' more) :
    Traced c'.pipeline ((notes ++ more).filterMap Note.accepted?)
      (story ++ more.flatMap c.pipeline.entries) := by
  rw [List.filterMap_append]
  cases hs with
  | stay => exact h.quiet rfl rfl rfl
  | refuse fault => exact h.quiet rfl rfl rfl
  | accept hopen => exact h.enqueue hb rfl _ _ rfl rfl rfl
  | invoke hidle hq hfree => exact h.invoke hb hidle hq
  | obey hidle hq htold => exact h.quiet rfl (by simp [Pipeline.current, hidle]) rfl
  | drop hdropping hq => exact h.drop hb hdropping hq
  | stop hq hwhy =>
    refine h.quiet rfl ?_ rfl
    rcases hwhy with hdropping | ⟨hidle, -⟩
    · simp [Pipeline.current, hdropping]
    · simp [Pipeline.current, hidle]
  | @finish i hsending o =>
    have hevents : [Note.finished i o].flatMap c.pipeline.entries = (c.pipeline.account i o).2 :=
      List.append_nil _
    rw [hevents]
    exact h.finish hb hsending o
  | shutdown drain => exact h.quiet rfl rfl rfl
  | turn hcalls hun => exact h.quiet rfl rfl rfl
  | leave hcalls hwhy => exact h.quiet rfl rfl rfl
  | lapse hcalls hlapsed => exact h.quiet rfl rfl rfl
  | cancel hpending =>
    rw [Pipeline.cancel_eq]
    exact h.quiet rfl rfl rfl
  | letGo =>
    rw [Pipeline.letGo_eq]
    exact h.quiet rfl rfl rfl
  | pass span => exact h.quiet rfl rfl rfl

theorem run (h : Traced c.pipeline (notes.filterMap Note.accepted?) story)
    (hb : Balanced c.pipeline notes) (ho : c.pipeline.Orderly) (moves : List Move) :
    Traced (c.after moves).pipeline ((notes ++ c.notes moves).filterMap Note.accepted?)
      (story ++ c.story moves) := by
  induction moves generalizing c notes story with
  | nil =>
    rw [Course.notes, Course.story, List.append_nil, List.append_nil]
    exact h
  | cons m rest ih =>
    have hs := stepped ho m
    have hrest := ih (h.step hb hs) (hb.step hs) (orderly_step ho m)
    rwa [List.append_assoc, List.append_assoc] at hrest

end Traced

theorem told_cases (hs : Stepped c m c' notes) :
    notes.flatMap c.pipeline.entries = [] ∨ ∃ e, notes.flatMap c.pipeline.entries = [e] := by
  cases hs with
  | accept | invoke | drop => exact .inr ⟨_, rfl⟩
  | @finish i hsending o =>
    obtain ⟨e, he, -⟩ := c.pipeline.account_ending i o
    exact .inr ⟨e, (List.append_nil _).trans he⟩
  | _ => exact .inl rfl

theorem idle_of_dispatched (hs : Stepped c m c' notes) {e : Event}
    (he : e ∈ notes.flatMap c.pipeline.entries) (hname : e.name = "pipeline_dispatched") :
    c.pipeline.worker = .idle := by
  cases hs with
  | invoke hidle => exact hidle
  | accept | drop =>
    rw [List.mem_singleton.1 he] at hname
    simp [Event.name] at hname
  | @finish i hsending o =>
    obtain ⟨f, hf, hending⟩ := c.pipeline.account_ending i o
    have hmem : e ∈ (c.pipeline.account i o).2 ++ [] := he
    rw [hf, List.append_nil, List.mem_singleton] at hmem
    subst hmem
    rcases hending.name_mem with h | h <;> simp [h] at hname
  | _ => exact absurd he List.not_mem_nil

/-- Where an event stands in the story is where a move stands in the run. -/
theorem exists_moves_of_story (ho : c.pipeline.Orderly) {moves : List Move} {us vs : List Event}
    {e : Event} (h : c.story moves = us ++ e :: vs) :
    ∃ before m after, moves = before ++ m :: after ∧ c.story before = us ∧
      e ∈ ((c.after before).step m).2.flatMap (c.after before).pipeline.entries := by
  induction moves generalizing c us with
  | nil => cases us <;> cases h
  | cons m rest ih =>
    rw [Course.story] at h
    rcases told_cases (stepped ho m) with hnone | ⟨f, hone⟩
    · rw [hnone, List.nil_append] at h
      obtain ⟨before, m', after, rfl, hus, he⟩ := ih (orderly_step ho m) h
      exact ⟨m :: before, m', after, rfl, by rw [Course.story, hnone, hus]; rfl, he⟩
    · rw [hone, List.singleton_append] at h
      cases us with
      | nil =>
        obtain ⟨rfl, -⟩ := List.cons.inj h
        exact ⟨[], m, rest, rfl, rfl, by rw [Course.after, List.foldl_nil, hone]; simp⟩
      | cons u us =>
        obtain ⟨rfl, hrest⟩ := List.cons.inj h
        obtain ⟨before, m', after, rfl, hus, he⟩ := ih (orderly_step ho m) hrest
        exact ⟨m :: before, m', after, rfl, by rw [Course.story, hone, hus]; rfl, he⟩

theorem Traced.ended {p : Pipeline} {accepted : List (Message × Route)} (h : Traced p accepted story)
    (hidle : p.worker = .idle) {d : Event} (hd : d ∈ story) (hname : d.name = "pipeline_dispatched") :
    ∃ f ∈ story, f.field "seq" = d.field "seq" ∧
      (f.name = "pipeline_send_ok" ∨ f.name = "pipeline_send_failed") := by
  obtain ⟨t, ht⟩ := Option.isSome_iff_exists.1
    (Event.trail?_isSome_of_name (e := d) (by simp [hname]))
  have hmem : d ∈ thread story t.seq :=
    List.mem_filter.2 ⟨hd, field_seq_eq_iff.2 ⟨t, ht, rfl⟩⟩
  have hlt : t.seq < accepted.length := by
    by_contra hge
    rw [h.fresh t.seq (by omega)] at hmem
    cases hmem
  obtain ⟨i, hi, hseq⟩ : ∃ i ∈ numbered accepted, i.seq = t.seq :=
    ⟨⟨t.seq, accepted[t.seq].1, accepted[t.seq].2⟩,
      mem_numbered_iff.2 (List.getElem?_eq_getElem hlt), rfl⟩
  have hplace := h.placed i hi
  rw [hseq] at hplace
  generalize hevents : thread story t.seq = events at hplace hmem
  cases hplace with
  | queued =>
    rw [List.mem_singleton.1 hmem] at hname
    simp [Event.name] at hname
  | current hcurrent => simp [Pipeline.current, hidle] at hcurrent
  | gone _ _ hlife =>
    obtain ⟨f, hf, hending⟩ := hlife.exists_ending hmem hname
    rw [← hevents] at hf
    refine ⟨f, (List.mem_filter.1 hf).1, ?_, hending.name_mem⟩
    rw [Event.field_seq, Event.field_seq, hlife.trail_of_mem hmem, hending.trail?_eq]

theorem wire_step (hs : Stepped c m c' notes) : c'.pipeline.wire = c.pipeline.wire := by
  cases hs with
  | finish hsending o => cases o <;> rfl
  | cancel hpending => rw [Pipeline.cancel_eq]
  | letGo => rw [Pipeline.letGo_eq]
  | _ => rfl

theorem wire_after (ho : c.pipeline.Orderly) (moves : List Move) :
    (c.after moves).pipeline.wire = c.pipeline.wire := by
  induction moves generalizing c with
  | nil => rfl
  | cons m rest ih => exact (ih (orderly_step ho m)).trans (wire_step (stepped ho m))

theorem exists_head (ho : c.pipeline.Orderly) {a : Message × Route}
    (h : a ∈ (c.step m).2.filterMap Note.accepted?) :
    ∃ head, a.1.head = .ok head ∧ a.1.id = head.id := by
  have hs := stepped ho m
  obtain ⟨c', notes, hstep⟩ : ∃ c' notes, c.step m = (c', notes) := ⟨_, _, rfl⟩
  rw [hstep] at hs h
  cases hs with
  | @accept m r hopen =>
    obtain rfl := List.mem_singleton.1 h
    obtain ⟨payloads⟩ := m
    cases payloads with
    | nil => simp [Course.step, Pipeline.enqueue, Message.head] at hstep
    | cons head rest => exact ⟨head, rfl, rfl⟩
  | _ => cases h

theorem exists_head_of_accepted (ho : c.pipeline.Orderly) {moves : List Move} {a : Message × Route}
    (h : a ∈ c.accepted moves) : ∃ head, a.1.head = .ok head ∧ a.1.id = head.id := by
  induction moves generalizing c with
  | nil => cases h
  | cons m rest ih =>
    rw [accepted, Course.notes, List.filterMap_append] at h
    rcases List.mem_append.1 h with hnow | hlater
    · exact exists_head ho hnow
    · exact ih (orderly_step ho m) hlater

theorem traced_after (wire : String) (moves : List Move) :
    let c := start wire
    Traced (c.after moves).pipeline (c.accepted moves) (c.story moves) := by
  intro c
  have hstart : Traced c.pipeline (([] : List Note).filterMap Note.accepted?) [] := Traced.start wire
  exact hstart.run (Balanced.start wire) (Pipeline.Orderly.start wire) moves

/-- A message is taken up when those before it have come to an end, and none was dropped. -/
theorem settled_of_story (wire : String) {moves : List Move} {us vs : List Event} {e : Event}
    (h : (start wire).story moves = us ++ e :: vs) (hname : e.name = "pipeline_dispatched") :
    Settled us := by
  have ho : (start wire).pipeline.Orderly := Pipeline.Orderly.start wire
  obtain ⟨before, m, rest, -, rfl, he⟩ := exists_moves_of_story ho h
  have hidle := idle_of_dispatched (stepped (orderly_after ho before) m) he hname
  intro d hd
  refine ⟨(traced_after wire before).ended hidle hd, fun hstage => ?_⟩
  have hpos : 0 < (reckon ((start wire).story before)).dropped :=
    List.countP_pos_iff.2 ⟨d, hd, beq_iff_eq.2 hstage⟩
  rw [reckon_story] at hpos
  have hclosed := (balanced_after wire before).last (List.length_pos_iff.1 hpos)
  simp [Pipeline.closed, hidle] at hclosed

theorem replays_after (wire : String) (moves : List Move) :
    let c := start wire
    Replays wire (c.accepted moves) (c.after moves).pipeline.stats (c.log moves) := by
  intro c
  have ho : c.pipeline.Orderly := Pipeline.Orderly.start wire
  have htold : told (c.log moves) = c.story moves := told_log ho moves
  have htraced : Traced (c.after moves).pipeline (c.accepted moves) (c.story moves) :=
    traced_after wire moves
  have hwire : (c.after moves).pipeline.wire = wire := wire_after ho moves
  constructor
  · rw [← hwire, ← htraced.numbering, ← htold, filter_told]
    intro e he
    rw [beq_iff_eq] at he
    exact Event.trail?_isSome_of_name (by simp [he])
  · exact fun a ha => exists_head_of_accepted ho ha
  · intro n a ha
    have hplace := htraced.placed ⟨n, a.1, a.2⟩ (mem_numbered_iff.2 ha)
    rw [← htold, thread_told] at hplace
    exact ⟨hplace.ne_nil, hplace.stages_prefix, fun e he =>
      Event.field_message (hplace.trail_of_mem he)⟩
  · intro n hn
    rw [← thread_told, htold]
    exact htraced.fresh n hn
  · intro us e vs hlog hname
    have htrail : e.trail?.isSome = true := Event.trail?_isSome_of_name (by simp [hname])
    have hstory : c.story moves = told us ++ e :: told vs := by
      rw [← htold, hlog, told_append]
      exact congrArg (told us ++ ·) (List.filter_cons_of_pos htrail)
    exact settled_of_told (settled_of_story wire hstory hname)
  · rw [stats_after, ← reckon_story, ← htold, reckon_told]

end Course

end MessageExchange.Outbound

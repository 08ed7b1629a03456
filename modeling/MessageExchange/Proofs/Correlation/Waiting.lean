import MessageExchange.Proofs.Correlation.Runs

/-! How calls end. `verdict` reads it off the acts that follow the start of a call: the first act that
concerns the call decides, and nothing else in the run matters. The runs of a desk agree with it. -/

namespace MessageExchange.Correlation

variable {K V : Type} [DecidableEq K]

/-- The act is about the call: it is about its key or the call itself, it closes the desk, or time
passes. -/
def Act.concerns (a : Act K V) (w : Wait K) : Bool :=
  match a with
  | deliver k _ | complete k _ => k = w.key
  | cancel t => t == w.ticket
  | close | advance _ => true
  | wait _ _ | sweep | age _ => false

/-- How a call that is pending at `now` ends under the acts, if it does. -/
def verdict (w : Wait K) (now : Span) : List (Act K V) → Option (Ending V)
  | [] => none
  | a :: rest => (a.ending now w).or (verdict w (a.clock now) rest)

theorem verdict_filter_concerns (w : Wait K) (now : Span) (acts : List (Act K V)) :
    verdict w now (acts.filter (·.concerns w)) = verdict w now acts := by
  induction acts generalizing now with
  | nil => rfl
  | cons a rest ih =>
    cases hc : a.concerns w with
    | true => rw [List.filter_cons, hc, if_pos rfl, verdict, verdict, ih]
    | false =>
      have hquiet : a.ending now w = none ∧ a.clock now = now := by
        cases a <;> simp_all [Act.concerns, Act.ending, Act.clock]
      rw [List.filter_cons, hc, if_neg Bool.false_ne_true, verdict, hquiet.1, hquiet.2, ih,
        Option.none_or]

def endingsOf (t : Ticket) (ended : List (Ticket × Ending V)) : List (Ending V) :=
  (ended.filter (·.1 == t)).map Prod.snd

omit [DecidableEq K] in
theorem endingsOf_append (t : Ticket) (l l' : List (Ticket × Ending V)) :
    endingsOf t (l ++ l') = endingsOf t l ++ endingsOf t l' := by
  simp [endingsOf]

theorem endingsOf_map {ts : List Ticket} (h : ts.Nodup) (t : Ticket) (e : Ending V) :
    endingsOf t (ts.map (·, e)) = if t ∈ ts then [e] else [] := by
  induction ts with
  | nil => rfl
  | cons u us ih =>
    rw [List.nodup_cons] at h
    have hrest := ih h.2
    rw [endingsOf] at hrest ⊢
    by_cases hu : u = t
    · subst hu
      rw [if_neg h.1] at hrest
      simp [hrest]
    · have hut : (u == t) = false := by simpa using hu
      simp [hut, hrest, Ne.symm hu]

namespace Run

variable {s : Run K V}

theorem endingsOf_step (h : s.desk.Seated s.next) (r : Retention V) (a : Act K V) {w : Wait K}
    (hw : w ∈ s.desk.waits) :
    endingsOf w.ticket (s.step r a).2.2 = (a.ending s.waiting w).toList := by
  cases a with
  | deliver k v =>
    rw [step_deliver h, endingsOf_map (h.nodup_pendingOn k), Act.ending]
    simp only [h.mem_pendingOn hw, eq_comm (a := w.key)]
    split_ifs <;> rfl
  | complete k v =>
    rw [step_complete h, endingsOf_map (h.nodup_pendingOn k), Act.ending]
    simp only [h.mem_pendingOn hw, eq_comm (a := w.key)]
    split_ifs <;> rfl
  | wait k timeout =>
    have hne : (s.next == w.ticket) = false := by simpa using (h.early w hw).ne'
    simp only [step, Act.ending, endingsOf]
    cases (s.desk.wait s.next k timeout s.waiting).2 <;> simp [hne]
  | cancel t =>
    simp only [step, Act.ending, endingsOf]
    by_cases ht : t = w.ticket
    · subst ht
      have hp : s.desk.isPending w.ticket = true := Desk.isPending_iff.2 ⟨w, hw, rfl⟩
      simp [hp]
    · split_ifs <;> simp [ht]
  | sweep => rfl
  | close =>
    have hclosed := endingsOf_map (h.sorted.imp fun hlt => hlt.ne) w.ticket (Ending.closed (V := V))
    rw [List.map_map, if_pos (List.mem_map.2 ⟨w, hw, rfl⟩)] at hclosed
    exact hclosed
  | advance span =>
    have hdue := endingsOf_map (h.nodup_due ⟨s.waiting.nanos + span.nanos⟩) w.ticket
      (Ending.timedOut (V := V))
    rw [List.map_map] at hdue
    apply hdue.trans
    simp only [List.mem_map, Act.ending]
    by_cases hmem : w ∈ s.desk.due ⟨s.waiting.nanos + span.nanos⟩
    · rw [if_pos ⟨w, hmem, rfl⟩, if_pos (Desk.mem_due.1 hmem).2]
      rfl
    · rw [if_neg, if_neg]
      · rfl
      · exact fun hend => hmem (Desk.mem_due.2 ⟨hw, hend⟩)
      · rintro ⟨w', hw', ht⟩
        rw [h.eq_of_ticket (Desk.mem_due.1 hw').1 hw ht] at hw'
        exact hmem hw'
  | age _ => rfl

theorem endingsOf_step_of_ended (h : s.desk.Seated s.next) (r : Retention V) (a : Act K V) {t : Ticket}
    (ht : s.desk.isPending t = false) (hn : t < s.next) : endingsOf t (s.step r a).2.2 = [] := by
  rw [endingsOf, List.map_eq_nil_iff, List.filter_eq_nil_iff]
  rintro ⟨u, e⟩ he hu
  rw [beq_iff_eq] at hu
  subst hu
  rcases ended_step_cases h r a he with ⟨w, hw, hwt, -⟩ | ⟨_, _, _, _, -, hnew, -⟩
  · rw [Desk.isPending_iff.2 ⟨w, hw, hwt⟩] at ht
    exact absurd ht (by simp)
  · exact hn.ne hnew

/-- Tickets are given once: what is pending after an act under an old ticket was pending before. -/
theorem isPending_step_iff (h : s.desk.Seated s.next) (r : Retention V) (a : Act K V) {t : Ticket}
    (hn : t < s.next) :
    (s.step r a).1.desk.isPending t = true ↔
      ∃ w ∈ s.desk.waits, w.ticket = t ∧ a.ending s.waiting w = none := by
  have hnew : ∀ w ∈ s.arrivals a, w.ticket ≠ t := by
    intro w hw
    unfold arrivals at hw
    split at hw
    · split_ifs at hw
      · exact absurd hw List.not_mem_nil
      · rw [List.mem_singleton.1 hw]
        exact hn.ne'
    · exact absurd hw List.not_mem_nil
  rw [Desk.isPending_iff, waits_step h]
  constructor
  · rintro ⟨w, hw, ht⟩
    rcases List.mem_append.1 hw with hw | hw
    · obtain ⟨hmem, hend⟩ := List.mem_filter.1 hw
      exact ⟨w, hmem, ht, Option.isNone_iff_eq_none.1 hend⟩
    · exact absurd ht (hnew w hw)
  · rintro ⟨w, hw, ht, hend⟩
    exact ⟨w, List.mem_append_left _ (List.mem_filter.2 ⟨hw, by rw [hend]; rfl⟩), ht⟩

theorem isPending_step_of_ended (h : s.desk.Seated s.next) (r : Retention V) (a : Act K V)
    {t : Ticket} (ht : s.desk.isPending t = false) (hn : t < s.next) :
    (s.step r a).1.desk.isPending t = false := by
  rw [← Bool.not_eq_true] at ht ⊢
  rw [isPending_step_iff h r a hn]
  rintro ⟨w, hw, hwt, -⟩
  exact ht (Desk.isPending_iff.2 ⟨w, hw, hwt⟩)

theorem endingsOf_of_ended (h : s.desk.Seated s.next) (r : Retention V) (acts : List (Act K V))
    {t : Ticket} (ht : s.desk.isPending t = false) (hn : t < s.next) :
    endingsOf t (s.endings r acts) = [] ∧ (s.after r acts).desk.isPending t = false := by
  induction acts generalizing s with
  | nil => exact ⟨rfl, ht⟩
  | cons a rest ih =>
    have hrest := ih (seated_step h r a) (isPending_step_of_ended h r a ht hn)
      (hn.trans_le (next_le_step r a))
    rw [endings, endingsOf_append, endingsOf_step_of_ended h r a ht hn, hrest.1]
    exact ⟨rfl, hrest.2⟩

theorem endingsOf_of_pending (h : s.desk.Seated s.next) (r : Retention V) (acts : List (Act K V))
    {w : Wait K} (hw : w ∈ s.desk.waits) :
    endingsOf w.ticket (s.endings r acts) = (verdict w s.waiting acts).toList ∧
      (s.after r acts).desk.isPending w.ticket = (verdict w s.waiting acts).isNone := by
  induction acts generalizing s with
  | nil => exact ⟨rfl, Desk.isPending_iff.2 ⟨w, hw, rfl⟩⟩
  | cons a rest ih =>
    have hfirst := endingsOf_step h r a hw
    rw [endings, endingsOf_append, hfirst, verdict, after_cons]
    cases he : a.ending s.waiting w with
    | some e =>
      have hgone : (s.step r a).1.desk.isPending w.ticket = false := by
        rw [← Bool.not_eq_true, isPending_step_iff h r a (h.early w hw)]
        rintro ⟨w', hw', ht, hend⟩
        rw [h.eq_of_ticket hw' hw ht, he] at hend
        exact absurd hend (by simp)
      have hrest := endingsOf_of_ended (seated_step h r a) r rest hgone
        ((h.early w hw).trans_le (next_le_step r a))
      rw [hrest.1, hrest.2]
      exact ⟨rfl, rfl⟩
    | none =>
      have hstays : w ∈ (s.step r a).1.desk.waits := by
        rw [waits_step h]
        exact List.mem_append_left _ (List.mem_filter.2 ⟨hw, by rw [he]; rfl⟩)
      rw [← waiting_step r a]
      exact ih (seated_step h r a) hstays

/-- The outcome of every call. If a value is parked under its key, the call claims it at once.
Otherwise the first act that ends it decides, and it is pending until then; acts that do not concern it
can be left out of the run. -/
theorem wait_outcome (r : Retention V) (before after : List (Act K V)) (k : K) (timeout : Span) :
    let s := start.after r before
    let w : Wait K := ⟨s.next, k, s.waiting, timeout⟩
    let run := fun acts => before ++ .wait k timeout :: acts
    (s.step r (.wait k timeout)).2.1 = .started w.ticket ∧
      endingsOf w.ticket (start.endings r (run (after.filter (·.concerns w)))) =
        endingsOf w.ticket (start.endings r (run after)) ∧
      match s.desk.parked k with
      | some (v, _) =>
        (s.step r (.wait k timeout)).2.2 = [(w.ticket, .value v)] ∧
          endingsOf w.ticket (start.endings r (run after)) = [.value v]
      | none =>
        endingsOf w.ticket (start.endings r (run after)) = (verdict w s.waiting after).toList ∧
          (start.after r (run after)).desk.isPending w.ticket = (verdict w s.waiting after).isNone := by
  intro s w run
  have h : s.desk.Seated s.next := seated_start r before
  have hearlier : endingsOf w.ticket (start.endings r before) = [] := by
    rw [endingsOf, List.map_eq_nil_iff, List.filter_eq_nil_iff]
    rintro ⟨u, e⟩ he hu
    have hlt := ticket_lt_of_ended (Desk.Seated.empty 0) r before he
    rw [beq_iff_eq] at hu
    exact hlt.ne hu
  have hrun : ∀ acts, endingsOf w.ticket (start.endings r (run acts)) =
      endingsOf w.ticket (s.step r (.wait k timeout)).2.2 ++
        endingsOf w.ticket ((s.step r (.wait k timeout)).1.endings r acts) := by
    intro acts
    rw [endings_append, endingsOf_append, hearlier, List.nil_append, endings, endingsOf_append]
  have hafter : start.after r (run after) = (s.step r (.wait k timeout)).1.after r after :=
    List.foldl_append
  have h' := seated_step h r (.wait k timeout)
  cases hp : s.desk.parked k with
  | some p =>
    have hclaim : (s.step r (.wait k timeout)).2.2 = [(w.ticket, .value p.1)] := by
      simp [step, Desk.claimed_wait, hp, w]
    have hended : (s.step r (.wait k timeout)).1.desk.isPending w.ticket = false := by
      rw [← Bool.not_eq_true, Desk.isPending_iff, waits_step h, arrivals, hp]
      rintro ⟨w', hw', ht⟩
      rw [Option.isSome_some, if_pos rfl, List.append_nil] at hw'
      exact (h.early w' (List.mem_of_mem_filter hw')).ne ht
    have hdone : ∀ acts, endingsOf w.ticket (start.endings r (run acts)) = [.value p.1] := by
      intro acts
      rw [hrun, hclaim, (endingsOf_of_ended h' r acts hended (Nat.lt_succ_self _)).1]
      simp [endingsOf]
    exact ⟨rfl, (hdone _).trans (hdone _).symm, hclaim, hdone after⟩
  | none =>
    have hstarts : w ∈ (s.step r (.wait k timeout)).1.desk.waits := by
      rw [waits_step h]
      simp [arrivals, hp, w]
    have hquiet : (s.step r (.wait k timeout)).2.2 = [] := by
      simp [step, Desk.claimed_wait, hp]
    have hends : ∀ acts, endingsOf w.ticket (start.endings r (run acts)) =
        (verdict w s.waiting acts).toList := by
      intro acts
      rw [hrun, hquiet]
      exact (endingsOf_of_pending h' r acts hstarts).1
    refine ⟨rfl, ?_, hends after, ?_⟩
    · rw [hends, hends, verdict_filter_concerns]
    · rw [hafter]
      exact (endingsOf_of_pending h' r after hstarts).2

end Run

end MessageExchange.Correlation

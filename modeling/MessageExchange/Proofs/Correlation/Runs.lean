import MessageExchange.Correlation.Run
import MessageExchange.Proofs.Correlation.Seating

/-! Runs of a desk, one act at a time. Slots and pending calls agree in every state of a run. An act ends
the pending calls that it concerns, and its answer follows from the calls that are pending and from what
is parked. -/

namespace MessageExchange.Correlation

variable {K V : Type} [DecidableEq K]

namespace Act

/-- What the act makes of a pending call, with the waiting clock at `now`, if it ends the call. -/
def ending (a : Act K V) (now : Span) (w : Wait K) : Option (Ending V) :=
  match a with
  | deliver k v | complete k v => if k = w.key then some (.value v) else none
  | cancel t => if t = w.ticket then some .cancelled else none
  | close => some .closed
  | advance span =>
    if w.timeout.nanos ≠ 0 ∧ w.since.nanos + w.timeout.nanos ≤ now.nanos + span.nanos then
      some .timedOut
    else none
  | wait _ _ | sweep | age _ => none

def clock (a : Act K V) (now : Span) : Span :=
  match a with
  | advance span => ⟨now.nanos + span.nanos⟩
  | _ => now

def ageing (a : Act K V) (now : Instant) : Instant :=
  match a with
  | age span => now.add span
  | _ => now

def upcoming (a : Act K V) (next : Ticket) : Ticket :=
  match a with
  | wait _ _ => next + 1
  | _ => next

omit [DecidableEq K] in
theorem le_upcoming (a : Act K V) (next : Ticket) : next ≤ a.upcoming next := by
  cases a with
  | wait k timeout => exact next.le_succ
  | _ => exact le_rfl

end Act

omit [DecidableEq K] in
theorem Wait.deadline_any (w : Wait K) (now : Span) :
    w.deadline.any (·.nanos ≤ now.nanos) = true ↔
      w.timeout.nanos ≠ 0 ∧ w.since.nanos + w.timeout.nanos ≤ now.nanos := by
  unfold deadline
  split_ifs with h <;> simp [h]

namespace Desk

variable {d : Desk K V} {n : Ticket}

omit [DecidableEq K] in
theorem mem_due {now : Span} {w : Wait K} :
    w ∈ d.due now ↔
      w ∈ d.waits ∧ w.timeout.nanos ≠ 0 ∧ w.since.nanos + w.timeout.nanos ≤ now.nanos := by
  rw [due, List.mem_mergeSort, List.mem_filter, Wait.deadline_any]

theorem Seated.nodup_due (h : d.Seated n) (now : Span) : ((d.due now).map Wait.ticket).Nodup := by
  have hw : (d.waits.map Wait.ticket).Nodup := h.sorted.imp fun hlt => hlt.ne
  have hperm := (List.mergeSort_perm (d.waits.filter fun w => w.deadline.any (·.nanos ≤ now.nanos))
    fun a b => a.since.nanos + a.timeout.nanos ≤ b.since.nanos + b.timeout.nanos).map Wait.ticket
  exact hperm.nodup_iff.2 (hw.sublist (List.filter_sublist.map _))

theorem Seated.nodup_pendingOn (h : d.Seated n) (k : K) : (d.pendingOn k).Nodup :=
  List.Nodup.sublist (List.filter_sublist.map _) (h.sorted.imp fun hlt => hlt.ne)

end Desk

namespace Run

variable {s : Run K V}

def after (r : Retention V) (s : Run K V) (acts : List (Act K V)) : Run K V :=
  acts.foldl (fun s a => (s.step r a).1) s

def endings (r : Retention V) (s : Run K V) : List (Act K V) → List (Ticket × Ending V)
  | [] => []
  | a :: rest => (s.step r a).2.2 ++ (s.step r a).1.endings r rest

theorem after_cons (r : Retention V) (a : Act K V) (rest : List (Act K V)) :
    s.after r (a :: rest) = (s.step r a).1.after r rest := rfl

theorem endings_append (r : Retention V) (acts acts' : List (Act K V)) :
    s.endings r (acts ++ acts') = s.endings r acts ++ (s.after r acts).endings r acts' := by
  induction acts generalizing s with
  | nil => rfl
  | cons a rest ih => rw [List.cons_append, endings, endings, ih, after_cons, List.append_assoc]

/-! Several calls time out at once. -/

theorem waits_timeOutAll (d : Desk K V) (due : List (Wait K)) :
    (timeOutAll d due).waits = d.waits.filter fun w => !(due.map Wait.ticket).contains w.ticket := by
  induction due generalizing d with
  | nil => simp [timeOutAll]
  | cons w rest ih =>
    have hrest := ih (d.timeOut w)
    unfold timeOutAll at hrest ⊢
    rw [List.foldl_cons, hrest, Desk.waits_timeOut, List.filter_filter]
    refine List.filter_congr fun w' _ => ?_
    rw [List.map_cons, List.contains_cons, Bool.not_or, Bool.and_comm]
    rfl

theorem seated_timeOutAll {d : Desk K V} {n : Ticket} (h : d.Seated n) (due : List (Wait K)) :
    (timeOutAll d due).Seated n := by
  induction due generalizing d with
  | nil => exact h
  | cons w rest ih => exact ih (h.timeOut w)

theorem parked_timeOutAll (d : Desk K V) (due : List (Wait K)) (k : K) :
    (timeOutAll d due).parked k = d.parked k := by
  induction due generalizing d with
  | nil => rfl
  | cons w rest ih => exact (ih (d.timeOut w)).trans (Desk.parked_timeOut d w k)

theorem pendingOn_timeOutAll {d : Desk K V} {due : List (Wait K)} {k : K}
    (hdue : ∀ w ∈ due, ∀ w' ∈ d.waits, w'.ticket = w.ticket → w'.key = w.key)
    (hk : ∀ w ∈ due, w.key ≠ k) : (timeOutAll d due).pendingOn k = d.pendingOn k := by
  rw [Desk.pendingOn, waits_timeOutAll, List.filter_filter, Desk.pendingOn]
  congr 1
  apply List.filter_congr
  intro w' hw'
  rw [Bool.and_eq_left_iff_imp, decide_eq_true_eq]
  rintro rfl
  rw [Bool.not_eq_true', ← Bool.not_eq_true, List.contains_iff_mem, List.mem_map]
  rintro ⟨w, hw, ht⟩
  exact hk w hw (hdue w hw w' hw' ht.symm).symm

/-- The slots of ended calls go from every key on which a call stops waiting, and from no other. -/
theorem slots_timeOutAll {d : Desk K V} {n : Ticket} (h : d.Seated n) {due : List (Wait K)}
    (hdue : ∀ w ∈ due, ∀ w' ∈ d.waits, w'.ticket = w.ticket → w'.key = w.key) (k : K) :
    (timeOutAll d due).slots k =
      if ∃ w ∈ due, w.key = k then (timeOutAll d due).pendingOn k else d.slots k := by
  induction due generalizing d with
  | nil => simp [timeOutAll]
  | cons w rest ih =>
    have hrest : ∀ v ∈ rest, ∀ w' ∈ (d.timeOut w).waits, w'.ticket = v.ticket → w'.key = v.key := by
      intro v hv w' hw'
      rw [Desk.waits_timeOut] at hw'
      exact hdue v (List.mem_cons_of_mem w hv) w' (List.mem_of_mem_filter hw')
    have hlast : (timeOutAll d (w :: rest)) = timeOutAll (d.timeOut w) rest := rfl
    rw [hlast, ih (h.timeOut w) hrest]
    by_cases hany : ∃ v ∈ rest, v.key = k
    · have hmore : ∃ v ∈ w :: rest, v.key = k :=
        hany.imp fun v hv => ⟨List.mem_cons_of_mem w hv.1, hv.2⟩
      rw [if_pos hany, if_pos hmore]
    · have hnone : ∀ v ∈ rest, v.key ≠ k := fun v hv hk => hany ⟨v, hv, hk⟩
      have hfirst : (∃ v ∈ w :: rest, v.key = k) ↔ k = w.key := by
        rw [List.exists_mem_cons_iff, or_iff_left hany, eq_comm]
      rw [if_neg hany, Desk.slots_timeOut, pendingOn_timeOutAll hrest hnone,
        h.live_filter (Desk.waits_timeOut d w)]
      simp only [hfirst]

/-! One act. -/

theorem step_deliver (h : s.desk.Seated s.next) (r : Retention V) (k : K) (v : V) :
    s.step r (.deliver k v) =
      ({ s with desk := (s.desk.deliver k v s.storage).1 },
        .placed (s.desk.deliver k v s.storage).2, (s.desk.pendingOn k).map (·, .value v)) := by
  have hp := h.placement_deliver k v s.storage
  cases hd : s.desk.deliver k v s.storage with
  | mk d p =>
    simp only [hd] at hp
    simp only [step, hd]
    by_cases hk : s.desk.pendingOn k = []
    · rw [if_neg (not_not.2 hk)] at hp
      rw [hp, hk]
      split_ifs <;> rfl
    · rw [if_pos hk] at hp
      rw [hp]

theorem step_complete (h : s.desk.Seated s.next) (r : Retention V) (k : K) (v : V) :
    s.step r (.complete k v) =
      ({ s with desk := (s.desk.complete k).1 },
        if s.desk.pendingOn k ≠ [] then .woke (s.desk.pendingOn k)
        else .back v (s.desk.slots k ≠ []),
        (s.desk.pendingOn k).map (·, .value v)) := by
  have hp := h.completion_complete k
  cases hd : s.desk.complete k with
  | mk d p =>
    simp only [hd] at hp
    simp only [step, hd]
    by_cases hk : s.desk.pendingOn k = []
    · rw [if_neg (not_not.2 hk)] at hp ⊢
      rw [hp, hk]
      rfl
    · rw [if_pos hk] at hp ⊢
      rw [hp]

theorem seated_step (h : s.desk.Seated s.next) (r : Retention V) (a : Act K V) :
    (s.step r a).1.desk.Seated (s.step r a).1.next := by
  cases a with
  | deliver k v =>
    rw [step_deliver h]
    exact h.deliver k v s.storage
  | complete k v =>
    rw [step_complete h]
    exact h.complete k
  | wait k timeout => exact h.wait k timeout s.waiting
  | cancel t =>
    simp only [step]
    split_ifs
    · exact h.cancel t
    · exact h
  | sweep => exact h.sweep r s.storage
  | close => exact Desk.Seated.empty s.next
  | advance span => exact seated_timeOutAll h _
  | age _ => exact h

theorem seated_after (h : s.desk.Seated s.next) (r : Retention V) (acts : List (Act K V)) :
    (s.after r acts).desk.Seated (s.after r acts).next := by
  induction acts generalizing s with
  | nil => exact h
  | cons a rest ih => exact ih (seated_step h r a)

theorem seated_start (r : Retention V) (acts : List (Act K V)) :
    (start.after r acts).desk.Seated (start.after r acts).next :=
  seated_after (Desk.Seated.empty 0) r acts

theorem clocks_step (r : Retention V) (a : Act K V) :
    (s.step r a).1.waiting = a.clock s.waiting ∧ (s.step r a).1.storage = a.ageing s.storage ∧
      (s.step r a).1.next = a.upcoming s.next := by
  cases a with
  | deliver k v | complete k v | cancel t =>
    simp only [step]
    split <;> exact ⟨rfl, rfl, rfl⟩
  | _ => exact ⟨rfl, rfl, rfl⟩

theorem waiting_step (r : Retention V) (a : Act K V) :
    (s.step r a).1.waiting = a.clock s.waiting := (clocks_step r a).1

theorem storage_step (r : Retention V) (a : Act K V) :
    (s.step r a).1.storage = a.ageing s.storage := (clocks_step r a).2.1

theorem next_step (r : Retention V) (a : Act K V) : (s.step r a).1.next = a.upcoming s.next :=
  (clocks_step r a).2.2

/-- A call that claims a parked value ends at once; any other starts waiting. -/
def arrivals (s : Run K V) : Act K V → List (Wait K)
  | .wait k timeout => if (s.desk.parked k).isSome then [] else [⟨s.next, k, s.waiting, timeout⟩]
  | _ => []

theorem survives_iff (k : K) (v : V) (w : Wait K) :
    decide (w.key ≠ k) = (if k = w.key then some (Ending.value v) else none).isNone := by
  by_cases hk : k = w.key
  · simp [hk]
  · simp [hk, Ne.symm hk]

/-- The calls an act does not end stay, in their order, and a new one comes last. -/
theorem waits_step (h : s.desk.Seated s.next) (r : Retention V) (a : Act K V) :
    (s.step r a).1.desk.waits =
      (s.desk.waits.filter fun w => (a.ending s.waiting w).isNone) ++ s.arrivals a := by
  cases a with
  | deliver k v =>
    rw [step_deliver h]
    simp only [arrivals, List.append_nil]
    rw [h.waits_deliver]
    exact List.filter_congr fun w _ => survives_iff k v w
  | complete k v =>
    rw [step_complete h]
    simp only [arrivals, List.append_nil]
    rw [h.waits_complete]
    exact List.filter_congr fun w _ => survives_iff k v w
  | wait k timeout => simp [step, Desk.waits_wait, arrivals, Act.ending]
  | cancel t =>
    have hends : (s.desk.cancel t).waits =
        s.desk.waits.filter fun w => ((Act.cancel t : Act K V).ending s.waiting w).isNone := by
      apply List.filter_congr
      intro w _
      by_cases ht : t = w.ticket
      · simp [Act.ending, ht]
      · simp [Act.ending, ht, Ne.symm ht]
    simp only [step, arrivals, List.append_nil]
    split_ifs with hp
    · exact hends
    · rw [Eq.comm, List.filter_eq_self]
      intro w hw
      have hne : t ≠ w.ticket := fun he => hp (Desk.isPending_iff.2 ⟨w, hw, he.symm⟩)
      simp [Act.ending, hne]
  | sweep => simp [step, Desk.sweep, arrivals, Act.ending]
  | close => simp [step, Desk.close, Desk.empty, arrivals, Act.ending]
  | advance span =>
    simp only [step, arrivals, List.append_nil]
    rw [waits_timeOutAll]
    apply List.filter_congr
    intro w hw
    have hdue : ((s.desk.due ⟨s.waiting.nanos + span.nanos⟩).map Wait.ticket).contains w.ticket =
        true ↔ w ∈ s.desk.due ⟨s.waiting.nanos + span.nanos⟩ := by
      rw [List.contains_iff_mem, List.mem_map]
      constructor
      · rintro ⟨w', hw', ht⟩
        rwa [← h.eq_of_ticket (Desk.mem_due.1 hw').1 hw ht]
      · exact fun hmem => ⟨w, hmem, rfl⟩
    rw [Bool.eq_iff_iff, Bool.not_eq_true', ← Bool.not_eq_true, hdue, Desk.mem_due]
    simp only [Act.ending]
    split_ifs with hend <;> simp [hw, hend]
  | age _ => simp [step, arrivals, Act.ending]

theorem ended_step_cases (h : s.desk.Seated s.next) (r : Retention V) (a : Act K V) {t : Ticket}
    {e : Ending V} (he : (t, e) ∈ (s.step r a).2.2) :
    (∃ w ∈ s.desk.waits, w.ticket = t ∧ a.ending s.waiting w = some e) ∨
      ∃ k timeout v since, a = .wait k timeout ∧ t = s.next ∧
        s.desk.parked k = some (v, since) ∧ e = .value v := by
  cases a with
  | deliver k v =>
    rw [step_deliver h] at he
    obtain ⟨u, hu, hue⟩ := List.mem_map.1 he
    obtain ⟨w, hw, rfl⟩ := List.mem_map.1 hu
    obtain ⟨hwm, hk⟩ := List.mem_filter.1 hw
    cases hue
    exact .inl ⟨w, hwm, rfl, if_pos (of_decide_eq_true hk).symm⟩
  | complete k v =>
    rw [step_complete h] at he
    obtain ⟨u, hu, hue⟩ := List.mem_map.1 he
    obtain ⟨w, hw, rfl⟩ := List.mem_map.1 hu
    obtain ⟨hwm, hk⟩ := List.mem_filter.1 hw
    cases hue
    exact .inl ⟨w, hwm, rfl, if_pos (of_decide_eq_true hk).symm⟩
  | wait k timeout =>
    simp only [step, Desk.claimed_wait, Option.map_map, Option.mem_toList, Option.map_eq_some_iff] at he
    obtain ⟨⟨v, since⟩, hp, hve⟩ := he
    cases hve
    exact .inr ⟨k, timeout, v, since, rfl, rfl, hp, rfl⟩
  | cancel t' =>
    simp only [step] at he
    split_ifs at he with hp
    · cases List.mem_singleton.1 he
      obtain ⟨w, hw, ht⟩ := Desk.isPending_iff.1 hp
      exact .inl ⟨w, hw, ht, if_pos ht.symm⟩
    · exact absurd he List.not_mem_nil
  | sweep => exact absurd he List.not_mem_nil
  | close =>
    obtain ⟨w, hw, hwe⟩ := List.mem_map.1 he
    cases hwe
    exact .inl ⟨w, hw, rfl, rfl⟩
  | advance span =>
    obtain ⟨w, hw, hwe⟩ := List.mem_map.1 he
    cases hwe
    obtain ⟨hwm, hdue⟩ := Desk.mem_due.1 hw
    exact .inl ⟨w, hwm, rfl, if_pos hdue⟩
  | age _ => exact absurd he List.not_mem_nil

theorem next_le_step (r : Retention V) (a : Act K V) : s.next ≤ (s.step r a).1.next := by
  rw [next_step]
  exact a.le_upcoming s.next

theorem next_le_after (r : Retention V) (acts : List (Act K V)) : s.next ≤ (s.after r acts).next := by
  induction acts generalizing s with
  | nil => exact le_rfl
  | cons a rest ih => exact (next_le_step r a).trans ih

theorem ticket_lt_of_ended (h : s.desk.Seated s.next) (r : Retention V) (acts : List (Act K V))
    {t : Ticket} {e : Ending V} (he : (t, e) ∈ s.endings r acts) : t < (s.after r acts).next := by
  induction acts generalizing s with
  | nil => exact absurd he List.not_mem_nil
  | cons a rest ih =>
    rw [endings, List.mem_append] at he
    rcases he with he | he
    · refine lt_of_lt_of_le ?_ (next_le_after r rest)
      rcases ended_step_cases h r a he with ⟨w, hw, rfl, -⟩ | ⟨k, timeout, _, _, rfl, rfl, -⟩
      · exact (h.early w hw).trans_le (next_le_step r a)
      · exact Nat.lt_succ_self _
    · exact ih (seated_step h r a) he

/-- A parked value stays until its key gets another value, a call claims it, it is swept as stale, or the
desk closes. -/
theorem parked_step (h : s.desk.Seated s.next) (r : Retention V) (a : Act K V) (k : K) :
    (s.step r a).1.desk.parked k =
      match a with
      | .deliver k' v =>
        if k = k' ∧ s.desk.pendingOn k' = [] then some (v, s.storage) else s.desk.parked k
      | .wait k' _ => if k = k' then none else s.desk.parked k
      | .sweep => (s.desk.parked k).filter fun p => !Desk.isStale r s.storage p.2 p.1
      | .close => none
      | _ => s.desk.parked k := by
  cases a with
  | deliver k' v =>
    rw [step_deliver h]
    exact h.parked_deliver k' k v s.storage
  | complete k' v =>
    rw [step_complete h]
    exact Desk.parked_complete s.desk k' k
  | wait k' timeout => exact Desk.parked_wait s.desk s.next k' k timeout s.waiting
  | cancel t =>
    simp only [step]
    split_ifs <;> rfl
  | sweep => exact Desk.parked_sweep s.desk r s.storage k
  | close => rfl
  | advance span => exact parked_timeOutAll s.desk _ k
  | age _ => rfl

/-- A new call takes the last slot under its key. The slots under a key go all at once, when a value is
handed over there or the desk closes; those of ended calls go when the desk is swept or a call on the key
times out. -/
theorem slots_step (h : s.desk.Seated s.next) (r : Retention V) (a : Act K V) (k : K) :
    (s.step r a).1.desk.slots k =
      match a with
      | .deliver k' _ | .complete k' _ => if k = k' then [] else s.desk.slots k
      | .wait k' _ => s.desk.slots k ++ if k = k' ∧ s.desk.parked k = none then [s.next] else []
      | .sweep => s.desk.pendingOn k
      | .close => []
      | .advance span =>
        if ∃ w ∈ s.desk.due ⟨s.waiting.nanos + span.nanos⟩, w.key = k then
          (s.step r a).1.desk.pendingOn k
        else s.desk.slots k
      | .cancel _ | .age _ => s.desk.slots k := by
  cases a with
  | deliver k' v =>
    rw [step_deliver h]
    exact Desk.slots_deliver s.desk k' k v s.storage
  | complete k' v =>
    rw [step_complete h]
    exact Desk.slots_complete s.desk k' k
  | wait k' timeout =>
    refine (Desk.slots_wait s.desk s.next k' k timeout s.waiting).trans ?_
    by_cases hk : k = k' <;> simp [hk]
  | cancel t =>
    simp only [step]
    split_ifs <;> rfl
  | sweep =>
    have hwaits : (s.desk.sweep r s.storage).live = s.desk.live := Desk.live_congr rfl
    refine (Desk.cleared_sweep s.desk r s.storage k).1.trans ?_
    rw [hwaits]
    exact h.live k
  | close => rfl
  | advance span =>
    refine slots_timeOutAll h (fun w hw w' hw' ht => ?_) k
    rw [h.eq_of_ticket hw' (Desk.mem_due.1 hw).1 ht]
  | age _ => rfl

theorem after_snoc (r : Retention V) (acts : List (Act K V)) (a : Act K V) :
    s.after r (acts ++ [a]) = ((s.after r acts).step r a).1 := by
  rw [after, List.foldl_append]
  rfl

end Run

end MessageExchange.Correlation

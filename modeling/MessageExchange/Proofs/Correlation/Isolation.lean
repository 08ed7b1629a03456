import MessageExchange.Proofs.Correlation.Occupancy

/-! Keys do not disturb each other. From a run all that concerns other keys can be left out: after every
act the key looks the same, what is handed over under it has the same answer, and each call on it ends in
the same act and in the same way. The calls that are left get new tickets, in the same order. -/

namespace MessageExchange.Correlation

variable {K V : Type} [DecidableEq K]

/-- The act in a run for `k` alone, where a call has its place among `calls` for a ticket. An act that
concerns another key has no part in it. -/
def Act.alone (k : K) (calls : List Ticket) (a : Act K V) : Option (Act K V) :=
  match a with
  | deliver k' v => if k' = k then some (deliver k v) else none
  | complete k' v => if k' = k then some (complete k v) else none
  | wait k' timeout => if k' = k then some (wait k timeout) else none
  | cancel t => if t ∈ calls then some (cancel (calls.idxOf t)) else none
  | sweep | close | advance _ | age _ => some a

/-- The run for `k` alone, when `calls` were made on it before and the next call of all has the ticket
`next`. -/
def alone (k : K) (next : Ticket) (calls : List Ticket) : List (Act K V) → List (Act K V)
  | [] => []
  | a :: rest =>
    (a.alone k calls).toList ++ alone k (a.upcoming next) (calls ++ (a.opens k next).toList) rest

theorem alone_snoc (k : K) (next : Ticket) (calls : List Ticket) (acts : List (Act K V))
    (a : Act K V) :
    alone k next calls (acts ++ [a]) =
      alone k next calls acts ++ (a.alone k (calls ++ callsOn k next acts)).toList := by
  induction acts generalizing next calls with
  | nil => simp [alone, callsOn]
  | cons b rest ih => simp only [List.cons_append, alone, callsOn, ih, List.append_assoc]

/-- The call under its ticket in the run for its key alone. -/
def Wait.renumber (calls : List Ticket) (w : Wait K) : Wait K :=
  { w with ticket := calls.idxOf w.ticket }

def Answer.renumber (calls : List Ticket) : Answer V → Answer V
  | placed (.woke ts) => placed (.woke (ts.map calls.idxOf))
  | woke ts => woke (ts.map calls.idxOf)
  | answer => answer

theorem ending_alone {k : K} {calls : List Ticket} (a : Act K V) (now : Span) {w : Wait K}
    (hk : w.key = k) (hw : w.ticket ∈ calls) :
    (a.alone k calls).bind (·.ending now (w.renumber calls)) = a.ending now w := by
  subst hk
  cases a with
  | deliver k' v | complete k' v =>
    simp only [Act.alone, Act.ending]
    split_ifs <;> simp [Wait.renumber]
  | wait k' timeout =>
    simp only [Act.alone, Act.ending]
    split_ifs <;> rfl
  | cancel t =>
    simp only [Act.alone, Act.ending]
    by_cases ht : t ∈ calls
    · simp only [if_pos ht, Option.bind_some, Wait.renumber, List.idxOf_inj ht]
    · have hne : t ≠ w.ticket := fun he => ht (he ▸ hw)
      simp [ht, hne]
  | sweep | close | advance span | age span => rfl

namespace Run

variable {s s' : Run K V} {k : K} {calls : List Ticket}

/-- What concerns `k` in a run is all there is in the other one, where a call has its place among `calls`
for a ticket. -/
structure Alike (k : K) (calls : List Ticket) (s s' : Run K V) : Prop where
  waiting : s'.waiting = s.waiting
  storage : s'.storage = s.storage
  next : s'.next = calls.length
  parked : s'.desk.parked k = s.desk.parked k
  slots : s'.desk.slots k = (s.desk.slots k).map calls.idxOf
  waits : s'.desk.waits = (s.desk.waits.filter (·.key = k)).map (Wait.renumber calls)

theorem Alike.start (k : K) : Alike k [] (start : Run K V) start := ⟨rfl, rfl, rfl, rfl, rfl, rfl⟩

theorem pendingOn_renumber {d d' : Desk K V}
    (hw : d'.waits = (d.waits.filter (·.key = k)).map (Wait.renumber calls)) :
    d'.pendingOn k = (d.pendingOn k).map calls.idxOf := by
  have hkeys : ∀ w ∈ (d.waits.filter (·.key = k)).map (Wait.renumber calls),
      decide (w.key = k) = true := by
    intro w' hw'
    obtain ⟨w, hw, rfl⟩ := List.mem_map.1 hw'
    exact (List.mem_filter.1 hw).2
  rw [Desk.pendingOn, hw, List.filter_eq_self.2 hkeys, Desk.pendingOn, List.map_map, List.map_map]
  rfl

theorem Alike.pendingOn (ha : Alike k calls s s') :
    s'.desk.pendingOn k = (s.desk.pendingOn k).map calls.idxOf := pendingOn_renumber ha.waits

theorem Alike.due_iff (ha : Alike k calls s s') (now : Span) :
    (∃ w ∈ s'.desk.due now, w.key = k) ↔ ∃ w ∈ s.desk.due now, w.key = k := by
  simp only [Desk.mem_due, ha.waits, List.mem_map, List.mem_filter, decide_eq_true_eq]
  constructor
  · rintro ⟨_, ⟨⟨w, ⟨hw, hk⟩, rfl⟩, hdue⟩, -⟩
    exact ⟨w, ⟨hw, hdue⟩, hk⟩
  · rintro ⟨w, ⟨hw, hdue⟩, hk⟩
    exact ⟨w.renumber calls, ⟨⟨w, ⟨hw, hk⟩, rfl⟩, hdue⟩, hk⟩

section

variable (h : s.desk.Seated s.next) (h' : s'.desk.Seated s'.next) (ha : Alike k calls s s')
  (hcalls : ∀ w ∈ s.desk.waits, w.ticket ∈ calls ↔ w.key = k) (hearly : ∀ t ∈ calls, t < s.next)
  (r : Retention V) (a : Act K V)

include ha hearly in
theorem idxOf_next : (calls ++ [s.next]).idxOf s.next = s'.next := by
  have hnew : s.next ∉ calls := fun hmem => (hearly _ hmem).ne rfl
  rw [List.idxOf_append_of_notMem hnew, ha.next]
  simp

include ha hearly in
theorem arrivals_alone :
    (a.alone k calls).elim [] s'.arrivals =
      ((s.arrivals a).filter (·.key = k)).map
        (Wait.renumber (calls ++ (a.opens k s.next).toList)) := by
  have hlast := idxOf_next ha hearly
  cases a with
  | wait k' timeout =>
    by_cases hk : k' = k
    · subst hk
      simp only [Act.alone, Act.opens, arrivals, if_pos, Option.elim_some, ha.parked, ha.waiting]
      cases s.desk.parked k' <;> simp [Wait.renumber, hlast]
    · simp only [Act.alone, if_neg hk, Option.elim_none, arrivals]
      split_ifs <;> simp [hk]
  | deliver k' v | complete k' v | cancel t =>
    simp only [Act.alone]
    split_ifs <;> rfl
  | sweep | close | advance span | age span => rfl

include h h' ha hcalls hearly in
theorem waits_alone :
    (s'.after r (a.alone k calls).toList).desk.waits =
      ((s.step r a).1.desk.waits.filter (·.key = k)).map
        (Wait.renumber (calls ++ (a.opens k s.next).toList)) := by
  have hsame : ∀ w ∈ s.desk.waits.filter (·.key = k),
      w.renumber (calls ++ (a.opens k s.next).toList) = w.renumber calls := by
    intro w hw
    obtain ⟨hw, hk⟩ := List.mem_filter.1 hw
    simp only [Wait.renumber, List.idxOf_append_of_mem ((hcalls w hw).2 (of_decide_eq_true hk))]
  have hkept :
      (s'.desk.waits.filter fun w => ((a.alone k calls).bind (·.ending s'.waiting w)).isNone) =
        ((s.desk.waits.filter (·.key = k)).filter fun w => (a.ending s.waiting w).isNone).map
          (Wait.renumber (calls ++ (a.opens k s.next).toList)) := by
    have hends : ∀ w ∈ s.desk.waits.filter (·.key = k),
        ((a.alone k calls).bind (·.ending s.waiting (w.renumber calls))).isNone =
          (a.ending s.waiting w).isNone := by
      intro w hw
      obtain ⟨hw, hk⟩ := List.mem_filter.1 hw
      have hkey := of_decide_eq_true hk
      rw [ending_alone a s.waiting hkey ((hcalls w hw).2 hkey)]
    rw [ha.waits, ha.waiting, List.filter_map]
    simp only [Function.comp_def]
    rw [List.filter_congr hends]
    exact List.map_congr_left fun w hw => (hsame w (List.mem_of_mem_filter hw)).symm
  rw [waits_step h, List.filter_append, List.filter_comm, List.map_append, ← hkept,
    ← arrivals_alone ha hearly a]
  cases a.alone k calls with
  | none => simp [after]
  | some a' => exact waits_step h' r a'

include h h' ha in
theorem parked_alone :
    (s'.after r (a.alone k calls).toList).desk.parked k = (s.step r a).1.desk.parked k := by
  have hpending : s'.desk.pendingOn k = [] ↔ s.desk.pendingOn k = [] := by
    rw [ha.pendingOn, List.map_eq_nil_iff]
  rw [parked_step h]
  cases a with
  | deliver k' v =>
    by_cases hk : k' = k
    · subst hk
      simp only [Act.alone, if_pos]
      refine (parked_step h' r _ k').trans ?_
      simp only [hpending, ha.parked, ha.storage]
    · simp only [Act.alone, if_neg hk, if_neg fun hc : k = k' ∧ _ => hk hc.1.symm]
      exact ha.parked
  | complete k' v =>
    by_cases hk : k' = k
    · simp only [Act.alone, if_pos hk]
      exact (parked_step h' r _ k).trans ha.parked
    · simp only [Act.alone, if_neg hk]
      exact ha.parked
  | wait k' timeout =>
    by_cases hk : k' = k
    · subst hk
      simp only [Act.alone, if_pos]
      exact (parked_step h' r _ k').trans (if_pos rfl)
    · simp only [Act.alone, if_neg hk, if_neg (Ne.symm hk)]
      exact ha.parked
  | cancel t =>
    by_cases ht : t ∈ calls
    · simp only [Act.alone, if_pos ht]
      exact (parked_step h' r _ k).trans ha.parked
    · simp only [Act.alone, if_neg ht]
      exact ha.parked
  | sweep =>
    refine (parked_step h' r .sweep k).trans ?_
    simp only [ha.parked, ha.storage]
  | close => exact parked_step h' r .close k
  | advance span => exact (parked_step h' r (.advance span) k).trans ha.parked
  | age span => exact (parked_step h' r (.age span) k).trans ha.parked

include h h' ha hcalls hearly in
theorem slots_alone (hslots : ∀ t ∈ s.desk.slots k, t ∈ calls) :
    (s'.after r (a.alone k calls).toList).desk.slots k =
      ((s.step r a).1.desk.slots k).map (calls ++ (a.opens k s.next).toList).idxOf := by
  have hold : s'.desk.slots k =
      (s.desk.slots k).map (calls ++ (a.opens k s.next).toList).idxOf := by
    rw [ha.slots]
    exact List.map_congr_left fun t ht => (List.idxOf_append_of_mem (hslots t ht)).symm
  rw [slots_step h]
  cases a with
  | deliver k' v | complete k' v =>
    by_cases hk : k' = k
    · simp only [Act.alone, if_pos hk, if_pos hk.symm]
      exact (slots_step h' r _ k).trans (if_pos rfl)
    · simp only [Act.alone, if_neg hk, if_neg (Ne.symm hk)]
      exact hold
  | wait k' timeout =>
    by_cases hk : k' = k
    · subst hk
      simp only [Act.alone, Act.opens, if_pos, Option.toList_some, List.map_append] at hold ⊢
      refine (slots_step h' r _ k').trans ?_
      simp only [hold, ha.parked, true_and]
      split_ifs
      · rw [List.map_singleton, idxOf_next ha hearly]
      · rfl
    · simp only [Act.alone, if_neg hk, if_neg fun hc : k = k' ∧ _ => hk hc.1.symm]
      rw [List.append_nil]
      exact hold
  | cancel t =>
    by_cases ht : t ∈ calls
    · simp only [Act.alone, if_pos ht]
      exact (slots_step h' r _ k).trans hold
    · simp only [Act.alone, if_neg ht]
      exact hold
  | sweep =>
    refine (slots_step h' r .sweep k).trans ?_
    simp only [ha.pendingOn, Act.opens, Option.toList_none, List.append_nil]
  | close => exact slots_step h' r .close k
  | advance span =>
    have hpending := pendingOn_renumber (waits_alone h h' ha hcalls hearly r (.advance span))
    refine (slots_step h' r (.advance span) k).trans ?_
    simp only [ha.waiting, ha.due_iff]
    split_ifs
    · exact hpending
    · exact hold
  | age span => exact (slots_step h' r (.age span) k).trans hold

include ha in
theorem clocks_alone :
    (s'.after r (a.alone k calls).toList).waiting = (s.step r a).1.waiting ∧
      (s'.after r (a.alone k calls).toList).storage = (s.step r a).1.storage ∧
      (s'.after r (a.alone k calls).toList).next = (calls ++ (a.opens k s.next).toList).length := by
  have hstep : ∀ a', s'.after r [a'] = (s'.step r a').1 := fun a' => rfl
  have hstay : s'.after r [] = s' := rfl
  rw [waiting_step, storage_step]
  cases a with
  | deliver k' v | complete k' v | wait k' v | cancel t =>
    simp only [Act.alone, Act.opens]
    split_ifs <;>
      simp [hstep, hstay, waiting_step, storage_step, next_step, Act.clock, Act.ageing,
        Act.upcoming, ha.waiting, ha.storage, ha.next]
  | sweep | close | advance span | age span =>
    simp [Act.alone, Act.opens, hstep, waiting_step, storage_step, next_step, Act.clock, Act.ageing,
      Act.upcoming, ha.waiting, ha.storage, ha.next]

include h h' ha hcalls hearly in
/-- Whatever happens in the one run, the other one has its part of it. -/
theorem Alike.step (hslots : ∀ t ∈ s.desk.slots k, t ∈ calls) :
    Alike k (calls ++ (a.opens k s.next).toList) (s.step r a).1
      (s'.after r (a.alone k calls).toList) := by
  obtain ⟨hwaiting, hstorage, hnext⟩ := clocks_alone ha r a
  exact ⟨hwaiting, hstorage, hnext, parked_alone h h' ha r a,
    slots_alone h h' ha hcalls hearly r a hslots, waits_alone h h' ha hcalls hearly r a⟩

include h h' ha hcalls hearly in
theorem endingsOf_alone {t : Ticket} (ht : t ∈ calls) :
    endingsOf (calls.idxOf t) (s'.endings r (a.alone k calls).toList) =
      endingsOf t (s.step r a).2.2 := by
  have hendings : ∀ b : Option (Act K V), s'.endings r b.toList = b.elim [] (s'.step r · |>.2.2) := by
    rintro (_ | b)
    · rfl
    · exact List.append_nil _
  rw [hendings]
  by_cases hp : ∃ w ∈ s.desk.waits, w.ticket = t
  · obtain ⟨w, hw, rfl⟩ := hp
    have hkey := (hcalls w hw).1 ht
    have hw' : w.renumber calls ∈ s'.desk.waits := by
      rw [ha.waits]
      exact List.mem_map_of_mem (List.mem_filter.2 ⟨hw, decide_eq_true hkey⟩)
    rw [endingsOf_step h r a hw, ← ending_alone a s.waiting hkey ht]
    cases a.alone k calls with
    | none => rfl
    | some a' =>
      rw [Option.bind_some, ← ha.waiting]
      exact endingsOf_step h' r a' hw'
  · have hover : s.desk.isPending t = false :=
      Bool.eq_false_iff.2 fun hpending => hp (Desk.isPending_iff.1 hpending)
    have hover' : s'.desk.isPending (calls.idxOf t) = false := by
      refine Bool.eq_false_iff.2 fun hpending => hp ?_
      obtain ⟨w', hw', he⟩ := Desk.isPending_iff.1 hpending
      rw [ha.waits] at hw'
      obtain ⟨w, hw, rfl⟩ := List.mem_map.1 hw'
      exact ⟨w, (List.mem_filter.1 hw).1, ((List.idxOf_inj ht).1 he.symm).symm⟩
    rw [endingsOf_step_of_ended h r a hover (hearly t ht)]
    cases a.alone k calls with
    | none => rfl
    | some a' =>
      refine endingsOf_step_of_ended h' r a' hover' ?_
      rw [ha.next]
      exact List.idxOf_lt_length_of_mem ht

include h h' ha in
theorem answers_alone (v : V) :
    (s'.step r (.deliver k v)).2.1 = (s.step r (.deliver k v)).2.1.renumber calls ∧
      (s'.step r (.complete k v)).2.1 = (s.step r (.complete k v)).2.1.renumber calls := by
  rw [step_deliver h, step_deliver h', step_complete h, step_complete h', h.placement_deliver,
    h'.placement_deliver, ha.pendingOn, ha.parked, ha.slots]
  simp only [ne_eq, List.map_eq_nil_iff]
  constructor
  · split_ifs <;> rfl
  · split_ifs <;> rfl

end

theorem alike_after (r : Retention V) (acts : List (Act K V)) (k : K) :
    Alike k (callsOn k 0 acts) (start.after r acts) (start.after r (alone k 0 [] acts)) ∧
      ∀ t ∈ callsOn k 0 acts,
        endingsOf ((callsOn k 0 acts).idxOf t) (start.endings r (alone k 0 [] acts)) =
          endingsOf t (start.endings r acts) := by
  induction acts using List.reverseRecOn with
  | nil => exact ⟨Alike.start k, by simp [callsOn]⟩
  | append_singleton acts a ih =>
    obtain ⟨ha, hends⟩ := ih
    have h : (start.after r acts).desk.Seated (start.after r acts).next := seated_start r acts
    have h' := seated_start r (alone k 0 [] acts)
    have hcalls : ∀ w ∈ (start.after r acts).desk.waits,
        w.ticket ∈ callsOn k 0 acts ↔ w.key = k := fun w => mem_callsOn_iff r acts k
    have hearly : ∀ t ∈ callsOn k 0 acts, t < (start.after r acts).next :=
      fun t => lt_of_mem_callsOn (s := start) r
    have hslots : ∀ t ∈ (start.after r acts).desk.slots k, t ∈ callsOn k 0 acts :=
      fun t ht => (slots_sublist r acts k).subset ht
    have hsnoc : callsOn k 0 (acts ++ [a]) =
        callsOn k 0 acts ++ (a.opens k (start.after r acts).next).toList :=
      callsOn_snoc (s := start) r k acts a
    have hrun : start.after r (alone k 0 [] (acts ++ [a])) =
        (start.after r (alone k 0 [] acts)).after r (a.alone k (callsOn k 0 acts)).toList := by
      rw [alone_snoc, List.nil_append]
      exact List.foldl_append
    rw [hsnoc, hrun, after_snoc, alone_snoc, List.nil_append, endings_append, endings_snoc]
    refine ⟨ha.step h h' hcalls hearly r a hslots, fun t ht => ?_⟩
    rw [endingsOf_append, endingsOf_append]
    rcases List.mem_append.1 ht with hold | hnew
    · rw [List.idxOf_append_of_mem hold, hends t hold,
        endingsOf_alone h h' ha hcalls hearly r a hold]
    · obtain ⟨rfl, timeout, rfl⟩ := Act.opens_cases (Option.mem_toList.1 hnew)
      have hone : ∀ s : Run K V, s.endings r [.wait k timeout] = (s.step r (.wait k timeout)).2.2 :=
        fun s => List.append_nil _
      simp only [Act.opens, Act.alone, if_pos, Option.toList_some, idxOf_next ha hearly,
        endingsOf_next, hone, endingsOf_wait, ha.parked]

/-- A key is a world of its own. Take any run, and the run in which all that concerns other keys is left
out; the second one goes along with the first, act by act. After the same acts the key looks the same in
both, what is handed over under it has the same answer, and the calls made on it have ended the same way
or are all still pending. -/
theorem keys_isolated (r : Retention V) (acts : List (Act K V)) (k : K) :
    let calls := callsOn k 0 acts
    let s := start.after r acts
    let s' := start.after r (alone k 0 [] acts)
    (∀ a, alone k 0 [] (acts ++ [a]) = alone k 0 [] acts ++ (a.alone k calls).toList) ∧
      (∀ v, (s'.step r (.deliver k v)).2.1 = (s.step r (.deliver k v)).2.1.renumber calls ∧
        (s'.step r (.complete k v)).2.1 = (s.step r (.complete k v)).2.1.renumber calls) ∧
      calls.Nodup ∧ s'.next = calls.length ∧
      (∀ t ∈ calls, endingsOf (calls.idxOf t) (start.endings r (alone k 0 [] acts)) =
        endingsOf t (start.endings r acts)) ∧
      s'.desk.contains k = s.desk.contains k ∧ s'.desk.waiters k = s.desk.waiters k ∧
      s'.desk.isParked k = s.desk.isParked k := by
  intro calls s s'
  have h : s.desk.Seated s.next := seated_start r acts
  have h' : s'.desk.Seated s'.next := seated_start r (alone k 0 [] acts)
  obtain ⟨ha, hends⟩ := alike_after r acts k
  refine ⟨fun a => ?_, answers_alone h h' ha r, (pairwise_callsOn k 0 acts).imp fun hlt => hlt.ne,
    ha.next, hends, ?_, ?_, ?_⟩
  · rw [alone_snoc, List.nil_append]
  · rw [Desk.contains, Desk.contains, Bool.eq_iff_iff, h.occupied_iff, h'.occupied_iff, ha.slots,
      ha.parked, Ne, List.map_eq_nil_iff]
  · rw [h.waiters_eq, h'.waiters_eq, ha.pendingOn, List.length_map]
  · rw [Desk.isParked_eq, Desk.isParked_eq, ha.parked]

end Run

end MessageExchange.Correlation

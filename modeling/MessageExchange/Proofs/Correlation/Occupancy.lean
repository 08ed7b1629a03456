import MessageExchange.Proofs.Correlation.Waiting
import Mathlib.Data.Set.Card

/-! Who holds the places of a desk. Under each key stand the slots of calls that were made for it, in
order: those that have not ended, and among them some that were given up. Calls that ended in any other
way have left, so the carriers count the keys that are waited for, those with a value, and those that hold
nothing but calls given up. -/

namespace MessageExchange

theorem Shelf.encard_occupied {K α : Type} [DecidableEq K] (s : Shelf K α) :
    {k | (s.get? k).isSome}.encard = s.size := by
  have hset : {k | (s.get? k).isSome} = (s.keys.toFinset : Set K) := by
    ext k
    rw [Set.mem_ofPred_eq, Option.isSome_iff_ne_none, Ne, Shelf.get?_eq_none_iff, not_not]
    simp
  have hnodup : s.keys.Nodup := s.distinct
  rw [hset, Set.encard_coe_eq_coe_finsetCard, List.toFinset_card_of_nodup hnodup, Shelf.keys,
    List.length_map, Shelf.size]

namespace Correlation

variable {K V : Type} [DecidableEq K]

namespace Desk

variable {d : Desk K V} {n : Ticket}

/-- There are slots under `k`, and nobody waits on them. -/
def Deserted (d : Desk K V) (k : K) : Prop := d.slots k ≠ [] ∧ d.pendingOn k = []

theorem isParked_eq (d : Desk K V) (k : K) : d.isParked k = (d.parked k).isSome := by
  unfold isParked parked
  cases d.carriers.get? k with
  | none => rfl
  | some c => cases c <;> rfl

theorem Seated.waiters_eq (h : d.Seated n) (k : K) : d.waiters k = (d.pendingOn k).length := by
  rw [← h.live]
  unfold waiters slots
  cases d.carriers.get? k with
  | none => rfl
  | some c => cases c <;> rfl

theorem Seated.occupied_iff (h : d.Seated n) (k : K) :
    (d.carriers.get? k).isSome ↔ d.slots k ≠ [] ∨ (d.parked k).isSome := by
  have ho := h.occupied k
  unfold parked slots
  cases hc : d.carriers.get? k with
  | none => simp
  | some c =>
    cases c with
    | parked _ _ => simp
    | waiting slots =>
      have hne : slots ≠ [] := fun he => ho (by rw [hc, he])
      simp [hne]

theorem Seated.slots_ne_nil_iff (h : d.Seated n) (k : K) :
    d.slots k ≠ [] ↔ d.pendingOn k ≠ [] ∨ d.Deserted k := by
  have hslots : d.pendingOn k ≠ [] → d.slots k ≠ [] := by
    rw [← h.live]
    exact fun hne hnil => hne (by rw [hnil]; rfl)
  unfold Deserted
  by_cases hp : d.pendingOn k = []
  · simp [hp]
  · simp [hp, hslots hp]

theorem Seated.size_eq (h : d.Seated n) :
    (d.size : ℕ∞) = {k | d.pendingOn k ≠ []}.encard + {k | (d.parked k).isSome}.encard +
      {k | d.Deserted k}.encard := by
  have hparked : Disjoint {k | d.pendingOn k ≠ []} {k | (d.parked k).isSome} := by
    rw [Set.disjoint_left]
    intro k hk hp
    rw [Set.mem_ofPred_eq, h.parked_eq_none hk] at hp
    exact absurd hp (by simp)
  have hdeserted : Disjoint ({k | d.pendingOn k ≠ []} ∪ {k | (d.parked k).isSome})
      {k | d.Deserted k} := by
    rw [Set.disjoint_left]
    rintro k (hk | hk) hd
    · exact hk hd.2
    · obtain ⟨p, hp⟩ := Option.isSome_iff_exists.1 hk
      exact hd.1 (slots_eq_nil_of_parked hp)
  rw [← Set.encard_union_eq hparked, ← Set.encard_union_eq hdeserted, size, ← Shelf.encard_occupied]
  congr 1
  ext k
  simp only [Set.mem_ofPred_eq, Set.mem_union, h.occupied_iff, h.slots_ne_nil_iff, or_right_comm]

end Desk

/-- The call on `k` that the act makes, under the ticket `next`. -/
def Act.opens (a : Act K V) (k : K) (next : Ticket) : Option Ticket :=
  match a with
  | wait k' _ => if k' = k then some next else none
  | _ => none

theorem Act.opens_cases {a : Act K V} {k : K} {next t : Ticket} (h : t ∈ a.opens k next) :
    t = next ∧ ∃ timeout, a = .wait k timeout := by
  cases a with
  | wait k' timeout =>
    simp only [opens, Option.mem_def] at h
    split_ifs at h with hk
    exact ⟨(Option.some.inj h).symm, timeout, by rw [hk]⟩
  | _ => exact absurd h (by simp [opens])

/-- The calls that the acts make on `k`, the first call of all under the ticket `next`. -/
def callsOn (k : K) (next : Ticket) : List (Act K V) → List Ticket
  | [] => []
  | a :: rest => (a.opens k next).toList ++ callsOn k (a.upcoming next) rest

theorem le_of_mem_callsOn {k : K} {next t : Ticket} {acts : List (Act K V)}
    (ht : t ∈ callsOn k next acts) : next ≤ t := by
  induction acts generalizing next with
  | nil => exact absurd ht List.not_mem_nil
  | cons a rest ih =>
    rw [callsOn, List.mem_append, Option.mem_toList] at ht
    rcases ht with ht | ht
    · exact (Act.opens_cases ht).1.ge
    · exact (a.le_upcoming next).trans (ih ht)

theorem pairwise_callsOn (k : K) (next : Ticket) (acts : List (Act K V)) :
    (callsOn k next acts).Pairwise (· < ·) := by
  induction acts generalizing next with
  | nil => exact List.Pairwise.nil
  | cons a rest ih =>
    rw [callsOn, List.pairwise_append]
    refine ⟨?_, ih _, fun t ht t' ht' => ?_⟩
    · cases a.opens k next <;> simp
    · obtain ⟨rfl, timeout, rfl⟩ := Act.opens_cases (Option.mem_toList.1 ht)
      exact le_of_mem_callsOn ht'

namespace Run

variable {s : Run K V}

theorem callsOn_snoc (r : Retention V) (k : K) (acts : List (Act K V)) (a : Act K V) :
    callsOn k s.next (acts ++ [a]) =
      callsOn k s.next acts ++ (a.opens k (s.after r acts).next).toList := by
  induction acts generalizing s with
  | nil => exact List.append_nil _
  | cons b rest ih =>
    rw [List.cons_append, callsOn, callsOn, ← next_step r b, ih, List.append_assoc]
    rfl

theorem lt_of_mem_callsOn (r : Retention V) {k : K} {t : Ticket} {acts : List (Act K V)}
    (ht : t ∈ callsOn k s.next acts) : t < (s.after r acts).next := by
  induction acts generalizing s with
  | nil => exact absurd ht List.not_mem_nil
  | cons a rest ih =>
    rw [callsOn, List.mem_append, Option.mem_toList, ← next_step r a] at ht
    rcases ht with ht | ht
    · obtain ⟨rfl, timeout, rfl⟩ := Act.opens_cases ht
      exact (Nat.lt_succ_self _).trans_le
        (next_le_after (s := (s.step r (.wait k timeout)).1) r rest)
    · exact ih ht

theorem endings_snoc (r : Retention V) (acts : List (Act K V)) (a : Act K V) :
    s.endings r (acts ++ [a]) = s.endings r acts ++ ((s.after r acts).step r a).2.2 := by
  rw [endings_append, endings, endings, List.append_nil]

theorem endingsOf_next (r : Retention V) (acts : List (Act K V)) :
    endingsOf (start.after r acts).next (start.endings r acts) = [] := by
  rw [endingsOf, List.map_eq_nil_iff, List.filter_eq_nil_iff]
  rintro ⟨u, e⟩ he hu
  have hlt := ticket_lt_of_ended (Desk.Seated.empty 0) r acts he
  exact hlt.ne (beq_iff_eq.1 hu)

theorem endingsOf_wait (r : Retention V) (k : K) (timeout : Span) :
    endingsOf s.next (s.step r (.wait k timeout)).2.2 =
      ((s.desk.parked k).map fun p => Ending.value p.1).toList := by
  simp only [step, Desk.claimed_wait, endingsOf]
  cases s.desk.parked k <;> simp

/-- The calls that wait for `k` are those made for it that have not ended. -/
theorem pendingOn_eq (r : Retention V) (acts : List (Act K V)) (k : K) :
    (start.after r acts).desk.pendingOn k =
      (callsOn k 0 acts).filter fun t => (endingsOf t (start.endings r acts)).isEmpty := by
  induction acts using List.reverseRecOn with
  | nil => rfl
  | append_singleton acts a ih =>
    have h := seated_start r acts
    have hfresh := endingsOf_next r acts
    have hcalls : callsOn k 0 (acts ++ [a]) =
        callsOn k 0 acts ++ (a.opens k (start.after r acts).next).toList :=
      callsOn_snoc (s := start) r k acts a
    rw [after_snoc, endings_snoc]
    generalize start.after r acts = s at ih h hfresh hcalls
    have hold : ∀ w ∈ s.desk.waits,
        (a.ending s.waiting w).isNone = (endingsOf w.ticket (s.step r a).2.2).isEmpty := by
      intro w hw
      rw [endingsOf_step h r a hw]
      cases a.ending s.waiting w <;> rfl
    have hnew : ((s.arrivals a).filter (·.key = k)).map Wait.ticket =
        (a.opens k s.next).toList.filter fun t =>
          (endingsOf t (start.endings r acts ++ (s.step r a).2.2)).isEmpty := by
      cases a with
      | wait k' timeout =>
        simp only [arrivals, Act.opens]
        by_cases hk : k' = k
        · subst hk
          rw [if_pos rfl, Option.toList_some, List.filter_singleton, endingsOf_append, hfresh,
            endingsOf_wait]
          cases s.desk.parked k' <;> simp
        · split_ifs <;> simp [hk]
      | _ => rfl
    calc (s.step r a).1.desk.pendingOn k
        = ((s.desk.waits.filter fun w => (a.ending s.waiting w).isNone).filter
              (·.key = k)).map Wait.ticket ++
            ((s.arrivals a).filter (·.key = k)).map Wait.ticket := by
          rw [Desk.pendingOn, waits_step h, List.filter_append, List.map_append]
      _ = (s.desk.pendingOn k).filter (fun t => (endingsOf t (s.step r a).2.2).isEmpty) ++
            ((s.arrivals a).filter (·.key = k)).map Wait.ticket := by
          rw [List.filter_congr hold, List.filter_filter, Desk.pendingOn, List.filter_map,
            List.filter_filter]
          simp only [Bool.and_comm, Function.comp_def]
      _ = (callsOn k 0 (acts ++ [a])).filter fun t =>
            (endingsOf t (start.endings r acts ++ (s.step r a).2.2)).isEmpty := by
          rw [ih, hnew, hcalls, List.filter_append, List.filter_filter]
          congr 2
          funext t
          rw [endingsOf_append, Bool.eq_iff_iff]
          simp [and_comm]

theorem cancelled_of_left (h : s.desk.Seated s.next) (r : Retention V) (a : Act K V) {w : Wait K}
    (hw : w ∈ s.desk.waits) (ht : w.ticket ∈ (s.step r a).1.desk.slots w.key)
    (hp : (s.step r a).1.desk.isPending w.ticket = false) :
    a.ending s.waiting w = some .cancelled := by
  have hends : a.ending s.waiting w ≠ none := fun hnone => by
    rw [(isPending_step_iff h r a (h.early w hw)).2 ⟨w, hw, rfl, hnone⟩] at hp
    exact absurd hp (by simp)
  rw [slots_step h] at ht
  cases a with
  | cancel t =>
    simp only [Act.ending] at hends ⊢
    split_ifs at hends ⊢
    · rfl
    · exact absurd rfl hends
  | advance span =>
    simp only [Act.ending] at hends ht
    split_ifs at hends with hdue
    · rw [if_pos ⟨w, Desk.mem_due.2 ⟨hw, hdue⟩, rfl⟩, Desk.pendingOn, List.mem_map] at ht
      obtain ⟨w', hw', ht⟩ := ht
      rw [Desk.isPending_iff.2 ⟨w', List.mem_of_mem_filter hw', ht⟩] at hp
      exact absurd hp (by simp)
    · exact absurd rfl hends
  | close => exact absurd ht List.not_mem_nil
  | deliver k v | complete k v =>
    simp only [Act.ending] at hends ht
    split_ifs at hends with hk
    · rw [if_pos hk.symm] at ht
      exact absurd ht List.not_mem_nil
    · exact absurd rfl hends
  | wait k timeout | sweep | age span => exact absurd rfl hends

theorem mem_slots_step (h : s.desk.Seated s.next) (r : Retention V) (a : Act K V) {k : K} {t : Ticket}
    (ht : t ∈ (s.step r a).1.desk.slots k) :
    t ∈ s.desk.slots k ∨ (s.step r a).1.desk.isPending t = true := by
  have hlive : t ∈ (s.step r a).1.desk.pendingOn k → (s.step r a).1.desk.isPending t = true := by
    rw [← (seated_step h r a).live]
    exact fun hmem => List.of_mem_filter hmem
  have hslots := ht
  rw [slots_step h] at hslots
  cases a with
  | deliver k' v | complete k' v =>
    simp only at hslots
    split_ifs at hslots
    · exact absurd hslots List.not_mem_nil
    · exact .inl hslots
  | wait k' timeout =>
    refine (List.mem_append.1 hslots).imp_right fun hnew => ?_
    split_ifs at hnew with hidle
    · obtain rfl := List.mem_singleton.1 hnew
      refine Desk.isPending_iff.2 ⟨⟨s.next, k', s.waiting, timeout⟩, ?_, rfl⟩
      rw [waits_step h, arrivals, ← hidle.1, hidle.2]
      simp
    · exact absurd hnew List.not_mem_nil
  | sweep =>
    rw [← h.live] at hslots
    exact .inl (List.mem_of_mem_filter hslots)
  | close => exact absurd hslots List.not_mem_nil
  | advance span =>
    simp only at hslots
    split_ifs at hslots
    · exact .inr (hlive hslots)
    · exact .inl hslots
  | cancel t' | age span => exact .inl hslots

theorem cancelled_of_slot (r : Retention V) (acts : List (Act K V)) {k : K} {t : Ticket}
    (ht : t ∈ (start.after r acts).desk.slots k)
    (hp : (start.after r acts).desk.isPending t = false) :
    endingsOf t (start.endings r acts) = [.cancelled] := by
  induction acts using List.reverseRecOn with
  | nil => exact absurd ht List.not_mem_nil
  | append_singleton acts a ih =>
    have h := seated_start r acts
    rw [after_snoc] at ht hp
    rw [endings_snoc, endingsOf_append]
    rcases mem_slots_step h r a ht with hold | hnew
    · cases hb : (start.after r acts).desk.isPending t with
      | false =>
        rw [ih hold hb, endingsOf_step_of_ended h r a hb (h.slotsEarly k t hold), List.append_nil]
      | true =>
        have hwaits : t ∈ (start.after r acts).desk.pendingOn k := by
          rw [← h.live]
          exact List.mem_filter.2 ⟨hold, hb⟩
        have hsofar : endingsOf t (start.endings r acts) = [] := by
          rw [pendingOn_eq, List.mem_filter] at hwaits
          exact List.isEmpty_iff.1 hwaits.2
        obtain ⟨w, hmem, rfl⟩ := List.mem_map.1 hwaits
        obtain ⟨hw, hk⟩ := List.mem_filter.1 hmem
        obtain rfl := of_decide_eq_true hk
        rw [hsofar, endingsOf_step h r a hw, cancelled_of_left h r a hw ht hp]
        rfl
    · rw [hp] at hnew
      exact absurd hnew (by simp)

theorem cancelled_of_dead (r : Retention V) (acts : List (Act K V)) {k : K} {t : Ticket}
    (ht : t ∈ (start.after r acts).desk.slots k)
    (hdead : t ∉ (start.after r acts).desk.live ((start.after r acts).desk.slots k)) :
    endingsOf t (start.endings r acts) = [.cancelled] :=
  cancelled_of_slot r acts ht (Bool.eq_false_iff.2 fun hp => hdead (List.mem_filter.2 ⟨ht, hp⟩))

theorem deserted_iff (r : Retention V) (acts : List (Act K V)) (k : K) :
    (start.after r acts).desk.Deserted k ↔ (start.after r acts).desk.slots k ≠ [] ∧
      ∀ t ∈ (start.after r acts).desk.slots k,
        endingsOf t (start.endings r acts) = [.cancelled] := by
  have h := seated_start r acts
  refine and_congr_right fun _ => ?_
  rw [← h.live, List.eq_nil_iff_forall_not_mem]
  constructor
  · exact fun hnone t ht => cancelled_of_dead r acts ht (hnone t)
  · intro hall t ht
    have hopen : (endingsOf t (start.endings r acts)).isEmpty := by
      rw [h.live, pendingOn_eq] at ht
      exact (List.mem_filter.1 ht).2
    rw [hall t (List.mem_of_mem_filter ht)] at hopen
    exact absurd hopen (by simp)

theorem mem_callsOn_iff (r : Retention V) (acts : List (Act K V)) (k : K) {w : Wait K}
    (hw : w ∈ (start.after r acts).desk.waits) : w.ticket ∈ callsOn k 0 acts ↔ w.key = k := by
  have h := seated_start r acts
  rw [← h.mem_pendingOn hw]
  have hself := (h.mem_pendingOn hw w.key).2 rfl
  rw [pendingOn_eq, List.mem_filter] at hself ⊢
  exact (and_iff_left hself.2).symm

theorem slots_sublist (r : Retention V) (acts : List (Act K V)) (k : K) :
    ((start.after r acts).desk.slots k).Sublist (callsOn k 0 acts) := by
  induction acts using List.reverseRecOn with
  | nil => exact List.Sublist.refl _
  | append_singleton acts a ih =>
    have h := seated_start r acts
    have hcalls : callsOn k 0 (acts ++ [a]) =
        callsOn k 0 acts ++ (a.opens k (start.after r acts).next).toList :=
      callsOn_snoc (s := start) r k acts a
    have hpending : ((start.after r (acts ++ [a])).desk.pendingOn k).Sublist
        (callsOn k 0 (acts ++ [a])) := by
      rw [pendingOn_eq]
      exact List.filter_sublist
    have hkeep := ih.trans (hcalls ▸ List.sublist_append_left _ _)
    rw [after_snoc] at hpending ⊢
    rw [slots_step h]
    cases a with
    | wait k' timeout =>
      simp only
      rw [hcalls]
      refine ih.append ?_
      by_cases hk : k' = k
      · simp only [Act.opens, if_pos hk]
        split_ifs
        · exact List.Sublist.refl _
        · exact List.nil_sublist _
      · rw [if_neg fun hc => hk hc.1.symm]
        exact List.nil_sublist _
    | sweep =>
      have hfewer : ((start.after r acts).desk.pendingOn k).Sublist
          ((start.after r acts).desk.slots k) := by
        rw [← h.live]
        exact List.filter_sublist
      exact hfewer.trans hkeep
    | close => exact List.nil_sublist _
    | advance span =>
      simp only
      split_ifs
      · exact hpending
      · exact hkeep
    | deliver k' v | complete k' v =>
      simp only
      split_ifs
      · exact List.nil_sublist _
      · exact hkeep
    | cancel t | age span => exact hkeep

/-- Who holds what, in every state of a run. A key has one carrier at most. Of its slots those of pending
calls are the calls made for the key that have not ended, one for each and in order of arrival; a key that
is waited for has no value parked; no carrier is without a slot. A slot that is left over belongs to a call
that was given up, and never to one that timed out, was answered, or saw the desk close. So the carriers
count the keys waited for, the keys with a value, and the keys that hold only calls given up. -/
theorem slots_match_calls (r : Retention V) (acts : List (Act K V)) :
    let d := (start.after r acts).desk
    let endings := fun t => endingsOf t (start.endings r acts)
    let pending := fun k => (callsOn k 0 acts).filter fun t => (endings t).isEmpty
    d.carriers.keys.Nodup ∧
      (∀ k, (callsOn k 0 acts).Nodup ∧ d.live (d.slots k) = pending k ∧
        d.waiters k = (pending k).length ∧ (pending k ≠ [] → d.isParked k = false) ∧
        d.carriers.get? k ≠ some (.waiting []) ∧
        (d.slots k).Sublist (callsOn k 0 acts) ∧
        ∀ t ∈ d.slots k, t ∉ d.live (d.slots k) → endings t = [.cancelled]) ∧
      (d.size : ℕ∞) = {k | pending k ≠ []}.encard + {k | d.isParked k}.encard +
        {k | d.slots k ≠ [] ∧ ∀ t ∈ d.slots k, endings t = [.cancelled]}.encard := by
  intro d endings pending
  have h : d.Seated (start.after r acts).next := seated_start r acts
  have hpending : ∀ k, d.pendingOn k = pending k := pendingOn_eq r acts
  have hleft : ∀ k, ∀ t ∈ d.slots k, t ∉ d.live (d.slots k) → endings t = [.cancelled] :=
    fun k t => cancelled_of_dead r acts
  have hdeserted : ∀ k, d.Deserted k ↔
      d.slots k ≠ [] ∧ ∀ t ∈ d.slots k, endings t = [.cancelled] := deserted_iff r acts
  refine ⟨d.carriers.distinct, fun k => ⟨(pairwise_callsOn k 0 acts).imp fun hlt => hlt.ne, ?_, ?_, ?_,
    h.occupied k, slots_sublist r acts k, hleft k⟩, ?_⟩
  · exact (h.live k).trans (hpending k)
  · rw [h.waiters_eq, hpending]
  · intro hk
    rw [Desk.isParked_eq, h.parked_eq_none (hpending k ▸ hk)]
    rfl
  · simp only [h.size_eq, hpending, Desk.isParked_eq, hdeserted]

end Run

end Correlation

end MessageExchange

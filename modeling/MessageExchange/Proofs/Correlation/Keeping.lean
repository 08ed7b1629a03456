import MessageExchange.Proofs.Correlation.Runs

/-! What becomes of values. Each value handed over under a key has one fate: the calls that wait for the
key take it, or it is parked and then leaves in one of four ways, or it is parked still. In turn each
value that a call returns was handed over once, under the key of the call. -/

namespace MessageExchange.Correlation

variable {K V : Type} [DecidableEq K]

/-- How a parked value leaves. -/
inductive Departure
  /-- A call claims it as it starts. -/
  | claimed (ticket : Ticket)
  | overwritten
  | expired
  | dropped

inductive Fate
  /-- The calls that were waiting took it. -/
  | handed (tickets : List Ticket)
  /-- It was parked, and left with the act that follows `n` later acts. -/
  | left (n : Nat) (departure : Departure)
  | parked

namespace Run

variable {s : Run K V} {r : Retention V} {k : K} {v : V} {since : Instant}

/-- Through all the acts `v` is parked under `k`, and no act puts another value there. -/
def Lies (r : Retention V) (s : Run K V) (k : K) (v : V) (since : Instant) (acts : List (Act K V)) :
    Prop :=
  (∀ v', Act.deliver k v' ∉ acts) ∧
    ∀ us, us <+: acts → (s.after r us).desk.parked k = some (v, since)

/-- With the act `a`, the value `v` leaves its place under `k`. -/
def Departs (r : Retention V) (s : Run K V) (k : K) (v : V) (since : Instant) (a : Act K V) :
    Departure → Prop
  | .claimed t =>
    ∃ timeout, a = .wait k timeout ∧ (s.step r a).2 = (.started t, [(t, .value v)]) ∧
      (s.step r a).1.desk.parked k = none
  | .overwritten =>
    ∃ v', a = .deliver k v' ∧ (s.step r a).2 = (.placed .replaced, []) ∧
      (s.step r a).1.desk.parked k = some (v', s.storage)
  | .expired =>
    a = .sweep ∧ Desk.isStale r s.storage since v = true ∧ (s.step r a).1.desk.parked k = none
  | .dropped => a = .close ∧ (s.step r a).1.desk.parked k = none

/-- What became of `v`, handed over under `k` in the state `s`, through the acts that follow. -/
def Became (r : Retention V) (s : Run K V) (k : K) (v : V) (acts : List (Act K V)) : Fate → Prop
  | .handed ts =>
    ts ≠ [] ∧ ts = s.desk.pendingOn k ∧
      (s.step r (.deliver k v)).2 = (.placed (.woke ts), ts.map (·, .value v))
  | .left n departure =>
    ∃ us a vs, acts = us ++ a :: vs ∧ us.length = n ∧
      Lies r (s.step r (.deliver k v)).1 k v s.storage us ∧
      Departs r ((s.step r (.deliver k v)).1.after r us) k v s.storage a departure
  | .parked => Lies r (s.step r (.deliver k v)).1 k v s.storage acts

theorem stays_or_departs (h : s.desk.Seated s.next) (hp : s.desk.parked k = some (v, since))
    (a : Act K V) :
    ((∀ v', a ≠ .deliver k v') ∧ (s.step r a).1.desk.parked k = some (v, since)) ∨
      ∃ departure, Departs r s k v since a departure := by
  have hstep := parked_step h r a k
  have hnone : s.desk.pendingOn k = [] := by
    by_contra hne
    rw [h.parked_eq_none hne] at hp
    exact absurd hp (by simp)
  cases a with
  | deliver k' v' =>
    by_cases hk : k' = k
    · subst hk
      refine .inr ⟨.overwritten, v', rfl, ?_, hstep.trans (if_pos ⟨rfl, hnone⟩)⟩
      rw [step_deliver h, h.placement_deliver, hnone, hp]
      rfl
    · refine .inl ⟨fun v'' he => hk (Act.deliver.inj he).1, ?_⟩
      exact hstep.trans ((if_neg fun hc => hk hc.1.symm).trans hp)
  | wait k' timeout =>
    by_cases hk : k' = k
    · subst hk
      refine .inr ⟨.claimed s.next, timeout, rfl, ?_, hstep.trans (if_pos rfl)⟩
      simp [step, Desk.claimed_wait, hp]
    · exact .inl ⟨by simp, hstep.trans ((if_neg (Ne.symm hk)).trans hp)⟩
  | sweep =>
    by_cases hst : Desk.isStale r s.storage since v = true
    · refine .inr ⟨.expired, rfl, hst, ?_⟩
      rw [hstep, hp]
      simp [Option.filter, hst]
    · refine .inl ⟨by simp, ?_⟩
      rw [hstep, hp]
      simp [Option.filter, hst]
  | close => exact .inr ⟨.dropped, rfl, rfl⟩
  | complete k' v' => exact .inl ⟨by simp, hstep.trans hp⟩
  | cancel t => exact .inl ⟨by simp, hstep.trans hp⟩
  | advance span => exact .inl ⟨by simp, hstep.trans hp⟩
  | age span => exact .inl ⟨by simp, hstep.trans hp⟩

theorem Departs.ends {a : Act K V} {departure : Departure} (hd : Departs r s k v since a departure) :
    (∃ v', a = .deliver k v') ∨ (s.step r a).1.desk.parked k = none := by
  cases departure with
  | claimed t =>
    obtain ⟨timeout, rfl, -, hnone⟩ := hd
    exact .inr hnone
  | overwritten =>
    obtain ⟨v', rfl, -⟩ := hd
    exact .inl ⟨v', rfl⟩
  | expired => exact .inr hd.2.2
  | dropped => exact .inr hd.2

theorem Departs.unique {a : Act K V} {d₁ d₂ : Departure} (h₁ : Departs r s k v since a d₁)
    (h₂ : Departs r s k v since a d₂) : d₁ = d₂ := by
  cases d₁ <;> cases d₂ <;> simp_all [Departs]

theorem Lies.cons {a : Act K V} {acts : List (Act K V)} (hp : s.desk.parked k = some (v, since))
    (ha : ∀ v', a ≠ .deliver k v') (hl : Lies r (s.step r a).1 k v since acts) :
    Lies r s k v since (a :: acts) := by
  refine ⟨fun v' hmem => ?_, fun us hus => ?_⟩
  · rcases List.mem_cons.1 hmem with he | hmem
    · exact ha v' he.symm
    · exact hl.1 v' hmem
  · cases us with
    | nil => exact hp
    | cons b us =>
      obtain ⟨rfl, hrest⟩ := List.cons_prefix_cons.1 hus
      exact hl.2 us hrest

theorem Lies.length_le {us us' acts : List (Act K V)} {a : Act K V} {vs : List (Act K V)}
    {departure : Departure} (hl : Lies r s k v since us') (hacts : acts = us ++ a :: vs)
    (hus : us' <+: acts) (hd : Departs r (s.after r us) k v since a departure) :
    us'.length ≤ us.length := by
  by_contra hlt
  have hsplit : us ++ [a] <+: acts := ⟨vs, by simp [hacts]⟩
  have hpre : us ++ [a] <+: us' :=
    List.prefix_of_prefix_length_le hsplit hus (by simp; omega)
  rcases hd.ends with ⟨v', rfl⟩ | hnone
  · exact hl.1 v' (hpre.subset (by simp))
  · have hp := hl.2 _ hpre
    rw [after_snoc, hnone] at hp
    exact absurd hp (by simp)

theorem lies_or_leaves (h : s.desk.Seated s.next) (hp : s.desk.parked k = some (v, since))
    (acts : List (Act K V)) :
    Lies r s k v since acts ∨
      ∃ us a vs departure, acts = us ++ a :: vs ∧ Lies r s k v since us ∧
        Departs r (s.after r us) k v since a departure := by
  induction acts generalizing s with
  | nil =>
    refine .inl ⟨by simp, fun us hus => ?_⟩
    rw [List.prefix_nil.1 hus]
    exact hp
  | cons a rest ih =>
    rcases stays_or_departs (r := r) h hp a with ⟨ha, hstays⟩ | ⟨departure, hd⟩
    · rcases ih (seated_step h r a) hstays with hl | ⟨us, b, vs, departure, rfl, hl, hd⟩
      · exact .inl (hl.cons hp ha)
      · exact .inr ⟨a :: us, b, vs, departure, rfl, hl.cons hp ha, hd⟩
    · refine .inr ⟨[], a, rest, departure, rfl, ⟨by simp, fun us hus => ?_⟩, hd⟩
      rw [List.prefix_nil.1 hus]
      exact hp

theorem Became.unique (h : s.desk.Seated s.next) {acts : List (Act K V)} {f₁ f₂ : Fate}
    (h₁ : Became r s k v acts f₁) (h₂ : Became r s k v acts f₂) : f₁ = f₂ := by
  have hempty : ∀ ts us, Became r s k v acts (.handed ts) →
      ¬ Lies r (s.step r (.deliver k v)).1 k v s.storage us := by
    rintro ts us ⟨hne, rfl, -⟩ hl
    have hnone : (s.step r (.deliver k v)).1.desk.parked k = none :=
      (parked_step h r (.deliver k v) k).trans
        ((if_neg fun hc => hne hc.2).trans (h.parked_eq_none hne))
    have hp := hl.2 [] List.nil_prefix
    rw [after, List.foldl_nil, hnone] at hp
    exact absurd hp (by simp)
  have hparked : ∀ n departure, Became r s k v acts (.left n departure) →
      ¬ Lies r (s.step r (.deliver k v)).1 k v s.storage acts := by
    rintro n departure ⟨us, a, vs, hacts, -, -, hd⟩ hl
    have hle := hl.length_le hacts (List.prefix_refl _) hd
    rw [hacts, List.length_append, List.length_cons] at hle
    omega
  cases f₁ with
  | handed ts =>
    cases f₂ with
    | handed ts' => rw [h₁.2.1, h₂.2.1]
    | left n departure =>
      obtain ⟨us, _, _, _, _, hl, _⟩ := h₂
      exact absurd hl (hempty ts us h₁)
    | parked => exact absurd h₂ (hempty ts acts h₁)
  | left n departure =>
    cases f₂ with
    | handed ts =>
      obtain ⟨us, _, _, _, _, hl, _⟩ := h₁
      exact absurd hl (hempty ts us h₂)
    | left n' departure' =>
      obtain ⟨us, a, vs, hacts, rfl, hl, hd⟩ := h₁
      obtain ⟨us', a', vs', hacts', rfl, hl', hd'⟩ := h₂
      have hlen : us.length = us'.length :=
        le_antisymm (hl.length_le hacts' (hacts ▸ List.prefix_append _ _) hd')
          (hl'.length_le hacts (hacts' ▸ List.prefix_append _ _) hd)
      obtain ⟨rfl, he⟩ := List.append_inj (hacts.symm.trans hacts') hlen
      obtain ⟨rfl, -⟩ := List.cons.inj he
      rw [hd.unique hd']
    | parked => exact absurd h₂ (hparked n departure h₁)
  | parked =>
    cases f₂ with
    | handed ts => exact absurd h₁ (hempty ts acts h₂)
    | left n departure => exact absurd h₁ (hparked n departure h₂)
    | parked => rfl

theorem exists_became (h : s.desk.Seated s.next) (k : K) (v : V) (acts : List (Act K V)) :
    ∃ fate, Became r s k v acts fate := by
  by_cases hw : s.desk.pendingOn k = []
  · have hp : (s.step r (.deliver k v)).1.desk.parked k = some (v, s.storage) :=
      (parked_step h r (.deliver k v) k).trans (if_pos ⟨rfl, hw⟩)
    rcases lies_or_leaves (r := r) (seated_step h r (.deliver k v)) hp acts with
      hl | ⟨us, a, vs, departure, hacts, hl, hd⟩
    · exact ⟨.parked, hl⟩
    · exact ⟨.left us.length departure, us, a, vs, hacts, rfl, hl, hd⟩
  · refine ⟨.handed (s.desk.pendingOn k), hw, rfl, ?_⟩
    rw [step_deliver h, h.placement_deliver, if_pos hw]

/-! Where values come from. -/

theorem after_split (r : Retention V) (us vs : List (Act K V)) (a : Act K V) :
    s.after r (us ++ a :: vs) = ((s.after r us).step r a).1.after r vs :=
  List.foldl_append

def Called (r : Retention V) (acts : List (Act K V)) (t : Ticket) (k : K) : Prop :=
  ∃ us timeout vs, acts = us ++ .wait k timeout :: vs ∧ (start.after r us).next = t

theorem Called.snoc {acts : List (Act K V)} {t : Ticket} (h : Called r acts t k) (a : Act K V) :
    Called r (acts ++ [a]) t k := by
  obtain ⟨us, timeout, vs, rfl, ht⟩ := h
  exact ⟨us, timeout, vs ++ [a], by simp, ht⟩

theorem called_of_pending (r : Retention V) (acts : List (Act K V)) :
    ∀ w ∈ (start.after r acts).desk.waits, Called r acts w.ticket w.key := by
  induction acts using List.reverseRecOn with
  | nil => exact fun w hw => absurd hw List.not_mem_nil
  | append_singleton acts a ih =>
    intro w hw
    rw [after_snoc, waits_step (seated_start r acts), List.mem_append] at hw
    rcases hw with hw | hw
    · exact (ih w (List.mem_of_mem_filter hw)).snoc a
    · unfold arrivals at hw
      split at hw
      · split_ifs at hw
        · exact absurd hw List.not_mem_nil
        · rw [List.mem_singleton.1 hw]
          exact ⟨acts, _, [], rfl, rfl⟩
      · exact absurd hw List.not_mem_nil

theorem Lies.snoc {acts : List (Act K V)} {a : Act K V} (hl : Lies r s k v since acts)
    (ha : ∀ v', a ≠ .deliver k v')
    (hp : (s.after r (acts ++ [a])).desk.parked k = some (v, since)) :
    Lies r s k v since (acts ++ [a]) := by
  refine ⟨fun v' hmem => ?_, fun us hus => ?_⟩
  · rcases List.mem_append.1 hmem with hmem | hmem
    · exact hl.1 v' hmem
    · exact ha v' (List.mem_singleton.1 hmem).symm
  · rcases List.prefix_concat_iff.1 hus with rfl | hus
    · exact hp
    · exact hl.2 us hus

theorem parked_step_cases (h : s.desk.Seated s.next) {a : Act K V}
    (hp : (s.step r a).1.desk.parked k = some (v, since)) :
    a = .deliver k v ∧ since = s.storage ∨
      (∀ v', a ≠ .deliver k v') ∧ s.desk.parked k = some (v, since) := by
  rw [parked_step h] at hp
  cases a with
  | deliver k' v' =>
    simp only at hp
    split_ifs at hp with hk
    · obtain ⟨rfl, -⟩ := hk
      cases hp
      exact .inl ⟨rfl, rfl⟩
    · refine .inr ⟨fun v'' he => ?_, hp⟩
      obtain ⟨rfl, rfl⟩ := Act.deliver.inj he
      have hne : s.desk.pendingOn k' ≠ [] := fun hnil => hk ⟨rfl, hnil⟩
      rw [h.parked_eq_none hne] at hp
      exact absurd hp (by simp)
  | wait k' timeout =>
    simp only at hp
    split_ifs at hp
    exact .inr ⟨by simp, hp⟩
  | sweep => exact .inr ⟨by simp, (Option.filter_eq_some_iff.1 hp).1⟩
  | close => exact absurd hp (by simp)
  | complete k' v' => exact .inr ⟨by simp, hp⟩
  | cancel t => exact .inr ⟨by simp, hp⟩
  | advance span => exact .inr ⟨by simp, hp⟩
  | age span => exact .inr ⟨by simp, hp⟩

/-- A parked value was handed over under its key and has lain there since. -/
theorem source_of_parked (r : Retention V) (acts : List (Act K V)) {k : K} {v : V} {since : Instant}
    (hp : (start.after r acts).desk.parked k = some (v, since)) :
    ∃ us vs, acts = us ++ .deliver k v :: vs ∧
      Lies r ((start.after r us).step r (.deliver k v)).1 k v (start.after r us).storage vs := by
  induction acts using List.reverseRecOn generalizing v since with
  | nil => exact absurd hp (by simp [after, start, Desk.parked, Desk.empty])
  | append_singleton acts a ih =>
    have hafter := hp
    rw [after_snoc] at hp
    rcases parked_step_cases (seated_start r acts) hp with ⟨rfl, hsince⟩ | ⟨ha, hbefore⟩
    · refine ⟨acts, [], rfl, by simp, fun us hus => ?_⟩
      rw [List.prefix_nil.1 hus, ← hsince]
      exact hp
    · obtain ⟨us, vs, rfl, hl⟩ := ih hbefore
      have hsame := hl.2 vs (List.prefix_refl _)
      rw [← after_split, hbefore] at hsame
      refine ⟨us, vs ++ [a], by simp, hl.snoc ha ?_⟩
      rw [← after_split, ← List.cons_append, ← List.append_assoc, hafter, hsame]

theorem existsUnique_source (r : Retention V) (acts : List (Act K V)) {k : K} {v : V} {since : Instant}
    (hp : (start.after r acts).desk.parked k = some (v, since)) :
    ∃! us, ∃ vs, acts = us ++ .deliver k v :: vs ∧
      Lies r ((start.after r us).step r (.deliver k v)).1 k v (start.after r us).storage vs := by
  obtain ⟨us, vs, hacts, hl⟩ := source_of_parked r acts hp
  refine ⟨us, ⟨vs, hacts, hl⟩, ?_⟩
  rintro us' ⟨vs', hacts', hl'⟩
  -- of two handings over the later one would end the stay of the earlier one's value
  have hshort : ∀ {us us' vs vs' : List (Act K V)}, acts = us ++ .deliver k v :: vs →
      acts = us' ++ .deliver k v :: vs' → (∀ v', Act.deliver k v' ∉ vs) →
      us'.length ≤ us.length := by
    intro us us' vs vs' h₁ h₂ hnot
    by_contra hlt
    have hmem : acts[us'.length]? = some (.deliver k v) := by simp [h₂]
    rw [h₁, List.getElem?_append_right (by omega)] at hmem
    obtain ⟨m, hm⟩ : ∃ m, us'.length - us.length = m + 1 := ⟨us'.length - us.length - 1, by omega⟩
    rw [hm, List.getElem?_cons_succ] at hmem
    exact hnot v (List.mem_of_getElem? hmem)
  have hlen := le_antisymm (hshort hacts hacts' hl.1) (hshort hacts' hacts hl'.1)
  exact (List.append_inj (hacts'.symm.trans hacts) hlen).1

theorem existsUnique_claimed (r : Retention V) (acts : List (Act K V)) {k : K} {v : V}
    {since : Instant} (hp : (start.after r acts).desk.parked k = some (v, since)) (timeout : Span) :
    ∃! us, ∃ vs, acts = us ++ .deliver k v :: vs ∧
      Became r (start.after r us) k v (vs ++ [.wait k timeout])
        (.left vs.length (.claimed (start.after r acts).next)) := by
  refine (existsUnique_congr fun us => exists_congr fun vs => and_congr_right fun hacts => ?_).1
    (existsUnique_source r acts hp)
  constructor
  · intro hl
    refine ⟨vs, .wait k timeout, [], rfl, rfl, hl, ?_⟩
    rw [← after_split, ← hacts]
    refine ⟨timeout, rfl, ?_, (parked_step (seated_start r acts) r _ k).trans (if_pos rfl)⟩
    simp [step, Desk.claimed_wait, hp]
  · rintro ⟨vs', a, rest, he, hlen, hl, -⟩
    rwa [(List.append_inj he hlen.symm).1]

/-- No value is lost and none is doubled. Each value handed over has one fate, whatever follows. One
that only pending calls may have goes to all of them or comes back, and what is parked stays as it is.
Each value that a call returns was handed over under the key of the call: by the act that woke it, or
by the one delivery whose value the call claims as it starts. -/
theorem values_accounted (r : Retention V) (acts : List (Act K V)) (k : K) (v : V) :
    let s := start.after r acts
    (∀ later, ∃! fate, Became r s k v later fate) ∧
      (s.desk.pendingOn k).Nodup ∧
      (if s.desk.pendingOn k = [] then ∃ late, (s.step r (.complete k v)).2 = (.back v late, [])
        else (s.step r (.complete k v)).2 =
          (.woke (s.desk.pendingOn k), (s.desk.pendingOn k).map (·, .value v))) ∧
      (∀ k', (s.step r (.complete k v)).1.desk.parked k' = s.desk.parked k') ∧
      ∀ a t, (t, .value v) ∈ (s.step r a).2.2 → ∃ k, Called r (acts ++ [a]) t k ∧
        (t ∈ s.desk.pendingOn k ∧ (a = .deliver k v ∨ a = .complete k v) ∨
          ∃ timeout, a = .wait k timeout ∧ ∃! us, ∃ vs, acts = us ++ .deliver k v :: vs ∧
            Became r (start.after r us) k v (vs ++ [a]) (.left vs.length (.claimed t))) := by
  intro s
  have h : s.desk.Seated s.next := seated_start r acts
  refine ⟨fun later => ?_, h.nodup_pendingOn k, ?_, fun k' => parked_step h r (.complete k v) k', ?_⟩
  · obtain ⟨fate, hfate⟩ := exists_became (r := r) h k v later
    exact ⟨fate, hfate, fun other hother => Became.unique h hother hfate⟩
  · rw [step_complete h]
    by_cases hk : s.desk.pendingOn k = []
    · simpa [hk] using em (s.desk.slots k = [])
    · simp [hk]
  · intro a t he
    rcases ended_step_cases h r a he with ⟨w, hw, rfl, hend⟩ | ⟨k', timeout, v', since, rfl, rfl, hp, hv⟩
    · refine ⟨w.key, (called_of_pending r acts w hw).snoc a, .inl ⟨(h.mem_pendingOn hw _).2 rfl, ?_⟩⟩
      cases a with
      | deliver k' v' =>
        simp only [Act.ending] at hend
        split_ifs at hend with hk
        cases hend
        exact .inl (by rw [hk])
      | complete k' v' =>
        simp only [Act.ending] at hend
        split_ifs at hend with hk
        cases hend
        exact .inr (by rw [hk])
      | advance span =>
        simp only [Act.ending] at hend
        split_ifs at hend
        cases hend
      | cancel t' =>
        simp only [Act.ending] at hend
        split_ifs at hend
        cases hend
      | close => cases hend
      | wait k' timeout => cases hend
      | sweep => cases hend
      | age span => cases hend
    · cases hv
      exact ⟨k', ⟨acts, timeout, [], rfl, rfl⟩, .inr ⟨timeout, rfl, existsUnique_claimed r acts hp timeout⟩⟩

end Run

end MessageExchange.Correlation

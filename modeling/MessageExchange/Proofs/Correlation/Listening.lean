import MessageExchange.Proofs.Correlation.Sessions

/-! Who consumes a notification. The calls that wait for it come first, all of them; then the listener;
and only when there is neither is it parked. So the listener hears of just the notifications that nobody
was waiting for, each once and in order. -/

namespace MessageExchange.Correlation

namespace Correlator

variable {c : Correlator} {m : Ticket} {n : Notification}

theorem listen_eq_ite (c : Correlator) (listener : String) :
    c.listen listener =
      if c.listener.isSome then .error (.configuration (.callbackTaken c.kind))
      else .ok { c with listener := some listener } := by
  unfold listen
  cases c.listener <;> rfl

theorem answers_claims (n : Notification) (ts : List Ticket) :
    (claims n ts).filterMap Effect.answer? = ts.map (·, .ok n) ∧
      (claims n ts).filterMap Effect.handed? = [] := by
  induction ts with
  | nil => exact ⟨rfl, rfl⟩
  | cons t ts ih =>
    have hcons : claims n (t :: ts) =
        .logged .caller (.claimed n) :: .answered t (.ok n) :: claims n ts := rfl
    rw [hcons]
    simp [ih]

theorem quiet_notice (c : Correlator) (site : Site) (about : String) :
    (c.notice site about).filterMap Effect.answer? = [] ∧
      (c.notice site about).filterMap Effect.handed? = [] := by
  unfold notice
  split_ifs <;> exact ⟨rfl, rfl⟩

theorem handed_deliver (h : c.desk.Seated m) (site : Site) (n : Notification) (now : Instant) :
    (c.deliver site n now).2.effects.filterMap Effect.handed? =
      if n.kind = c.kind ∧ c.desk.pendingOn n.about = [] then (c.listener.map (·, n)).toList
      else [] := by
  by_cases hk : n.kind = c.kind
  · by_cases hp : c.desk.pendingOn n.about = []
    · rw [if_pos ⟨hk, hp⟩]
      cases hl : c.listener with
      | some listener =>
        rw [deliver_of_listener h site now hk hp hl]
        simp [Handover.effects, (quiet_notice c site n.about).2]
      | none =>
        rw [deliver_of_nobody h site now hk hp hl]
        simp [Handover.effects, (quiet_notice c site n.about).2]
    · rw [if_neg fun hc => hp hc.2, deliver_of_pending h site now hk hp]
      simp [Handover.effects, handover, (answers_claims n _).2]
  · rw [if_neg fun hc => hk hc.1, deliver_of_wrong_kind site now hk]
    rfl

theorem answers_deliver (h : c.desk.Seated m) (site : Site) (now : Instant) (hk : n.kind = c.kind) :
    (c.deliver site n now).2.result = .ok () ∧
      (c.deliver site n now).2.effects.filterMap Effect.answer? =
        (c.desk.pendingOn n.about).map (·, .ok n) ∧
      ∀ k, (c.deliver site n now).1.desk.pendingOn k =
        if k = n.about then [] else c.desk.pendingOn k := by
  by_cases hp : c.desk.pendingOn n.about = []
  · cases hl : c.listener with
    | some listener =>
      rw [deliver_of_listener h site now hk hp hl]
      refine ⟨rfl, ?_, h.pendingOn_complete n.about⟩
      simp [Handover.effects, (quiet_notice c site n.about).1, hp]
    | none =>
      rw [deliver_of_nobody h site now hk hp hl]
      refine ⟨rfl, ?_, fun k => ?_⟩
      · simp [Handover.effects, (quiet_notice c site n.about).1, hp]
      · have hidle : (c.desk.complete n.about).1.pendingOn n.about = [] := by
          rw [h.pendingOn_complete, if_pos rfl]
        rw [← h.pendingOn_complete]
        simp only [Desk.pendingOn]
        rw [(h.complete n.about).waits_deliver_idle hidle]
  · rw [deliver_of_pending h site now hk hp]
    refine ⟨rfl, ?_, h.pendingOn_complete n.about⟩
    simp [Handover.effects, handover, (answers_claims n _).1]

theorem parked_deliver (h : c.desk.Seated m) (site : Site) (now : Instant) (hk : n.kind = c.kind)
    (k : String) :
    (c.deliver site n now).1.desk.parked k =
      if k = n.about ∧ c.desk.pendingOn n.about = [] ∧ c.listener = none then some (n, now)
      else c.desk.parked k := by
  by_cases hp : c.desk.pendingOn n.about = []
  · cases hl : c.listener with
    | some listener =>
      rw [deliver_of_listener h site now hk hp hl, if_neg (by simp)]
      exact Desk.parked_complete _ _ _
    | none =>
      have hidle : (c.desk.complete n.about).1.pendingOn n.about = [] := by
        rw [h.pendingOn_complete, if_pos rfl]
      rw [deliver_of_nobody h site now hk hp hl]
      simp only [(h.complete n.about).parked_deliver, hidle, hp, Desk.parked_complete, and_true]
  · rw [deliver_of_pending h site now hk hp, if_neg fun hc => hp hc.2.1]
    exact Desk.parked_complete _ _ _

end Correlator

namespace Session

variable {s : Session}

def firstOffered (acts : List Act) : Option String := acts.findSome? Act.offered

theorem firstOffered_cons (a : Act) (rest : List Act) :
    firstOffered (a :: rest) = a.offered.or (firstOffered rest) := by
  rw [firstOffered, List.findSome?_cons]
  cases a.offered <;> rfl

theorem after_frame (h : s.correlator.desk.Seated s.next) (acts : List Act) :
    (s.after acts).correlator.desk.Seated (s.after acts).next ∧
      (s.after acts).correlator.kind = s.correlator.kind ∧
      (s.after acts).correlator.listener = s.correlator.listener.or (firstOffered acts) := by
  induction acts generalizing s with
  | nil => exact ⟨h, rfl, (Option.or_none).symm⟩
  | cons a rest ih =>
    obtain ⟨hkind, hlistener, -⟩ := step_frame s a
    obtain ⟨hseated, hkinds, hlisteners⟩ := ih (seated_step h a)
    refine ⟨hseated, hkinds.trans hkind, hlisteners.trans ?_⟩
    rw [hlistener, firstOffered_cons, Option.or_assoc]

/-- The notifications of the kind that nobody waits for when they are delivered, from the time there is
a listener. -/
def unclaimed (kind : Kind) (s : Session) (listener : Option String) :
    List Act → List (String × Notification)
  | [] => []
  | a :: rest =>
    (match a with
      | .deliver draft =>
        let n := draft.appear s.storage
        if n.kind = kind ∧ s.correlator.desk.pendingOn n.about = [] then (listener.map (·, n)).toList
        else []
      | _ => []) ++ unclaimed kind (s.step a).1 (listener.or a.offered) rest

theorem handed_effects (h : s.correlator.desk.Seated s.next) (acts : List Act) :
    (s.effects acts).filterMap Effect.handed? =
      unclaimed s.correlator.kind s s.correlator.listener acts := by
  induction acts generalizing s with
  | nil => rfl
  | cons a rest ih =>
    obtain ⟨hkind, hlistener, hquiet⟩ := step_frame s a
    rw [effects, List.filterMap_append, ih (seated_step h a), hkind, hlistener]
    cases a with
    | deliver draft =>
      exact congrArg (· ++ _)
        (Correlator.handed_deliver h .caller (draft.appear s.storage) s.storage)
    | _ => exact congrArg (· ++ _) (hquiet (by simp))

/-- One side consumes a notification. The pending calls that wait for it all end with it; without such
a call the listener is handed it; without a listener it is parked in place of the one before it. One of
another kind has no effect. Over a whole run the listener, which is the first that was offered, is
handed what no call waited for, and no other ever takes its place. -/
theorem one_consumer (kind : Kind) (ttl sweepPeriod : Nat) (acts : List Act) (site : Site)
    (n : Notification) (now : Instant) (other : String) :
    let first := start (Correlator.start kind ttl sweepPeriod Instant.dawn)
    let c := (first.after acts).correlator
    let pending := c.desk.pendingOn n.about
    let r := c.deliver site n now
    (if n.kind ≠ kind then
        r = (c, ⟨.error (.invalidArgument (.wrongKind n.kind kind)), [], []⟩)
      else
        r.2.result = .ok () ∧
          r.2.effects.filterMap Effect.answer? = pending.map (·, .ok n) ∧
          (∀ k, r.1.desk.pendingOn k = if k = n.about then [] else c.desk.pendingOn k) ∧
          r.2.effects.filterMap Effect.handed? =
            (if pending = [] then (c.listener.map (·, n)).toList else []) ∧
          ∀ k, r.1.desk.parked k =
            if k = n.about ∧ pending = [] ∧ c.listener = none then some (n, now)
            else c.desk.parked k) ∧
      (first.effects acts).filterMap Effect.handed? = unclaimed kind first none acts ∧
      c.listener = firstOffered acts ∧
      c.listen other =
        if (firstOffered acts).isSome then .error (.configuration (.callbackTaken kind))
        else .ok { c with listener := some other } := by
  intro first c pending r
  have hfirst : first.correlator.desk.Seated first.next := Desk.Seated.empty 0
  obtain ⟨hseated, hkind, hlistener⟩ := after_frame hfirst acts
  have hc : c.kind = kind := hkind
  have hl : c.listener = firstOffered acts := hlistener
  refine ⟨?_, handed_effects hfirst acts, hl, ?_⟩
  · by_cases hk : n.kind = c.kind
    · obtain ⟨hdone, hanswers, hpending⟩ := Correlator.answers_deliver hseated site now hk
      have hcalls := Correlator.handed_deliver hseated site n now
      rw [if_neg (not_not.2 (hk.trans hc))]
      refine ⟨hdone, hanswers, hpending, ?_, Correlator.parked_deliver hseated site now hk⟩
      rw [hcalls]
      exact if_congr (and_iff_right hk) rfl rfl
    · rw [if_pos (hc ▸ hk), ← hc]
      exact Correlator.deliver_of_wrong_kind site now hk
  · rw [Correlator.listen_eq_ite, hl, hc]

end Session

end MessageExchange.Correlation

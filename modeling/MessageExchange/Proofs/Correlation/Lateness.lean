import MessageExchange.Proofs.Correlation.Sweeping

/-! Notifications that come too late. A call that is given up leaves its slot behind, and whoever finds
nothing but such slots under the key of a notification logs that it is late. A slot stays until the key is
cleared: by a delivery, by a sweep, by a call on the key that times out, by a shutdown. What nobody takes is
parked, late or not, and stays until it is claimed, replaced, swept or dropped. -/

namespace MessageExchange

/-- A call gives up: its time is up, or its caller no longer waits. -/
def Effect.givesUp : Effect → Bool
  | answered _ (.error (.noAnswer _ _)) => true
  | cancelled _ => true
  | _ => false

namespace Correlation

namespace Correlator

variable {c : Correlator} {now : Instant}

def sweepsAt (c : Correlator) (now : Instant) : Bool := c.sweeper.any (·.isDue now)

theorem desk_tick (c : Correlator) (now : Instant) :
    (c.tick now).1.desk = if c.sweepsAt now then c.desk.sweep (retention c.ttl) now else c.desk := by
  unfold tick sweepsAt
  cases c.sweeper with
  | none => rfl
  | some w => by_cases hdue : w.isDue now = true <;> simp [hdue, sweep]

theorem slots_deliver {m : Ticket} {n : Notification} (h : c.desk.Seated m) (site : Site)
    (hk : n.kind = c.kind) (k : String) :
    (c.deliver site n now).1.desk.slots k = if k = n.about then [] else c.desk.slots k := by
  by_cases hp : c.desk.pendingOn n.about = []
  · cases hl : c.listener with
    | some listener =>
      rw [deliver_of_listener h site now hk hp hl]
      exact Desk.slots_complete _ _ _
    | none =>
      rw [deliver_of_nobody h site now hk hp hl]
      simp only [Desk.slots_deliver, Desk.slots_complete]
      split_ifs <;> rfl
  · rw [deliver_of_pending h site now hk hp]
    exact Desk.slots_complete _ _ _

end Correlator

namespace Session

variable {s : Session} {k : String} {t : Ticket} {p : Notification × Instant}

/-- The act clears the slots of ended calls under the key. -/
def clears (s : Session) (k : String) : Act → Bool
  | .deliver draft => draft.kind = s.correlator.kind && draft.about == k
  | .sweep | .shutdown => true
  | .advance span => (s.correlator.desk.due ⟨s.waiting.nanos + span.nanos⟩).any (·.key == k)
  | .age span => s.correlator.sweepsAt (s.storage.add span)
  | _ => false

def Undisturbed (s : Session) (k : String) : List Act → Prop
  | [] => True
  | a :: rest => s.clears k a = false ∧ (s.step a).1.Undisturbed k rest

instance decidableUndisturbed (s : Session) (k : String) : ∀ acts, Decidable (s.Undisturbed k acts)
  | [] => .isTrue trivial
  | a :: rest =>
    have := decidableUndisturbed (s.step a).1 k rest
    inferInstanceAs (Decidable (_ ∧ _))

theorem mem_slots_of_uncleared (h : s.correlator.desk.Seated s.next)
    (ht : t ∈ s.correlator.desk.slots k) {a : Act} (ha : s.clears k a = false) :
    t ∈ (s.step a).1.correlator.desk.slots k := by
  cases a with
  | deliver draft =>
    simp only [step]
    by_cases hk : (draft.appear s.storage).kind = s.correlator.kind
    · have hkind : draft.kind = s.correlator.kind := hk
      have habout : k ≠ draft.about := by
        rintro rfl
        simp [clears, hkind] at ha
      rw [Correlator.slots_deliver h .caller hk]
      exact (if_neg habout).symm ▸ ht
    · rw [Correlator.deliver_of_wrong_kind .caller s.storage hk]
      exact ht
  | listen listener =>
    simp only [step, Correlator.listen]
    cases s.correlator.listener <;> exact ht
  | await id timeout =>
    simp only [step, Correlator.await, Desk.slots_wait]
    exact List.mem_append_left _ ht
  | sweep => cases ha
  | shutdown => cases ha
  | cancel t' =>
    simp only [step]
    split_ifs <;> exact ht
  | advance span =>
    have hnone : ¬ ∃ w ∈ s.correlator.desk.due ⟨s.waiting.nanos + span.nanos⟩, w.key = k := by
      simpa [clears] using ha
    simp only [step, desk_timeOutAll]
    rw [Run.slots_timeOutAll h (fun w hw w' hw' heq => ?_), if_neg hnone]
    · exact ht
    · rw [h.eq_of_ticket hw' (Desk.mem_due.1 hw).1 heq]
  | age span =>
    have hidle : s.correlator.sweepsAt (s.storage.add span) = false := ha
    simp only [step, Correlator.desk_tick, hidle]
    exact ht

theorem mem_slots_after (h : s.correlator.desk.Seated s.next) (ht : t ∈ s.correlator.desk.slots k)
    {acts : List Act} (hacts : s.Undisturbed k acts) :
    t ∈ (s.after acts).correlator.desk.slots k := by
  induction acts generalizing s with
  | nil => exact ht
  | cons a rest ih => exact ih (seated_step h a) (mem_slots_of_uncleared h ht hacts.1) hacts.2

theorem mem_slots_cancel (h : s.correlator.desk.Seated s.next)
    (ht : t ∈ s.correlator.desk.pendingOn k) : t ∈ (s.step (.cancel t)).1.correlator.desk.slots k := by
  rw [← h.live] at ht
  have hslot := List.mem_of_mem_filter ht
  simp only [step]
  split_ifs <;> exact hslot

/-- With the act, what is parked under the key leaves its place: a call claims it, one that comes later takes
its place, a sweep finds it too old, or it is dropped. -/
def Leaves (s : Session) (k : String) (p : Notification × Instant) : Act → Prop
  | .await id timeout =>
    id = k ∧ (s.next, .ok p.1) ∈ (s.step (.await id timeout)).2.2.filterMap Effect.answer?
  | .deliver draft =>
    draft.kind = s.correlator.kind ∧ draft.about = k ∧
      (s.step (.deliver draft)).1.correlator.desk.parked k = some (draft.appear s.storage, s.storage)
  | .sweep => Desk.isStale (retention s.correlator.ttl) s.storage p.2 p.1 = true
  | .age span =>
    s.correlator.sweepsAt (s.storage.add span) = true ∧
      Desk.isStale (retention s.correlator.ttl) (s.storage.add span) p.2 p.1 = true
  | .shutdown => True
  | _ => False

theorem parked_of_not_leaves (h : s.correlator.desk.Seated s.next)
    (hp : s.correlator.desk.parked k = some p) {a : Act} (ha : ¬ s.Leaves k p a) :
    (s.step a).1.correlator.desk.parked k = some p := by
  cases a with
  | deliver draft =>
    by_cases hk : (draft.appear s.storage).kind = s.correlator.kind
    · have hparked := Correlator.parked_deliver h .caller s.storage hk k
      refine hparked.trans ((if_neg fun hplace => ?_).trans hp)
      exact ha ⟨hk, hplace.1.symm, hparked.trans (if_pos hplace)⟩
    · simp only [step, Correlator.deliver_of_wrong_kind .caller s.storage hk]
      exact hp
  | listen listener =>
    simp only [step, Correlator.listen]
    cases s.correlator.listener <;> exact hp
  | await id timeout =>
    have hid : k ≠ id := by
      rintro rfl
      refine ha ⟨rfl, ?_⟩
      simp [step, Correlator.await, Desk.claimed_wait, hp, Correlator.claims]
    simp only [step, Correlator.await, Desk.parked_wait]
    exact (if_neg hid).trans hp
  | sweep =>
    have hfresh : Desk.isStale (retention s.correlator.ttl) s.storage p.2 p.1 = false :=
      Bool.eq_false_iff.2 ha
    simp [step, Correlator.sweep, Desk.parked_sweep, hp, Option.filter, hfresh]
  | shutdown => exact absurd trivial ha
  | cancel t =>
    simp only [step]
    split_ifs <;> exact hp
  | advance span =>
    simp only [step, desk_timeOutAll, Run.parked_timeOutAll]
    exact hp
  | age span =>
    simp only [step, Correlator.desk_tick]
    split_ifs with hdue
    · have hfresh : Desk.isStale (retention s.correlator.ttl) (s.storage.add span) p.2 p.1 = false :=
        Bool.eq_false_iff.2 fun hstale => ha ⟨hdue, hstale⟩
      simp [Desk.parked_sweep, hp, Option.filter, hfresh]
    · exact hp

def Lies (s : Session) (k : String) (p : Notification × Instant) : List Act → Prop
  | [] => s.correlator.desk.parked k = some p
  | a :: rest =>
    s.correlator.desk.parked k = some p ∧ ¬ s.Leaves k p a ∧ (s.step a).1.Lies k p rest

theorem lies_or_leaves (h : s.correlator.desk.Seated s.next)
    (hp : s.correlator.desk.parked k = some p) (acts : List Act) :
    s.Lies k p acts ∨ ∃ us a vs, acts = us ++ a :: vs ∧ s.Lies k p us ∧ (s.after us).Leaves k p a := by
  induction acts generalizing s with
  | nil => exact .inl hp
  | cons a rest ih =>
    by_cases ha : s.Leaves k p a
    · exact .inr ⟨[], a, rest, rfl, hp, ha⟩
    · rcases ih (seated_step h a) (parked_of_not_leaves h hp ha) with
        hlies | ⟨us, b, vs, rfl, hlies, hleaves⟩
      · exact .inl ⟨hp, ha, hlies⟩
      · exact .inr ⟨a :: us, b, vs, rfl, ⟨hp, ha, hlies⟩, hleaves⟩

/-- Nobody waits for the notification as it is delivered. Then what its key holds of calls given up is
logged, listener or not. -/
theorem notice_seen (h : s.correlator.desk.Seated s.next) {draft : Notification.Draft}
    (hkind : draft.kind = s.correlator.kind) (hnobody : s.correlator.desk.pendingOn draft.about = [])
    (ht : t ∈ s.correlator.desk.slots draft.about) :
    .logged .caller (.lateDelivery s.correlator.kind.text draft.about) ∈
      (s.step (.deliver draft)).2.2 := by
  have hnotice : .logged .caller (.lateDelivery s.correlator.kind.text draft.about) ∈
      s.correlator.notice .caller draft.about := by
    rw [Correlator.notice, if_pos (List.ne_nil_of_mem ht)]
    exact List.mem_singleton_self _
  have hk : (draft.appear s.storage).kind = s.correlator.kind := hkind
  cases hl : s.correlator.listener with
  | some listener =>
    simp only [step, Correlator.deliver_of_listener h .caller s.storage hk hnobody hl,
      Handover.effects, List.append_nil]
    exact List.mem_append_left _ hnotice
  | none =>
    simp only [step, Correlator.deliver_of_nobody h .caller s.storage hk hnobody hl,
      Handover.effects, List.append_nil]
    exact List.mem_append_left _ hnotice

/-- A notification comes when nobody waits for it. If a call on its key was given up and the key was not
cleared since, it is logged that it is late. Late or not, without a listener it is parked, and it stays
parked until it is claimed, replaced, swept or dropped. -/
theorem late_noticed_and_kept (kind : Kind) (ttl sweepPeriod : Nat) {acts : List Act}
    {draft : Notification.Draft} (hkind : draft.kind = kind)
    (hnobody : ((start (Correlator.start kind ttl sweepPeriod Instant.dawn)).after
      acts).correlator.desk.pendingOn draft.about = []) :
    let first := start (Correlator.start kind ttl sweepPeriod Instant.dawn)
    let s := first.after acts
    let k := draft.about
    (∀ us t since, acts = us ++ .cancel t :: since → t ∈ (first.after us).correlator.desk.pendingOn k →
        ((first.after us).step (.cancel t)).1.Undisturbed k since →
        .logged .caller (.lateDelivery kind.text k) ∈ (s.step (.deliver draft)).2.2) ∧
      (s.correlator.listener = none → ∀ later,
        let n := (draft.appear s.storage, s.storage)
        let s' := (s.step (.deliver draft)).1
        s'.Lies k n later ∨
          ∃ us a vs, later = us ++ a :: vs ∧ s'.Lies k n us ∧ (s'.after us).Leaves k n a) := by
  intro first s k
  have hfirst : first.correlator.desk.Seated first.next := Desk.Seated.empty _
  obtain ⟨h, hframe, -⟩ := after_frame hfirst acts
  have hsame : s.correlator.kind = kind := hframe
  have hk : draft.kind = s.correlator.kind := hkind.trans hsame.symm
  constructor
  · rintro us t since rfl ht hsince
    have hbefore := (after_frame hfirst us).1
    have hslot := mem_slots_after (seated_step hbefore _) (mem_slots_cancel hbefore ht) hsince
    have hs : s = ((first.after us).step (.cancel t)).1.after since := List.foldl_append
    rw [← hs] at hslot
    rw [← hsame]
    exact notice_seen h hk hnobody hslot
  · intro hl later n s'
    have hparked : s'.correlator.desk.parked k = some n :=
      (Correlator.parked_deliver h .caller s.storage hk k).trans (if_pos ⟨rfl, hnobody, hl⟩)
    exact lies_or_leaves (seated_step h _) hparked later

/-- Two calls wait; the second times out at once, then the first is given up. The notification is late, and
it is swept when it is too old. -/
theorem late_noticed_after_cancel :
    let first := start (Correlator.start .submission 300 300 Instant.dawn)
    let draft : Notification.Draft := ⟨.submission, "receipt", "A", .receipt, "", .ago 0⟩
    let acts : List Act :=
      [.await "A" ⟨0⟩, .await "A" ⟨5⟩, .advance ⟨5⟩, .cancel 0, .await "B" ⟨0⟩, .age (.ofSecs 10)]
    let s := first.after acts
    let later : List Act := [.age (.ofSecs 300), .age (.ofSecs 300)]
    draft.kind = .submission ∧ s.correlator.desk.pendingOn draft.about = [] ∧
      .logged .caller (.lateDelivery "submission" "A") ∈ (s.step (.deliver draft)).2.2 ∧
      s.correlator.listener = none ∧
      ((s.step (.deliver draft)).1.Lies "A" (draft.appear s.storage, s.storage) later ∨
        ∃ us a vs, later = us ++ a :: vs ∧
          (s.step (.deliver draft)).1.Lies "A" (draft.appear s.storage, s.storage) us ∧
          ((s.step (.deliver draft)).1.after us).Leaves "A" (draft.appear s.storage, s.storage) a) := by
  intro first draft acts s later
  have hkind : draft.kind = .submission := rfl
  have hnobody : (first.after acts).correlator.desk.pendingOn draft.about = [] := by decide +kernel
  have hsilent : s.correlator.listener = none := by decide +kernel
  obtain ⟨hlate, hkept⟩ := late_noticed_and_kept .submission 300 300 hkind hnobody
  exact ⟨rfl, hnobody,
    hlate [.await "A" ⟨0⟩, .await "A" ⟨5⟩, .advance ⟨5⟩] 0 [.await "B" ⟨0⟩, .age (.ofSecs 10)] rfl
      (by decide +kernel) (by decide +kernel),
    hsilent, hkept hsilent later⟩

theorem stored_seen (h : s.correlator.desk.Seated s.next) {draft : Notification.Draft}
    (hkind : draft.kind = s.correlator.kind) (hl : s.correlator.listener = none)
    (hempty : s.correlator.desk.carriers.get? draft.about = none) :
    (s.step (.deliver draft)).2.2 = [.logged .caller (.stored s.correlator.kind draft.about)] := by
  have hslots : s.correlator.desk.slots draft.about = [] := by rw [Desk.slots, hempty]
  have hparked : s.correlator.desk.parked draft.about = none := by rw [Desk.parked, hempty]
  have hnobody : s.correlator.desk.pendingOn draft.about = [] := by
    rw [← h.live, hslots]
    rfl
  have hdeliver := Correlator.deliver_of_nobody (n := draft.appear s.storage) h .caller s.storage hkind
    hnobody hl
  have habout : (draft.appear s.storage).about = draft.about := rfl
  rw [habout, hparked] at hdeliver
  simp only [step, hdeliver, Correlator.notice, hslots]
  rfl

/-- A call has given up during the acts, nobody waits on the key of the notification, and when it comes it is
stored without a word of that call. -/
structure Overlooks (s : Session) (draft : Notification.Draft) (acts : List Act) : Prop where
  givenUp : (s.effects acts).any Effect.givesUp = true
  nobody : (s.after acts).correlator.desk.pendingOn draft.about = []
  stored : ((s.after acts).step (.deliver draft)).2.2 =
    [.logged .caller (.stored s.correlator.kind draft.about)]

theorem overlooks_of_empty (h : s.correlator.desk.Seated s.next) {draft : Notification.Draft}
    (hkind : draft.kind = s.correlator.kind) {acts : List Act}
    (hgivenUp : (s.effects acts).any Effect.givesUp = true)
    (hempty : (s.after acts).correlator.desk.carriers.get? draft.about = none)
    (hl : (s.after acts).correlator.listener = none) : s.Overlooks draft acts := by
  obtain ⟨hseated, hframe, -⟩ := after_frame h acts
  have hsame : (s.after acts).correlator.kind = s.correlator.kind := hframe
  refine ⟨hgivenUp, ?_, ?_⟩
  · rw [← hseated.live, Desk.slots, hempty]
    rfl
  · rw [stored_seen hseated (hkind.trans hsame.symm) hl hempty, hsame]

/-- Calls that gave up and are not noticed: one that timed out, one whose slot was swept, one whose slot went
with a shutdown, and one whose slot went when another call on the key timed out. -/
theorem late_unnoticed :
    let first := start (Correlator.start .submission 300 300 Instant.dawn)
    let draft : Notification.Draft := ⟨.submission, "receipt", "A", .receipt, "", .ago 0⟩
    first.Overlooks draft [.await "A" ⟨5⟩, .advance ⟨10⟩] ∧
      first.Overlooks draft [.await "A" ⟨0⟩, .cancel 0, .sweep] ∧
      first.Overlooks draft [.await "A" ⟨0⟩, .cancel 0, .shutdown] ∧
      first.Overlooks draft [.await "A" ⟨0⟩, .await "A" ⟨5⟩, .cancel 0, .advance ⟨10⟩] := by
  intro first draft
  have hfirst : first.correlator.desk.Seated first.next := Desk.Seated.empty _
  exact ⟨overlooks_of_empty hfirst rfl (by decide +kernel) (by decide +kernel) (by decide +kernel),
    overlooks_of_empty hfirst rfl (by decide +kernel) (by decide +kernel) (by decide +kernel),
    overlooks_of_empty hfirst rfl (by decide +kernel) (by decide +kernel) (by decide +kernel),
    overlooks_of_empty hfirst rfl (by decide +kernel) (by decide +kernel) (by decide +kernel)⟩

end Session

end Correlation

end MessageExchange

import MessageExchange.Correlation.Session
import MessageExchange.Proofs.Correlation.Seating

/-! Sessions of one correlator. Its desk stays seated, its kind never changes, and its listener is the
first one that was offered. What a delivery does is told apart by who is there to take it. -/

namespace MessageExchange

def Effect.answer? : Effect → Option (Correlation.Ticket × Except Fault Notification)
  | answered t result => some (t, result)
  | _ => none

def Effect.handed? : Effect → Option (String × Notification)
  | handed listener n => some (listener, n)
  | _ => none

section

variable (effects : List Effect)

@[simp] theorem Effect.answers_logged (site : Site) (e : Event) :
    (logged site e :: effects).filterMap answer? = effects.filterMap answer? := rfl

@[simp] theorem Effect.answers_answered (t : Correlation.Ticket) (r : Except Fault Notification) :
    (answered t r :: effects).filterMap answer? = (t, r) :: effects.filterMap answer? := rfl

@[simp] theorem Effect.answers_handed (listener : String) (n : Notification) :
    (handed listener n :: effects).filterMap answer? = effects.filterMap answer? := rfl

@[simp] theorem Effect.calls_logged (site : Site) (e : Event) :
    (logged site e :: effects).filterMap handed? = effects.filterMap handed? := rfl

@[simp] theorem Effect.calls_answered (t : Correlation.Ticket) (r : Except Fault Notification) :
    (answered t r :: effects).filterMap handed? = effects.filterMap handed? := rfl

@[simp] theorem Effect.calls_handed (listener : String) (n : Notification) :
    (handed listener n :: effects).filterMap handed? =
      (listener, n) :: effects.filterMap handed? := rfl

end

namespace Correlation

namespace Desk

variable {K V : Type} [DecidableEq K] {d : Desk K V} {m : Ticket}

theorem Seated.pendingOn_complete (h : d.Seated m) (k k' : K) :
    (d.complete k).1.pendingOn k' = if k' = k then [] else d.pendingOn k' := by
  rw [pendingOn, h.waits_complete, List.filter_filter]
  split_ifs with hk
  · simp [hk]
  · congr 1
    apply List.filter_congr
    intro w _
    by_cases hw : w.key = k' <;> simp [hw, hk]

theorem Seated.waits_deliver_idle (h : d.Seated m) {k : K} (hp : d.pendingOn k = []) (v : V)
    (now : Instant) : (d.deliver k v now).1.waits = d.waits := by
  rw [h.waits_deliver, List.filter_eq_self]
  intro w hw
  rw [decide_eq_true_iff]
  intro hk
  have hmem := (h.mem_pendingOn hw k).2 hk
  rw [hp] at hmem
  exact List.not_mem_nil hmem

end Desk

namespace Correlator

variable {c : Correlator} {m : Ticket} {n : Notification}

/-- What is logged of a key whose calls were all given up. -/
def notice (c : Correlator) (site : Site) (about : String) : List Effect :=
  if c.desk.slots about ≠ [] then [.logged site (.lateDelivery c.kind.text about)] else []

theorem deliver_of_wrong_kind (site : Site) (now : Instant) (hk : n.kind ≠ c.kind) :
    c.deliver site n now = (c, ⟨.error (.invalidArgument (.wrongKind n.kind c.kind)), [], []⟩) := by
  rw [deliver, if_pos hk]

theorem deliver_of_pending (h : c.desk.Seated m) (site : Site) (now : Instant) (hk : n.kind = c.kind)
    (hp : c.desk.pendingOn n.about ≠ []) :
    c.deliver site n now =
      ({ c with desk := (c.desk.complete n.about).1 },
        handover site c.kind n (.woke (c.desk.pendingOn n.about))) := by
  have hcomp := h.completion_complete n.about
  rw [deliver, if_neg (not_not.2 hk)]
  cases hd : c.desk.complete n.about with
  | mk d completion =>
    rw [hd, if_pos hp] at hcomp
    simp only at hcomp
    rw [hcomp]

theorem deliver_of_listener (h : c.desk.Seated m) (site : Site) (now : Instant) (hk : n.kind = c.kind)
    (hp : c.desk.pendingOn n.about = []) {listener : String} (hl : c.listener = some listener) :
    c.deliver site n now =
      ({ c with desk := (c.desk.complete n.about).1 },
        ⟨.ok (), c.notice site n.about ++ [.logged site (.calledBack n), .handed listener n], []⟩) := by
  have hcomp := h.completion_complete n.about
  rw [deliver, if_neg (not_not.2 hk)]
  cases hd : c.desk.complete n.about with
  | mk d completion =>
    rw [hd, if_neg (not_not.2 hp)] at hcomp
    simp only at hcomp
    simp [hcomp, hl, notice]

theorem deliver_of_nobody (h : c.desk.Seated m) (site : Site) (now : Instant) (hk : n.kind = c.kind)
    (hp : c.desk.pendingOn n.about = []) (hl : c.listener = none) :
    c.deliver site n now =
      ({ c with desk := ((c.desk.complete n.about).1.deliver n.about n now).1 },
        ⟨.ok (), c.notice site n.about ++
          [.logged site (if (c.desk.parked n.about).isSome then .replaced c.kind n.about
            else .stored c.kind n.about)], []⟩) := by
  have hcomp := h.completion_complete n.about
  have hplace := (h.complete n.about).placement_deliver n.about n now
  have hidle : (c.desk.complete n.about).1.pendingOn n.about = [] := by
    rw [h.pendingOn_complete, if_pos rfl]
  have hcleared : (c.desk.complete n.about).1.slots n.about = [] :=
    (Desk.slots_complete _ _ _).trans (if_pos rfl)
  rw [if_neg (not_not.2 hidle), if_pos hcleared, Desk.parked_complete] at hplace
  rw [deliver, if_neg (not_not.2 hk)]
  cases hd : c.desk.complete n.about with
  | mk d completion =>
    rw [hd, if_neg (not_not.2 hp)] at hcomp
    rw [hd] at hplace
    simp only at hcomp hplace
    rw [hcomp]
    simp only [hl, hplace]
    by_cases hs : c.desk.slots n.about = []
    · split_ifs <;> simp_all [handover, notice]
    · split_ifs <;> simp_all [handover, notice]

theorem seated_deliver (h : c.desk.Seated m) (site : Site) (n : Notification) (now : Instant) :
    (c.deliver site n now).1.desk.Seated m := by
  by_cases hk : n.kind = c.kind
  · by_cases hp : c.desk.pendingOn n.about = []
    · cases hl : c.listener with
      | some listener =>
        rw [deliver_of_listener h site now hk hp hl]
        exact h.complete n.about
      | none =>
        rw [deliver_of_nobody h site now hk hp hl]
        exact (h.complete n.about).deliver n.about n now
    · rw [deliver_of_pending h site now hk hp]
      exact h.complete n.about
  · rw [deliver_of_wrong_kind site now hk]
    exact h

theorem mem_waits_deliver (h : c.desk.Seated m) (site : Site) (now : Instant) {w : Wait String}
    (hw : w ∈ c.desk.waits) (hk : n.kind = c.kind → n.about ≠ w.key) :
    w ∈ (c.deliver site n now).1.desk.waits := by
  by_cases hkind : n.kind = c.kind
  · have hkey : w.key ≠ n.about := (hk hkind).symm
    have hleft : w ∈ (c.desk.complete n.about).1.waits := by
      rw [h.waits_complete]
      exact List.mem_filter.2 ⟨hw, decide_eq_true hkey⟩
    by_cases hp : c.desk.pendingOn n.about = []
    · cases hl : c.listener with
      | some listener =>
        rw [deliver_of_listener h site now hkind hp hl]
        exact hleft
      | none =>
        rw [deliver_of_nobody h site now hkind hp hl]
        simp only [(h.complete n.about).waits_deliver]
        exact List.mem_filter.2 ⟨hleft, decide_eq_true hkey⟩
    · rw [deliver_of_pending h site now hkind hp]
      exact hleft
  · rw [deliver_of_wrong_kind site now hkind]
    exact hw

theorem mem_waits_of_deliver (h : c.desk.Seated m) (site : Site) (n : Notification) (now : Instant)
    {w : Wait String} (hw : w ∈ (c.deliver site n now).1.desk.waits) : w ∈ c.desk.waits := by
  by_cases hk : n.kind = c.kind
  · have hgone : ∀ w ∈ (c.desk.complete n.about).1.waits, w ∈ c.desk.waits := by
      rw [h.waits_complete]
      exact fun w hw => List.mem_of_mem_filter hw
    by_cases hp : c.desk.pendingOn n.about = []
    · cases hl : c.listener with
      | some listener =>
        rw [deliver_of_listener h site now hk hp hl] at hw
        exact hgone w hw
      | none =>
        rw [deliver_of_nobody h site now hk hp hl] at hw
        simp only [(h.complete n.about).waits_deliver] at hw
        exact hgone w (List.mem_of_mem_filter hw)
    · rw [deliver_of_pending h site now hk hp] at hw
      exact hgone w hw
  · rwa [deliver_of_wrong_kind site now hk] at hw

theorem kind_deliver (c : Correlator) (site : Site) (n : Notification) (now : Instant) :
    (c.deliver site n now).1.kind = c.kind ∧ (c.deliver site n now).1.listener = c.listener := by
  unfold deliver
  split_ifs
  · exact ⟨rfl, rfl⟩
  · split
    · exact ⟨rfl, rfl⟩
    · cases c.listener <;> exact ⟨rfl, rfl⟩

/-- All that a periodic sweep shows is a line of its own log. -/
theorem tick_effects {c : Correlator} {now : Instant} {e : Effect} (he : e ∈ (c.tick now).2) :
    ∃ event, e = .logged .sweeper event := by
  unfold tick at he
  cases hs : c.sweeper with
  | none =>
    rw [hs] at he
    exact absurd he List.not_mem_nil
  | some sweeper =>
    simp only [hs] at he
    split_ifs at he
    · exact absurd he List.not_mem_nil
    · exact ⟨_, List.mem_singleton.1 he⟩
    · exact absurd he List.not_mem_nil

/-- So nothing is seen of it that is not read off a log. -/
theorem filterMap_tick {α : Type} {f : Effect → Option α} (hf : ∀ event, f (.logged .sweeper event) = none)
    (c : Correlator) (now : Instant) : (c.tick now).2.filterMap f = [] := by
  refine List.filterMap_eq_nil_iff.2 fun e he => ?_
  obtain ⟨event, rfl⟩ := tick_effects he
  exact hf event

theorem tick_frame (c : Correlator) (now : Instant) :
    ((c.tick now).1.desk = c.desk ∨ (c.tick now).1.desk = c.desk.sweep (retention c.ttl) now) ∧
      (c.tick now).1.kind = c.kind ∧ (c.tick now).1.listener = c.listener := by
  unfold tick
  cases c.sweeper with
  | none => exact ⟨.inl rfl, rfl, rfl⟩
  | some sweeper =>
    by_cases hdue : sweeper.isDue now = true
    · simp only [if_pos hdue]
      exact ⟨.inr rfl, rfl, rfl⟩
    · simp [hdue]

end Correlator

namespace Session

def after (s : Session) (acts : List Act) : Session := acts.foldl (fun s a => (s.step a).1) s

def effects (s : Session) : List Act → List Effect
  | [] => []
  | a :: rest => (s.step a).2.2 ++ (s.step a).1.effects rest

variable {s : Session}

theorem timeOutAll_frame (c : Correlator) (due : List (Wait String)) :
    (timeOutAll c due).1.kind = c.kind ∧ (timeOutAll c due).1.listener = c.listener ∧
      (timeOutAll c due).2.filterMap Effect.handed? = [] := by
  induction due generalizing c with
  | nil => exact ⟨rfl, rfl, rfl⟩
  | cons w rest ih =>
    obtain ⟨hkind, hlistener, hquiet⟩ := ih (c.timeOut w).1
    refine ⟨hkind, hlistener, ?_⟩
    rw [timeOutAll, List.filterMap_append, hquiet]
    rfl

theorem seated_timeOutAll {c : Correlator} {m : Ticket} (h : c.desk.Seated m)
    (due : List (Wait String)) : (timeOutAll c due).1.desk.Seated m := by
  induction due generalizing c with
  | nil => exact h
  | cons w rest ih => exact ih (c := (c.timeOut w).1) (h.timeOut w)

theorem seated_step (h : s.correlator.desk.Seated s.next) (a : Act) :
    (s.step a).1.correlator.desk.Seated (s.step a).1.next := by
  cases a with
  | deliver draft => exact Correlator.seated_deliver h .caller _ s.storage
  | listen listener =>
    simp only [step, Correlator.listen]
    cases s.correlator.listener <;> exact h
  | await id timeout => exact h.wait id timeout s.waiting
  | sweep => exact h.sweep _ s.storage
  | shutdown => exact (Desk.Seated.empty s.next).mono s.next.le_succ
  | cancel t =>
    simp only [step]
    split_ifs
    · exact h.cancel t
    · exact h
  | advance span => exact seated_timeOutAll h _
  | age span =>
    have hdesk := (Correlator.tick_frame s.correlator (s.storage.add span)).1
    simp only [step]
    rcases hdesk with hd | hd <;> rw [hd]
    · exact h
    · exact h.sweep _ _

def Act.offered : Act → Option String
  | listen listener => some listener
  | _ => none

theorem step_frame (s : Session) (a : Act) :
    (s.step a).1.correlator.kind = s.correlator.kind ∧
      (s.step a).1.correlator.listener = s.correlator.listener.or a.offered ∧
      ((∀ draft, a ≠ .deliver draft) → (s.step a).2.2.filterMap Effect.handed? = []) := by
  cases a with
  | deliver draft =>
    obtain ⟨hkind, hlistener⟩ :=
      Correlator.kind_deliver s.correlator .caller (draft.appear s.storage) s.storage
    refine ⟨hkind, ?_, fun hne => absurd rfl (hne draft)⟩
    simp only [Act.offered, Option.or_none]
    exact hlistener
  | listen listener =>
    simp only [step, Correlator.listen, Act.offered]
    cases hl : s.correlator.listener <;> simp [hl]
  | await id timeout =>
    refine ⟨rfl, (Option.or_none).symm, fun _ => ?_⟩
    simp only [step, Correlator.await]
    cases (s.correlator.desk.wait s.next id timeout s.waiting).2 <;> rfl
  | sweep => exact ⟨rfl, (Option.or_none).symm, fun _ => rfl⟩
  | shutdown =>
    refine ⟨rfl, (Option.or_none).symm, fun _ => ?_⟩
    simp [step, Correlator.shutdown, List.filterMap_append, List.filterMap_map, Effect.handed?,
      Function.comp_def]
  | cancel t =>
    simp only [step]
    split_ifs <;> exact ⟨rfl, (Option.or_none).symm, fun _ => rfl⟩
  | advance span =>
    obtain ⟨hkind, hlistener, hquiet⟩ := timeOutAll_frame s.correlator
      (s.correlator.desk.due ⟨s.waiting.nanos + span.nanos⟩)
    exact ⟨hkind, hlistener.trans (Option.or_none).symm, fun _ => hquiet⟩
  | age span =>
    obtain ⟨-, hkind, hlistener⟩ := Correlator.tick_frame s.correlator (s.storage.add span)
    exact ⟨hkind, hlistener.trans (Option.or_none).symm,
      fun _ => Correlator.filterMap_tick (fun _ => rfl) s.correlator _⟩

end Session

end Correlation

end MessageExchange

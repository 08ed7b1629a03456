import MessageExchange.Proofs.Correlation.Runs
import MessageExchange.Proofs.Gateway.Closing

/-! Acknowledgements reach those who asked for them. Whatever happens to a gateway, a correlator holds only
notifications of its kind, each under the id of the message that it answers; a call ends with what it asked
for, or with a fault of its own; and nothing that is done for one kind is noticed by the other. -/

namespace MessageExchange.Gateway

open Correlation (Ticket Wait Correlator Desk retention)

/-- A call for an acknowledgement: of which kind, of which message, and how long it is ready to wait. -/
structure Request where
  ticket : Ticket
  kind : Kind
  id : String
  timeout : Span
  deriving DecidableEq

/-- How a call may end when the notifications in `passed` have come in: with one of them that is of its
kind and answers its message, or because its time is up, or turned away. -/
def Request.Permits (passed : List Notification) (q : Request) : Except Fault Notification → Prop
  | .ok n => n.kind = q.kind ∧ n.about = q.id ∧ n ∈ passed
  | .error fault =>
    fault = .noAnswer q.id q.timeout ∨ fault = .rejected (.correlatorClosed q.kind q.id)

def Ends (requests : List Request) (passed : List Notification) (kind : Kind)
    (a : Ticket × Except Fault Notification) : Prop :=
  ∃ q ∈ requests, q.ticket = a.1 ∧ q.kind = kind ∧ q.Permits passed a.2

/-- What a correlator holds has come in, is of its kind, and lies under the id that it answers. Whoever
waits has called. -/
structure Serves (requests : List Request) (passed : List Notification) (r : Correlator) : Prop where
  held : ∀ k n since, r.desk.parked k = some (n, since) → n.kind = r.kind ∧ n.about = k ∧ n ∈ passed
  waits : ∀ w ∈ r.desk.waits, ⟨w.ticket, r.kind, w.key, w.timeout⟩ ∈ requests

namespace Serves

variable {requests more : List Request} {passed : List Notification} {r r' : Correlator}

theorem start (kind : Kind) (ttl sweepPeriod : Nat) (now : Instant) :
    Serves requests passed (Correlator.start kind ttl sweepPeriod now) where
  held := nofun
  waits := nofun

theorem mono {passed' : List Notification} (h : Serves requests passed r) (hr : requests ⊆ more)
    (hp : passed ⊆ passed') : Serves more passed' r where
  held := fun k n since hk => (h.held k n since hk).imp_right fun hn => hn.imp_right fun hmem => hp hmem
  waits := fun w hw => hr (h.waits w hw)

theorem shrink (h : Serves requests passed r) (hkind : r'.kind = r.kind)
    (hp : ∀ k p, r'.desk.parked k = some p → r.desk.parked k = some p)
    (hw : ∀ w ∈ r'.desk.waits, w ∈ r.desk.waits) : Serves requests passed r' where
  held := fun k n since hk => hkind ▸ h.held k n since (hp k _ hk)
  waits := fun w hmem => hkind ▸ h.waits w (hw w hmem)

theorem listen (h : Serves requests passed r) {listener : String} (hl : r.listen listener = .ok r') :
    Serves requests passed r' := by
  rw [Correlator.listen_eq_ite] at hl
  split_ifs at hl
  obtain rfl := Except.ok.inj hl
  exact h.shrink rfl (fun _ _ hk => hk) fun _ hw => hw

theorem cancel (h : Serves requests passed r) (t : Ticket) : Serves requests passed (r.cancel t) :=
  h.shrink rfl (fun _ _ hk => hk) fun _ hw => List.mem_of_mem_filter hw

theorem sweep (h : Serves requests passed r) (now : Instant) :
    Serves requests passed (r.sweep now).1 := by
  refine h.shrink rfl (fun k p hk => ?_) fun _ hw => hw
  have hswept := (Desk.parked_sweep r.desk (retention r.ttl) now k).symm.trans hk
  exact (Option.filter_eq_some_iff.1 hswept).1

theorem tick (h : Serves requests passed r) (now : Instant) :
    Serves requests passed (r.tick now).1 := by
  obtain ⟨hdesk, hkind, -⟩ := Correlator.tick_frame r now
  have hswept := h.sweep now
  rcases hdesk with hd | hd
  · exact h.shrink hkind (fun k p => by rw [hd]; exact id) fun w => by rw [hd]; exact id
  · exact hswept.shrink hkind (fun k p => by rw [hd]; exact id) fun w => by rw [hd]; exact id

theorem shutdown (h : Serves requests passed r) :
    Serves requests passed r.shutdown.1 ∧
      ∀ a ∈ r.shutdown.2.filterMap Effect.answer?, Ends requests passed r.kind a := by
  refine ⟨h.shrink rfl (fun _ _ => nofun) fun _ => nofun, fun a ha => ?_⟩
  rw [Course.answers_shutdown] at ha
  obtain ⟨w, hw, rfl⟩ := List.mem_map.1 ha
  exact ⟨_, h.waits w hw, rfl, rfl, .inr rfl⟩

theorem forsake {g : Gateway} {kind : Kind} (h : Serves requests passed (g.correlator kind))
    (stage : Stage) : Serves requests passed ((stage.forsake g).correlator kind) := by
  obtain ⟨hdesk, hkind⟩ := desk_forsake stage g kind
  exact h.shrink hkind (fun _ _ hk => hdesk ▸ hk) fun _ hw => hdesk ▸ hw

theorem timeOut (h : Serves requests passed r) {w : Wait String} (hw : w ∈ r.desk.waits) :
    Serves requests passed (r.timeOut w).1 ∧
      ∀ a ∈ (r.timeOut w).2.filterMap Effect.answer?, Ends requests passed r.kind a := by
  refine ⟨h.shrink rfl (fun k p hk => ?_) fun w' hw' => ?_, fun a ha => ?_⟩
  · exact (Desk.parked_timeOut r.desk w k).symm.trans hk
  · have hwaits : w' ∈ (r.desk.timeOut w).waits := hw'
    rw [Desk.waits_timeOut] at hwaits
    exact List.mem_of_mem_filter hwaits
  · obtain rfl := List.mem_singleton.1 ha
    exact ⟨_, h.waits w hw, rfl, rfl, .inl rfl⟩

theorem await (h : Serves requests passed r) (t : Ticket) (id : String) (timeout now : Span) :
    Serves (requests ++ [⟨t, r.kind, id, timeout⟩]) passed (r.await t id timeout now).1 ∧
      ∀ a ∈ (r.await t id timeout now).2.filterMap Effect.answer?,
        Ends (requests ++ [⟨t, r.kind, id, timeout⟩]) passed r.kind a := by
  have hlast : (⟨t, r.kind, id, timeout⟩ : Request) ∈ requests ++ [⟨t, r.kind, id, timeout⟩] := by
    simp
  refine ⟨⟨fun k n since hk => ?_, fun w hw => ?_⟩, ?_⟩
  · have hparked := (Desk.parked_wait r.desk t id k timeout now).symm.trans hk
    split_ifs at hparked
    exact h.held k n since hparked
  · have hwaits : w ∈ (r.desk.wait t id timeout now).1.waits := hw
    rw [Desk.waits_wait, List.mem_append] at hwaits
    rcases hwaits with hold | hnew
    · exact List.mem_append_left _ (h.waits w hold)
    · split_ifs at hnew
      · exact absurd hnew List.not_mem_nil
      · rw [List.mem_singleton.1 hnew]
        exact hlast
  · have hclaimed := Desk.claimed_wait r.desk t id timeout now
    simp only [Correlator.await]
    intro a ha
    cases hp : r.desk.parked id with
    | none =>
      rw [hclaimed, hp] at ha
      exact absurd ha List.not_mem_nil
    | some p =>
      obtain ⟨n, since⟩ := p
      rw [hclaimed, hp] at ha
      simp only [Option.map_some, (Correlator.answers_claims n [t]).1, List.map_singleton,
        List.mem_singleton] at ha
      subst ha
      exact ⟨_, hlast, rfl, rfl, h.held id n since hp⟩

theorem deliver {m : Ticket} {n : Notification} (h : Serves requests passed r)
    (hs : r.desk.Seated m) (site : Site) (now : Instant) (hk : n.kind = r.kind) :
    Serves requests (passed ++ [n]) (r.deliver site n now).1 ∧
      ∀ a ∈ (r.deliver site n now).2.effects.filterMap Effect.answer?,
        Ends requests (passed ++ [n]) r.kind a := by
  have hlast : n ∈ passed ++ [n] := by simp
  have hkind := (Correlator.kind_deliver r site n now).1
  refine ⟨⟨fun k n' since hp => ?_, fun w hw => ?_⟩, ?_⟩
  · rw [Correlator.parked_deliver hs site now hk] at hp
    split_ifs at hp with hnew
    · obtain ⟨rfl, -⟩ := Prod.mk.inj (Option.some.inj hp)
      exact ⟨hk.trans hkind.symm, hnew.1.symm, hlast⟩
    · obtain ⟨hkept, habout, hmem⟩ := h.held k n' since hp
      exact ⟨hkept.trans hkind.symm, habout, List.mem_append_left _ hmem⟩
  · rw [hkind]
    exact h.waits w (Correlator.mem_waits_of_deliver hs site n now hw)
  · rw [(Correlator.answers_deliver hs site now hk).2.1]
    intro a ha
    obtain ⟨t, ht, rfl⟩ := List.mem_map.1 ha
    obtain ⟨w, hw, rfl⟩ := List.mem_map.1 ht
    obtain ⟨hw, habout⟩ := List.mem_filter.1 hw
    exact ⟨_, h.waits w hw, rfl, rfl, hk, (of_decide_eq_true habout).symm, hlast⟩

end Serves

def Move.brings (m : Move) (now : Instant) : Option Notification :=
  match m with
  | notify _ draft => some (draft.appear now)
  | _ => none

def Move.asks (m : Move) (next : Ticket) : Option Request :=
  match m with
  | await kind id timeout => some ⟨next, kind, id, timeout⟩
  | _ => none

def Move.kind? : Move → Option Kind
  | notify _ draft => some draft.kind
  | listen kind _ | await kind _ _ | timeOut kind _ | sweep kind | tick kind | close kind => some kind
  | _ => none

def Note.handed? : Note → Option (String × Notification)
  | seen e => e.handed?
  | _ => none

namespace Course

variable {c : Course} {notes : List Note} {asked : List Request} {brought : List Notification}

def notifications (c : Course) : List Move → List Notification
  | [] => []
  | m :: rest => (m.brings c.storage).toList ++ (c.step m).1.notifications rest

def requests (c : Course) : List Move → List Request
  | [] => []
  | m :: rest => (m.asks c.next).toList ++ (c.step m).1.requests rest

theorem after_snoc (c : Course) (moves : List Move) (m : Move) :
    c.after (moves ++ [m]) = ((c.after moves).step m).1 := after_append c moves [m]

theorem notifications_snoc (c : Course) (moves : List Move) (m : Move) :
    c.notifications (moves ++ [m]) =
      c.notifications moves ++ (m.brings (c.after moves).storage).toList := by
  induction moves generalizing c with
  | nil => exact List.append_nil _
  | cons u rest ih =>
    rw [List.cons_append, notifications, notifications, ih, List.append_assoc]
    rfl

theorem requests_snoc (c : Course) (moves : List Move) (m : Move) :
    c.requests (moves ++ [m]) = c.requests moves ++ (m.asks (c.after moves).next).toList := by
  induction moves generalizing c with
  | nil => exact List.append_nil _
  | cons u rest ih =>
    rw [List.cons_append, requests, requests, ih, List.append_assoc]
    rfl

/-! What a move means to the correlators. -/

theorem unanswered_along (c : Course) (m : Outbound.Move) :
    (c.along m).2.filterMap Note.answer? = [] := by
  have hquiet : ∀ more : List Outbound.Note,
      (more.map Note.outbound).filterMap Note.answer? = [] := by
    intro more
    induction more with
    | nil => rfl
    | cons note rest ih => exact ih
  exact hquiet _

/-- Both correlators serve the calls that were made, with what has come in. -/
structure Matched (c : Course) (asked : List Request) (brought : List Notification) : Prop where
  serves : ∀ kind, Serves asked brought (c.gateway.correlator kind)
  distinct : (asked.map Request.ticket).Nodup
  early : ∀ q ∈ asked, q.ticket < c.next

theorem Matched.start (s : Settings) (wire : Nat) (wireId : String) (waiting : Span)
    (storage : Instant) (next : Ticket) : Matched (start s wire wireId waiting storage next) [] [] where
  serves kind := by cases kind <;> exact Serves.start _ s.ttl s.sweepPeriod storage
  distinct := List.nodup_nil
  early := nofun

section

variable {m : Move} {asked' : List Request} {brought' : List Notification}

def Served (asked' : List Request) (brought' : List Notification) (m : Move)
    (step : Course × List Note) : Prop :=
  (∀ kind, Serves asked' brought' (step.1.gateway.correlator kind)) ∧
    ∀ a ∈ step.2.filterMap Note.answer?,
      ∃ kind, (∀ k ∈ m.kind?, k = kind) ∧ Ends asked' brought' kind a

theorem served_idle {step : Course × List Note}
    (h : ∀ kind, Serves asked' brought' (c.gateway.correlator kind))
    (hsame : step.1.gateway.correlator = c.gateway.correlator)
    (hquiet : step.2.filterMap Note.answer? = []) : Served asked' brought' m step := by
  refine ⟨fun kind => hsame ▸ h kind, ?_⟩
  rw [hquiet]
  exact nofun

theorem served_correlate (h : ∀ kind, Serves asked' brought' (c.gateway.correlator kind))
    {kind : Kind} (hm : m.kind? = some kind) {r : Correlator} (effects : List Effect)
    (hr : Serves asked' brought' r ∧
      ∀ a ∈ effects.filterMap Effect.answer?, Ends asked' brought' kind a) {c' : Course}
    (hc : c'.gateway = c.gateway.setCorrelator kind r) :
    Served asked' brought' m (c', effects.map .seen) := by
  refine ⟨fun k => ?_, fun a ha => ⟨kind, fun k hk => Option.some.inj (hk.symm.trans hm), ?_⟩⟩
  · simp only [hc, correlator_setCorrelator]
    split_ifs
    · exact hr.1
    · exact h k
  · rw [answers_seen] at ha
    exact hr.2 a ha

end

theorem served_step (h : Sound c notes)
    (hs : ∀ kind, Serves asked brought (c.gateway.correlator kind)) (m : Move) :
    Served (asked ++ (m.asks c.next).toList) (brought ++ (m.brings c.storage).toList) m (c.step m) := by
  have hmono : ∀ kind, Serves (asked ++ (m.asks c.next).toList)
      (brought ++ (m.brings c.storage).toList) (c.gateway.correlator kind) := fun kind =>
    (hs kind).mono (List.subset_append_left _ _) (List.subset_append_left _ _)
  cases m with
  | enqueue m r => exact served_idle hmono rfl (unanswered_along c _)
  | work => exact served_idle hmono rfl (unanswered_along c _)
  | finish o => exact served_idle hmono rfl (unanswered_along c _)
  | expire => exact served_idle hmono rfl (unanswered_along c _)
  | notify site draft =>
    have hkind := (h.kinds draft.kind).symm
    have hkept : ∀ k, Serves (asked ++ []) brought (c.gateway.correlator k) := fun k =>
      (hs k).mono (List.subset_append_left _ _) (List.Subset.refl _)
    have hr := (hkept draft.kind).deliver (h.seated draft.kind) site c.storage
      (n := draft.appear c.storage) hkind
    rw [← hkind] at hr
    exact served_correlate hmono rfl _ hr rfl
  | handle direction handler =>
    simp only [step]
    split <;> exact served_idle hmono rfl rfl
  | listen kind listener =>
    simp only [step]
    split
    · exact served_idle hmono rfl rfl
    next r hl =>
      exact served_correlate hmono rfl [] ⟨(hmono kind).listen hl, List.forall_mem_nil _⟩ rfl
  | await kind id timeout =>
    have hkept : ∀ k, Serves asked (brought ++ []) (c.gateway.correlator k) := fun k =>
      (hs k).mono (List.Subset.refl _) (List.subset_append_left _ _)
    have hr := (hkept kind).await c.next id timeout c.waiting
    rw [h.kinds kind] at hr
    exact served_correlate hmono rfl _ hr rfl
  | timeOut kind w =>
    simp only [step]
    split_ifs with hdue
    · have hr := (hmono kind).timeOut (Desk.mem_due.1 hdue).1
      rw [h.kinds kind] at hr
      exact served_correlate hmono rfl _ hr rfl
    · exact served_idle hmono rfl rfl
  | sweep kind =>
    exact served_correlate hmono rfl [] ⟨(hmono kind).sweep c.storage, List.forall_mem_nil _⟩ rfl
  | tick kind =>
    have hquiet := Correlator.filterMap_tick (f := Effect.answer?) (fun _ => rfl)
      (c.gateway.correlator kind) c.storage
    exact served_correlate hmono rfl _
      ⟨(hmono kind).tick c.storage, fun a ha => absurd (hquiet ▸ ha) List.not_mem_nil⟩ rfl
  | shutdown =>
    simp only [step, Gateway.shutdown]
    split_ifs <;> exact served_idle hmono rfl rfl
  | attend =>
    simp only [step]
    split
    · exact served_idle hmono rfl (unanswered_along c .attend)
    · refine served_idle hmono rfl ?_
      rw [List.filterMap_append, unanswered_along]
      rfl
  | released answer =>
    simp only [step]
    split <;> exact served_idle hmono rfl rfl
  | close kind =>
    simp only [step]
    split
    · split_ifs
      · have hr := (hmono kind).shutdown
        rw [h.kinds kind] at hr
        exact served_correlate hmono rfl _ hr rfl
      · exact served_idle hmono rfl rfl
    · exact served_idle hmono rfl rfl
  | reply =>
    simp only [step]
    split <;> exact served_idle hmono rfl rfl
  | cancel t =>
    have hcancel : ∀ kind, Serves (asked ++ []) (brought ++ []) ((c.gateway.cancel t).correlator kind) := by
      intro kind
      cases kind
      · exact (hmono .submission).cancel t
      · exact (hmono .relay).cancel t
    simp only [step]
    split_ifs
    · refine ⟨fun kind => ?_, List.forall_mem_nil _⟩
      obtain ⟨e, -, -, -, hf⟩ | ⟨-, hf⟩ :=
        forsake_cases { c with gateway := c.gateway.cancel t } t <;> rw [hf]
      · exact (hcancel kind).forsake e.stage
      · exact hcancel kind
    · exact served_idle hmono rfl rfl
  | elsewhere => exact served_idle hmono rfl rfl
  | pass span => exact served_idle hmono rfl rfl
  | age span => exact served_idle hmono rfl rfl

theorem Matched.step (h : Sound c notes) (hm : Matched c asked brought) (m : Move) :
    Matched (c.step m).1 (asked ++ (m.asks c.next).toList)
      (brought ++ (m.brings c.storage).toList) := by
  refine ⟨(served_step h hm.serves m).1, ?_, ?_⟩
  · rw [List.map_append, List.nodup_append]
    refine ⟨hm.distinct, ?_, fun t ht t' ht' => ?_⟩
    · cases m.asks c.next <;> simp
    · obtain ⟨q, hq, rfl⟩ := List.mem_map.1 ht
      obtain ⟨q', hq', rfl⟩ := List.mem_map.1 ht'
      cases m with
      | await kind id timeout =>
        obtain rfl := List.mem_singleton.1 hq'
        exact (hm.early q hq).ne
      | _ => exact absurd hq' List.not_mem_nil
  · intro q hq
    rcases List.mem_append.1 hq with hold | hnew
    · exact (hm.early q hold).trans_le (later_stepped (stepped h m))
    · cases m with
      | await kind id timeout =>
        obtain rfl := List.mem_singleton.1 hnew
        exact c.next.lt_succ_self
      | _ => exact absurd hnew List.not_mem_nil

theorem Matched.run (h : Sound c notes) (hm : Matched c [] []) (moves : List Move) :
    Matched (c.after moves) (c.requests moves) (c.notifications moves) := by
  induction moves using List.reverseRecOn with
  | nil => exact hm
  | append_singleton moves m ih =>
    rw [after_snoc, requests_snoc, notifications_snoc]
    exact ih.step (h.run moves) m

theorem Matched.eq_of_ticket (hm : Matched c asked brought) {q q' : Request} (hq : q ∈ asked)
    (hq' : q' ∈ asked) (ht : q.ticket = q'.ticket) : q = q' :=
  List.inj_on_of_nodup_map hm.distinct hq hq' ht

theorem handed_await (r : Correlator) (t : Ticket) (id : String) (timeout now : Span) :
    (r.await t id timeout now).2.filterMap Effect.handed? = [] := by
  simp only [Correlator.await]
  split
  · exact (Correlator.answers_claims _ _).2
  · rfl

theorem handed_shutdown (r : Correlator) : r.shutdown.2.filterMap Effect.handed? = [] := by
  rw [Correlator.shutdown, List.filterMap_map]
  exact List.filterMap_eq_nil_iff.2 fun _ _ => rfl

/-- The other correlator is left alone, and a listener is handed only what is of the kind. -/
def Apart (c : Course) (kind : Kind) (step : Course × List Note) : Prop :=
  (∀ other, other ≠ kind → step.1.gateway.correlator other = c.gateway.correlator other) ∧
    ∀ p ∈ step.2.filterMap Note.handed?, p.2.kind = kind

theorem apart_idle (c : Course) (kind : Kind) : Apart c kind (c, []) := ⟨fun _ _ => rfl, nofun⟩

theorem apart_correlate {c' : Course} {kind : Kind} {r : Correlator} (effects : List Effect)
    (hh : ∀ p ∈ effects.filterMap Effect.handed?, p.2.kind = kind)
    (hc : c'.gateway = c.gateway.setCorrelator kind r) : Apart c kind (c', effects.map .seen) := by
  have hseen : (effects.map Note.seen).filterMap Note.handed? = effects.filterMap Effect.handed? := by
    rw [List.filterMap_map]
    rfl
  refine ⟨fun other ho => ?_, fun p hp => hh p (hseen ▸ hp)⟩
  simp only [hc, correlator_setCorrelator, if_neg ho]

theorem apart_step (h : Sound c notes) {m : Move} {kind : Kind} (hk : m.kind? = some kind) :
    Apart c kind (c.step m) := by
  cases m with
  | notify site draft =>
    obtain rfl := Option.some.inj hk
    have hhanded := Correlator.handed_deliver (h.seated draft.kind) site (draft.appear c.storage)
      c.storage
    refine apart_correlate _ (fun p hp => ?_) rfl
    have hmem := hhanded ▸ hp
    split_ifs at hmem
    · obtain ⟨listener, -, rfl⟩ := Option.map_eq_some_iff.1 (Option.mem_toList.1 hmem)
      rfl
    · exact absurd hmem List.not_mem_nil
  | listen kind' listener =>
    obtain rfl := Option.some.inj hk
    simp only [step]
    split
    · exact apart_idle c kind'
    · exact apart_correlate [] (List.forall_mem_nil _) rfl
  | await kind' id timeout =>
    obtain rfl := Option.some.inj hk
    have hquiet := handed_await (c.gateway.correlator kind') c.next id timeout c.waiting
    exact apart_correlate _ (fun p hp => absurd (hquiet ▸ hp) List.not_mem_nil) rfl
  | timeOut kind' w =>
    obtain rfl := Option.some.inj hk
    simp only [step]
    split_ifs
    · exact apart_correlate _ (List.forall_mem_nil _) rfl
    · exact apart_idle c kind'
  | sweep kind' =>
    obtain rfl := Option.some.inj hk
    exact apart_correlate [] (List.forall_mem_nil _) rfl
  | tick kind' =>
    obtain rfl := Option.some.inj hk
    have hquiet := Correlator.filterMap_tick (f := Effect.handed?) (fun _ => rfl)
      (c.gateway.correlator kind') c.storage
    exact apart_correlate _ (fun p hp => absurd (hquiet ▸ hp) List.not_mem_nil) rfl
  | close kind' =>
    obtain rfl := Option.some.inj hk
    have hquiet : (c.gateway.close kind').2.filterMap Effect.handed? = [] :=
      handed_shutdown (c.gateway.correlator kind')
    simp only [step]
    split
    · split_ifs
      · exact apart_correlate _ (fun p hp => absurd (hquiet ▸ hp) List.not_mem_nil) rfl
      · exact apart_idle c kind'
    · exact apart_idle c kind'
  | _ => exact absurd hk (by simp [Move.kind?])

/-- Acknowledgements are never crossed. In every state of a run each correlator holds only notifications
of its kind that have come in, each under the id of the message that it answers, and whoever waits there
has called for that kind. Whatever the next move is, a call that ends with a notification ends with one of
its kind that answers its message and has come in by then; one that fails gives its own id and timeout, or
has been turned away. No notification is refused. And a move for one kind changes nothing for the other
one: neither what is held, nor who waits, nor what the listener hears. -/
theorem acknowledgements_matched (s : Settings) (wire : Nat) (wireId : String) (waiting : Span)
    (storage : Instant) (next : Ticket) (moves : List Move) :
    let c := start s wire wireId waiting storage next
    let d := c.after moves
    (∀ kind k n since, (d.gateway.correlator kind).desk.parked k = some (n, since) →
        n.kind = kind ∧ n.about = k ∧ n ∈ c.notifications moves) ∧
      (∀ kind, ∀ w ∈ (d.gateway.correlator kind).desk.waits,
        ⟨w.ticket, kind, w.key, w.timeout⟩ ∈ c.requests moves) ∧
      ((c.requests moves).map Request.ticket).Nodup ∧
      (∀ m, ∀ a ∈ (d.step m).2.filterMap Note.answer?, ∃ q ∈ c.requests (moves ++ [m]),
        q.ticket = a.1 ∧ q.Permits (c.notifications (moves ++ [m])) a.2) ∧
      (∀ site n now, (d.gateway.notify site n now).2.result = .ok ()) ∧
      ∀ m kind other, m.kind? = some kind → other ≠ kind →
        (d.step m).1.gateway.correlator other = d.gateway.correlator other ∧
          (∀ p ∈ (d.step m).2.filterMap Note.handed?, p.2.kind ≠ other) ∧
          ∀ w ∈ (d.gateway.correlator other).desk.waits,
            ∀ a ∈ (d.step m).2.filterMap Note.answer?, a.1 ≠ w.ticket := by
  intro c d
  have hstart := Sound.start s wire wireId waiting storage next
  have h : Sound d (c.notes moves) := hstart.run moves
  have hm : Matched d (c.requests moves) (c.notifications moves) :=
    Matched.run hstart (Matched.start s wire wireId waiting storage next) moves
  refine ⟨fun kind k n since hk => ?_, fun kind w hw => ?_, hm.distinct, fun m a ha => ?_,
    fun site n now => ?_, fun m kind other hk ho => ⟨(apart_step h hk).1 other ho, ?_, ?_⟩⟩
  · have hheld := (hm.serves kind).held k n since hk
    rwa [h.kinds kind] at hheld
  · have hwaits := (hm.serves kind).waits w hw
    rwa [h.kinds kind] at hwaits
  · rw [requests_snoc, notifications_snoc]
    obtain ⟨kind, -, q, hq, ht, -, hends⟩ := (served_step h hm.serves m).2 a ha
    exact ⟨q, hq, ht, hends⟩
  · exact (Correlator.answers_deliver (h.seated n.kind) site now (h.kinds n.kind).symm).1
  · intro p hp he
    exact ho (he.symm.trans ((apart_step h hk).2 p hp))
  · intro w hw a ha ht
    obtain ⟨kind', hkind, q, hq, hqt, hqk, -⟩ := (served_step h hm.serves m).2 a ha
    have hwaits := (hm.serves other).waits w hw
    rw [h.kinds other] at hwaits
    have hsame := (hm.step h m).eq_of_ticket hq (List.mem_append_left _ hwaits) (hqt.trans ht)
    rw [hsame] at hqk
    exact ho (hqk.trans (hkind kind hk).symm)

end Course

end MessageExchange.Gateway

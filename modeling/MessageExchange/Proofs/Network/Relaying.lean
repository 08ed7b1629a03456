import MessageExchange.Proofs.Gateway.Later
import MessageExchange.Proofs.Network.Exclusive

/-! What becomes of messages on the way over a loopback wire. While a gateway has something to send, its
wire is its own; so both receipts for a message are handed to the gateway that sends it, one after the
other, before the send ends, and no send fails. The wire is let go of only after the last one. -/

namespace MessageExchange

open Correlation (Ticket)
open Outbound (Item Outcome)

namespace Outbound.Course

variable {c c' : Course} {m : Move} {more : List Note}

theorem unfinished_stepped (hs : Stepped c m c' more) (hm : ∀ o, m ≠ .finish o) :
    more.filterMap Note.finished? = [] := by
  cases hs with
  | finish hsending o => exact absurd rfl (hm o)
  | _ => rfl

/-- A message that is accepted has a head, which names it. -/
theorem headed_step (h : c.pipeline.Orderly) (m : Move) :
    ∀ a ∈ (c.step m).2.filterMap Note.accepted?, ∃ p, a.1.head = .ok p ∧ a.1.id = p.id := by
  have hs := stepped h m
  generalize hstep : c.step m = r at hs
  obtain ⟨c', more⟩ := r
  cases hs with
  | @accept m r hopen =>
    intro a ha
    obtain rfl := List.mem_singleton.1 ha
    obtain ⟨payloads⟩ := m
    cases payloads with
    | nil => cases congrArg Prod.snd hstep
    | cons p rest => exact ⟨p, rfl, rfl⟩
  | _ => exact fun a ha => absurd ha List.not_mem_nil

end Outbound.Course

theorem Outbound.Pipeline.current_cases (p : Outbound.Pipeline) :
    p.current = [] ∨ ∃ item, p.current = [item] ∧ p.worker = .sending item := by
  unfold current
  cases p.worker with
  | sending item => exact .inr ⟨item, rfl, rfl⟩
  | _ => exact .inl rfl

namespace Gateway.Course

variable {c c' : Course} {m : Move} {notes more : List Note} {calls : List Ticket} {t : Ticket}

theorem unfinished_step (h : Sound c notes) (hm : ∀ o, m ≠ .finish o) :
    (sends (c.step m).2).filterMap Outbound.Note.finished? = [] := by
  rw [(outward_step c m).2]
  refine Outbound.Course.unfinished_stepped
    (Outbound.Course.stepped (c := c.outbound) h.orderly (c.outward m)) fun o ho => ?_
  cases m with
  | finish o' => exact hm o' rfl
  | shutdown =>
    simp only [outward] at ho
    split_ifs at ho
  | _ => cases ho

theorem released_stepped (hs : Stepped c m c' more) :
    ∀ answer ∈ more.filterMap Note.released?, m = .released answer := by
  intro answer hanswer
  cases hs with
  | along hsteady =>
    rw [(unasked_outbound _).2] at hanswer
    cases hanswer
  | correlate kind hlater htended hquiet =>
    rw [(unasked_seen _).2] at hanswer
    cases hanswer
  | released hending answer' => rw [List.mem_singleton.1 hanswer]
  | close hending =>
    rw [(unasked_seen _).2] at hanswer
    cases hanswer
  | _ => cases hanswer

/-- What the first shutdown call returns: the counters, which stay as they are, or what the wire said. -/
def Returned (c : Course) (notes : List Note) (calls : List Ticket) : Prop :=
  match calls.head? with
  | none => notes.filterMap Note.stopped? = []
  | some t => ∀ r, (t, r) ∈ notes.filterMap Note.stopped? →
      ∃ answer ∈ notes.filterMap Note.released?, r = answer.map fun _ => c.gateway.pipeline.stats

theorem Returned.step (ht : Tracked c notes calls) (h : Returned c notes calls) (m : Move) :
    Returned (c.step m).1 (notes ++ (c.step m).2) (calls ++ m.calls c.next) := by
  obtain ⟨-, hfirst⟩ := ht
  cases calls with
  | nil =>
    have hrunning : Running c notes := hfirst
    have hnone : notes.filterMap Note.stopped? = [] := h
    by_cases hm : m = .shutdown
    · subst hm
      intro r hr
      rw [begin_eq hrunning.running, List.append_nil, hnone] at hr
      cases hr
    · have hquiet := hrunning.unstopped m
      have hcalls : m.calls c.next = [] := by cases m <;> first | rfl | exact absurd rfl hm
      rw [hcalls]
      simp only [Returned, List.append_nil, List.head?_nil, List.filterMap_append, hnone, hquiet]
  | cons t rest =>
    have hbegun : Begun c notes t := hfirst
    have hreturned : ∀ r, (t, r) ∈ notes.filterMap Note.stopped? →
      ∃ answer ∈ notes.filterMap Note.released?, r = answer.map fun _ => c.gateway.pipeline.stats := h
    intro r hr
    rw [List.filterMap_append, List.mem_append] at hr
    simp only [List.filterMap_append, List.mem_append]
    rcases hr with hr | hr
    · obtain ⟨answer, hanswer, rfl⟩ := hreturned r hr
      obtain ⟨hcalls, hrested, -⟩ := hbegun.at_rest (List.ne_nil_of_mem hanswer)
      rw [(hrested.step hbegun.sound hcalls m).2]
      exact ⟨answer, .inl hanswer, rfl⟩
    · obtain ⟨hsame, ⟨-, hnext, -⟩ | ⟨stats, answer, hending, rfl⟩⟩ :=
        stopped_cases (stepped hbegun.sound m) hr
      · exact absurd hnext hbegun.early.ne
      · obtain ⟨-, hown, -, hreleased⟩ := hbegun.ready hending
        obtain rfl : stats = c.gateway.pipeline.stats := congrArg Ending.stats hown
        rw [hsame, hreleased]
        exact ⟨answer, .inl (List.mem_singleton_self _), rfl⟩

end Gateway.Course

namespace Network.Traffic

open Gateway (sends)

variable {t t' : Traffic} {m : Move} {notes more : List Note} {i : Nat}

/-- What becomes of the messages of a gateway on the way over its wire. -/
inductive Deed
  | began (item : Item)
  /-- A notification that the wire pushes is handed to a gateway. -/
  | notified (target : Option Nat) (kind : Kind) (about : String) (verdict : Verdict)
  /-- So is a document. -/
  | delivered (target : Option Nat)
  | ended (item : Item) (outcome : Outcome)
  deriving DecidableEq

namespace Deed

def ofPush (target : Option Nat) : Push → Deed
  | .notification draft => notified target draft.kind draft.about draft.verdict
  | .delivery _ => delivered target

def ofSend? : Outbound.Note → Option Deed
  | .invoked item => some (began item)
  | .finished item outcome => some (ended item outcome)
  | _ => none

def of? (i : Nat) : Note → Option Deed
  | .of j (.outbound note) => if j = i then ofSend? note else none
  | .handed j target push => if j = i then some (ofPush target push) else none
  | _ => none

def acknowledges (i : Nat) (kind : Kind) : Deed → Bool
  | notified target kind' _ verdict => target == some i && kind' == kind && verdict == .receipt
  | _ => false

end Deed

def deeds (i : Nat) (notes : List Note) : List Deed := notes.filterMap (Deed.of? i)

/-- All that is done with one message: it is acknowledged twice before the send ends. -/
def errand (i : Nat) (item : Item) : List Deed :=
  [.began item, .notified (some i) .submission item.message.id .receipt,
    .notified (some i) .relay item.message.id .receipt, .ended item .accepted]

@[simp] theorem deeds_append (i : Nat) (notes more : List Note) :
    deeds i (notes ++ more) = deeds i notes ++ deeds i more := List.filterMap_append

theorem deeds_of_unhanded (h : ∀ target push, .handed i target push ∉ more) :
    deeds i more = (sends (notesOf i more)).filterMap Deed.ofSend? := by
  induction more with
  | nil => rfl
  | cons note rest ih =>
    have hrest := ih fun target push hmem => h target push (List.mem_cons_of_mem note hmem)
    have hcons : deeds i (note :: rest) = deeds i [note] ++ deeds i rest := deeds_append i [note] rest
    have hnotes : notesOf i (note :: rest) = notesOf i [note] ++ notesOf i rest :=
      notesOf_append i [note] rest
    rw [hcons, hnotes, hrest, Gateway.sends_append, List.filterMap_append]
    congr 1
    cases note with
    | of j gnote =>
      cases gnote <;> by_cases hj : j = i <;> simp [deeds, notesOf, Deed.of?, Note.of?, sends, hj,
        Gateway.Note.outbound?, List.filterMap_cons]
    | handed j target push =>
      have hj : j ≠ i := fun he => h target push (he ▸ List.mem_cons_self)
      simp [deeds, notesOf, Deed.of?, Note.of?, sends, hj]
    | _ => rfl

theorem ofSend_of_unfinished {os : List Outbound.Note}
    (h : os.filterMap Outbound.Note.finished? = []) :
    os.filterMap Deed.ofSend? = (os.filterMap Outbound.Note.invoked?).map .began := by
  induction os with
  | nil => rfl
  | cons note rest ih =>
    cases note with
    | finished item outcome => cases h
    | invoked item => exact congrArg (Deed.began item :: ·) (ih h)
    | _ => exact ih h

/-- What is left to do with the message that is being sent, if its wire has taken it. -/
def ahead (i : Nat) (items : List Item) (passing : Option Passage) : List Deed :=
  items.flatMap fun item =>
    match passing with
    | none => (errand i item).tail
    | some p => p.pushes.map (Deed.ofPush p.target) ++ [.ended item p.outcome]

/-- What was done with the messages of a gateway is all there is to do with those that were taken up, but
for what is left to do with the one that is being sent. -/
structure Relayed (i : Nat) (passing : Option Passage) (p : Outbound.Pipeline) (notes : List Note) :
    Prop where
  whole : deeds i notes ++ ahead i p.current passing =
    ((sends (notesOf i notes)).filterMap Outbound.Note.invoked?).flatMap (errand i)
  underway : ∀ passage, passing = some passage → ∃ item, p.worker = .sending item ∧
    passage.pushes.map (Deed.ofPush passage.target) ++ [.ended item passage.outcome] <:+
      (errand i item).tail

namespace Relayed

variable {passing : Option Passage} {p p' : Outbound.Pipeline}

theorem start (wire : String) (h : deeds i notes = []) (hn : notesOf i notes = []) :
    Relayed i none (Outbound.Pipeline.start wire) notes := by
  refine ⟨?_, nofun⟩
  rw [h, hn]
  rfl

/-- The gateway moves, but no send ends, and the wire pushes nothing for it. -/
theorem quiet (h : Relayed i passing p notes)
    (hb : Outbound.Course.Balanced p (sends (notesOf i notes)))
    (hb' : Outbound.Course.Balanced p' (sends (notesOf i (notes ++ more))))
    (hunhanded : ∀ target push, .handed i target push ∉ more)
    (hunfinished : (sends (notesOf i more)).filterMap Outbound.Note.finished? = []) :
    Relayed i passing p' (notes ++ more) := by
  have hcurrent : p'.current =
      p.current ++ (sends (notesOf i more)).filterMap Outbound.Note.invoked? := by
    have hends := hb'.ends
    rw [notesOf_append, Gateway.sends_append, List.filterMap_append, List.filterMap_append, hunfinished,
      List.append_nil, ← hb.ends, List.append_assoc] at hends
    exact List.append_cancel_left hends
  have hdeeds := deeds_of_unhanded hunhanded
  rw [ofSend_of_unfinished hunfinished] at hdeeds
  have hwhole := h.whole
  rcases p.current_cases with hidle | ⟨item, hone, hsending⟩
  · -- nothing was being sent, so the wire had taken nothing
    have hnone : passing = none := by
      cases hp : passing with
      | none => rfl
      | some passage =>
        obtain ⟨item, hsending, -⟩ := h.underway passage hp
        simp [Outbound.Pipeline.current, hsending] at hidle
    subst hnone
    refine ⟨?_, fun passage hp => absurd hp.symm (Option.some_ne_none passage)⟩
    rw [hidle, List.nil_append] at hcurrent
    rw [hidle, ahead, List.flatMap_nil, List.append_nil] at hwhole
    rw [deeds_append, hdeeds, hwhole, notesOf_append, Gateway.sends_append, List.filterMap_append,
      List.flatMap_append, List.append_assoc, ← hcurrent]
    congr 1
    rcases p'.current_cases with hnil | ⟨item, hone, -⟩
    · rw [hnil]
      rfl
    · rw [hone]
      rfl
  · -- the same message is still being sent
    have hnone : (sends (notesOf i more)).filterMap Outbound.Note.invoked? = [] := by
      rcases p'.current_cases with hnil | ⟨item', hone', -⟩
      · rw [hnil, hone] at hcurrent
        cases hcurrent
      · rw [hone', hone] at hcurrent
        exact (List.cons.inj hcurrent).2.symm
    rw [hnone, List.append_nil] at hcurrent
    rw [hnone] at hdeeds
    refine ⟨?_, fun passage hp => ?_⟩
    · rw [deeds_append, hdeeds, List.map_nil, List.append_nil, hcurrent, hwhole, notesOf_append,
        Gateway.sends_append, List.filterMap_append, hnone, List.append_nil]
    · obtain ⟨item', hsending', hleft⟩ := h.underway passage hp
      exact ⟨item', Outbound.Pipeline.sending_of_current
        (by rw [hcurrent, Outbound.Pipeline.current, hsending']; rfl), hleft⟩

theorem attempt (h : Relayed i none p notes) {item : Item} (hsending : p.worker = .sending item)
    (seed : Nat) :
    Relayed i (some ⟨some i, [Wire.receipt .submission item.message.id seed,
      Wire.receipt .relay item.message.id (seed + 1)], .accepted⟩) p notes := by
  have hcurrent : p.current = [item] := by rw [Outbound.Pipeline.current, hsending]
  refine ⟨?_, fun passage hp => ⟨item, hsending, ?_⟩⟩
  · rw [← h.whole, hcurrent]
    rfl
  · obtain rfl := Option.some.inj hp
    exact List.suffix_rfl

theorem push {passage : Passage} {next : Push} {rest : List Push}
    (h : Relayed i (some passage) p notes) (hpushes : passage.pushes = next :: rest) :
    Relayed i (some { passage with pushes := rest }) p
      (notes ++ [.handed i passage.target next]) := by
  obtain ⟨item, hsending, hleft⟩ := h.underway passage rfl
  have hcurrent : p.current = [item] := by rw [Outbound.Pipeline.current, hsending]
  rw [hpushes] at hleft
  have hwhole := h.whole
  rw [hcurrent] at hwhole
  refine ⟨?_, fun passage' hp => ⟨item, hsending, ?_⟩⟩
  · have hdeed : deeds i [.handed i passage.target next] = [.ofPush passage.target next] := by
      simp [deeds, Deed.of?]
    rw [hcurrent, deeds_append, hdeed, notesOf_append]
    simp only [ahead, List.flatMap_singleton, hpushes, List.map_cons, List.cons_append] at hwhole ⊢
    rw [List.append_assoc, List.singleton_append, hwhole]
    exact congrArg (fun ns => ((sends ns).filterMap Outbound.Note.invoked?).flatMap (errand i))
      (List.append_nil _).symm
  · obtain rfl := Option.some.inj hp
    exact (List.suffix_cons _ _).trans hleft

theorem passage_left {passage : Passage} (h : Relayed i (some passage) p notes) :
    passage.outcome = .accepted ∧ ∀ push ∈ passage.pushes, passage.target = some i ∧
      ∃ draft, push = .notification draft ∧ draft.verdict = .receipt := by
  obtain ⟨item, -, hleft⟩ := h.underway passage rfl
  have hmem := hleft.subset
  refine ⟨?_, fun push hpush => ?_⟩
  · have hended := hmem (List.mem_append_right _ (List.mem_singleton_self _))
    simpa [errand] using hended
  · have hdeed := hmem (List.mem_append_left _ (List.mem_map_of_mem hpush))
    cases push with
    | notification draft =>
      simp only [errand, Deed.ofPush, List.tail_cons, List.mem_cons, Deed.notified.injEq,
        List.not_mem_nil, or_false, reduceCtorEq] at hdeed
      rcases hdeed with ⟨htarget, -, -, hverdict⟩ | ⟨htarget, -, -, hverdict⟩
      · exact ⟨htarget, draft, rfl, hverdict⟩
      · exact ⟨htarget, draft, rfl, hverdict⟩
    | delivery d => simp [errand, Deed.ofPush] at hdeed

theorem finish {passage : Passage} (h : Relayed i (some passage) p notes)
    (hdone : passage.pushes = []) {item : Item} (hsending : p.worker = .sending item) :
    Relayed i none (p.account item passage.outcome).1
      (notes ++ [.of i (.outbound (.finished item passage.outcome))]) := by
  have hcurrent : p.current = [item] := by rw [Outbound.Pipeline.current, hsending]
  have hidle : (p.account item passage.outcome).1.current = [] := by cases passage.outcome <;> rfl
  have hwhole := h.whole
  rw [hcurrent] at hwhole
  refine ⟨?_, fun passage hp => absurd hp.symm (Option.some_ne_none passage)⟩
  have hdeed : deeds i [.of i (.outbound (.finished item passage.outcome))] =
      [.ended item passage.outcome] := by
    simp [deeds, Deed.of?, Deed.ofSend?]
  have hnote : notesOf i [.of i (.outbound (.finished item passage.outcome))] =
      [.outbound (.finished item passage.outcome)] := by
    simp [notesOf, Note.of?]
  simp only [ahead, List.flatMap_singleton, hdone, List.map_nil, List.nil_append] at hwhole
  rw [hidle, ahead, List.flatMap_nil, List.append_nil, deeds_append, hdeed, hwhole, notesOf_append, hnote,
    Gateway.sends_append, List.filterMap_append]
  exact congrArg (List.flatMap (errand i)) (List.append_nil _).symm

end Relayed

def Looped (net : Network) (w : Nat) : Prop := ∃ wire, net.wires[w]? = some wire ∧ wire.nature = .loopback

theorem Reattached.looped {net net' : Network} (h : Reattached net.wires net'.wires) (w : Nat) :
    Looped net' w ↔ Looped net w := by
  constructor
  · rintro ⟨wire', hw', hnature⟩
    obtain ⟨wire, hw, halike⟩ := h.2 w wire' hw'
    exact ⟨wire, hw, halike.loopback.1 hnature⟩
  · rintro ⟨wire, hw, hnature⟩
    obtain ⟨wire', hw', halike⟩ := h.still hw
    exact ⟨wire', hw', halike.loopback.2 hnature⟩

/-- Until the worker of a gateway stops, its wire is its own. -/
theorem Governed.owner_of_working (h : Governed t notes) {g : Gateway} (hi : t.net.gateways[i]? = some g)
    (hworks : g.pipeline.worker ≠ .stopped) {wire : Wire} (hw : t.net.wires[g.wire]? = some wire) :
    wire.attached = some i := by
  refine (h.owned.attached g.wire wire i hw).2 ⟨g, hi, rfl, (h.owned.freedOf_eq_nil_iff i).2 ?_⟩
  by_contra hasked
  exact hworks ((h.tracked i g hi).1.rest hasked)

theorem hand_passing {site : Site} {target : Option Nat} {push : Push}
    (h : t.hand site target push = (t', more)) :
    t'.passing = t.passing ∧ ∀ j target push, .handed j target push ∉ more := by
  rcases hand_cases h with ⟨rfl, j, effects, rfl⟩ | ⟨j, g, draft, c, gnotes, -, -, -, -, rfl, rfl⟩
  · exact ⟨rfl, by simp⟩
  · exact ⟨rfl, by simp⟩

theorem unfinished_advances {c c' : Gateway.Course} {gnotes gmore : List Gateway.Note}
    {calls : List Ticket} (hs : Gateway.Course.Sound c gnotes)
    (ha : Advances (t.Drives m i) c c' gmore calls) (hm : m ≠ .finish i) :
    (sends gmore).filterMap Outbound.Note.finished? = [] := by
  rcases ha with ⟨-, rfl, -⟩ | ⟨gm, hdrives, hstep, -⟩
  · rfl
  · have hnone := Gateway.Course.unfinished_step hs (m := gm) fun o ho => by
      subst ho
      exact hm hdrives.1
    rwa [hstep] at hnone

theorem relayed_moved (h : Governed t notes) (hm : Moved t m t' more) {g g' : Gateway}
    (hi : t.net.gateways[i]? = some g) (hi' : t'.net.gateways[i]? = some g')
    (ha : Advances (t.Drives m i) (t.view i g) (t'.view i g') (notesOf i more) (callsOf i more))
    (hloop : Looped t.net g.wire) (hr : Relayed i (t.passing i) g.pipeline notes) :
    Relayed i (t'.passing i) g'.pipeline (notes ++ more) := by
  have hb := (h.tracked i g hi).sound.balanced
  have hb' := ((h.moved hm).tracked i g' hi').sound.balanced
  have hunfinished := unfinished_advances (h.tracked i g hi).sound ha
  have hquiet : t'.passing i = t.passing i → (∀ target push, .handed i target push ∉ more) →
      (sends (notesOf i more)).filterMap Outbound.Note.finished? = [] →
      Relayed i (t'.passing i) g'.pipeline (notes ++ more) := by
    intro hpassing hunhanded hnone
    rw [hpassing]
    exact hr.quiet hb hb' hunhanded hnone
  cases hm with
  | stay => exact hquiet rfl (by simp) rfl
  | furnish hfurnished => exact hquiet rfl (by simp) rfl
  | refuse hrefused => exact hquiet rfl (by simp) rfl
  | create hcreated hseat => exact hquiet rfl (by simp) rfl
  | own hj hown hstep => exact hquiet rfl (by simp) (hunfinished nofun)
  | @attempt j g₀ item x x' pushes outcome hj hfree hsending hbound htakes =>
    by_cases hij : j = i
    · subst hij
      obtain rfl := Option.some.inj (hi.symm.trans hj)
      obtain rfl := Option.some.inj (hi.symm.trans hi')
      obtain ⟨x₀, hbound₀, hnature⟩ := hloop
      obtain rfl := Option.some.inj (hbound₀.symm.trans hbound)
      simp only [Wire.attempt, hnature] at htakes
      cases htakes
      have howner := h.owner_of_working hi (by simp [hsending]) hbound
      simp only [Function.update_self, List.append_nil, howner]
      rw [hfree] at hr
      exact hr.attempt hsending t.net.seed
    · exact hquiet (Function.update_of_ne (Ne.symm hij) _ _) (by simp) rfl
  | @push j p push rest t' hnotes hp hpushes hhands =>
    obtain ⟨hpassing, hunhanded⟩ := hand_passing hhands
    by_cases hij : j = i
    · subst hij
      rw [hp] at hr
      have hsame : notesOf j (notes ++ [.handed j p.target push]) = notesOf j notes := by
        rw [notesOf_append]
        exact List.append_nil _
      have hall : notes ++ Note.handed j p.target push :: hnotes =
          notes ++ [.handed j p.target push] ++ hnotes := by
        rw [List.append_assoc, List.singleton_append]
      rw [hpassing, hall]
      rw [hall] at hb'
      simp only [Function.update_self]
      exact (hr.push hpushes).quiet (by rwa [hsame]) hb' (hunhanded j) (hunfinished nofun)
    · refine hquiet ?_ (fun target next hmem => ?_) (hunfinished nofun)
      · rw [hpassing]
        exact Function.update_of_ne (Ne.symm hij) _ _
      · rcases List.mem_cons.1 hmem with heq | hmem
        · cases heq
          exact hij rfl
        · exact hunhanded _ _ _ hmem
  | @finish j g₀ p c gnotes hj hp hdone hstep =>
    by_cases hij : j = i
    · subst hij
      obtain rfl := Option.some.inj (hi.symm.trans hj)
      rw [hp] at hr
      obtain ⟨item, hsending, -⟩ := hr.underway p rfl
      rw [Gateway.Course.finish_eq hsending] at hstep
      cases hstep
      rcases getElem?_set_cases hi' with ⟨-, rfl⟩ | ⟨hne, -⟩
      · simp only [Function.update_self]
        exact hr.finish hdone hsending
      · exact absurd rfl hne
    · refine hquiet (Function.update_of_ne (Ne.symm hij) _ _) (by simp) (hunfinished ?_)
      intro heq
      cases heq
      exact hij rfl
  | attend hj hstep hunasked => exact hquiet rfl (by simp) (hunfinished nofun)
  | free hj hbound hstep hasked hready => exact hquiet rfl (by simp) (hunfinished nofun)
  | answer hj hready hstep => exact hquiet rfl (by simp) (hunfinished nofun)
  | receive hbound hattached hhands =>
    obtain ⟨hpassing, hunhanded⟩ := hand_passing hhands
    refine hquiet (by rw [hpassing]) (fun target next hmem => ?_) (hunfinished nofun)
    exact hunhanded _ _ _ (List.mem_of_ne_of_mem (by simp) hmem)
  | turnAway fault => exact hquiet rfl (by simp) rfl
  | rewire hrewired => exact hquiet rfl (by simp) rfl
  | pass span => exact hquiet rfl (by simp) rfl
  | age span => exact hquiet rfl (by simp) rfl

theorem put_releasing {j : Nat} {c : Gateway.Course} {r : Release} (hr : (t.put j c).releasing i = some r) :
    ∃ r₀, t.releasing i = some r₀ ∧ r.answer = r₀.answer := by
  by_cases hij : i = j
  · subst hij
    simp only [put, Function.update_self, Option.bind_eq_some_iff, Option.map_eq_some_iff] at hr
    obtain ⟨ending, -, r₀, hr₀, rfl⟩ := hr
    exact ⟨r₀, hr₀, rfl⟩
  · exact ⟨r, (Function.update_of_ne hij _ _).symm.trans hr, rfl⟩

theorem hand_releasing {site : Site} {target : Option Nat} {push : Push}
    (h : t.hand site target push = (t', more)) {r : Release} (hr : t'.releasing i = some r) :
    ∃ r₀, t.releasing i = some r₀ ∧ r.answer = r₀.answer := by
  rcases hand_cases h with ⟨rfl, -⟩ | ⟨j, g, draft, c, gnotes, -, -, -, -, rfl, -⟩
  · exact ⟨r, hr, rfl⟩
  · exact put_releasing hr

theorem releasing_moved (hm : Moved t m t' more) {r : Release} (hr : t'.releasing i = some r) :
    (∃ r₀, t.releasing i = some r₀ ∧ r.answer = r₀.answer) ∨
      ∃ g wire, t.net.gateways[i]? = some g ∧ t.net.wires[g.wire]? = some wire ∧
        r.answer = wire.shutdown.2 := by
  cases hm with
  | own hj hown hstep => exact .inl (put_releasing hr)
  | push hp hpushes hhands => exact .inl (hand_releasing hhands hr)
  | finish hj hp hdone hstep => exact .inl (put_releasing hr)
  | attend hj hstep hunasked => exact .inl (put_releasing hr)
  | @free j g wire c gnotes ending hj hbound hstep hasked hready =>
    by_cases hij : i = j
    · subst hij
      have hnow := (Function.update_self _ _ _).symm.trans hr
      exact .inr ⟨g, wire, hj, hbound, by rw [← Option.some.inj hnow]⟩
    · exact .inl ⟨r, (Function.update_of_ne hij _ _).symm.trans hr, rfl⟩
  | answer hj hready hstep => exact .inl (put_releasing hr)
  | receive hbound hattached hhands => exact .inl (hand_releasing hhands hr)
  | _ => exact .inl ⟨r, hr, rfl⟩

structure Answered (releasing : Option Release) (notes : List Gateway.Note) : Prop where
  answer : ∀ r, releasing = some r → r.answer = .ok ()
  answered : ∀ answer ∈ notes.filterMap Gateway.Note.released?, answer = .ok ()

theorem answered_moved (h : Governed t notes) (hm : Moved t m t' more) {g g' : Gateway}
    (hi : t.net.gateways[i]? = some g)
    (ha : Advances (t.Drives m i) (t.view i g) (t'.view i g') (notesOf i more) (callsOf i more))
    (hloop : Looped t.net g.wire) (hr : Answered (t.releasing i) (notesOf i notes)) :
    Answered (t'.releasing i) (notesOf i (notes ++ more)) := by
  constructor
  · intro r hready
    rcases releasing_moved hm hready with ⟨r₀, hr₀, hsame⟩ | ⟨g₀, wire, hseat, hbound, hanswer⟩
    · exact hsame.trans (hr.answer r₀ hr₀)
    · obtain rfl := Option.some.inj (hi.symm.trans hseat)
      obtain ⟨wire', hbound', hnature⟩ := hloop
      obtain rfl := Option.some.inj (hbound.symm.trans hbound')
      rw [hanswer]
      simp only [Wire.shutdown, hnature]
  · intro answer hanswer
    rw [notesOf_append, List.filterMap_append, List.mem_append] at hanswer
    rcases hanswer with hanswer | hanswer
    · exact hr.answered answer hanswer
    · rcases ha with ⟨-, hnone, -⟩ | ⟨gm, hdrives, hstep, -⟩
      · rw [hnone] at hanswer
        cases hanswer
      · have hs := Gateway.Course.stepped (h.tracked i g hi).sound gm
        rw [hstep] at hs
        obtain rfl := Gateway.Course.released_stepped hs answer hanswer
        obtain ⟨-, r, hready, rfl⟩ := hdrives
        exact hr.answer r hready

/-- What holds of every gateway, and of those on a loopback wire. -/
structure Acknowledging (t : Traffic) (notes : List Note) : Prop where
  relayed : ∀ i g, t.net.gateways[i]? = some g → Looped t.net g.wire →
    Relayed i (t.passing i) g.pipeline notes ∧ Answered (t.releasing i) (notesOf i notes)
  returned : ∀ i g, t.net.gateways[i]? = some g →
    Gateway.Course.Returned (t.view i g) (notesOf i notes) (callsOf i notes)
  headed : ∀ i g, t.net.gateways[i]? = some g →
    ∀ a ∈ (sends (notesOf i notes)).filterMap Outbound.Note.accepted?,
      ∃ p, a.1.head = .ok p ∧ a.1.id = p.id
  untouched : ∀ i, t.net.gateways.length ≤ i → deeds i notes = []

theorem unhanded_moved (hm : Moved t m t' more) (hpassing : t.passing i = none) :
    ∀ target push, .handed i target push ∉ more := by
  intro target push
  cases hm with
  | @push j p next rest t' hnotes hp hpushes hhands =>
    intro hmem
    rcases List.mem_cons.1 hmem with heq | hmem
    · cases heq
      rw [hpassing] at hp
      cases hp
    · exact (hand_passing hhands).2 i target push hmem
  | receive hbound hattached hhands =>
    exact fun hmem => (hand_passing hhands).2 i target push (List.mem_of_ne_of_mem (by simp) hmem)
  | _ => simp

namespace Acknowledging

theorem start (wires : List Wire) (waiting : Span) (storage : Instant) (next : Ticket) (seed : Nat) :
    Acknowledging (start wires waiting storage next seed) [] := by
  have hnobody : ∀ (i : Nat) (g : Gateway), ([] : List Gateway)[i]? ≠ some g := by
    intro i g hi
    rw [List.getElem?_nil] at hi
    cases hi
  exact ⟨fun i g hi => absurd hi (hnobody i g), fun i g hi => absurd hi (hnobody i g),
    fun i g hi => absurd hi (hnobody i g), fun _ _ => rfl⟩

theorem moved (hg : Governed t notes) (h : Acknowledging t notes) (hm : Moved t m t' more) :
    Acknowledging t' (notes ++ more) := by
  have hnew : ∀ i, t.net.gateways.length ≤ i → notesOf i more = [] → deeds i (notes ++ more) = [] := by
    intro i hi hnotes
    rw [deeds_append, h.untouched i hi,
      deeds_of_unhanded (unhanded_moved hm (hg.vacant i hi).1.passing), hnotes]
    rfl
  refine ⟨fun i g' hi' hloop' => ?_, fun i g' hi' => ?_, fun i g' hi' => ?_, fun i hi' => ?_⟩
  · rcases advances hm hi' with ⟨g, hi, ha⟩ | ⟨rfl, hpassing, hreleasing, hnotes, -, s, w, id, rfl, -⟩
    · have hloop : Looped t.net g.wire := ((reattached_moved hm).looped _).1 (ha.wire ▸ hloop')
      obtain ⟨hrelayed, hanswered⟩ := h.relayed i g hi hloop
      exact ⟨relayed_moved hg hm hi hi' ha hloop hrelayed, answered_moved hg hm hi ha hloop hanswered⟩
    · obtain ⟨⟨hfree, hunready⟩, hbefore, -⟩ := hg.vacant _ le_rfl
      have hall : notesOf t.net.gateways.length (notes ++ more) = [] := by
        rw [notesOf_append, hbefore, hnotes]
        rfl
      rw [hpassing, hreleasing, hfree, hunready, hall]
      exact ⟨.start id (hnew _ le_rfl hnotes) hall, nofun, nofun⟩
  · rw [notesOf_append, callsOf_append]
    rcases advances hm hi' with ⟨g, hi, ha⟩ | ⟨rfl, -, -, hnotes, hcalls, -⟩
    · have hreturned := h.returned i g hi
      rcases ha with ⟨hsame, hnotes, hcalls⟩ | ⟨gm, -, hstep, hcalls⟩
      · rwa [hsame, hnotes, hcalls, List.append_nil, List.append_nil]
      · have hnext := hreturned.step (hg.tracked i g hi) gm
        rwa [hstep, ← hcalls] at hnext
    · obtain ⟨-, hbefore, hearlier⟩ := hg.vacant _ le_rfl
      rw [hbefore, hearlier, hnotes, hcalls]
      rfl
  · rw [notesOf_append, Gateway.sends_append, List.filterMap_append]
    intro a hmem
    rcases advances hm hi' with ⟨g, hi, ha⟩ | ⟨rfl, -, -, hnotes, -⟩
    · rcases List.mem_append.1 hmem with hmem | hmem
      · exact h.headed i g hi a hmem
      · rcases ha with ⟨-, hnone, -⟩ | ⟨gm, -, hstep, -⟩
        · rw [hnone] at hmem
          cases hmem
        · have hsends := ((t.view i g).outward_step gm).2
          rw [hstep] at hsends
          rw [hsends] at hmem
          exact Outbound.Course.headed_step (hg.tracked i g hi).sound.orderly _ a hmem
    · rw [(hg.vacant _ le_rfl).2.1, hnotes] at hmem
      cases hmem
  · obtain ⟨hi, -, hnotes, -⟩ := vacant_moved hm (fun i hi => (hg.vacant i hi).1) hi'
    exact hnew i hi hnotes

theorem run (hg : Governed t notes) (h : Acknowledging t notes) (moves : List Move) :
    Acknowledging (t.after moves) (notes ++ t.notes moves) := by
  induction moves generalizing t notes with
  | nil => simpa [after, Traffic.notes] using h
  | cons m rest ih =>
    rw [Traffic.notes, ← List.append_assoc]
    exact ih (hg.moved (Traffic.moved t m)) (h.moved hg (Traffic.moved t m))

end Acknowledging

end Network.Traffic

end MessageExchange

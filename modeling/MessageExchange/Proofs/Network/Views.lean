import MessageExchange.Proofs.Network.Traffic

/-! What a move of the network is to each gateway: a move of its own, or none. What it leaves as it is: the
wires, but for whom they are attached to, and the places of gateways that are yet to be created. -/

namespace MessageExchange

open Correlation (Ticket)

namespace Gateway.Course

theorem clocks_step (c : Course) {m : Move} (hm : m.outside = false) :
    (c.step m).1.waiting = c.waiting ∧ (c.step m).1.storage = c.storage ∧
      ((c.step m).1.next = c.next ∨ (c.step m).1.next = c.next + 1) := by
  have hsame : ∀ c' : Course, c'.waiting = c.waiting → c'.storage = c.storage → c'.next = c.next →
      c'.waiting = c.waiting ∧ c'.storage = c.storage ∧ (c'.next = c.next ∨ c'.next = c.next + 1) :=
    fun c' hw hs hn => ⟨hw, hs, .inl hn⟩
  cases m with
  | handle direction handler =>
    simp only [step]
    split <;> exact hsame _ rfl rfl rfl
  | listen kind listener =>
    simp only [step]
    split <;> exact hsame _ rfl rfl rfl
  | await kind id timeout => exact ⟨rfl, rfl, .inr rfl⟩
  | timeOut kind w =>
    simp only [step]
    split_ifs <;> exact hsame _ rfl rfl rfl
  | shutdown => exact ⟨rfl, rfl, .inr rfl⟩
  | attend =>
    simp only [step]
    split <;> exact hsame _ rfl rfl rfl
  | released answer =>
    simp only [step]
    split <;> exact hsame _ rfl rfl rfl
  | close kind =>
    simp only [step]
    split
    · split_ifs <;> exact hsame _ rfl rfl rfl
    · exact hsame _ rfl rfl rfl
  | reply =>
    simp only [step]
    split <;> exact hsame _ rfl rfl rfl
  | cancel t =>
    simp only [step]
    split_ifs
    · obtain ⟨e, -, -, -, hf⟩ | ⟨-, hf⟩ :=
        forsake_cases { c with gateway := c.gateway.cancel t } t <;> rw [hf] <;> exact hsame _ rfl rfl rfl
    · exact hsame _ rfl rfl rfl
  | elsewhere => cases hm
  | pass span => cases hm
  | age span => cases hm
  | _ => exact hsame _ rfl rfl rfl

theorem ending_step {c : Course} {m : Move} (hm : m ≠ .attend) (h : c.ending = none) :
    (c.step m).1.ending = none := by
  cases m with
  | handle direction handler =>
    simp only [step]
    split <;> exact h
  | listen kind listener =>
    simp only [step]
    split <;> exact h
  | timeOut kind w =>
    simp only [step]
    split_ifs <;> exact h
  | attend => exact absurd rfl hm
  | released answer => simp [step, h]
  | close kind => simp [step, h]
  | reply => simp [step, h]
  | cancel t =>
    simp only [step, forsake, h]
    split_ifs
    · rfl
    · exact h
  | _ => exact h

theorem ending_attend {c : Course} (hn : (c.step .attend).2.filterMap Note.releasing? = []) :
    (c.step .attend).1.ending = c.ending := by
  simp only [step] at hn ⊢
  split at hn
  next => rfl
  next => simp [Note.releasing?] at hn

theorem wire_step (c : Course) (m : Move) : (c.step m).1.gateway.wire = c.gateway.wire := by
  have hset : ∀ kind r, (c.gateway.setCorrelator kind r).wire = c.gateway.wire := by
    intro kind r
    cases kind <;> rfl
  cases m with
  | notify site draft => exact hset _ _
  | handle direction handler =>
    simp only [step]
    split <;> rfl
  | listen kind listener =>
    simp only [step]
    split
    · rfl
    · exact hset _ _
  | await kind id timeout => exact hset _ _
  | timeOut kind w =>
    simp only [step]
    split_ifs
    · exact hset _ _
    · rfl
  | sweep kind => exact hset _ _
  | tick kind => exact hset _ _
  | shutdown =>
    simp only [step, Gateway.shutdown]
    split_ifs <;> rfl
  | attend =>
    simp only [step]
    split <;> rfl
  | released answer =>
    simp only [step]
    split <;> rfl
  | close kind =>
    simp only [step]
    split
    · split_ifs
      · exact (close_frame c.gateway kind).2.2.1
      · rfl
    · rfl
  | reply =>
    simp only [step]
    split <;> rfl
  | cancel t =>
    simp only [step]
    split_ifs
    · obtain ⟨e, -, -, -, hf⟩ | ⟨-, hf⟩ :=
        forsake_cases { c with gateway := c.gateway.cancel t } t <;> rw [hf]
      · exact (forsake_frame e.stage _).2.2.1
      · rfl
    · rfl
  | _ => rfl

end Gateway.Course

namespace Network

namespace Traffic

@[simp] theorem notesOf_append (i : Nat) (notes more : List Note) :
    notesOf i (notes ++ more) = notesOf i notes ++ notesOf i more := List.filterMap_append

theorem notesOf_map_of (i j : Nat) (notes : List Gateway.Note) :
    notesOf j (notes.map (.of i)) = if i = j then notes else [] := by
  induction notes with
  | nil => simp [notesOf]
  | cons note rest ih =>
    have hcons : notesOf j ((note :: rest).map (.of i)) =
        notesOf j [.of i note] ++ notesOf j (rest.map (.of i)) := notesOf_append j [.of i note] _
    rw [hcons, ih]
    by_cases hij : i = j <;> simp [notesOf, Note.of?, hij]

def callsOf (i : Nat) (notes : List Note) : List Ticket := notes.filterMap (Note.called? i)

@[simp] theorem callsOf_append (i : Nat) (notes more : List Note) :
    callsOf i (notes ++ more) = callsOf i notes ++ callsOf i more := List.filterMap_append

theorem callsOf_map_of (i j : Nat) (notes : List Gateway.Note) :
    callsOf j (notes.map (.of i)) = [] := by
  rw [callsOf, List.filterMap_map, List.filterMap_eq_nil_iff]
  exact fun _ _ => rfl

theorem callsOf_map_called (i j : Nat) (calls : List Ticket) :
    callsOf j (calls.map (.called i)) = if i = j then calls else [] := by
  rw [callsOf, List.filterMap_map]
  by_cases hij : i = j <;> simp [Function.comp_def, Note.called?, hij]

theorem notesOf_map_called (i j : Nat) (calls : List Ticket) :
    notesOf j (calls.map (.called i)) = [] := by
  rw [notesOf, List.filterMap_map, List.filterMap_eq_nil_iff]
  exact fun _ _ => rfl

/-- A gateway has made one move at most, of those that `drives` lets it make. -/
def Advances (drives : Gateway.Move → Prop) (c c' : Gateway.Course) (notes : List Gateway.Note)
    (calls : List Ticket) : Prop :=
  (c' = c ∧ notes = [] ∧ calls = []) ∨
    ∃ m, drives m ∧ c.step m = (c', notes) ∧ calls = m.calls c.next

/-- What a move of the network makes of the sends and of the shutdown of a gateway: a send ends as the wire
that has nothing left to push says, and a call ends with what its wire said. -/
def Drives (t : Traffic) (m : Move) (i : Nat) : Gateway.Move → Prop
  | .finish o => m = .finish i ∧ ∃ p, t.passing i = some p ∧ p.pushes = [] ∧ p.outcome = o
  | .released answer => m = .answer i ∧ ∃ r, t.releasing i = some r ∧ r.answer = answer
  | _ => True

variable {t t' : Traffic}

theorem view_put {i : Nat} {g : Gateway} {c : Gateway.Course} (hw : c.waiting = t.net.waiting)
    (hs : c.storage = t.net.storage)
    (hr : (t.view i g).ending = none → c.ending = none) :
    (t.put i c).view i c.gateway = c := by
  obtain ⟨waiting, storage, gateway, ending, next⟩ := c
  simp only [put, view, Function.update_self] at hr hw hs ⊢
  cases ht : t.releasing i with
  | none =>
    obtain rfl : ending = none := hr (by rw [ht]; rfl)
    simp [hw, hs]
  | some r => cases ending <;> simp [hw, hs]

theorem view_put_of_ne {i j : Nat} (hij : i ≠ j) (c : Gateway.Course) (g : Gateway) :
    (t.put i c).view j g = { t.view j g with next := c.next } := by
  simp only [put, view, Function.update_of_ne hij.symm]

theorem advances_of_next {drives : Gateway.Move → Prop} (he : drives .elsewhere) {c : Gateway.Course}
    {next : Ticket} (hn : next = c.next ∨ next = c.next + 1) :
    Advances drives c { c with next } [] [] := by
  rcases hn with rfl | rfl
  · exact .inl ⟨rfl, rfl, rfl⟩
  · exact .inr ⟨.elsewhere, he, rfl, rfl⟩

theorem Drives.of_own {m : Move} {i : Nat} {gm : Gateway.Move} (h : gm.own = true) :
    t.Drives m i gm := by
  cases gm with
  | finish o => cases h
  | released answer => cases h
  | _ => trivial

section

variable (drives : Nat → Gateway.Move → Prop)

theorem advances_set {i : Nat} {g : Gateway} {m : Gateway.Move} {c : Gateway.Course}
    {notes : List Gateway.Note} (hi : t.net.gateways[i]? = some g)
    (hstep : (t.view i g).step m = (c, notes)) (hd : drives i m) (he : ∀ j, drives j .elsewhere)
    (hm : m.outside = false)
    (hg : t'.net.gateways = t.net.gateways.set i c.gateway) (hself : t'.view i c.gateway = c)
    (hothers : ∀ j h, i ≠ j → t'.view j h = { t.view j h with next := c.next }) {j : Nat}
    {g' : Gateway} (hj : t'.net.gateways[j]? = some g') :
    ∃ h, t.net.gateways[j]? = some h ∧
      Advances (drives j) (t.view j h) (t'.view j g') (if i = j then notes else [])
        (if i = j then m.calls t.net.next else []) := by
  rw [hg, List.getElem?_set] at hj
  split_ifs at hj with hij hlt
  · obtain rfl := Option.some.inj hj
    subst hij
    rw [hself, if_pos rfl, if_pos rfl]
    exact ⟨g, hi, .inr ⟨m, hd, hstep, rfl⟩⟩
  · refine ⟨g', hj, ?_⟩
    rw [hothers j g' hij, if_neg hij, if_neg hij]
    have hnext := ((t.view i g).clocks_step hm).2.2
    rw [hstep] at hnext
    exact advances_of_next (he j) hnext

theorem advances_put {i : Nat} {g : Gateway} {m : Gateway.Move} {c : Gateway.Course}
    {notes : List Gateway.Note} (hi : t.net.gateways[i]? = some g)
    (hstep : (t.view i g).step m = (c, notes)) (hd : drives i m) (he : ∀ j, drives j .elsewhere)
    (hm : m.outside = false)
    (hr : (t.view i g).ending = none → c.ending = none) {j : Nat} {g' : Gateway}
    (hj : (t.put i c).net.gateways[j]? = some g') :
    ∃ h, t.net.gateways[j]? = some h ∧
      Advances (drives j) (t.view j h) ((t.put i c).view j g') (if i = j then notes else [])
        (if i = j then m.calls t.net.next else []) := by
  obtain ⟨hwaiting, hstorage, -⟩ := (t.view i g).clocks_step hm
  rw [hstep] at hwaiting hstorage
  exact advances_set drives hi hstep hd he hm rfl (view_put hwaiting hstorage hr)
    (fun j h hij => view_put_of_ne hij c h) hj

end

theorem hand_cases {site : Site} {target : Option Nat} {push : Push} {notes : List Note}
    (h : t.hand site target push = (t', notes)) :
    (t' = t ∧ ∃ (i : Nat) (effects : List Effect), notes = effects.map (.inbound i)) ∨
      ∃ i g draft c more, target = some i ∧ push = .notification draft ∧
        t.net.gateways[i]? = some g ∧ (t.view i g).step (.notify site draft) = (c, more) ∧
        t' = t.put i c ∧ notes = more.map (.of i) := by
  unfold hand at h
  split at h
  next =>
    cases h
    exact .inl ⟨rfl, 0, [], rfl⟩
  next i =>
    split at h
    next =>
      cases h
      exact .inl ⟨rfl, 0, [], rfl⟩
    next g hi =>
      split at h
      next draft =>
        cases h
        exact .inr ⟨i, g, draft, _, _, rfl, rfl, hi, rfl, rfl, rfl⟩
      next d =>
        cases h
        exact .inl ⟨rfl, i, _, rfl⟩

theorem notesOf_map_inbound (i j : Nat) (effects : List Effect) :
    notesOf j (effects.map (.inbound i)) = [] ∧ callsOf j (effects.map (.inbound i)) = [] := by
  constructor
  · rw [notesOf, List.filterMap_map, List.filterMap_eq_nil_iff]
    exact fun _ _ => rfl
  · rw [callsOf, List.filterMap_map, List.filterMap_eq_nil_iff]
    exact fun _ _ => rfl

theorem advances_hand (before : Traffic) (m : Move) {site : Site} {target : Option Nat} {push : Push}
    {notes : List Note} (h : t.hand site target push = (t', notes)) {j : Nat} {g' : Gateway}
    (hj : t'.net.gateways[j]? = some g') :
    ∃ g, t.net.gateways[j]? = some g ∧ Advances (before.Drives m j) (t.view j g) (t'.view j g')
      (notesOf j notes) (callsOf j notes) := by
  rcases hand_cases h with ⟨rfl, i, effects, rfl⟩ | ⟨i, g, draft, c, more, -, -, hi, hstep, rfl, rfl⟩
  · obtain ⟨hnotes, hcalls⟩ := notesOf_map_inbound i j effects
    exact ⟨g', hj, .inl ⟨rfl, hnotes, hcalls⟩⟩
  · have hr := Gateway.Course.ending_step (c := t.view i g) (m := .notify site draft) nofun
    rw [hstep] at hr
    rw [notesOf_map_of, callsOf_map_of]
    obtain ⟨h, hh, hadvances⟩ :=
      advances_put (before.Drives m) hi hstep trivial (fun _ => trivial) rfl hr hj
    refine ⟨h, hh, ?_⟩
    have hquiet : (if i = j then Gateway.Move.calls (.notify site draft) t.net.next else []) = [] :=
      ite_self _
    rwa [hquiet] at hadvances

theorem advances {m : Move} {notes : List Note} (hm : Moved t m t' notes) {j : Nat} {g' : Gateway}
    (hj : t'.net.gateways[j]? = some g') :
    (∃ g, t.net.gateways[j]? = some g ∧
        Advances (t.Drives m j) (t.view j g) (t'.view j g') (notesOf j notes) (callsOf j notes)) ∨
      (j = t.net.gateways.length ∧ t'.passing = t.passing ∧ t'.releasing = t.releasing ∧
        notesOf j notes = [] ∧ callsOf j notes = [] ∧
        ∃ s w id, g' = Gateway.start s w id t'.net.storage ∧ ∃ wire, t.net.wires[w]? = some wire) := by
  have hstill : t'.net.gateways = t.net.gateways → t'.view j g' = t.view j g' →
      notesOf j notes = [] → callsOf j notes = [] →
      ∃ g, t.net.gateways[j]? = some g ∧
        Advances (t.Drives m j) (t.view j g) (t'.view j g') (notesOf j notes) (callsOf j notes) :=
    fun hg hv hn hc => ⟨g', hg ▸ hj, .inl ⟨hv, hn, hc⟩⟩
  cases hm with
  | refuse hrefused =>
    obtain rfl := create_error hrefused
    exact .inl (hstill rfl rfl rfl rfl)
  | @create s id net seen g hcreated hseat =>
    obtain ⟨w, wire, wire', -, hw, -, rfl⟩ := create_ok hcreated
    rw [List.getElem?_append] at hj
    split_ifs at hj with hlt
    · exact .inl ⟨g', hj, .inl ⟨rfl, rfl, rfl⟩⟩
    · obtain ⟨hone, rfl⟩ := List.getElem?_eq_some_iff.1 hj
      refine .inr ⟨?_, rfl, rfl, rfl, rfl, s, w, id, List.getElem_singleton _, wire, hw⟩
      rw [List.length_singleton] at hone
      omega
  | @own i g m c notes hi hown hstep =>
    obtain ⟨hinside, hne⟩ := Gateway.Move.inside_of_own hown
    have hr := Gateway.Course.ending_step (c := t.view i g) hne
    rw [hstep] at hr
    rw [notesOf_append, callsOf_append, notesOf_map_called, notesOf_map_of, callsOf_map_called,
      callsOf_map_of, List.nil_append, List.append_nil]
    exact .inl (advances_put (t.Drives _) hi hstep (.of_own hown) (fun _ => trivial) hinside hr hj)
  | push hp hpushes hhands => exact .inl (advances_hand t _ hhands hj)
  | @finish i g p c notes hi hp hdone hstep =>
    have hr := Gateway.Course.ending_step (c := t.view i g) (m := .finish p.outcome) nofun
    rw [hstep] at hr
    rw [notesOf_map_of, callsOf_map_of]
    have hput := advances_put (t.Drives (.finish i)) hi hstep ⟨rfl, p, hp, hdone, rfl⟩
      (fun _ => trivial) rfl hr hj
    simp only [Gateway.Move.calls, ite_self] at hput
    exact .inl hput
  | @attend i g c notes hi hstep hunasked =>
    have hr := Gateway.Course.ending_attend (c := t.view i g) (by rwa [hstep])
    rw [hstep] at hr
    rw [notesOf_map_of, callsOf_map_of]
    have hput := advances_put (t.Drives (.attend i)) hi hstep trivial (fun _ => trivial) rfl
      hr.trans hj
    simp only [Gateway.Move.calls, ite_self] at hput
    exact .inl hput
  | @free i g wire c notes ending hi hbound hstep hasked hready =>
    obtain ⟨hwaiting, hstorage, -⟩ := (t.view i g).clocks_step (m := .attend) rfl
    rw [hstep] at hwaiting hstorage
    rw [notesOf_append, callsOf_append, notesOf_map_of, callsOf_map_of]
    have hset := advances_set (t.Drives (.attend i)) hi hstep trivial (fun _ => trivial) rfl rfl
      ?_ ?_ hj
    · simp only [Gateway.Move.calls, ite_self] at hset
      rw [show notesOf j [.freed i g.wire wire.attached] = [] from rfl, List.append_nil]
      exact .inl hset
    · obtain ⟨waiting, storage, gateway, ending, next⟩ := c
      simp only [view, Function.update_self, put] at hready hwaiting hstorage ⊢
      simp [hready, hwaiting, hstorage]
    · intro j h hij
      simp only [view, Function.update_of_ne hij.symm, put]
  | @answer i g r c notes hi hready hstep =>
    have hr := Gateway.Course.ending_step (c := t.view i g) (m := .released r.answer) nofun
    rw [hstep] at hr
    rw [notesOf_map_of, callsOf_map_of]
    have hput := advances_put (t.Drives (.answer i)) hi hstep ⟨rfl, r, hready, rfl⟩
      (fun _ => trivial) rfl hr hj
    simp only [Gateway.Move.calls, ite_self] at hput
    exact .inl hput
  | receive hbound hattached hhands => exact .inl (advances_hand t _ hhands hj)
  | pass span => exact .inl ⟨g', hj, .inr ⟨.pass span, trivial, rfl, rfl⟩⟩
  | age span => exact .inl ⟨g', hj, .inr ⟨.age span, trivial, rfl, rfl⟩⟩
  | _ => exact .inl (hstill rfl rfl rfl rfl)

variable {m : Move} {more : List Note} {i : Nat}

theorem Advances.wire {drives : Gateway.Move → Prop} {g g' : Gateway} {gmore : List Gateway.Note}
    {calls : List Ticket} (ha : Advances drives (t.view i g) (t'.view i g') gmore calls) :
    g'.wire = g.wire := by
  rcases ha with ⟨hsame, -, -⟩ | ⟨gm, -, hstep, -⟩
  · exact congrArg (fun c => c.gateway.wire) hsame
  · have hwire := (t.view i g).wire_step gm
    rwa [hstep] at hwire

theorem getElem?_set_cases {α : Type} {as : List α} {i j : Nat} {a b : α}
    (h : (as.set i a)[j]? = some b) : i = j ∧ a = b ∨ i ≠ j ∧ as[j]? = some b := by
  rw [List.getElem?_set] at h
  split_ifs at h with hij hlt
  · exact .inl ⟨hij, Option.some.inj h⟩
  · exact .inr ⟨hij, h⟩

/-- The same wires, but for whom they are attached to, and what they remember, hold or fail. -/
def Reattached (ws ws' : List Wire) : Prop :=
  ws'.length = ws.length ∧
    ∀ (w : Nat) (wire' : Wire), ws'[w]? = some wire' → ∃ wire : Wire, ws[w]? = some wire ∧
      Wire.Alike { wire with attached := wire'.attached } wire'

theorem Rewired.reattached {ws ws' : List Wire} (h : Rewired ws ws') : Reattached ws ws' := by
  refine ⟨h.1, fun w wire' hw => ?_⟩
  obtain ⟨wire, hwire, halike⟩ := h.2 w wire' hw
  exact ⟨wire, hwire, halike.reattach wire'.attached⟩

theorem reattached_set {ws : List Wire} {w : Nat} {wire wire' : Wire} {owner : Option Nat}
    (hw : ws[w]? = some wire) (ha : Wire.Alike { wire with attached := owner } wire') :
    Reattached ws (ws.set w wire') := by
  refine ⟨List.length_set, fun v x hx => ?_⟩
  rcases getElem?_set_cases hx with ⟨rfl, rfl⟩ | ⟨-, hx⟩
  · exact ⟨wire, hw, ha.reattach wire'.attached⟩
  · exact ⟨x, hx, .refl x⟩

theorem Reattached.trans {ws ws' ws'' : List Wire} (h : Reattached ws ws') (h' : Reattached ws' ws'') :
    Reattached ws ws'' := by
  refine ⟨h'.1.trans h.1, fun w wire'' hw => ?_⟩
  obtain ⟨wire', hwire', halike'⟩ := h'.2 w wire'' hw
  obtain ⟨wire, hwire, halike⟩ := h.2 w wire' hwire'
  exact ⟨wire, hwire, (halike.reattach wire''.attached).trans halike'⟩

theorem Reattached.still {ws ws' : List Wire} (h : Reattached ws ws') {w : Nat} {wire : Wire}
    (hw : ws[w]? = some wire) : ∃ wire' : Wire, ws'[w]? = some wire' ∧
      Wire.Alike { wire with attached := wire'.attached } wire' := by
  obtain ⟨hlt, -⟩ := List.getElem?_eq_some_iff.1 hw
  have hw' := List.getElem?_eq_getElem (l := ws') (by rwa [h.1])
  obtain ⟨wire₀, hwire₀, halike⟩ := h.2 w _ hw'
  obtain rfl := Option.some.inj (hw.symm.trans hwire₀)
  exact ⟨_, hw', halike⟩

theorem reattached_moved (hm : Moved t m t' more) : Reattached t.net.wires t'.net.wires := by
  have hkept : t'.net.wires = t.net.wires → Reattached t.net.wires t'.net.wires :=
    fun h => h ▸ (rewired_refl t.net.wires).reattached
  cases hm with
  | refuse hrefused =>
    obtain rfl := create_error hrefused
    exact hkept rfl
  | create hcreated hseat =>
    obtain ⟨v, x, x', -, hx, hattach, rfl⟩ := create_ok hcreated
    obtain ⟨-, rfl⟩ := x.attach_ok hattach
    exact reattached_set hx (.refl { x with attached := some t.net.gateways.length })
  | @attempt i g item x x' pushes outcome hi hfree hsending hbound htakes =>
    exact (rewired_set hbound (x.alike_attempt htakes)).reattached
  | @push i p push rest t' notes hp hpushes hhands =>
    rcases hand_cases hhands with ⟨rfl, -⟩ | ⟨j, g, draft, c, gnotes, -, -, hj, -, rfl, -⟩
    · exact hkept rfl
    · exact hkept rfl
  | @receive v x i push t' notes hbound hattached hhands =>
    rcases hand_cases hhands with ⟨rfl, -⟩ | ⟨j, g, draft, c, gnotes, -, -, hj, -, rfl, -⟩
    · exact hkept rfl
    · exact hkept rfl
  | @free i g x c gnotes ending hi hbound hstep hasked hready =>
    exact reattached_set hbound x.alike_shutdown
  | rewire h => exact h.reattached
  | _ => exact hkept rfl

theorem reattached_after (t : Traffic) (moves : List Move) :
    Reattached t.net.wires (t.after moves).net.wires := by
  induction moves generalizing t with
  | nil => exact (rewired_refl t.net.wires).reattached
  | cons m rest ih => exact (reattached_moved (moved t m)).trans (ih (t.step m).1)

theorem seat_ne {i j : Nat} {g : Gateway} (hj : t.net.gateways[j]? = some g)
    (hi : t.net.gateways.length ≤ i) : j ≠ i := by
  obtain ⟨hlt, -⟩ := List.getElem?_eq_some_iff.1 hj
  omega

structure Vacant (t : Traffic) (i : Nat) : Prop where
  passing : t.passing i = none
  releasing : t.releasing i = none

theorem Vacant.put {i j : Nat} (h : Vacant t i) (hij : j ≠ i) (c : Gateway.Course) :
    Vacant (t.put j c) i :=
  ⟨h.passing, (Function.update_of_ne hij.symm _ _).trans h.releasing⟩

theorem vacant_hand {site : Site} {target : Option Nat} {push : Push} {hnotes : List Note}
    (hh : t.hand site target push = (t', hnotes)) {i : Nat}
    (h : t.net.gateways.length ≤ i → Vacant t i) (hi : t'.net.gateways.length ≤ i) :
    t.net.gateways.length ≤ i ∧ Vacant t' i ∧ notesOf i hnotes = [] ∧ callsOf i hnotes = [] := by
  rcases hand_cases hh with ⟨rfl, j, effects, rfl⟩ | ⟨j, g, draft, c, gnotes, -, -, hj, -, rfl, rfl⟩
  · exact ⟨hi, h hi, notesOf_map_inbound j i effects⟩
  · have hlength : t.net.gateways.length ≤ i := by
      rwa [show (t.put j c).net.gateways.length = t.net.gateways.length from List.length_set] at hi
    have hij := seat_ne hj hlength
    exact ⟨hlength, (h hlength).put hij c, (notesOf_map_of j i gnotes).trans (if_neg hij),
      callsOf_map_of j i gnotes⟩

theorem vacant_moved (hm : Moved t m t' more)
    (hvacant : ∀ i, t.net.gateways.length ≤ i → Vacant t i) {i : Nat}
    (hi : t'.net.gateways.length ≤ i) :
    t.net.gateways.length ≤ i ∧ Vacant t' i ∧ notesOf i more = [] ∧ callsOf i more = [] := by
  have hset : ∀ {j : Nat} {c : Gateway.Course},
      (t.net.gateways.set j c.gateway).length ≤ i → t.net.gateways.length ≤ i := by
    intro j c hlength
    rwa [List.length_set] at hlength
  cases hm with
  | refuse hrefused =>
    obtain rfl := create_error hrefused
    exact ⟨hi, hvacant i hi, rfl, rfl⟩
  | create hcreated hseat =>
    obtain ⟨v, x, x', -, -, -, rfl⟩ := create_ok hcreated
    have hlength : t.net.gateways.length ≤ i := by
      simp only [List.length_append, List.length_singleton] at hi
      omega
    obtain ⟨hp, hr⟩ := hvacant i hlength
    exact ⟨hlength, ⟨hp, hr⟩, rfl, rfl⟩
  | @own j g gm c gnotes hj hown hstep =>
    have hlength := hset hi
    have hij := seat_ne hj hlength
    refine ⟨hlength, (hvacant i hlength).put hij c, ?_, ?_⟩
    · rw [notesOf_append, notesOf_map_called, notesOf_map_of, if_neg hij, List.append_nil]
    · rw [callsOf_append, callsOf_map_called, callsOf_map_of, if_neg hij, List.append_nil]
  | @attempt j g item x x' pushes outcome hj hfree hsending hbound htakes =>
    obtain ⟨hp, hr⟩ := hvacant i hi
    exact ⟨hi, ⟨(Function.update_of_ne (seat_ne hj hi).symm _ _).trans hp, hr⟩, rfl, rfl⟩
  | @push j p push rest t' hnotes hp hpushes hhands =>
    have hleft : t.net.gateways.length ≤ i →
        Vacant { t with passing := Function.update t.passing j (some { p with pushes := rest }) } i := by
      intro hlength
      obtain ⟨hpass, hr⟩ := hvacant i hlength
      have hij : i ≠ j := by
        rintro rfl
        rw [hpass] at hp
        cases hp
      exact ⟨(Function.update_of_ne hij _ _).trans hpass, hr⟩
    obtain ⟨hlength, hv, hn, hc⟩ := vacant_hand hhands hleft hi
    exact ⟨hlength, hv, hn, hc⟩
  | @finish j g p c gnotes hj hp hdone hstep =>
    have hlength := hset hi
    have hij := seat_ne hj hlength
    obtain ⟨hpass, hr⟩ := (hvacant i hlength).put hij c
    exact ⟨hlength, ⟨(Function.update_of_ne hij.symm _ _).trans hpass, hr⟩,
      (notesOf_map_of j i gnotes).trans (if_neg hij), callsOf_map_of j i gnotes⟩
  | @attend j g c gnotes hj hstep hunasked =>
    have hlength := hset hi
    have hij := seat_ne hj hlength
    exact ⟨hlength, (hvacant i hlength).put hij c, (notesOf_map_of j i gnotes).trans (if_neg hij),
      callsOf_map_of j i gnotes⟩
  | @free j g x c gnotes ending hj hbound hstep hasked hready =>
    have hlength := hset hi
    have hij := seat_ne hj hlength
    obtain ⟨hpass, hr⟩ := hvacant i hlength
    refine ⟨hlength, ⟨hpass, (Function.update_of_ne hij.symm _ _).trans hr⟩, ?_, ?_⟩
    · rw [notesOf_append, notesOf_map_of, if_neg hij]
      rfl
    · rw [callsOf_append, callsOf_map_of]
      rfl
  | @answer j g r c gnotes hj hready hstep =>
    have hlength := hset hi
    have hij := seat_ne hj hlength
    exact ⟨hlength, (hvacant i hlength).put hij c, (notesOf_map_of j i gnotes).trans (if_neg hij),
      callsOf_map_of j i gnotes⟩
  | receive hbound hattached hhands =>
    obtain ⟨hlength, hv, hn, hc⟩ := vacant_hand hhands (hvacant i) hi
    exact ⟨hlength, hv, hn, hc⟩
  | _ => exact ⟨hi, ⟨(hvacant i hi).passing, (hvacant i hi).releasing⟩, rfl, rfl⟩

end Traffic

end Network

end MessageExchange

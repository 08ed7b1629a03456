import MessageExchange.Proofs.Outbound.Courses

/-! Where accepted messages are. Whatever the order of the moves, what was accepted is what was taken up
for sending, then what was dropped, then what is queued. -/

namespace MessageExchange.Outbound

namespace Course

variable {c : Course}

def numbered (accepted : List (Message × Route)) : List Item :=
  accepted.mapIdx fun n a => ⟨n, a.1, a.2⟩

theorem numbered_snoc (accepted : List (Message × Route)) (m : Message) (r : Route) :
    numbered (accepted ++ [(m, r)]) = numbered accepted ++ [⟨accepted.length, m, r⟩] := by
  simp [numbered]

theorem nodup_numbered (accepted : List (Message × Route)) : (numbered accepted).Nodup := by
  have hseqs : (numbered accepted).map Item.seq = List.range accepted.length := by
    induction accepted using List.reverseRecOn with
    | nil => rfl
    | append_singleton rest a ih =>
      rw [numbered_snoc, List.map_append, ih, List.length_append, List.length_singleton,
        List.range_succ]
      rfl
  apply List.Nodup.of_map Item.seq
  rw [hseqs]
  exact List.nodup_range

theorem mem_numbered_iff {accepted : List (Message × Route)} {i : Item} :
    i ∈ numbered accepted ↔ accepted[i.seq]? = some (i.message, i.route) := by
  unfold numbered
  rw [List.mem_mapIdx]
  constructor
  · rintro ⟨n, hn, rfl⟩
    exact List.getElem?_eq_getElem hn
  · intro h
    obtain ⟨hn, hget⟩ := List.getElem?_eq_some_iff.1 h
    refine ⟨i.seq, hn, ?_⟩
    rw [hget]

theorem seq_lt_of_mem {accepted : List (Message × Route)} {i : Item} (h : i ∈ numbered accepted) : i.seq < accepted.length :=
  (List.getElem?_eq_some_iff.1 (mem_numbered_iff.1 h)).1

theorem eq_of_seq_eq {accepted : List (Message × Route)} {i j : Item} (hi : i ∈ numbered accepted)
    (hj : j ∈ numbered accepted) (h : i.seq = j.seq) : i = j := by
  rw [mem_numbered_iff] at hi hj
  rw [h, hj] at hi
  obtain ⟨seq, message, route⟩ := i
  obtain ⟨seq', message', route'⟩ := j
  cases hi
  cases h
  rfl

structure Balanced (p : Pipeline) (notes : List Note) : Prop where
  whole : notes.filterMap Note.invoked? ++ notes.filterMap Note.dropped? ++ p.queue =
    numbered (notes.filterMap Note.accepted?)
  next : p.next = (notes.filterMap Note.accepted?).length
  ends : (notes.filterMap Note.finished?).map Prod.fst ++ p.current = notes.filterMap Note.invoked?
  /-- Nothing is taken up once something was dropped. -/
  last : notes.filterMap Note.dropped? ≠ [] → p.closed = true

namespace Balanced

variable {p p' : Pipeline} {notes more : List Note}

theorem start (wire : String) : Balanced (Pipeline.start wire) [] := ⟨rfl, rfl, rfl, nofun⟩

/-- An item is taken up, dropped or queued, and in one of these ways only. -/
theorem nodup (h : Balanced p notes) : (notes.filterMap Note.invoked? ++
    notes.filterMap Note.dropped? ++ p.queue).Nodup :=
  h.whole ▸ nodup_numbered _

theorem mem_of_queue (h : Balanced p notes) {i : Item} (hi : i ∈ p.queue) :
    i ∈ numbered (notes.filterMap Note.accepted?) :=
  h.whole ▸ List.mem_append_right _ hi

theorem invoked_of_current (h : Balanced p notes) {i : Item} (hi : i ∈ p.current) :
    i ∈ notes.filterMap Note.invoked? :=
  h.ends ▸ List.mem_append_right _ hi

theorem mem_of_current (h : Balanced p notes) {i : Item} (hi : i ∈ p.current) :
    i ∈ numbered (notes.filterMap Note.accepted?) :=
  h.whole ▸ List.mem_append_left _ (List.mem_append_left _ (h.invoked_of_current hi))

theorem notMem_queue_of_current (h : Balanced p notes) {i : Item} (hi : i ∈ p.current) :
    i ∉ p.queue := by
  have hdisjoint := List.disjoint_of_nodup_append h.nodup
  exact hdisjoint (List.mem_append_left _ (h.invoked_of_current hi))

theorem notMem_rest (h : Balanced p notes) {i : Item} {rest : List Item} (hq : p.queue = i :: rest) :
    i ∉ rest := by
  have hnodup := (List.nodup_append.1 h.nodup).2.1
  rw [hq] at hnodup
  exact (List.nodup_cons.1 hnodup).1

theorem same (h : Balanced p notes) (hq : p'.queue = p.queue) (hn : p'.next = p.next)
    (hi : p'.current = p.current) (hc : p.closed = true → p'.closed = true)
    (hm : ∀ note ∈ more, note.accepted? = none ∧ note.invoked? = none ∧ note.finished? = none ∧
      note.dropped? = none) :
    Balanced p' (notes ++ more) := by
  have ha : more.filterMap Note.accepted? = [] :=
    List.filterMap_eq_nil_iff.2 fun note hnote => (hm note hnote).1
  have hv : more.filterMap Note.invoked? = [] :=
    List.filterMap_eq_nil_iff.2 fun note hnote => (hm note hnote).2.1
  have hf : more.filterMap Note.finished? = [] :=
    List.filterMap_eq_nil_iff.2 fun note hnote => (hm note hnote).2.2.1
  have hd : more.filterMap Note.dropped? = [] :=
    List.filterMap_eq_nil_iff.2 fun note hnote => (hm note hnote).2.2.2
  constructor <;> simp only [List.filterMap_append, ha, hv, hf, hd, hq, hn, hi, List.append_nil]
  · exact h.whole
  · exact h.next
  · exact h.ends
  · exact fun hne => hc (h.last hne)

theorem quiet (h : Balanced p notes) (hq : p'.queue = p.queue) (hn : p'.next = p.next)
    (hi : p'.current = p.current) (hc : p.closed = true → p'.closed = true) :
    Balanced p' (notes ++ []) :=
  h.same hq hn hi hc nofun

theorem enqueue (h : Balanced p notes) (m : Message) (r : Route)
    (hp : p' = { p with
      next := p.next + 1, queue := p.queue ++ [⟨p.next, m, r⟩],
      stats := { p.stats with enqueued := p.stats.enqueued + 1 } }) :
    Balanced p' (notes ++ [.accepted m r]) := by
  subst hp
  have ha : ([Note.accepted m r]).filterMap Note.accepted? = [(m, r)] := rfl
  have hv : ([Note.accepted m r]).filterMap Note.invoked? = [] := rfl
  have hf : ([Note.accepted m r]).filterMap Note.finished? = [] := rfl
  have hd : ([Note.accepted m r]).filterMap Note.dropped? = [] := rfl
  constructor <;> simp only [List.filterMap_append, ha, hv, hf, hd, List.append_nil]
  · rw [numbered_snoc, ← h.whole, ← h.next]
    simp
  · rw [List.length_append, ← h.next]
    rfl
  · exact h.ends
  · exact h.last

theorem invoke (h : Balanced p notes) {i : Item} {rest : List Item} (hidle : p.worker = .idle)
    (hq : p.queue = i :: rest) :
    Balanced { p with worker := .sending i, queue := rest } (notes ++ [.invoked i]) := by
  have hnone : notes.filterMap Note.dropped? = [] := by
    by_contra hne
    have hclosed := h.last hne
    simp [Pipeline.closed, hidle] at hclosed
  have ha : ([Note.invoked i]).filterMap Note.accepted? = [] := rfl
  have hv : ([Note.invoked i]).filterMap Note.invoked? = [i] := rfl
  have hf : ([Note.invoked i]).filterMap Note.finished? = [] := rfl
  have hd : ([Note.invoked i]).filterMap Note.dropped? = [] := rfl
  have hwhole := h.whole
  have hends := h.ends
  rw [hnone, hq] at hwhole
  rw [Pipeline.current, hidle] at hends
  constructor <;> simp only [List.filterMap_append, ha, hv, hf, hd, hnone, List.append_nil]
  · simpa using hwhole
  · exact h.next
  · simpa [Pipeline.current] using hends
  · exact fun hne => absurd rfl hne

theorem finish (h : Balanced p notes) {i : Item} (hsending : p.worker = .sending i) (o : Outcome) :
    Balanced (p.account i o).1 (notes ++ [.finished i o]) := by
  have ha : ([Note.finished i o]).filterMap Note.accepted? = [] := rfl
  have hv : ([Note.finished i o]).filterMap Note.invoked? = [] := rfl
  have hf : ([Note.finished i o]).filterMap Note.finished? = [(i, o)] := rfl
  have hd : ([Note.finished i o]).filterMap Note.dropped? = [] := rfl
  have hq : (p.account i o).1.queue = p.queue := by cases o <;> rfl
  have hn : (p.account i o).1.next = p.next := by cases o <;> rfl
  have hi : (p.account i o).1.current = [] := by cases o <;> rfl
  have hends := h.ends
  rw [Pipeline.current, hsending] at hends
  constructor <;> simp only [List.filterMap_append, ha, hv, hf, hd, hq, hn, hi, List.append_nil]
  · exact h.whole
  · exact h.next
  · simpa using hends
  · intro hne
    have hclosed := h.last hne
    simp [Pipeline.closed, hsending] at hclosed

theorem drop (h : Balanced p notes) {i : Item} {rest : List Item} (hdropping : p.worker = .dropping)
    (hq : p.queue = i :: rest) {stats : Stats} :
    Balanced { p with queue := rest, stats } (notes ++ [.dropped i]) := by
  have ha : ([Note.dropped i]).filterMap Note.accepted? = [] := rfl
  have hv : ([Note.dropped i]).filterMap Note.invoked? = [] := rfl
  have hf : ([Note.dropped i]).filterMap Note.finished? = [] := rfl
  have hd : ([Note.dropped i]).filterMap Note.dropped? = [i] := rfl
  have hwhole := h.whole
  rw [hq] at hwhole
  constructor <;> simp only [List.filterMap_append, ha, hv, hf, hd, List.append_nil]
  · simpa using hwhole
  · exact h.next
  · exact h.ends
  · intro
    simp [Pipeline.closed, hdropping]

theorem step {c' : Course} {m : Move} (h : Balanced c.pipeline notes) (hs : Stepped c m c' more) :
    Balanced c'.pipeline (notes ++ more) := by
  cases hs with
  | stay => exact h.quiet rfl rfl rfl id
  | refuse fault =>
    refine h.same rfl rfl rfl id fun note hnote => ?_
    rw [List.mem_singleton.1 hnote]
    exact ⟨rfl, rfl, rfl, rfl⟩
  | accept hopen => exact h.enqueue _ _ rfl
  | invoke hidle hq hfree => exact h.invoke hidle hq
  | obey hidle hq htold => exact h.quiet rfl rfl (by simp [Pipeline.current, hidle]) fun _ => rfl
  | drop hdropping hq => exact h.drop hdropping hq
  | stop hq hwhy =>
    refine h.quiet rfl rfl ?_ fun _ => rfl
    rcases hwhy with hdropping | ⟨hidle, -⟩
    · simp [Pipeline.current, hdropping]
    · simp [Pipeline.current, hidle]
  | finish hsending o => exact h.finish hsending o
  | shutdown drain => exact h.quiet rfl rfl rfl id
  | turn hcalls hun => exact h.quiet rfl rfl rfl id
  | leave hcalls hwhy =>
    refine h.same rfl rfl rfl id fun note hnote => ?_
    rw [List.mem_singleton.1 hnote]
    exact ⟨rfl, rfl, rfl, rfl⟩
  | lapse hcalls hlapsed => exact h.quiet rfl rfl rfl id
  | cancel hpending =>
    rw [Pipeline.cancel_eq]
    exact h.quiet rfl rfl rfl id
  | letGo =>
    rw [Pipeline.letGo_eq]
    exact h.quiet rfl rfl rfl id
  | pass span => exact h.quiet rfl rfl rfl id

theorem run (h : Balanced c.pipeline notes) (ho : c.pipeline.Orderly) (moves : List Move) :
    Balanced (c.after moves).pipeline (notes ++ c.notes moves) := by
  induction moves generalizing c notes with
  | nil => exact (List.append_nil notes).symm ▸ h
  | cons m rest ih =>
    have hrest := ih (h.step (stepped ho m)) (orderly_step ho m)
    rwa [List.append_assoc] at hrest

end Balanced

theorem balanced_after (wire : String) (moves : List Move) :
    Balanced ((start wire).after moves).pipeline ((start wire).notes moves) :=
  (Balanced.start wire).run (c := start wire) (Pipeline.Orderly.start wire) moves

theorem invoked_first (wire : String) (moves : List Move) :
    (start wire).invoked moves <+: numbered ((start wire).accepted moves) := by
  have hwhole := (balanced_after wire moves).whole
  rw [List.append_assoc] at hwhole
  exact ⟨_, hwhole⟩

theorem enqueue_of_accepted (h : c.pipeline.Orderly) {moves : List Move} {m : Message} {r : Route}
    (ha : (m, r) ∈ c.accepted moves) : .enqueue m r ∈ moves := by
  induction moves generalizing c with
  | nil => cases ha
  | cons move rest ih =>
    rw [accepted, notes, List.filterMap_append, List.mem_append] at ha
    rcases ha with hhead | htail
    · have hs := stepped h move
      generalize (c.step move).1 = c', (c.step move).2 = notes at hs hhead
      cases hs with
      | accept hopen =>
        obtain ⟨rfl, rfl⟩ := Prod.mk.inj (List.mem_singleton.1 hhead)
        exact List.mem_cons_self
      | _ => cases hhead
    · exact List.mem_cons_of_mem _ (ih (orderly_step h move) htail)

theorem enqueue_of_invoked {wire : String} {moves : List Move} {i : Item}
    (hi : i ∈ (start wire).invoked moves) : .enqueue i.message i.route ∈ moves := by
  have hmem := (invoked_first wire moves).subset hi
  exact enqueue_of_accepted (Pipeline.Orderly.start wire) (List.mem_of_getElem? (mem_numbered_iff.1 hmem))

theorem finished_first (wire : String) (moves : List Move) :
    ((start wire).finished moves).map Prod.fst <+: (start wire).invoked moves :=
  ⟨_, (balanced_after wire moves).ends⟩

end Course

end MessageExchange.Outbound

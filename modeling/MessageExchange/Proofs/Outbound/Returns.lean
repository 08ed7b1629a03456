import MessageExchange.Proofs.Outbound.Tally

/-! What shutdown calls return. A call that has had its turn returns only once the worker has stopped, so
the counters it returns are final, and so are those of every call behind it. Only when the call that has
had its turn is given up do the next ones no longer wait: they return whatever they find. -/

namespace MessageExchange.Outbound

open Correlation (Ticket)

namespace Pipeline

variable {p : Pipeline}

/-- The call that has had its turn and waits for the worker. -/
def keeper (p : Pipeline) : Option Ticket := (p.calls.head?.filter (!·.phase.waits)).map (·.ticket)

theorem keeper_of_cons {call : Call} {rest : List Call} (hc : p.calls = call :: rest) :
    p.keeper = if call.phase.waits then none else some call.ticket := by
  unfold keeper
  rw [hc, List.head?_cons, Option.filter_some]
  cases call.phase.waits <;> rfl

end Pipeline

namespace Course

variable {c c' : Course} {m : Move} {notes : List Note}

def Forsaken (c : Course) (moves : List Move) : Prop :=
  ∃ us t vs, moves = us ++ .cancel t :: vs ∧ (c.after us).pipeline.keeper = some t

theorem Forsaken.snoc {moves : List Move} (h : c.Forsaken moves) (m : Move) :
    c.Forsaken (moves ++ [m]) := by
  obtain ⟨us, t, vs, rfl, hkeeper⟩ := h
  exact ⟨us, t, vs ++ [m], by simp, hkeeper⟩

def Returns (c : Course) (moves : List Move) (stats : Stats) : Prop :=
  ∃ m t, .ended t stats ∈ ((c.after moves).step m).2

/-- These counters are final: the worker has stopped, every message is accounted for, and whoever looks
or returns from now on finds the same. -/
structure Final (c : Course) (moves : List Move) (stats : Stats) : Prop where
  stopped : (c.after moves).pipeline.worker = .stopped
  closed : stats.Closed
  kept : ∀ vs, (c.after (moves ++ vs)).pipeline.stats = stats
  agreed : ∀ vs stats', c.Returns (moves ++ vs) stats' → stats' = stats

/-- A call returns the counters it finds. It waited for a worker that has stopped, or it found that some
other call had had the only turn. -/
theorem ended_cases {t : Ticket} {stats : Stats} (hs : Stepped c m c' notes)
    (he : .ended t stats ∈ notes) :
    stats = c.pipeline.stats ∧ ∃ call rest, c.pipeline.calls = call :: rest ∧ call.ticket = t ∧
      (call.phase.waits = true ∧ c.pipeline.unwatched = false ∨
        call.phase.waits = false ∧ c.pipeline.worker = .stopped) := by
  cases hs with
  | @leave call rest hcalls hwhy =>
    cases List.mem_singleton.1 he
    exact ⟨rfl, call, rest, hcalls, rfl, hwhy⟩
  | _ => simp at he

theorem keeper_cancel {p : Pipeline} {t : Ticket} (hk : p.keeper.isSome) (ht : p.keeper ≠ some t) :
    (p.cancel t).keeper.isSome := by
  rw [Pipeline.cancel_eq]
  cases hcalls : p.calls with
  | nil => simp [Pipeline.keeper, hcalls] at hk
  | cons call rest =>
    rw [Pipeline.keeper_of_cons hcalls] at hk ht
    cases hphase : call.phase.waits with
    | true => simp [hphase] at hk
    | false =>
      have hother : call.ticket ≠ t := by simpa [hphase] using ht
      simp [Pipeline.keeper, hother, hphase]

/-- Once there was a turn, somebody waits for the worker, as long as it goes on and nobody who waited
for it is given up. -/
theorem kept_step (hs : Stepped c m c' notes) (hm : m ≠ .letGo)
    (hk : c.pipeline.unwatched = false → c.pipeline.worker ≠ .stopped → c.pipeline.keeper.isSome)
    (hun : c'.pipeline.unwatched = false) (hw : c'.pipeline.worker ≠ .stopped) :
    c'.pipeline.keeper.isSome ∨ ∃ t, m = .cancel t ∧ c.pipeline.keeper = some t := by
  cases hs with
  | invoke hidle hq hfree => exact .inl (hk hun (by simp [hidle]))
  | obey hidle hq htold => exact .inl (hk hun (by simp [hidle]))
  | stop hq hwhy => exact absurd rfl hw
  | finish hsending o =>
    refine .inl ?_
    cases o <;> exact hk hun (by simp [hsending])
  | shutdown drain =>
    have hkeeper := hk hun hw
    refine .inl ?_
    cases hcalls : c.pipeline.calls with
    | nil => simp [Pipeline.keeper, hcalls] at hkeeper
    | cons call rest => simpa [Pipeline.keeper, Pipeline.shutdown, hcalls] using hkeeper
  | turn hcalls hunwatched => exact .inl rfl
  | leave hcalls hwhy =>
    have hkeeper := hk hun hw
    rw [Pipeline.keeper_of_cons hcalls] at hkeeper
    rcases hwhy with ⟨hwaits, -⟩ | ⟨-, hstopped⟩
    · simp [hwaits] at hkeeper
    · exact absurd hstopped hw
  | lapse hcalls hlapsed => exact .inl rfl
  | @cancel t hpending =>
    rw [Pipeline.cancel_eq] at hun hw
    have hkeeper := hk hun hw
    by_cases ht : c.pipeline.keeper = some t
    · exact .inr ⟨t, rfl, ht⟩
    · exact .inl (keeper_cancel hkeeper ht)
  | letGo => exact absurd rfl hm
  | _ => exact .inl (hk hun hw)

theorem kept_after (wire : String) {moves : List Move} (hopen : .letGo ∉ moves)
    (hun : ((start wire).after moves).pipeline.unwatched = false)
    (hw : ((start wire).after moves).pipeline.worker ≠ .stopped)
    (hf : ¬ (start wire).Forsaken moves) : ((start wire).after moves).pipeline.keeper.isSome := by
  induction moves using List.reverseRecOn with
  | nil => exact absurd hun (by simp [start, after, Pipeline.start])
  | append_singleton moves m ih =>
    rw [List.mem_append, List.mem_singleton, not_or] at hopen
    have ho : ((start wire).after moves).pipeline.Orderly :=
      orderly_after (Pipeline.Orderly.start wire) moves
    have hbefore := fun hun hw => ih hopen.1 hun hw fun hf' => hf (hf'.snoc m)
    rw [after_append] at hun hw ⊢
    rcases kept_step (stepped ho m) (Ne.symm hopen.2) hbefore hun hw with hkeeper | ⟨t, rfl, ht⟩
    · exact hkeeper
    · exact absurd ⟨moves, t, [], rfl, ht⟩ hf

theorem final_of_stopped (wire : String) {moves : List Move}
    (hw : ((start wire).after moves).pipeline.worker = .stopped) :
    (start wire).Final moves ((start wire).after moves).pipeline.stats := by
  have ho : ((start wire).after moves).pipeline.Orderly :=
    orderly_after (Pipeline.Orderly.start wire) moves
  have hkept : ∀ vs, ((start wire).after (moves ++ vs)).pipeline.stats =
      ((start wire).after moves).pipeline.stats := by
    intro vs
    rw [after_append]
    exact (stopped_after ho hw vs).2
  refine ⟨hw, closed_of_stopped wire hw, hkept, ?_⟩
  rintro vs stats' ⟨m, t, he⟩
  have ho' := orderly_after (Pipeline.Orderly.start wire) (c := start wire) (moves ++ vs)
  rw [(ended_cases (stepped ho' m) he).1, hkept]

/-- A shutdown call returns the counters it finds. They are final, exactly unless the call that waited
for the worker was given up and the worker still goes on. -/
theorem returned_final_iff (wire : String) {moves : List Move} {stats : Stats}
    (hopen : .letGo ∉ moves) (h : (start wire).Returns moves stats) :
    stats = ((start wire).after moves).pipeline.stats ∧
      ((start wire).Final moves stats ↔
        ¬ ((start wire).Forsaken moves ∧ ((start wire).after moves).pipeline.worker ≠ .stopped)) := by
  obtain ⟨m, t, he⟩ := h
  have ho : ((start wire).after moves).pipeline.Orderly :=
    orderly_after (Pipeline.Orderly.start wire) moves
  obtain ⟨rfl, call, rest, hcalls, -, hwhy⟩ := ended_cases (stepped ho m) he
  refine ⟨rfl, ?_⟩
  constructor
  · rintro hfinal ⟨-, hw⟩
    exact hw hfinal.stopped
  · intro hnot
    apply final_of_stopped
    by_contra hw
    have hforsaken : ¬ (start wire).Forsaken moves := fun hf => hnot ⟨hf, hw⟩
    rcases hwhy with ⟨hwaits, hun⟩ | ⟨-, hstopped⟩
    · have hkeeper := kept_after wire hopen hun hw hforsaken
      rw [Pipeline.keeper_of_cons hcalls] at hkeeper
      simp [hwaits] at hkeeper
    · exact hw hstopped

def parcel : Message := ⟨[⟨"A", "text/plain", [], rfl, rfl⟩]⟩

def lane : Route where
  sender := ⟨"here", rfl⟩
  url := ⟨"there", rfl⟩
  documentType := ⟨"letter", rfl⟩
  process := ⟨"post", rfl⟩
  profile := ⟨"plain", rfl⟩
  role := .consumer
  certificate := ⟨[0], nofun⟩

/-- Two calls overlap and none is given up: the second returns what the first returned. -/
theorem returned_final_overlapping :
    let c := start "wire"
    let moves : List Move := [.enqueue parcel lane, .work, .shutdown ⟨0⟩, .shutdown ⟨5⟩, .attend,
      .finish .accepted, .work, .attend]
    .letGo ∉ moves ∧ c.Returns moves ⟨1, 1, 0, 0⟩ ∧
      (⟨1, 1, 0, 0⟩ : Stats) = (c.after moves).pipeline.stats ∧
      (c.Final moves ⟨1, 1, 0, 0⟩ ↔
        ¬ (c.Forsaken moves ∧ (c.after moves).pipeline.worker ≠ .stopped)) := by
  intro c moves
  have hopen : .letGo ∉ moves := by simp [moves]
  have hreturns : c.Returns moves ⟨1, 1, 0, 0⟩ := ⟨.attend, 1, List.mem_singleton.2 rfl⟩
  exact ⟨hopen, hreturns, returned_final_iff "wire" hopen hreturns⟩

/-- The first call is given up while the message is on its way. The second one returns at once, and the
counters move on behind it. -/
theorem returned_too_early :
    let c := start "wire"
    let moves : List Move := [.enqueue parcel lane, .work, .shutdown ⟨0⟩, .attend, .cancel 0,
      .shutdown ⟨0⟩]
    c.Returns moves ⟨1, 0, 0, 0⟩ ∧ ¬ c.Final moves ⟨1, 0, 0, 0⟩ ∧
      (c.after (moves ++ [.attend, .finish .accepted])).pipeline.stats = ⟨1, 1, 0, 0⟩ := by
  refine ⟨⟨.attend, 1, List.mem_singleton.2 rfl⟩, fun hfinal => ?_, rfl⟩
  have hstopped := hfinal.stopped
  exact absurd hstopped (by decide)

end Course

end MessageExchange.Outbound

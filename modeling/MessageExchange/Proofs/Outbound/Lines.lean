import MessageExchange.Outbound.Line
import MessageExchange.Proofs.Outbound.Replay

/-! What a line does is a run of its pipeline, so its wire carries the accepted messages in order, and
what it logs replays the run. -/

namespace MessageExchange

def Effect.event? : Effect → Option Event
  | logged _ event => some event
  | _ => none

namespace Wire

theorem sends_attempt {w w' : Wire} {i : Outbound.Item} {seed : Nat} {pushes : List Push}
    {o : Outbound.Outcome} (hw : w.tells = true) (h : w.attempt i seed = some (w', pushes, o)) :
    w'.tells = true ∧ w'.sends = w.sends ++ [transmission i] := by
  unfold tells at hw
  unfold attempt at h
  split at hw
  next b r s held hnature =>
    simp only [hnature] at h
    split_ifs at h
    cases h
    exact ⟨by simp [tells, remember, hnature], rfl⟩
  next => cases hw

theorem sends_hold (w : Wire) (id : String) :
    (w.hold id).tells = w.tells ∧ (w.hold id).sends = w.sends := by
  unfold hold tells
  cases hnature : w.nature <;> simp [hnature]

theorem sends_release (w : Wire) (id : Option String) :
    (w.release id).tells = w.tells ∧ (w.release id).sends = w.sends := by
  unfold release tells
  cases hnature : w.nature <;> simp [hnature]

end Wire

namespace Outbound

open Correlation (Ticket)

namespace Course

variable {c : Course}

/-- Some moves lead from one course to the other; on the way these messages are accepted, these sends
end, and this is logged. -/
def Leads (c c' : Course) (accepted : List (Message × Route)) (finished : List (Item × Outcome))
    (log : List Event) : Prop :=
  ∃ moves, c.after moves = c' ∧ c.accepted moves = accepted ∧ c.finished moves = finished ∧
    c.log moves = log

theorem Leads.refl (c : Course) : c.Leads c [] [] [] := ⟨[], rfl, rfl, rfl, rfl⟩

theorem Leads.step {c' : Course} {m : Move} {notes : List Note} {events : List Event}
    (hs : c.step m = (c', notes)) (hsaid : c.said m = events) :
    c.Leads c' (notes.filterMap Note.accepted?) (notes.filterMap Note.finished?) events := by
  have hnotes : c.notes [m] = notes := by rw [Course.notes, Course.notes, List.append_nil, hs]
  refine ⟨[m], congrArg Prod.fst hs, ?_, ?_, ?_⟩
  · rw [Course.accepted, hnotes]
  · rw [Course.finished, hnotes]
  · rw [Course.log, Course.log, List.append_nil, hsaid]

theorem Leads.trans {c' c'' : Course} {accepted accepted' : List (Message × Route)}
    {finished finished' : List (Item × Outcome)} {log log' : List Event}
    (h1 : c.Leads c' accepted finished log) (h2 : c'.Leads c'' accepted' finished' log') :
    c.Leads c'' (accepted ++ accepted') (finished ++ finished') (log ++ log') := by
  obtain ⟨us, rfl, rfl, rfl, rfl⟩ := h1
  obtain ⟨vs, rfl, rfl, rfl, rfl⟩ := h2
  refine ⟨us ++ vs, after_append c us vs, ?_, ?_, log_append c us vs⟩
  · rw [Course.accepted, notes_append, List.filterMap_append]
    rfl
  · rw [Course.finished, notes_append, List.filterMap_append]
    rfl

theorem quiet_taken (p p' : Pipeline) :
    (p.taken p').filterMap Note.accepted? = [] ∧ (p.taken p').filterMap Note.finished? = [] := by
  unfold Pipeline.taken
  split
  · exact ⟨rfl, rfl⟩
  · simp only [List.filterMap_map]
    exact ⟨List.filterMap_eq_nil_iff.2 fun _ _ => rfl, List.filterMap_eq_nil_iff.2 fun _ _ => rfl⟩

theorem leads_work {p : Pipeline} {events : List Event} (hw : c.pipeline.work = some (p, events)) :
    c.Leads { c with pipeline := p } [] [] events := by
  have hstep : c.step .work = ({ c with pipeline := p }, c.pipeline.taken p) := by
    simp only [Course.step, hw]
  obtain ⟨hnone, hquiet⟩ := quiet_taken c.pipeline p
  have hsaid : c.said .work = events := by simp only [said, hw]
  have hleads := Leads.step hstep hsaid
  rwa [hnone, hquiet] at hleads

theorem leads_finish {i : Item} (hsending : c.pipeline.worker = .sending i) (o : Outcome) :
    c.Leads { c with pipeline := (c.pipeline.account i o).1 } [] [(i, o)]
      (c.pipeline.account i o).2 := by
  have hstep : c.step (.finish o) =
      ({ c with pipeline := (c.pipeline.account i o).1 }, [.finished i o]) := by
    simp only [Course.step, hsending]
  exact Leads.step hstep (by simp only [said, hsending])

theorem leads_attend {p : Pipeline} {events : List Event} {ended : Option (Ticket × Stats)}
    (ha : c.pipeline.attend c.waiting = some (p, events, ended)) :
    c.Leads { c with pipeline := p } [] [] events := by
  have hstep : c.step .attend =
      ({ c with pipeline := p }, ended.toList.map fun e => .ended e.1 e.2) := by
    simp only [Course.step, ha]
  have hsaid : c.said .attend = events := by simp only [said, ha]
  cases ended with
  | none => exact Leads.step hstep hsaid
  | some e => exact Leads.step hstep hsaid

end Course

namespace Line

open Course (Leads)

def course (l : Line) : Course := ⟨l.waiting, l.pipeline, l.next⟩

theorem events_logged (site : Site) (events : List Event) :
    (events.map (Effect.logged site)).filterMap Effect.event? = events := by
  rw [List.filterMap_map]
  exact List.filterMap_some

/-- The moves of a worker with a wire: each send that ends is remembered by a wire that tells. -/
theorem exists_drive (n : Nat) (c : Course) (w : Wire) :
    ∃ finished, c.Leads
        { c with pipeline := (Pipeline.drive attempt n w c.pipeline).2.1 } [] finished
        ((Pipeline.drive attempt n w c.pipeline).2.2.filterMap Effect.event?) ∧
      (w.tells = true → (Pipeline.drive attempt n w c.pipeline).1.tells = true ∧
        (Pipeline.drive attempt n w c.pipeline).1.sends =
          w.sends ++ finished.map fun e => Wire.transmission e.1) := by
  induction n generalizing c w with
  | zero => exact ⟨[], .refl c, fun hw => ⟨hw, (List.append_nil _).symm⟩⟩
  | succ n ih =>
    unfold Pipeline.drive
    split
    next i hsending =>
      split
      next => exact ⟨[], .refl c, fun hw => ⟨hw, (List.append_nil _).symm⟩⟩
      next w' o during hattempt =>
        rw [attempt, Option.map_eq_some_iff] at hattempt
        obtain ⟨⟨w₁, pushes, o₁⟩, hsent, heq⟩ := hattempt
        cases heq
        obtain ⟨finished, hleads, hsends⟩ := ih { c with pipeline := (c.pipeline.account i o).1 } w'
        refine ⟨(i, o) :: finished, ?_, fun hw => ?_⟩
        · have hfinished := (Course.leads_finish hsending o).trans hleads
          rw [← events_logged .worker (c.pipeline.account i o).2, ← List.filterMap_append] at hfinished
          exact hfinished
        obtain ⟨htells, hgrown⟩ := Wire.sends_attempt hw hsent
        obtain ⟨htells', hgrown'⟩ := hsends htells
        refine ⟨htells', hgrown'.trans ?_⟩
        rw [hgrown, List.append_assoc]
        rfl
    next hnot =>
      split
      next => exact ⟨[], .refl c, fun hw => ⟨hw, (List.append_nil _).symm⟩⟩
      next p events hwork =>
        obtain ⟨finished, hleads, hsends⟩ := ih { c with pipeline := p } w
        refine ⟨finished, ?_, hsends⟩
        have hworked := (Course.leads_work hwork).trans hleads
        rw [← events_logged .worker events, ← List.filterMap_append] at hworked
        exact hworked

theorem leads_attendAll (n : Nat) (c : Course) :
    c.Leads { c with pipeline := (c.pipeline.attendAll c.waiting n).1 } [] []
      (c.pipeline.attendAll c.waiting n).2.1 := by
  induction n generalizing c with
  | zero => exact .refl c
  | succ n ih =>
    unfold Pipeline.attendAll
    split
    next => exact .refl c
    next p events ended hattend => exact (Course.leads_attend hattend).trans (ih { c with pipeline := p })

def admitted (l : Line) : Act → List (Message × Route)
  | .enqueue m r => if (l.pipeline.enqueue m r).1.isOk then [(m, r)] else []
  | _ => []

theorem leads_act (l : Line) (a : Act) :
    l.course.Leads (l.act a).1.course (l.admitted a) []
      ((l.act a).2.2.filterMap Effect.event?) := by
  cases a with
  | enqueue m r =>
    rcases henqueue : l.pipeline.enqueue m r with ⟨fault | done, p, events⟩
    all_goals
      have hsaid : l.course.said (.enqueue m r) =
          (events.map (Effect.logged .caller)).filterMap Effect.event? := by
        rw [events_logged]
        simp only [Course.said, course, henqueue]
    · have hstep : l.course.step (.enqueue m r) = (⟨l.waiting, p, l.next⟩, [.refused fault]) := by
        simp only [Course.step, course, henqueue]
      simp only [act, admitted, henqueue]
      exact Leads.step hstep hsaid
    · have hstep : l.course.step (.enqueue m r) = (⟨l.waiting, p, l.next⟩, [.accepted m r]) := by
        simp only [Course.step, course, henqueue]
      simp only [act, admitted, henqueue]
      exact Leads.step hstep hsaid
  | shutdown drain => exact ⟨[.shutdown drain], rfl, rfl, rfl, rfl⟩
  | cancel t =>
    simp only [act, admitted]
    split_ifs with hpending
    · have hstep : l.course.step (.cancel t) =
          ({ l.course with pipeline := l.pipeline.cancel t }, []) := if_pos hpending
      exact Leads.step hstep rfl
    · exact .refl l.course
  | advance span =>
    refine ⟨[.pass span, .expire], rfl, rfl, rfl, ?_⟩
    simp only [act, events_logged]
    exact List.append_nil _
  | hold id => exact .refl l.course
  | release id => exact .refl l.course
  | letGo => exact ⟨[.letGo], rfl, rfl, rfl, rfl⟩

theorem wire_act (l : Line) (a : Act) :
    (l.act a).1.wire.tells = l.wire.tells ∧ (l.act a).1.wire.sends = l.wire.sends := by
  cases a with
  | enqueue m r =>
    simp only [act]
    split <;> exact ⟨rfl, rfl⟩
  | shutdown drain => exact ⟨rfl, rfl⟩
  | cancel t =>
    simp only [act]
    split_ifs <;> exact ⟨rfl, rfl⟩
  | advance span => exact ⟨rfl, rfl⟩
  | hold id => exact Wire.sends_hold l.wire id
  | release id => exact Wire.sends_release l.wire id
  | letGo => exact Wire.sends_release l.wire none

theorem exists_settle (l : Line) :
    ∃ finished, l.course.Leads l.settle.1.course [] finished
        (l.settle.2.filterMap Effect.event?) ∧
      (l.wire.tells = true → l.settle.1.wire.tells = true ∧ l.settle.1.wire.sends =
        l.wire.sends ++ finished.map fun e => Wire.transmission e.1) := by
  obtain ⟨finished, hdriven, hsends⟩ := exists_drive l.pipeline.bound l.course l.wire
  rcases hdrive : Pipeline.drive attempt l.pipeline.bound l.wire l.pipeline with ⟨w, p, worked⟩
  rcases hattend : p.attendAll l.waiting (2 * p.calls.length + 1) with ⟨q, events, ended⟩
  have hsettle : l.settle.1 = { l with wire := w, pipeline := q } := by
    simp only [settle, hdrive, hattend]
  have hlog : l.settle.2.filterMap Effect.event? = worked.filterMap Effect.event? ++ events := by
    have hended : (ended.map fun e => Effect.stopped e.1 (.ok e.2)).filterMap Effect.event? = [] :=
      List.filterMap_eq_nil_iff.2 fun effect heffect => by
        obtain ⟨e, -, rfl⟩ := List.mem_map.1 heffect
        rfl
    simp only [settle, hdrive, hattend, List.filterMap_append, events_logged, hended, List.append_nil]
  have hdrive' : Pipeline.drive attempt l.pipeline.bound l.wire l.course.pipeline = (w, p, worked) :=
    hdrive
  have hattended := leads_attendAll (2 * p.calls.length + 1) { l.course with pipeline := p }
  have hattend' : Pipeline.attendAll l.course.waiting (2 * p.calls.length + 1) p = (q, events, ended) :=
    hattend
  rw [hdrive'] at hdriven hsends
  simp only [hattend'] at hattended
  have hleads := hdriven.trans hattended
  rw [List.append_nil finished] at hleads
  rw [hsettle, hlog]
  exact ⟨finished, hleads, hsends⟩

theorem step_eq_settle (l : Line) (a : Act) :
    (l.step a).1 = (l.act a).1.settle.1 ∧ (l.step a).2.2 = (l.act a).2.2 ++ (l.act a).1.settle.2 := by
  simp only [step, and_self]

def after (l : Line) (acts : List Act) : Line := acts.foldl (fun l a => (l.step a).1) l

def accepted (l : Line) : List Act → List (Message × Route)
  | [] => []
  | a :: rest => l.admitted a ++ (l.step a).1.accepted rest

def log (l : Line) : List Act → List Event
  | [] => []
  | a :: rest => (l.step a).2.2.filterMap Effect.event? ++ (l.step a).1.log rest

theorem exists_step (l : Line) (a : Act) :
    ∃ finished, l.course.Leads (l.step a).1.course (l.admitted a) finished
        ((l.step a).2.2.filterMap Effect.event?) ∧
      (l.wire.tells = true → (l.step a).1.wire.tells = true ∧ (l.step a).1.wire.sends =
        l.wire.sends ++ finished.map fun e => Wire.transmission e.1) := by
  obtain ⟨htells, hsame⟩ := wire_act l a
  obtain ⟨finished, hsettle, hsends⟩ := exists_settle (l.act a).1
  have hleads := (leads_act l a).trans hsettle
  obtain ⟨hstep, heffects⟩ := step_eq_settle l a
  rw [List.append_nil, List.nil_append, ← List.filterMap_append, ← heffects] at hleads
  rw [htells, hsame] at hsends
  rw [hstep]
  exact ⟨finished, hleads, hsends⟩

theorem exists_after (l : Line) (acts : List Act) :
    ∃ finished, l.course.Leads (l.after acts).course (l.accepted acts) finished (l.log acts) ∧
      (l.wire.tells = true → (l.after acts).wire.sends =
        l.wire.sends ++ finished.map fun e => Wire.transmission e.1) := by
  induction acts generalizing l with
  | nil => exact ⟨[], .refl l.course, fun _ => (List.append_nil _).symm⟩
  | cons a rest ih =>
    obtain ⟨finished, hstep, hsends⟩ := exists_step l a
    obtain ⟨finished', hrest, hsends'⟩ := ih (l.step a).1
    refine ⟨finished ++ finished', hstep.trans hrest, fun hw => ?_⟩
    obtain ⟨htells, hgrown⟩ := hsends hw
    refine (hsends' htells).trans ?_
    rw [hgrown, List.map_append, List.append_assoc]

/-- What a wire remembers is what was accepted, in order, from the side of each route. -/
theorem sends_in_order (wire : Wire) (acts : List Act) (hw : wire.tells = true)
    (hfresh : wire.sends = []) :
    ((start wire).after acts).wire.sends <+:
      ((start wire).accepted acts).map fun a => ⟨a.2.role, a.1.id, a.2.url.val, a.1.size⟩ := by
  obtain ⟨finished, ⟨moves, -, haccepted, rfl, -⟩, hsends⟩ := exists_after (start wire) acts
  have hasked := (Course.finished_first wire.id moves).trans (Course.invoked_first wire.id moves)
  have hremembered := hasked.map Wire.transmission
  rw [Course.transmissions_numbered, List.map_map] at hremembered
  have hnothing : (start wire).wire.sends = [] := hfresh
  rw [hsends hw, ← haccepted, hnothing, List.nil_append]
  exact hremembered

theorem replays_after (wire : Wire) (acts : List Act) :
    Replays wire.id ((start wire).accepted acts) ((start wire).after acts).pipeline.stats
      ((start wire).log acts) := by
  obtain ⟨-, ⟨moves, hafter, haccepted, -, hlog⟩, -⟩ := exists_after (start wire) acts
  have hreplays := Course.replays_after wire.id moves
  have hstats : ((Course.start wire.id).after moves).pipeline.stats =
      ((start wire).after acts).pipeline.stats := congrArg (·.pipeline.stats) hafter
  rw [← haccepted, ← hlog, ← hstats]
  exact hreplays

end Line

/-- The log replays every run of a pipeline, whatever sends come to and whenever messages, shutdown
calls and clocks come in between. What a line on its own logs is the log of such a run. -/
theorem log_replays :
    (∀ (wire : String) (moves : List Move),
      let c := Course.start wire
      Replays wire (c.accepted moves) (c.after moves).pipeline.stats (c.log moves)) ∧
    ∀ (wire : Wire) (acts : List Line.Act),
      let l := Line.start wire
      Replays wire.id (l.accepted acts) (l.after acts).pipeline.stats (l.log acts) :=
  ⟨Course.replays_after, Line.replays_after⟩

end Outbound

end MessageExchange

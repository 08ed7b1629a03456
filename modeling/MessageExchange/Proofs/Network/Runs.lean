import MessageExchange.Proofs.Network.Interleaving
import MessageExchange.Proofs.Network.Loopback

/-! Whatever a network does is traffic over its wires, as long as no gateway is let go of. So what holds of all
traffic holds of every network, and what holds along runs of a gateway holds of its gateways. -/

namespace MessageExchange.Network

variable {net : Network}

theorem catalog_range (net : Network) :
    net.catalog (List.range net.wires.length) = net.wires.zipIdx.map fun p => (p.1.id, p.2) := by
  rw [catalog, List.range_eq_range']
  suffices h : ∀ done rest : List Wire,
      ((List.range' done.length rest.length).filterMap fun w =>
        ((done ++ rest)[w]?).map fun wire => (wire.id, w)) =
          (rest.zipIdx done.length).map fun p => (p.1.id, p.2) from h [] net.wires
  intro done rest
  induction rest generalizing done with
  | nil => rfl
  | cons wire rest ih =>
    have hlast := ih (done ++ [wire])
    rw [List.length_append, List.length_singleton, List.append_assoc, List.singleton_append] at hlast
    rw [List.length_cons, List.range'_succ, List.zipIdx_cons, List.map_cons, ← hlast]
    simp

theorem leads_start {choice : WireChoice} {wires : List Wire} {effects : List Effect}
    (h : start choice wires = (.ok net, effects)) :
    (Traffic.start wires ⟨0⟩ Instant.dawn 0 0).Leads net.resting := by
  have hstart : (start choice wires).1 = .ok net := congrArg Prod.fst h
  simp only [start] at hstart
  cases hr : (Registry.create choice (wires.zipIdx.map fun p => (p.1.id, p.2))).1 with
  | error fault => simp [hr, Except.map] at hstart
  | ok registry =>
    simp only [hr, Except.map, Except.ok.injEq] at hstart
    subst hstart
    refine ⟨[.furnish choice (List.range wires.length)], ?_⟩
    have hcatalog := catalog_range (Traffic.start wires ⟨0⟩ Instant.dawn 0 0).net
    simp only [Traffic.start] at hcatalog
    simp only [Traffic.after, List.foldl_cons, List.foldl_nil, Traffic.step, Traffic.move, Traffic.start,
      hcatalog, hr]
    rfl

theorem formed_start {choice : WireChoice} {wires : List Wire} {effects : List Effect}
    (h : start choice wires = (.ok net, effects)) : net.resting.Formed := by
  refine Traffic.Formed.leads ⟨fun i g hi => ?_, fun i g hi => ?_, fun i _ => ⟨rfl, rfl⟩⟩ (leads_start h)
  · cases hi
  · cases hi

section

variable {choice : WireChoice} {wires : List Wire} {effects : List Effect}
  (h : start choice wires = (.ok net, effects)) {acts : List Act} (hkept : ∀ i, .letGo i ∉ acts)

include h hkept

/-- What a network does is traffic over its wires. -/
theorem interleaved : ∃ moves,
    (Traffic.start wires ⟨0⟩ Instant.dawn 0 0).after moves = (net.run acts).resting :=
  (leads_start h).trans (leads_run (formed_start h) hkept)

theorem reached_run : (net.run acts).Reached :=
  ((formed_start h).leads (leads_run (formed_start h) hkept)).reached

/-- Whatever a network does, no gateway that is kept drops a message, and each message that one accepted is
sent, failed, queued, or on its way. -/
theorem counters_run {g : Gateway} (hg : g ∈ (net.run acts).gateways) :
    g.pipeline.stats.dropped = 0 ∧
      g.pipeline.stats.enqueued = g.pipeline.stats.sent + g.pipeline.stats.failed +
        g.pipeline.queue.length + g.pipeline.current.length := by
  obtain ⟨i, hi⟩ := List.mem_iff_getElem?.1 hg
  obtain ⟨notes, hsound⟩ := (reached_run h hkept i g hi).sound
  have hdropped : g.pipeline.stats.dropped = 0 := hsound.dropped_eq
  have hall := Outbound.Course.enqueued_eq hsound.balanced hsound.counted
  rw [show ((net.run acts).course g).gateway = g from rfl, hdropped, Nat.add_zero] at hall
  exact ⟨hdropped, hall⟩

variable (hfree : ∀ w ∈ wires, w.attached = none)

include hfree

theorem governed_run :
    ∃ notes, (net.run acts).resting.Governed notes ∧ (net.run acts).resting.Acknowledging notes := by
  obtain ⟨moves, hmoves⟩ := interleaved h hkept
  have hstart := Traffic.Governed.start hfree ⟨0⟩ Instant.dawn 0 0
  rw [← hmoves]
  exact ⟨_, hstart.run moves, (Traffic.Acknowledging.start wires ⟨0⟩ Instant.dawn 0 0).run hstart moves⟩

theorem owner_run {w i : Nat} {wire : Wire} (hw : (net.run acts).wires[w]? = some wire)
    (ha : wire.attached = some i) : ∃ g, (net.run acts).gateways[i]? = some g ∧ g.wire = w := by
  obtain ⟨notes, hgoverned, -⟩ := governed_run h hkept hfree
  obtain ⟨g, hi, hwire, -⟩ := (hgoverned.owned.attached w wire i hw).1 ha
  exact ⟨g, hi, hwire⟩

/-- Of the gateways on one wire, the worker of one at most has not stopped. -/
theorem sole_run {i j : Nat} {g g' : Gateway} (hi : (net.run acts).gateways[i]? = some g)
    (hj : (net.run acts).gateways[j]? = some g') (hwire : g'.wire = g.wire)
    (hworks : g.pipeline.worker ≠ .stopped) (hworks' : g'.pipeline.worker ≠ .stopped) : i = j := by
  obtain ⟨notes, hgoverned, -⟩ := governed_run h hkept hfree
  obtain ⟨wire, hw⟩ := hgoverned.owned.bound i g hi
  have hfirst := hgoverned.owner_of_working hi hworks hw
  have hsecond := hgoverned.owner_of_working hj hworks' (hwire ▸ hw)
  exact Option.some.inj (hfirst.symm.trans hsecond)

theorem unfailed_run {i : Nat} {g : Gateway} (hi : (net.run acts).gateways[i]? = some g)
    (hloop : Traffic.Looped (net.run acts) g.wire) : g.pipeline.stats.failed = 0 := by
  obtain ⟨notes, hgoverned, hacknowledging⟩ := governed_run h hkept hfree
  have hcounted := (hgoverned.tracked i g hi).sound.counted
  have hsent := hacknowledging.unfailed hgoverned hi hloop
  refine (congrArg Stats.failed hcounted).trans (List.countP_eq_zero.2 fun e he => ?_)
  simp [hsent e he]

end

end MessageExchange.Network

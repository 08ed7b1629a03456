import MessageExchange.Registry
import Mathlib.Data.String.Basic
import Mathlib.Tactic

/-! What a registry holds, whatever its catalog went through: the content that the catalog had when it was
last scanned with success. A catalog that cannot be used leaves no trace, and look-ups change nothing. -/

namespace MessageExchange

namespace Shelf

variable {K α : Type} [DecidableEq K]

theorem places_put {s : Shelf K α} {k : K} (hk : k ∉ s.keys) (a : α) :
    (s.put k a).places = s.places ++ [(k, a)] := by
  have hkept : (s.erase k).places = s.places := by
    unfold erase revise
    dsimp only
    rw [List.filterMap_eq_map_iff_forall_eq_some.2 (fun p hp => ?_), List.map_id]
    have hne : p.1 ≠ k := by
      rintro rfl
      exact hk (List.mem_map.2 ⟨p, hp, rfl⟩)
    simp [hne]
  exact congrArg (· ++ [(k, a)]) hkept

end Shelf

namespace Registry

variable {ι : Type}

/-- A catalog that can be used: it is not empty, and no identifier is named twice. -/
def Usable (catalog : List (String × ι)) : Prop :=
  catalog ≠ [] ∧ (catalog.map Prod.fst).Nodup

theorem firstRepeated_eq_none_iff {before ids : List String} :
    firstRepeated before ids = none ↔ ids.Nodup ∧ ∀ id ∈ ids, id ∉ before := by
  induction ids generalizing before with
  | nil => simp [firstRepeated]
  | cons id rest ih =>
    unfold firstRepeated
    split_ifs with hid
    · simp [hid]
    · rw [ih, List.nodup_cons, List.forall_mem_cons]
      constructor
      · rintro ⟨hrest, hnew⟩
        have hother : id ∉ rest := fun hmem => hnew id hmem List.mem_cons_self
        exact ⟨⟨hother, hrest⟩, hid, fun x hx hb => hnew x hx (List.mem_cons_of_mem id hb)⟩
      · rintro ⟨⟨hother, hrest⟩, -, hnew⟩
        refine ⟨hrest, fun x hx hb => ?_⟩
        rcases List.mem_cons.1 hb with rfl | hb
        · exact hother hx
        · exact hnew x hx hb

theorem places_foldl {catalog : List (String × ι)} {s : Shelf String ι}
    (h : (s.places ++ catalog).map Prod.fst |>.Nodup) :
    (catalog.foldl (fun s p => s.put p.1 p.2) s).places = s.places ++ catalog := by
  induction catalog generalizing s with
  | nil => exact (List.append_nil _).symm
  | cons p rest ih =>
    have hnew : p.1 ∉ s.keys := by
      intro hmem
      rw [List.map_append, List.map_cons] at h
      exact (List.nodup_append.1 h).2.2 p.1 hmem p.1 List.mem_cons_self rfl
    have hput := Shelf.places_put hnew p.2
    have hsame : (s.put p.1 p.2).places ++ rest = s.places ++ p :: rest := by
      rw [hput, List.append_assoc]
      rfl
    rw [List.foldl_cons, ih (by rw [hsame]; exact h), hsame]

theorem shelve_cases (catalog : List (String × ι)) :
    (Usable catalog ∧ ∃ s, shelve catalog = .ok s ∧ s.places = catalog) ∨
      (¬ Usable catalog ∧ ∃ cause, shelve catalog = .error cause) := by
  unfold shelve
  cases catalog with
  | nil => exact .inr ⟨fun h => h.1 rfl, .noWires, rfl⟩
  | cons p rest =>
    rw [if_neg (by simp)]
    cases hr : firstRepeated [] ((p :: rest).map Prod.fst) with
    | some id =>
      refine .inr ⟨fun h => ?_, .duplicateWire id, rfl⟩
      rw [firstRepeated_eq_none_iff.2 ⟨h.2, fun _ _ => List.not_mem_nil⟩] at hr
      cases hr
    | none =>
      have hnodup := (firstRepeated_eq_none_iff.1 hr).1
      exact .inl ⟨⟨List.cons_ne_nil p rest, hnodup⟩, _, rfl, places_foldl hnodup⟩

theorem rescan_cases (r : Registry ι) (catalog : List (String × ι)) :
    (Usable catalog ∧ ∃ s : Shelf String ι, s.places = catalog ∧
      r.rescan catalog = (.ok catalog.length, { r with wires := s },
        [.registryReady catalog.length r.choice.fallback])) ∨
      (¬ Usable catalog ∧ ∃ cause, r.rescan catalog =
        (.error (.configuration cause), r, [complaint cause])) := by
  unfold rescan
  rcases shelve_cases catalog with ⟨husable, s, hs, hplaces⟩ | ⟨hunusable, cause, hs⟩
  · refine .inl ⟨husable, s, hplaces, ?_⟩
    have hsize : s.size = catalog.length := congrArg List.length hplaces
    rw [hs]
    dsimp only
    rw [hsize]
  · refine .inr ⟨hunusable, cause, ?_⟩
    rw [hs]

theorem create_eq_ok_iff {choice : WireChoice} {catalog : List (String × ι)} {r : Registry ι} :
    (create choice catalog).1 = .ok r ↔
      Usable catalog ∧ r.choice = choice ∧ r.wires.places = catalog := by
  unfold create
  rcases rescan_cases ⟨choice, Shelf.empty⟩ catalog with ⟨husable, s, hplaces, hr⟩ | ⟨hunusable, cause, hr⟩
  · rw [hr]
    constructor
    · intro h
      obtain rfl := Except.ok.inj h
      exact ⟨husable, rfl, hplaces⟩
    · rintro ⟨-, rfl, hsame⟩
      obtain ⟨choice, ⟨places, distinct⟩⟩ := r
      obtain ⟨places', distinct'⟩ := s
      dsimp only at hsame hplaces
      subst hsame hplaces
      rfl
  · rw [hr]
    constructor
    · intro h
      cases h
    · rintro ⟨h, -⟩
      exact absurd h hunusable

theorem mem_of_create {choice : WireChoice} {catalog : List (String × ι)} {r : Registry ι}
    (h : (create choice catalog).1 = .ok r) {id : String} {wire : ι} (hw : r.wires.get? id = some wire) :
    (id, wire) ∈ catalog := by
  obtain ⟨-, -, hplaces⟩ := create_eq_ok_iff.1 h
  rw [← hplaces]
  exact Shelf.mem_places_iff.2 hw

theorem get?_of_resolve {r : Registry ι} {selected : Option String} {id : String} {wire : ι}
    (h : r.resolve selected = some (id, wire)) : r.wires.get? id = some wire := by
  simp only [resolve, Option.or_eq_some_iff, Option.bind_eq_some_iff, Option.map_eq_some_iff,
    Prod.mk.injEq] at h
  rcases h with ⟨id', -, w, hw, rfl, rfl⟩ | ⟨-, w, hw, rfl, rfl⟩
  · exact hw
  · exact hw

theorem resolve_eq_none_iff {r : Registry ι} {selected : Option String} :
    r.resolve selected = none ↔
      (∀ id, selected = some id → r.wires.get? id = none) ∧ r.wires.get? r.choice.fallback = none := by
  simp only [resolve, Option.or_eq_none_iff, Option.map_eq_none_iff, Option.bind_eq_none_iff]

/-- What a look-up comes to among the wires `held`: the one asked for, or else the default one. -/
inductive Finds (held : List (String × ι)) (fallback : String) :
    Option String → Option (String × ι) → Prop
  | named {id wire} (there : (id, wire) ∈ held) : Finds held fallback (some id) (some (id, wire))
  | default {id wire} (unknown : ∀ name, id = some name → name ∉ held.map Prod.fst)
    (there : (fallback, wire) ∈ held) : Finds held fallback id (some (fallback, wire))
  | nothing {id} (unknown : ∀ name, id = some name → name ∉ held.map Prod.fst)
    (undefaulted : fallback ∉ held.map Prod.fst) : Finds held fallback id none

theorem Finds.of_none {held : List (String × ι)} {fallback : String} {id : Option String}
    (h : Finds held fallback id none) :
    (∀ name, id = some name → name ∉ held.map Prod.fst) ∧ fallback ∉ held.map Prod.fst := by
  cases h with
  | nothing hunknown hundefaulted => exact ⟨hunknown, hundefaulted⟩

theorem Finds.of_some {held : List (String × ι)} {fallback : String} {id : Option String}
    {w : String × ι} (h : Finds held fallback id (some w)) :
    w.1 ∈ held.map Prod.fst ∧
      (id = some w.1 ∨ (∀ name, id = some name → name ∉ held.map Prod.fst) ∧ w.1 = fallback) := by
  cases h with
  | named hthere => exact ⟨List.mem_map_of_mem hthere, .inl rfl⟩
  | default hunknown hthere => exact ⟨List.mem_map_of_mem hthere, .inr ⟨hunknown, rfl⟩⟩

theorem finds_resolve (r : Registry ι) (id : Option String) :
    Finds r.wires.places r.choice.fallback id (r.resolve id) := by
  have hdefault : (∀ name, id = some name → r.wires.get? name = none) →
      Finds r.wires.places r.choice.fallback id
        ((r.wires.get? r.choice.fallback).map (r.choice.fallback, ·)) := by
    intro hnone
    have hunknown : ∀ name, id = some name → name ∉ r.wires.places.map Prod.fst := fun name hname =>
      Shelf.get?_eq_none_iff.1 (hnone name hname)
    cases hd : r.wires.get? r.choice.fallback with
    | none => exact .nothing hunknown (Shelf.get?_eq_none_iff.1 hd)
    | some wire => exact .default hunknown (Shelf.mem_places_iff.2 hd)
  unfold resolve
  cases id with
  | none => exact hdefault nofun
  | some name =>
    cases hn : r.wires.get? name with
    | none =>
      simp only [Option.bind_some, hn, Option.map_none, Option.none_or]
      apply hdefault
      rintro _ ⟨rfl⟩
      exact hn
    | some wire =>
      simp only [Option.bind_some, hn, Option.map_some, Option.some_or]
      exact .named (Shelf.mem_places_iff.2 hn)

/-- The look-up for the settings fails only where it finds nothing, and says so when it did not find the
wire that was selected. -/
theorem resolveConfigured_cases (r : Registry ι) :
    (r.resolve r.choice.selected = none ∧
      r.resolveConfigured = (.error (.configuration (.defaultWireMissing r.choice.fallback)),
        [.registryUnresolved r.choice.selected r.choice.fallback])) ∨
      ∃ w, r.resolve r.choice.selected = some w ∧ ∃ events, r.resolveConfigured = (.ok w, events) ∧
        ∀ e, e ∈ events ↔
          ∃ name, r.choice.selected = some name ∧ w.1 ≠ name ∧ e = .registryFellBack name w.1 := by
  unfold resolveConfigured
  cases hr : r.resolve r.choice.selected with
  | none => exact .inl ⟨rfl, rfl⟩
  | some w =>
    refine .inr ⟨w, rfl, _, rfl, fun e => ?_⟩
    cases hs : r.choice.selected with
    | none => simp
    | some name =>
      by_cases hname : w.1 = name
      · simp [hname]
      · simp [hname]

structure Configures (choice : WireChoice) (held : List (String × ι))
    (result : Except Fault (String × ι)) (events : List Event) : Prop where
  finds : ∀ w, result = .ok w → Finds held choice.fallback choice.selected (some w)
  fatal : ∀ fault, result = .error fault → ∃ cause, fault = .configuration cause
  fails : (∃ fault, result = .error fault) ↔
    (∀ id, choice.selected = some id → id ∉ held.map Prod.fst) ∧ choice.fallback ∉ held.map Prod.fst
  fallsBack : (∃ e ∈ events, e.name = "registry_fallback_to_default") ↔
    ∃ id, choice.selected = some id ∧ id ∉ held.map Prod.fst ∧ choice.fallback ∈ held.map Prod.fst

theorem configures_resolveConfigured (r : Registry ι) :
    Configures r.choice r.wires.places r.resolveConfigured.1 r.resolveConfigured.2 := by
  have hfinds := finds_resolve r r.choice.selected
  rcases resolveConfigured_cases r with ⟨hnone, hr⟩ | ⟨w, hsome, events, hr, hevents⟩
  · rw [hnone] at hfinds
    obtain ⟨hunknown, hundefaulted⟩ := hfinds.of_none
    rw [hr]
    refine ⟨nofun, ?_, ⟨fun _ => ⟨hunknown, hundefaulted⟩, fun _ => ⟨_, rfl⟩⟩, ?_, ?_⟩
    · rintro fault ⟨rfl⟩
      exact ⟨_, rfl⟩
    · rintro ⟨e, he, hname⟩
      rw [List.mem_singleton.1 he] at hname
      exact absurd hname (by simp [Event.name])
    · rintro ⟨id, -, -, hdefault⟩
      exact absurd hdefault hundefaulted
  · rw [hsome] at hfinds
    obtain ⟨hthere, hwhich⟩ := hfinds.of_some
    rw [hr]
    refine ⟨?_, nofun, ⟨?_, ?_⟩, ?_, ?_⟩
    · rintro w' ⟨rfl⟩
      exact hfinds
    · rintro ⟨fault, hfault⟩
      cases hfault
    · rintro ⟨hunknown, hundefaulted⟩
      rcases hwhich with hnamed | ⟨-, hdefault⟩
      · exact absurd hthere (hunknown w.1 hnamed)
      · exact absurd hthere (hdefault ▸ hundefaulted)
    · rintro ⟨e, he, -⟩
      obtain ⟨name, hselected, hother, -⟩ := (hevents e).1 he
      rcases hwhich with hnamed | ⟨hunknown, hdefault⟩
      · exact absurd (Option.some.inj (hnamed.symm.trans hselected)) hother
      · exact ⟨name, hselected, hunknown name hselected, hdefault ▸ hthere⟩
    · rintro ⟨name, hselected, hunknown, -⟩
      have hother : w.1 ≠ name := by
        rintro rfl
        exact hunknown hthere
      exact ⟨.registryFellBack name w.1, (hevents _).2 ⟨name, hselected, hother, rfl⟩, rfl⟩

theorem identifiers_sorted (r : Registry ι) :
    r.identifiers.Pairwise (· < ·) ∧ ∀ id, id ∈ r.identifiers ↔ id ∈ r.wires.places.map Prod.fst := by
  have hperm : r.identifiers.Perm r.wires.keys := List.mergeSort_perm _ _
  have hdistinct : r.identifiers.Pairwise (· ≠ ·) := hperm.nodup_iff.2 r.wires.distinct
  have hsorted : r.identifiers.Pairwise fun a b => decide (a ≤ b) = true := by
    apply List.pairwise_mergeSort
    · intro a b c hab hbc
      rw [decide_eq_true_eq] at hab hbc ⊢
      exact le_trans hab hbc
    · intro a b
      simpa using le_total a b
  refine ⟨(hsorted.and hdistinct).imp ?_, fun id => hperm.mem_iff⟩
  rintro a b ⟨hle, hne⟩
  rw [decide_eq_true_eq] at hle
  exact lt_of_le_of_ne hle hne

inductive Act (ι : Type)
  /-- The catalog has this content from now on. -/
  | stock (content : List (String × ι))
  | rescan
  | resolve (id : Option String)
  | resolveConfigured
  | identifiers

inductive Answer (ι : Type)
  | stocked
  | scanned (result : Except Fault Nat)
  | resolved (found : Option (String × ι))
  | configured (result : Except Fault (String × ι))
  | listed (ids : List String)

structure Course (ι : Type) where
  registry : Registry ι
  catalog : List (String × ι)

namespace Course

def step (c : Course ι) : Act ι → Course ι × Answer ι × List Event
  | .stock content => ({ c with catalog := content }, .stocked, [])
  | .rescan =>
    let (result, registry, events) := c.registry.rescan c.catalog
    ({ c with registry }, .scanned result, events)
  | .resolve id => (c, .resolved (c.registry.resolve id), [])
  | .resolveConfigured =>
    let (result, events) := c.registry.resolveConfigured
    (c, .configured result, events)
  | .identifiers => (c, .listed c.registry.identifiers, [])

def after (c : Course ι) (acts : List (Act ι)) : Course ι := acts.foldl (fun c a => (c.step a).1) c

end Course

def stocked (content : List (String × ι)) : List (Act ι) → List (String × ι)
  | [] => content
  | .stock content :: rest => stocked content rest
  | _ :: rest => stocked content rest

instance (catalog : List (String × ι)) : Decidable (Usable catalog) :=
  inferInstanceAs (Decidable (_ ∧ _))

/-- What was in the catalog at the last scan that found it usable, `held` being what was before. -/
def lastUsable (content held : List (String × ι)) : List (Act ι) → List (String × ι)
  | [] => held
  | .stock content :: rest => lastUsable content held rest
  | .rescan :: rest => lastUsable content (if Usable content then content else held) rest
  | _ :: rest => lastUsable content held rest

structure Holds (choice : WireChoice) (c : Course ι) (content held : List (String × ι)) : Prop where
  choice : c.registry.choice = choice
  catalog : c.catalog = content
  wires : c.registry.wires.places = held
  usable : Usable held

namespace Holds

variable {choice : WireChoice} {c : Course ι} {content held : List (String × ι)}

theorem rescan (h : Holds choice c content held) :
    Holds choice (c.step .rescan).1 content (if Usable content then content else held) := by
  obtain ⟨rfl, rfl, rfl, husable⟩ := h
  rcases rescan_cases c.registry c.catalog with ⟨hgood, s, hplaces, hr⟩ | ⟨hbad, cause, hr⟩
  · rw [if_pos hgood]
    simp only [Course.step, hr]
    exact ⟨rfl, rfl, hplaces, hgood⟩
  · rw [if_neg hbad]
    simp only [Course.step, hr]
    exact ⟨rfl, rfl, rfl, husable⟩

theorem after (h : Holds choice c content held) (acts : List (Act ι)) :
    Holds choice (c.after acts) (stocked content acts) (lastUsable content held acts) := by
  induction acts generalizing c content held with
  | nil => exact h
  | cons a rest ih =>
    cases a with
    | stock content' => exact ih ⟨h.choice, rfl, h.wires, h.usable⟩
    | rescan => exact ih h.rescan
    | resolve id => exact ih h
    | resolveConfigured => exact ih h
    | identifiers => exact ih h

end Holds

/-- What a registry answers as long as it holds the wires `held` and its catalog has this content. Only a
scan of a usable catalog changes anything. -/
structure Answers (choice : WireChoice) (c : Course ι) (content held : List (String × ι)) : Prop where
  usable : Usable held
  rescanned : Usable content → (c.step .rescan).2 =
    (.scanned (.ok content.length), [.registryReady content.length choice.fallback])
  refused : ¬ Usable content → ∃ cause,
    c.step .rescan = (c, .scanned (.error (.configuration cause)), [complaint cause])
  /-- The identifiers, in ascending order and each once. -/
  listed : ∃ ids, c.step .identifiers = (c, .listed ids, []) ∧ ids.Pairwise (· < ·) ∧
    ∀ id, id ∈ ids ↔ id ∈ held.map Prod.fst
  resolved : ∀ id, ∃ found, c.step (.resolve id) = (c, .resolved found, []) ∧
    Finds held choice.fallback id found
  configured : ∃ result events, c.step .resolveConfigured = (c, .configured result, events) ∧
    Configures choice held result events

namespace Holds

variable {choice : WireChoice} {c : Course ι} {content held : List (String × ι)}

theorem answers (h : Holds choice c content held) : Answers choice c content held where
  usable := h.usable
  rescanned := by
    intro hgood
    obtain ⟨rfl, rfl, -, -⟩ := h
    rcases rescan_cases c.registry c.catalog with ⟨-, s, -, hr⟩ | ⟨hbad, -⟩
    · simp only [Course.step, hr]
    · exact absurd hgood hbad
  refused := by
    intro hbad
    obtain ⟨rfl, rfl, -, -⟩ := h
    rcases rescan_cases c.registry c.catalog with ⟨hgood, -⟩ | ⟨-, cause, hr⟩
    · exact absurd hgood hbad
    · exact ⟨cause, by simp only [Course.step, hr]⟩
  listed := by
    obtain ⟨-, -, rfl, -⟩ := h
    exact ⟨_, rfl, identifiers_sorted c.registry⟩
  resolved := by
    obtain ⟨rfl, -, rfl, -⟩ := h
    exact fun id => ⟨_, rfl, finds_resolve c.registry id⟩
  configured := by
    obtain ⟨rfl, -, rfl, -⟩ := h
    exact ⟨_, _, rfl, configures_resolveConfigured c.registry⟩

end Holds

/-- A registry that could be set up answers, at every moment of every history, from the last content of
its catalog that it could use. -/
theorem answers_last_usable {choice : WireChoice} {first : List (String × ι)} {r : Registry ι}
    (h : (create choice first).1 = .ok r) (acts : List (Act ι)) :
    Answers choice (Course.after ⟨r, first⟩ acts) (stocked first acts)
      (lastUsable first first acts) := by
  obtain ⟨husable, hchoice, hplaces⟩ := create_eq_ok_iff.1 h
  have hstart : Holds choice ⟨r, first⟩ first first := ⟨hchoice, rfl, hplaces, husable⟩
  exact (hstart.after acts).answers

/-- A scan that finds one identifier twice is passed over, the next one brings in a new wire under the
old identifier, and then the catalog runs empty. -/
theorem answers_last_usable_restocked :
    let choice : WireChoice := ⟨some "post", "mail"⟩
    let r : Registry Nat := ⟨choice, Shelf.empty.put "mail" 0⟩
    let acts : List (Act Nat) := [.stock [("mail", 1), ("mail", 2)], .rescan,
      .stock [("mail", 3), ("post", 4)], .rescan, .stock [], .rescan]
    (create choice [("mail", 0)]).1 = .ok r ∧
      Answers choice (Course.after ⟨r, [("mail", 0)]⟩ acts) [] [("mail", 3), ("post", 4)] := by
  intro choice r acts
  have hcreated : (create choice [("mail", 0)]).1 = .ok r := rfl
  exact ⟨hcreated, answers_last_usable hcreated acts⟩

end Registry

end MessageExchange

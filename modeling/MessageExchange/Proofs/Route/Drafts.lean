import MessageExchange.Proofs.Base64.Canonical
import MessageExchange.Route

/-! What comes of a draft. Its fields are looked at one after the other: a text has to be there and must
not be blank, the other fields have to be there. The first flaw is the fault that is reported; a draft
without a flaw is a route, and nothing about its fields is changed on the way. -/

namespace MessageExchange.Route

open Text

def draft (r : Route) : Draft :=
  ⟨some r.sender.val, some r.url.val, some r.documentType.val, some r.process.val, some r.profile.val,
    some r.role, some r.certificate⟩

namespace Draft

def textFlaw (field : String) : Option String → Option BadValue
  | none => some (.absent field)
  | some v => if isBlank v then some (.blank field) else none

/-- What is wrong with a field that only has to be there. -/
def gap {α : Type} (field : String) : Option α → Option BadValue
  | none => some (.absent field)
  | some _ => none

/-- What is wrong with each field, in the order in which they are looked at. -/
def flaws (d : Draft) : List (Option BadValue) :=
  [textFlaw "sender_id" d.sender, textFlaw "endpoint_url" d.url,
    textFlaw "document_type_id" d.documentType, textFlaw "process_id" d.process,
    textFlaw "transport_profile_id" d.profile, gap "peer_role" d.role, gap "certificate" d.certificate]

def firstFlaw (d : Draft) : Option BadValue := d.flaws.findSome? id

theorem filled_cases (field : String) (v : Option String) :
    (∃ cause, textFlaw field v = some cause ∧ filled field v = .error (.invalidArgument cause)) ∨
      ∃ s : Filled, textFlaw field v = none ∧ filled field v = .ok s ∧ v = some s.val := by
  cases v with
  | none => exact .inl ⟨_, rfl, rfl⟩
  | some s =>
    unfold filled
    dsimp only
    split
    next hblank => exact .inl ⟨.blank field, if_pos hblank, rfl⟩
    next hfilled => exact .inr ⟨⟨s, hfilled⟩, if_neg (Bool.eq_false_iff.1 hfilled), rfl, rfl⟩

theorem present_cases {α : Type} (field : String) (v : Option α) :
    (∃ cause, gap field v = some cause ∧ present field v = .error (.invalidArgument cause)) ∨
      ∃ a, gap field v = none ∧ present field v = .ok a ∧ v = some a := by
  cases v with
  | none => exact .inl ⟨_, rfl, rfl⟩
  | some a => exact .inr ⟨a, rfl, rfl, rfl⟩

theorem build_cases (d : Draft) :
    (∃ cause, d.firstFlaw = some cause ∧ d.build = .error (.invalidArgument cause)) ∨
      ∃ r : Route, d.firstFlaw = none ∧ d.build = .ok r ∧ d = r.draft := by
  obtain ⟨sender, url, documentType, process, profile, role, certificate⟩ := d
  simp only [firstFlaw, flaws, build]
  obtain ⟨cause, hflaw, heq⟩ | ⟨s, hs, heq, rfl⟩ := filled_cases "sender_id" sender
  · exact .inl ⟨cause, by simp [hflaw], by rw [heq]; rfl⟩
  rw [heq, ok_bind]
  obtain ⟨cause, hflaw, heq⟩ | ⟨u, hu, heq, rfl⟩ := filled_cases "endpoint_url" url
  · exact .inl ⟨cause, by simp [hs, hflaw], by rw [heq]; rfl⟩
  rw [heq, ok_bind]
  obtain ⟨cause, hflaw, heq⟩ | ⟨t, ht, heq, rfl⟩ := filled_cases "document_type_id" documentType
  · exact .inl ⟨cause, by simp [hs, hu, hflaw], by rw [heq]; rfl⟩
  rw [heq, ok_bind]
  obtain ⟨cause, hflaw, heq⟩ | ⟨p, hp, heq, rfl⟩ := filled_cases "process_id" process
  · exact .inl ⟨cause, by simp [hs, hu, ht, hflaw], by rw [heq]; rfl⟩
  rw [heq, ok_bind]
  obtain ⟨cause, hflaw, heq⟩ | ⟨f, hf, heq, rfl⟩ := filled_cases "transport_profile_id" profile
  · exact .inl ⟨cause, by simp [hs, hu, ht, hp, hflaw], by rw [heq]; rfl⟩
  rw [heq, ok_bind]
  obtain ⟨cause, hflaw, heq⟩ | ⟨side, hside, heq, rfl⟩ := present_cases "peer_role" role
  · exact .inl ⟨cause, by simp [hs, hu, ht, hp, hf, hflaw], by rw [heq]; rfl⟩
  rw [heq, ok_bind]
  obtain ⟨cause, hflaw, heq⟩ | ⟨c, hc, heq, rfl⟩ := present_cases "certificate" certificate
  · exact .inl ⟨cause, by simp [hs, hu, ht, hp, hf, hside, hflaw], by rw [heq]; rfl⟩
  rw [heq, ok_bind]
  exact .inr ⟨⟨s, u, t, p, f, side, c⟩, by simp [hs, hu, ht, hp, hf, hside, hc], rfl, rfl⟩

end Draft

end MessageExchange.Route

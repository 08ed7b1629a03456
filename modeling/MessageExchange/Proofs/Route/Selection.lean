import MessageExchange.Proofs.Route.Drafts
import MessageExchange.Proofs.Route.EndpointFile

/-! Which endpoints a query takes. An endpoint of another profile is passed over without a fault. Any other
either makes a route or is reported once, for the first of its texts and the query's that is blank; so every
endpoint is a route or a word in the log, and never both. -/

namespace MessageExchange.Route

open Text Draft

theorem Draft.findSome?_textFlaw (ts : List (String × String)) :
    ts.findSome? (fun t => textFlaw t.1 (some t.2)) =
      (ts.find? fun t => isBlank t.2).map fun t => .blank t.1 := by
  induction ts with
  | nil => rfl
  | cons t ts ih =>
    by_cases hblank : isBlank t.2 = true
    · have hflaw : textFlaw t.1 (some t.2) = some (.blank t.1) := if_pos hblank
      simp only [List.findSome?_cons, hflaw, List.find?_cons, hblank, Option.map_some]
    · have hflaw : textFlaw t.1 (some t.2) = none := if_neg hblank
      simpa only [List.findSome?_cons, hflaw, List.find?_cons, hblank] using ih

namespace Query

variable {q : Query} {e : Endpoint}

/-- The texts that a route through an endpoint is made of, under the names of their fields. -/
def texts (q : Query) (e : Endpoint) : List (String × String) :=
  [("sender_id", q.sender), ("endpoint_url", e.url), ("document_type_id", q.documentType),
    ("process_id", q.process), ("transport_profile_id", e.profile)]

def firstBlank (q : Query) (e : Endpoint) : Option String :=
  ((q.texts e).find? fun t => isBlank t.2).map Prod.fst

def draft (q : Query) (e : Endpoint) : Draft :=
  ⟨some q.sender, some e.url, some q.documentType, some q.process, some e.profile, some q.role,
    some e.certificate⟩

theorem firstFlaw_draft (q : Query) (e : Endpoint) :
    (q.draft e).firstFlaw = (q.firstBlank e).map .blank := by
  have hflaws : (q.draft e).flaws = (q.texts e).map (fun t => textFlaw t.1 (some t.2)) ++ [none, none] := rfl
  have hfound := findSome?_textFlaw (q.texts e)
  rw [firstFlaw, hflaws, List.findSome?_append, List.findSome?_map]
  simp only [Function.id_comp]
  rw [hfound, firstBlank, Option.map_map]
  simp [Function.comp_def]

theorem route_cases (hprofile : e.profile = q.profile) :
    (∃ field, q.firstBlank e = some field ∧ q.route e = .error (.invalidArgument (.blank field))) ∨
      ∃ r, q.firstBlank e = none ∧ q.route e = .ok r ∧ q.Leads e.url e.certificate.der r := by
  have hroute : q.route e = (q.draft e).build := rfl
  have hflaw := firstFlaw_draft q e
  rw [hroute]
  obtain ⟨cause, hcause, heq⟩ | ⟨r, hnone, heq, hdraft⟩ := (q.draft e).build_cases
  · rw [hcause] at hflaw
    obtain ⟨field, hfield, rfl⟩ := Option.map_eq_some_iff.1 hflaw.symm
    exact .inl ⟨field, hfield, heq⟩
  · rw [hnone] at hflaw
    have hfilled := Option.map_eq_none_iff.1 hflaw.symm
    simp only [draft, Route.draft, Draft.mk.injEq, Option.some.injEq] at hdraft
    obtain ⟨hsender, hurl, hdocument, hprocess, hterms, hrole, hcertificate⟩ := hdraft
    exact .inr ⟨r, hfilled, heq, hsender.symm, hurl.symm, hdocument.symm, hprocess.symm,
      hterms.symm.trans hprofile, hrole.symm, by rw [← hcertificate]⟩

/-- The word in the log for an endpoint that makes no route. -/
def remark (q : Query) (tag : String) (e : Endpoint) : Option Event :=
  if e.profile = q.profile then
    (q.firstBlank e).map fun field => .routeSkipped tag (.invalidArgument (.blank field))
  else some (.profileSkipped tag e.url e.profile)

def served (q : Query) (es : List Endpoint) : List Endpoint := es.filter (·.profile = q.profile)

theorem served_cons_of_eq (es : List Endpoint) (hprofile : e.profile = q.profile) :
    q.served (e :: es) = e :: q.served es :=
  List.filter_cons_of_pos (by simpa using hprofile)

theorem served_cons_of_ne (es : List Endpoint) (hprofile : e.profile ≠ q.profile) :
    q.served (e :: es) = q.served es :=
  List.filter_cons_of_neg (by simpa using hprofile)

def Fills (q : Query) (e : Endpoint) : Prop := ∀ t ∈ q.texts e, isBlank t.2 = false

instance (q : Query) (e : Endpoint) : Decidable (q.Fills e) :=
  inferInstanceAs (Decidable (∀ t ∈ q.texts e, isBlank t.2 = false))

theorem firstBlank_eq_none_iff : q.firstBlank e = none ↔ q.Fills e := by
  rw [firstBlank, Option.map_eq_none_iff, List.find?_eq_none]
  simp only [Bool.not_eq_true, Fills]

/-- What a list of endpoints comes to: the routes and the faults stand in the order of the endpoints, and
an endpoint of the profile has one of the two. -/
structure Sorted (q : Query) (tag : String) (es : List Endpoint) (answer : Lookup Route) : Prop where
  found : List.Forall₂ (fun e r => q.Leads e.url e.certificate.der r)
    ((q.served es).filter (q.Fills ·)) answer.found
  faults : answer.faults = (q.served es).filterMap fun e =>
    (q.firstBlank e).map fun field => .invalidArgument (.blank field)
  once : answer.found.length + answer.faults.length = (q.served es).length
  events : answer.events = es.filterMap (q.remark tag)
  length : answer.found.length + answer.events.length = es.length

theorem weigh_cases (q : Query) (tag : String) (e : Endpoint) :
    (e.profile ≠ q.profile ∧ q.weigh tag e = ⟨[], [], [.profileSkipped tag e.url e.profile]⟩) ∨
      (∃ field, e.profile = q.profile ∧ q.firstBlank e = some field ∧
        q.weigh tag e = ⟨[], [.invalidArgument (.blank field)],
          [.routeSkipped tag (.invalidArgument (.blank field))]⟩) ∨
      ∃ r, e.profile = q.profile ∧ q.firstBlank e = none ∧ q.weigh tag e = ⟨[r], [], []⟩ ∧
        q.Leads e.url e.certificate.der r := by
  by_cases hprofile : e.profile = q.profile
  · unfold weigh
    rw [if_pos hprofile]
    obtain ⟨field, hblank, hroute⟩ | ⟨r, hfilled, hroute, hleads⟩ := route_cases hprofile
    · exact .inr (.inl ⟨field, hprofile, hblank, by rw [hroute]⟩)
    · exact .inr (.inr ⟨r, hprofile, hfilled, by rw [hroute], hleads⟩)
  · exact .inl ⟨hprofile, if_neg hprofile⟩

namespace Sorted

variable {tag : String} {es : List Endpoint} {rs : List Route} {faults : List Fault} {events : List Event}

theorem skip (hprofile : e.profile ≠ q.profile) (h : Sorted q tag es ⟨rs, faults, events⟩) :
    Sorted q tag (e :: es) ⟨rs, faults, .profileSkipped tag e.url e.profile :: events⟩ := by
  have hremark : q.remark tag e = some (.profileSkipped tag e.url e.profile) := if_neg hprofile
  constructor
  · rw [served_cons_of_ne es hprofile]
    exact h.found
  · rw [served_cons_of_ne es hprofile]
    exact h.faults
  · rw [served_cons_of_ne es hprofile]
    exact h.once
  · rw [List.filterMap_cons_some hremark]
    exact congrArg _ h.events
  · have hlength := h.length
    simp only [List.length_cons] at hlength ⊢
    omega

theorem refuse {field : String} (hprofile : e.profile = q.profile) (hblank : q.firstBlank e = some field)
    (h : Sorted q tag es ⟨rs, faults, events⟩) :
    Sorted q tag (e :: es) ⟨rs, .invalidArgument (.blank field) :: faults,
      .routeSkipped tag (.invalidArgument (.blank field)) :: events⟩ := by
  have hfills : ¬ q.Fills e := fun hfills => by
    rw [firstBlank_eq_none_iff.2 hfills] at hblank
    cases hblank
  have hremark : q.remark tag e = some (.routeSkipped tag (.invalidArgument (.blank field))) := by
    rw [remark, if_pos hprofile, hblank, Option.map_some]
  constructor
  · rw [served_cons_of_eq es hprofile, List.filter_cons_of_neg (by simpa using hfills)]
    exact h.found
  · rw [served_cons_of_eq es hprofile, List.filterMap_cons_some (by rw [hblank, Option.map_some])]
    exact congrArg _ h.faults
  · have honce := h.once
    rw [served_cons_of_eq es hprofile]
    simp only [List.length_cons] at honce ⊢
    omega
  · rw [List.filterMap_cons_some hremark]
    exact congrArg _ h.events
  · have hlength := h.length
    simp only [List.length_cons] at hlength ⊢
    omega

theorem add {r : Route} (hprofile : e.profile = q.profile) (hblank : q.firstBlank e = none)
    (hleads : q.Leads e.url e.certificate.der r) (h : Sorted q tag es ⟨rs, faults, events⟩) :
    Sorted q tag (e :: es) ⟨r :: rs, faults, events⟩ := by
  have hfills : q.Fills e := firstBlank_eq_none_iff.1 hblank
  have hremark : q.remark tag e = none := by
    rw [remark, if_pos hprofile, hblank, Option.map_none]
  constructor
  · rw [served_cons_of_eq es hprofile, List.filter_cons_of_pos (by simpa using hfills)]
    exact .cons hleads h.found
  · rw [served_cons_of_eq es hprofile, List.filterMap_cons_none (by rw [hblank, Option.map_none])]
    exact h.faults
  · have honce := h.once
    rw [served_cons_of_eq es hprofile]
    simp only [List.length_cons] at honce ⊢
    omega
  · rw [List.filterMap_cons_none hremark]
    exact h.events
  · have hlength := h.length
    simp only [List.length_cons] at hlength ⊢
    omega

/-- Put together, what the endpoints add is what the list comes to. -/
theorem of_parts (q : Query) (tag : String) (es : List Endpoint) :
    Sorted q tag es ⟨(es.map (q.weigh tag)).flatMap (·.found), (es.map (q.weigh tag)).flatMap (·.faults),
      (es.map (q.weigh tag)).flatMap (·.events)⟩ := by
  induction es with
  | nil => exact ⟨.nil, rfl, rfl, rfl, rfl⟩
  | cons e es ih =>
    simp only [List.map_cons, List.flatMap_cons]
    obtain ⟨hprofile, hweigh⟩ | ⟨field, hprofile, hblank, hweigh⟩ | ⟨r, hprofile, hblank, hweigh, hleads⟩ :=
      weigh_cases q tag e
    · rw [hweigh]
      exact ih.skip hprofile
    · rw [hweigh]
      exact ih.refuse hprofile hblank
    · rw [hweigh]
      exact ih.add hprofile hblank hleads

end Sorted

theorem name_remark {tag : String} {event : Event} (h : q.remark tag e = some event) :
    event.name = "discovery_endpoint_skipped" := by
  unfold remark at h
  split at h
  · obtain ⟨field, -, rfl⟩ := Option.map_eq_some_iff.1 h
    rfl
  · cases h
    rfl

/-- A query put to a list of endpoints: what the look-up had to report comes first and as it was, and the
endpoints are each a route or a word in the log. -/
theorem routes_sort_endpoints (q : Query) (tag : String) (endpoints : Lookup Endpoint) :
    ∃ own : Lookup Route,
      q.routes tag endpoints = ⟨own.found, endpoints.faults ++ own.faults, endpoints.events ++ own.events⟩ ∧
        Sorted q tag endpoints.found own ∧
        ∀ event ∈ own.events, event.name = "discovery_endpoint_skipped" := by
  refine ⟨_, rfl, Sorted.of_parts q tag endpoints.found, ?_⟩
  intro event hmem
  rw [(Sorted.of_parts q tag endpoints.found).events] at hmem
  obtain ⟨e, -, hremark⟩ := List.mem_filterMap.1 hmem
  exact name_remark hremark

end Query

end MessageExchange.Route

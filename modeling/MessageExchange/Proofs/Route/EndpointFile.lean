import MessageExchange.Proofs.Base64.Canonical
import MessageExchange.Route.EndpointFile

/-! From a file of endpoints to routes. An entry is either an endpoint, and then it says in its three
members everything that a route takes from it, or it has a flaw, and then it is reported once. What is
checked on the way into an endpoint covers what a route asks of it, so no endpoint out of a file is
passed over for anything but its profile. -/

namespace MessageExchange

open Text

theorem length_toList_loop (bs : ByteArray) (i : Nat) (acc : List UInt8) :
    (ByteArray.toList.loop bs i acc).length = acc.length + (bs.size - i) := by
  induction i, acc using ByteArray.toList.loop.induct bs with
  | case1 i acc hlt ih =>
    unfold ByteArray.toList.loop
    rw [if_pos hlt, ih, List.length_cons]
    omega
  | case2 i acc hge =>
    unfold ByteArray.toList.loop
    rw [if_neg hge, List.length_reverse]
    omega

theorem toUTF8_toList_ne_nil {s : String} (h : isBlank s = false) : s.toUTF8.toList ≠ [] := by
  intro hnil
  have hsize : s.toUTF8.size = 0 := by
    have hlen := length_toList_loop s.toUTF8 0 []
    change s.toUTF8.toList.length = _ at hlen
    rw [hnil] at hlen
    simpa using hlen.symm
  obtain rfl : s = "" := String.utf8ByteSize_eq_zero_iff.1 hsize
  cases h

theorem Files.text_eq_ok {files : Files} {path s : String}
    (h : files path = .ok s.toByteArray.data.toList) : files.text path = .ok s := by
  have hvalid : String.fromUTF8? s.toByteArray = some s := dif_pos s.isValidUTF8
  unfold text
  rw [h, ok_bind, Array.toArray_toList, hvalid]

namespace Endpoint

def Holds (entry : Json) (name s : String) : Prop :=
  entry.get? name = some (.string s) ∧ isBlank s = false

/-- The entry is an endpoint: two texts and a certificate in base64. -/
structure Describes (entry : Json) (profile url : String) (der : List UInt8) : Prop where
  certificate : ∃ text, Holds entry "certificate" text ∧ text.toUTF8.toList = Base64.encode der
  profile : Holds entry "transport_profile" profile
  url : Holds entry "endpoint_url" url

/-- What an entry lacks to be an endpoint of this participant. -/
inductive Flawed (participant : String) (entry : Json) : BadValue → Prop
  | missing {name : String} (hname : name ∈ ["certificate", "transport_profile", "endpoint_url"])
      (h : ∀ s, ¬ Holds entry name s) : Flawed participant entry (.endpointFieldMissing participant name)
  | notBase64 {text : String} {flaw : Base64.Flaw} (h : Holds entry "certificate" text)
      (hflaw : Base64.decode text.toUTF8.toList = .error flaw) :
      Flawed participant entry (.certificateNotBase64 participant flaw)

theorem Holds.unique {entry : Json} {name s t : String} (hs : Holds entry name s)
    (ht : Holds entry name t) : s = t := by
  have h := hs.1.symm.trans ht.1
  cases h
  rfl

theorem Flawed.not_describes {participant : String} {entry : Json} {cause : BadValue}
    (h : Flawed participant entry cause) (profile url : String) (der : List UInt8) :
    ¬ Describes entry profile url der := by
  intro hdescribes
  obtain ⟨text, htext, hencoded⟩ := hdescribes.certificate
  cases h with
  | missing hname hnone =>
    simp only [List.mem_cons, List.not_mem_nil, or_false] at hname
    rcases hname with rfl | rfl | rfl
    · exact hnone text htext
    · exact hnone profile hdescribes.profile
    · exact hnone url hdescribes.url
  | notBase64 hother hflaw =>
    obtain rfl := hother.unique htext
    rw [Base64.decode_eq_ok_iff.2 hencoded] at hflaw
    cases hflaw

theorem member_cases (participant : String) (entry : Json) (name : String) :
    (∃ s, member participant entry name = .ok s ∧ Holds entry name s) ∨
      member participant entry name
          = .error (.invalidArgument (.endpointFieldMissing participant name)) ∧
        ∀ s, ¬ Holds entry name s := by
  unfold member
  split
  next s hs =>
    obtain ⟨value, hget, hvalue⟩ := Option.bind_eq_some_iff.1 hs
    obtain rfl : value = .string s := by
      cases value <;> cases hvalue
      rfl
    split_ifs with hblank
    · refine .inr ⟨rfl, fun t ht => ?_⟩
      cases hget.symm.trans ht.1
      rw [ht.2] at hblank
      cases hblank
    · exact .inl ⟨s, rfl, hget, Bool.eq_false_iff.2 hblank⟩
  next hnone =>
    refine .inr ⟨rfl, fun t ht => ?_⟩
    rw [ht.1] at hnone
    cases hnone

theorem ne_nil_of_encode {text : String} {der : List UInt8} (hblank : isBlank text = false)
    (h : text.toUTF8.toList = Base64.encode der) : der ≠ [] := by
  rintro rfl
  exact toUTF8_toList_ne_nil hblank h

theorem ofJson_cases (participant : String) (entry : Json) :
    (∃ e, ofJson participant entry = .ok e ∧ Describes entry e.profile e.url e.certificate.der) ∨
      ∃ cause, ofJson participant entry = .error (.invalidArgument cause) ∧
        Flawed participant entry cause := by
  unfold ofJson
  obtain ⟨text, heq, htext⟩ | ⟨heq, hnone⟩ := member_cases participant entry "certificate"
  case inr =>
    rw [heq]
    exact .inr ⟨_, rfl, .missing (by simp) hnone⟩
  simp only [heq, ok_bind]
  cases hder : Base64.decode text.toUTF8.toList with
  | error flaw => exact .inr ⟨_, rfl, .notBase64 htext hder⟩
  | ok der =>
    simp only [Except.mapError, ok_bind]
    obtain ⟨profile, heq, hprofile⟩ | ⟨heq, hnone⟩ :=
      member_cases participant entry "transport_profile"
    case inr =>
      rw [heq]
      exact .inr ⟨_, rfl, .missing (by simp) hnone⟩
    simp only [heq, ok_bind]
    obtain ⟨url, heq, hurl⟩ | ⟨heq, hnone⟩ := member_cases participant entry "endpoint_url"
    case inr =>
      rw [heq]
      exact .inr ⟨_, rfl, .missing (by simp) hnone⟩
    have hencoded := Base64.decode_eq_ok_iff.1 hder
    have hne := ne_nil_of_encode htext.2 hencoded
    refine .inl ⟨⟨participant, profile, url, ⟨der, hne⟩⟩, ?_, ⟨text, htext, hencoded⟩, hprofile, hurl⟩
    simp only [heq, ok_bind, Certificate.ofDer, dif_neg hne]
    rfl

def gathered (participant : String) (entries : List Json) : Lookup Endpoint :=
  let outcomes := entries.map (ofJson participant)
  ⟨outcomes.filterMap fun
      | .ok e => some e
      | .error _ => none,
    outcomes.filterMap fun
      | .ok _ => none
      | .error fault => some fault, []⟩

theorem listed_eq_gathered (file : Json) (participant : String) :
    listed file participant = gathered participant (entries file participant) := rfl

theorem gathered_cons_ok {participant : String} {entry : Json} {e : Endpoint} (entries : List Json)
    (h : ofJson participant entry = .ok e) :
    gathered participant (entry :: entries) =
      { gathered participant entries with found := e :: (gathered participant entries).found } := by
  simp only [gathered, List.map_cons, h, List.filterMap_cons]

theorem gathered_cons_error {participant : String} {entry : Json} {fault : Fault}
    (entries : List Json) (h : ofJson participant entry = .error fault) :
    gathered participant (entry :: entries) =
      { gathered participant entries with
        faults := fault :: (gathered participant entries).faults } := by
  simp only [gathered, List.map_cons, h, List.filterMap_cons]

end Endpoint

namespace Route

open Endpoint

theorem Draft.filled_some {v : String} (field : String) (h : isBlank v = false) :
    filled field (some v) = .ok ⟨v, h⟩ := by
  unfold filled
  dsimp only
  split
  next hblank =>
    rw [h] at hblank
    cases hblank
  next => rfl

namespace Query

variable {q : Query}

/-- The route leads from the sender of the query through an endpoint with this address and certificate,
under the terms of the query. -/
structure Leads (q : Query) (url : String) (der : List UInt8) (r : Route) : Prop where
  sender : r.sender.val = q.sender
  url : r.url.val = url
  documentType : r.documentType.val = q.documentType
  process : r.process.val = q.process
  profile : r.profile.val = q.profile
  role : r.role = q.role
  certificate : r.certificate.der = der

theorem exists_route {e : Endpoint} (hprofile : e.profile = q.profile)
    (hsender : isBlank q.sender = false) (hdocument : isBlank q.documentType = false)
    (hprocess : isBlank q.process = false) (hurl : isBlank e.url = false)
    (hfilled : isBlank e.profile = false) :
    ∃ r, q.route e = .ok r ∧ q.Leads e.url e.certificate.der r := by
  refine ⟨⟨⟨q.sender, hsender⟩, ⟨e.url, hurl⟩, ⟨q.documentType, hdocument⟩, ⟨q.process, hprocess⟩,
    ⟨e.profile, hfilled⟩, q.role, e.certificate⟩, ?_, rfl, rfl, rfl, rfl, hprofile, rfl, rfl⟩
  unfold route
  simp only [List.foldl_cons, List.foldl_nil, Draft.set, Draft.build, Draft.present,
    Draft.filled_some _ hsender, Draft.filled_some _ hurl, Draft.filled_some _ hdocument,
    Draft.filled_some _ hprocess, Draft.filled_some _ hfilled]
  rfl

/-- What a list of entries comes to: a route for each endpoint of the profile asked for, a word in the
log for each of another, and a fault for each entry that is none, all in the order of the entries. -/
inductive Yields (q : Query) (tag : String) : List Json → Lookup Route → Prop
  | nil : Yields q tag [] ⟨[], [], []⟩
  | route {entry : Json} {entries : List Json} {url : String} {der : List UInt8} {r : Route}
      {rs : List Route} {faults : List Fault} {events : List Event}
      (h : Describes entry q.profile url der) (hr : q.Leads url der r)
      (hrest : Yields q tag entries ⟨rs, faults, events⟩) :
      Yields q tag (entry :: entries) ⟨r :: rs, faults, events⟩
  | other {entry : Json} {entries : List Json} {profile url : String} {der : List UInt8}
      {rs : List Route} {faults : List Fault} {events : List Event}
      (h : Describes entry profile url der) (hprofile : profile ≠ q.profile)
      (hrest : Yields q tag entries ⟨rs, faults, events⟩) :
      Yields q tag (entry :: entries) ⟨rs, faults, .profileSkipped tag url profile :: events⟩
  | malformed {entry : Json} {entries : List Json} {cause : BadValue}
      {rs : List Route} {faults : List Fault} {events : List Event}
      (h : ∀ profile url der, ¬ Describes entry profile url der)
      (hcause : Flawed q.receiver entry cause)
      (hrest : Yields q tag entries ⟨rs, faults, events⟩) :
      Yields q tag (entry :: entries) ⟨rs, .invalidArgument cause :: faults, events⟩

inductive Answers (q : Query) (tag path : String) : Except ReadFailure String → Lookup Route → Prop
  | unreadable (failure : ReadFailure) :
      Answers q tag path (.error failure) (.failed (.configuration (unreadable path failure)))
  | unparsable {s : String} (h : Json.read? s = none) :
      Answers q tag path (.ok s) (.failed (.configuration .endpointFileMalformed))
  | unlisted {s : String} {file : Json} (h : Json.read? s = some file)
      (hnone : ∀ entries, file.get? q.receiver ≠ some (.array entries)) :
      Answers q tag path (.ok s) ⟨[], [], []⟩
  | listed {s : String} {file : Json} {entries : List Json} {answer : Lookup Route}
      (h : Json.read? s = some file) (hentries : file.get? q.receiver = some (.array entries))
      (hanswer : Yields q tag entries answer) : Answers q tag path (.ok s) answer

theorem yields_gathered (tag : String) (hsender : isBlank q.sender = false)
    (hdocument : isBlank q.documentType = false) (hprocess : isBlank q.process = false)
    (entries : List Json) : Yields q tag entries (q.routes tag (gathered q.receiver entries)) := by
  induction entries with
  | nil => exact .nil
  | cons entry entries ih =>
    obtain ⟨e, hentry, hdescribes⟩ | ⟨cause, hentry, hflawed⟩ := ofJson_cases q.receiver entry
    · rw [gathered_cons_ok entries hentry]
      unfold routes
      by_cases hprofile : e.profile = q.profile
      · obtain ⟨r, hroute, hleads⟩ := exists_route hprofile hsender hdocument hprocess
          hdescribes.url.2 hdescribes.profile.2
        have hweigh : q.weigh tag e = ⟨[r], [], []⟩ := by
          unfold weigh
          rw [if_pos hprofile, hroute]
        simp only [List.map_cons, List.flatMap_cons, hweigh, List.nil_append, List.singleton_append]
        exact .route (hprofile ▸ hdescribes) hleads ih
      · have hweigh : q.weigh tag e = ⟨[], [], [.profileSkipped tag e.url e.profile]⟩ := by
          unfold weigh
          rw [if_neg hprofile]
        simp only [List.map_cons, List.flatMap_cons, hweigh, List.nil_append, List.singleton_append]
        exact .other hdescribes hprofile ih
    · rw [gathered_cons_error entries hentry]
      exact .malformed hflawed.not_describes hflawed ih

theorem Yields.events_profileSkipped {tag : String} {entries : List Json} {answer : Lookup Route}
    (h : Yields q tag entries answer) :
    ∀ event ∈ answer.events, ∃ url profile, event = .profileSkipped tag url profile := by
  induction h with
  | nil => exact nofun
  | route _ _ _ ih => exact ih
  | other _ _ _ ih => exact List.forall_mem_cons.2 ⟨⟨_, _, rfl⟩, ih⟩
  | malformed _ _ _ ih => exact ih

theorem Answers.routeSkipped_notMem {tag path : String} {content : Except ReadFailure String}
    {answer : Lookup Route} (h : Answers q tag path content answer) (other : String) (fault : Fault) :
    .routeSkipped other fault ∉ answer.events := by
  intro hmem
  cases h with
  | unreadable | unparsable | unlisted => cases hmem
  | listed _ _ hanswer =>
    obtain ⟨url, profile, h⟩ := hanswer.events_profileSkipped _ hmem
    cases h

theorem answers_inFile (files : Files) (path tag : String) (hsender : isBlank q.sender = false)
    (hdocument : isBlank q.documentType = false) (hprocess : isBlank q.process = false) :
    Answers q tag path (files.text path) (q.routes tag (inFile files path q.receiver)) := by
  unfold inFile readFile
  cases htext : files.text path with
  | error failure => exact .unreadable failure
  | ok s =>
    dsimp only
    cases hread : Json.read? s with
    | none => exact .unparsable hread
    | some file =>
      dsimp only
      rw [listed_eq_gathered]
      unfold entries
      split
      next entries hentries =>
        exact .listed hread hentries (yields_gathered tag hsender hdocument hprocess entries)
      next hnone => exact .unlisted hread hnone

/-- A query whose texts are filled, put to a file of endpoints: the content of the file alone decides
the answer, and an endpoint that was read is never passed over for making no route. -/
theorem routes_inFile (files : Files) (path tag : String) (q : Query)
    (hsender : isBlank q.sender = false) (hdocument : isBlank q.documentType = false)
    (hprocess : isBlank q.process = false) :
    let answer := q.routes tag (inFile files path q.receiver)
    Answers q tag path (files.text path) answer ∧
      ∀ other fault, .routeSkipped other fault ∉ answer.events := by
  have hanswers := answers_inFile files path tag hsender hdocument hprocess
  exact ⟨hanswers, hanswers.routeSkipped_notMem⟩

/-- Three entries: an endpoint of the profile, one of another, and one that lacks its address. -/
theorem routes_inFile_mixed :
    let content := "\x7b\"b\": [" ++
      "\x7b\"certificate\": \"TWE=\", \"transport_profile\": \"p\", \"endpoint_url\": \"u\"\x7d, " ++
      "\x7b\"certificate\": \"TWE=\", \"transport_profile\": \"o\", \"endpoint_url\": \"v\"\x7d, " ++
      "\x7b\"certificate\": \"TWE=\", \"transport_profile\": \"p\"\x7d]\x7d"
    let files : Files := fun _ => .ok content.toByteArray.data.toList
    let q : Query := ⟨"a", "b", "d", "c", "p", .consumer⟩
    let answer := q.routes "t" (inFile files "e.json" q.receiver)
    files.text "e.json" = .ok content ∧
      (isBlank q.sender = false ∧ isBlank q.documentType = false ∧ isBlank q.process = false) ∧
      Answers q "t" "e.json" (files.text "e.json") answer ∧
      ∀ other fault, .routeSkipped other fault ∉ answer.events :=
  ⟨Files.text_eq_ok rfl, ⟨by decide, by decide, by decide⟩,
    routes_inFile _ "e.json" "t" _ (by decide) (by decide) (by decide)⟩

end Query

end Route

end MessageExchange

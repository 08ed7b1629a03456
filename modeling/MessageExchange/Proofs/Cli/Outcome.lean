import MessageExchange.Cli.Run
import MessageExchange.Proofs.Network.Serving
import MessageExchange.Proofs.Registry.Catalogs
import MessageExchange.Proofs.Route.EndpointFile

/-! How a whole run turns out. It gives up over a configuration that cannot be used or that asks for a
wire there is not, and over nothing else: whatever becomes of the demo document, the gateway runs until
the signal to stop, and its final counters tell whether there was anybody to send the document to. -/

namespace MessageExchange

open Text

theorem mapError_eq_ok_iff {ε ε' α : Type} {f : ε → ε'} {x : Except ε α} {a : α} :
    x.mapError f = .ok a ↔ x = .ok a := by
  cases x <;> simp [Except.mapError]

theorem Payload.fresh_eq_ok (seed : Id.Seed) {mimeType : String} (h : isBlank mimeType = false)
    (content : List UInt8) : ∃ p, fresh seed mimeType content = .ok p := by
  have hhyphen : '-' ∈ Id.chars seed := by simp [Id.chars]
  have hid : isBlank (Id.generate seed) = false := by
    simp only [Id.generate, isBlank, String.toList_ofList, List.all_eq_false]
    exact ⟨'-', hhyphen, by decide⟩
  exact ⟨⟨Id.generate seed, mimeType, content, hid, h⟩, by simp [fresh, withId, hid, h]⟩

namespace Route.Query

open Endpoint

variable {q : Query}

/-- The text lists an endpoint for the receiver and the profile of the query. -/
def Lists (q : Query) (content : Except ReadFailure String) : Prop :=
  ∃ text file entries, content = .ok text ∧ Json.read? text = some file ∧
    file.get? q.receiver = some (.array entries) ∧
    ∃ entry ∈ entries, ∃ url der, Describes entry q.profile url der

theorem Yields.found_ne_nil_iff {tag : String} {entries : List Json} {answer : Lookup Route}
    (h : Yields q tag entries answer) :
    answer.found ≠ [] ↔ ∃ entry ∈ entries, ∃ url der, Describes entry q.profile url der := by
  induction h with
  | nil => simp
  | route hentry => exact ⟨fun _ => ⟨_, List.mem_cons_self, _, _, hentry⟩, fun _ => List.cons_ne_nil _ _⟩
  | @other entry entries profile url der _ _ _ hentry hprofile hrest ih =>
    have hnot : ¬ ∃ url der, Describes entry q.profile url der := by
      rintro ⟨_, _, h⟩
      exact hprofile (hentry.profile.unique h.profile)
    simpa [hnot] using ih
  | @malformed entry _ _ _ _ _ hentry _ _ ih =>
    have hnot : ¬ ∃ url der, Describes entry q.profile url der := by
      rintro ⟨_, _, h⟩
      exact hentry _ _ _ h
    simpa [hnot] using ih

theorem Answers.found_ne_nil_iff {tag path : String} {content : Except ReadFailure String}
    {answer : Lookup Route} (h : Answers q tag path content answer) :
    answer.found ≠ [] ↔ q.Lists content := by
  cases h with
  | unreadable failure => simp [Lists, Lookup.failed]
  | unparsable h => simp [Lists, Lookup.failed, h]
  | unlisted h hnone => simp [Lists, h, hnone]
  | listed h hentries hanswer => simp [Lists, h, hentries, hanswer.found_ne_nil_iff]

end Route.Query

namespace Settings

variable {files : Files} {path : String} {s : Settings}

/-- The file at the path is a text in JSON5 that says these settings, and they can be used. -/
def HeldIn (files : Files) (path : String) (s : Settings) : Prop :=
  ∃ text v, files.text path = .ok text ∧ Json5.read? text = some v ∧ ofJson5 v = .ok s ∧
    s.validate = .ok ()

theorem HeldIn.validate (h : HeldIn files path s) : s.validate = .ok () := by
  obtain ⟨-, -, -, -, -, hvalid⟩ := h
  exact hvalid

theorem load_eq_ok_iff : load files path = .ok s ↔ HeldIn files path s := by
  constructor
  · intro h
    obtain ⟨text, htext, h⟩ := bind_eq_ok_iff.1 h
    cases hread : Json5.read? text with
    | none =>
      rw [hread] at h
      cases h
    | some v =>
      rw [hread] at h
      obtain ⟨s', hshape, h⟩ := bind_eq_ok_iff.1 h
      obtain ⟨_, hvalid, h⟩ := bind_eq_ok_iff.1 h
      obtain rfl := Except.ok.inj h
      exact ⟨text, v, mapError_eq_ok_iff.1 htext, hread, mapError_eq_ok_iff.1 hshape,
        mapError_eq_ok_iff.1 hvalid⟩
  · rintro ⟨text, v, htext, hread, hshape, hvalid⟩
    simp only [load, htext, Except.mapError, ok_bind, hread, hshape, hvalid]
    rfl

/-- The wire that is selected, or else the default one, is the loopback wire. -/
def Loops (s : Settings) : Prop :=
  s.wire.selected = some Wire.loopbackId ∨ s.wire.fallback = Wire.loopbackId

end Settings

namespace Cli

variable {files : Files} {s : Settings} {args : Arguments} {net : Network} {stats : Stats}

def wires (choice : WireChoice) : Registry Nat := ⟨choice, Shelf.empty.put Wire.loopbackId 0⟩

theorem resolveConfigured_wires (s : Settings) :
    (s.Loops ∧ ∃ events, (wires s.wire).resolveConfigured = (.ok (Wire.loopbackId, 0), events)) ∨
      ¬ s.Loops ∧ ∃ fault events, (wires s.wire).resolveConfigured = (.error fault, events) := by
  have hplaces : (wires s.wire).wires.places = [(Wire.loopbackId, 0)] := rfl
  have hfinds := Registry.finds_resolve (wires s.wire) s.wire.selected
  rcases Registry.resolveConfigured_cases (wires s.wire) with
    ⟨hnone, hr⟩ | ⟨⟨id, w⟩, hsome, events, hr, -⟩
  · obtain ⟨hselected, hfallback⟩ := (hnone ▸ hfinds).of_none
    rw [hplaces] at hselected hfallback
    refine .inr ⟨?_, _, _, hr⟩
    rintro (h | h)
    · exact hselected _ h (by simp)
    · exact hfallback (by simp [wires, h])
  · have hmem := Shelf.mem_places_iff.2 (Registry.get?_of_resolve hsome)
    rw [hplaces, List.mem_singleton, Prod.mk.injEq] at hmem
    obtain ⟨rfl, rfl⟩ := hmem
    obtain ⟨-, hselected | ⟨-, hfallback⟩⟩ := (hsome ▸ hfinds).of_some
    · exact .inl ⟨.inl hselected, events, hr⟩
    · exact .inl ⟨.inr hfallback.symm, events, hr⟩

/-- Settings that pass are refused only for the wire that they ask for. -/
theorem setUp_cases (hs : s.validate = .ok ()) :
    (s.Loops ∧ ∃ net, setUp s = .ok (net, Wire.loopbackId) ∧ net.Serves Stats.zero) ∨
      ¬ s.Loops ∧ ∃ fault, setUp s = .error fault := by
  let net₀ : Network := ⟨⟨0⟩, Instant.dawn, [Wire.loopback], wires s.wire, [], 0, 0⟩
  have hstart : (Network.start s.wire [Wire.loopback]).1 = .ok net₀ := rfl
  rcases resolveConfigured_wires s with ⟨hloops, events, hr⟩ | ⟨hnot, fault, events, hr⟩
  · let net₁ : Network :=
      { net₀ with wires := [Network.loop], gateways := [Gateway.start s 0 Wire.loopbackId Instant.dawn] }
    have hserves : net₁.Serves Stats.zero := ⟨rfl, _, rfl, rfl, rfl, .start _⟩
    obtain ⟨effects, hact⟩ :
        ∃ effects, net₀.act (.create s) = (net₁, .created Wire.loopbackId, effects) := by
      simp only [Network.act, Network.create, hs, net₀, hr]
      exact ⟨_, rfl⟩
    have hstep : net₀.step (.create s) = (net₁, .created Wire.loopbackId, effects) := by
      rw [Network.Serves.step_eq (by rwa [hact]), hact]
    refine .inl ⟨hloops, net₁.run [.handle 0 .request ⟨"request", none⟩,
      .handle 0 .response ⟨"response", none⟩, .listen 0 .submission "results"], ?_,
      ((hserves.step_handle _ _).step_handle _ _).step_listen _ _⟩
    simp only [setUp, hstart, ok_bind, hstep]
    rfl
  · refine .inr ⟨hnot, fault, ?_⟩
    have hact : net₀.act (.create s) = (net₀, .refused fault, events.map (.logged .caller)) := by
      simp only [Network.act, Network.create, hs, net₀, hr]
    simp only [setUp, hstart, ok_bind, Network.step, hact]
    rfl

/-- A document is sent whatever becomes of the wait for its receipt. -/
theorem sendDemo_serves (h : net.Serves stats) (record : Record) (receiver : String) (timeout : Span)
    (p : Payload) (route : Route) :
    (sendDemo net record receiver timeout p route).network.Serves
      { stats with enqueued := stats.enqueued + 1, sent := stats.sent + 1 } := by
  have hhead : (Message.empty.push p).head = .ok p := rfl
  obtain ⟨hdone, hsent⟩ := h.step_enqueue hhead route
  unfold sendDemo
  generalize net.step (.enqueue 0 (Message.empty.push p) route) = out at hdone hsent
  obtain ⟨net, answer, effects⟩ := out
  obtain rfl : answer = .done := hdone
  have hawaited := hsent.step_await .relay p.id timeout
  dsimp only
  split
  · exact hawaited
  · exact hawaited
  · have hlater := hawaited.step_advance timeout
    split
    · exact hlater
    · exact hlater
    · exact hlater

/-- The endpoint file that the settings name lists an endpoint of the demo profile for the receiver. -/
def Reaches (files : Files) (s : Settings) (receiver : String) : Prop :=
  ∃ path, s.endpointFile = some path ∧ (demoQuery s receiver).Lists (files.text path)

theorem isBlank_name_of_validate (hs : s.validate = .ok ()) : isBlank s.name = false := by
  unfold Settings.validate at hs
  split_ifs at hs with hname
  exact Bool.eq_false_iff.2 hname

theorem demo_serves (h : net.Serves stats) (hs : s.validate = .ok ()) (args : Arguments)
    (receiver : String) (seed : Nat) (record : Record) :
    Reaches files s receiver ∧ (demo files s args receiver seed net record).network.Serves
        { stats with enqueued := stats.enqueued + 1, sent := stats.sent + 1 } ∨
      ¬ Reaches files s receiver ∧
        (demo files s args receiver seed net record).network.Serves stats := by
  unfold demo Reaches
  cases s.endpointFile with
  | none => exact .inr ⟨by simp, h⟩
  | some path =>
    have hdocument : isBlank "urn:demo:document::1.0" = false := by decide
    have hprocess : isBlank "urn:demo:process" = false := by decide
    have hanswers := Route.Query.answers_inFile files path "demo" (q := demoQuery s receiver)
      (isBlank_name_of_validate hs) hdocument hprocess
    have hlists := hanswers.found_ne_nil_iff
    rw [show (demoQuery s receiver).receiver = receiver from rfl] at hlists
    dsimp only
    split
    next hnone =>
      refine .inr ⟨?_, h⟩
      rintro ⟨_, ⟨rfl⟩, hlisted⟩
      exact hlists.2 hlisted hnone
    next route rest hsome =>
      have hlisted : (demoQuery s receiver).Lists (files.text path) :=
        hlists.1 (hsome ▸ List.cons_ne_nil route rest)
      have htype : isBlank "application/xml" = false := by decide
      obtain ⟨p, hp⟩ := Payload.fresh_eq_ok (.ofNat seed) htype "<DemoRequest/>".toUTF8.toList
      simp only [hp]
      exact .inl ⟨⟨path, rfl, hlisted⟩, sendDemo_serves h _ _ _ _ _⟩

theorem Record.hear_eq_self {r : Record} {effects : List Effect}
    (h : ∀ e ∈ effects, ∀ listener n, e ≠ .handed listener n) : r.hear effects = r := by
  unfold hear
  rw [List.filterMap_eq_nil_iff.2]
  · simp
  · intro e he
    cases e with
    | handed listener n => exact absurd rfl (h _ he listener n)
    | _ => rfl

theorem countersIn_shutdown (h : net.Serves stats) :
    countersIn (net.step (.shutdown 0)).2.2 = some (.ok stats) := by
  obtain ⟨before, hbefore, hquiet⟩ := h.step_shutdown
  have hnone : countersIn before = none := by
    refine List.findSome?_eq_none_iff.2 fun e he => ?_
    obtain ⟨site, event, rfl⟩ | ⟨call, result, rfl⟩ := hquiet e he
    · rfl
    · rfl
  unfold countersIn at hnone ⊢
  rw [hbefore, List.findSome?_append, hnone]
  rfl

theorem Running.stop_eq {r : Running} (h : r.network.Serves stats) :
    r.stop = ⟨0, r.record.add [.stopped stats]⟩ := by
  have hcounters := countersIn_shutdown h
  have hheard : r.record.hear (r.network.step (.shutdown 0)).2.2 = r.record := by
    obtain ⟨before, hbefore, hquiet⟩ := h.step_shutdown
    refine Record.hear_eq_self fun e he listener n => ?_
    rw [hbefore, List.mem_append, List.mem_singleton] at he
    rcases he with he | rfl
    · obtain ⟨site, event, rfl⟩ | ⟨call, result, rfl⟩ := hquiet e he
      · exact nofun
      · exact nofun
    · exact nofun
  unfold stop
  generalize r.network.step (.shutdown 0) = out at hcounters hheard
  simp only [hcounters, hheard]

/-- The run some time later; nobody has asked for anything meanwhile. -/
def Running.after (r : Running) (acts : List Network.Act) : Running :=
  { r with network := r.network.run acts }

/-- The run has said that it is running. Whenever the signal comes, the gateway shuts down with these
counters, and the run ends with code 0 and with them as its last word. -/
structure Awaits (r : Running) (stats : Stats) : Prop where
  running : ∃ said : Record, r.record = said.add [.running Wire.loopbackId]
  counters : ∀ acts : List Network.Act, (∀ a ∈ acts, a.Passes) →
    countersIn ((r.after acts).network.step (.shutdown 0)).2.2 = some (.ok stats)
  ends : ∀ acts : List Network.Act, (∀ a ∈ acts, a.Passes) →
    (r.after acts).stop = ⟨0, r.record.add [.stopped stats]⟩

theorem awaits_of_serves (h : net.Serves stats) (said : Record) :
    Awaits ⟨net, said.add [.running Wire.loopbackId]⟩ stats where
  running := ⟨said, rfl⟩
  counters _ hacts := countersIn_shutdown (h.run hacts)
  ends _ hacts := Running.stop_eq (h.run hacts)

/-- A demo document is asked for, and there is somebody to send it to. -/
def Wanted (files : Files) (s : Settings) (args : Arguments) : Prop :=
  ∃ receiver, args.demoReceiver = some receiver ∧ Reaches files s receiver

theorem launch_ok (hs : Settings.HeldIn files args.config s) (hloops : s.Loops) (seed : Nat) :
    ∃ r stats, launch files args seed = .ok r ∧ Awaits r stats ∧
      (Wanted files s args → stats = ⟨1, 1, 0, 0⟩) ∧ (¬ Wanted files s args → stats = Stats.zero) := by
  have hvalid := hs.validate
  rcases setUp_cases hvalid with ⟨-, net, hsetUp, hserves⟩ | ⟨hnot, -⟩
  case inr => exact absurd hloops hnot
  have hseeded : ({ net with seed := seed + 1 } : Network).Serves Stats.zero :=
    ⟨hserves.wires, hserves.alone⟩
  simp only [launch, Settings.load_eq_ok_iff.2 hs, hsetUp]
  cases hreceiver : args.demoReceiver with
  | none =>
    refine ⟨_, Stats.zero, rfl, awaits_of_serves hseeded _, ?_, fun _ => rfl⟩
    rintro ⟨receiver, h, -⟩
    rw [hreceiver] at h
    cases h
  | some receiver =>
    have hwanted : Wanted files s args ↔ Reaches files s receiver := by
      simp [Wanted, hreceiver]
    rw [hwanted]
    rcases demo_serves hseeded hvalid args receiver seed ((Record.start s).add [.starting s.name])
      with ⟨hreaches, hdemo⟩ | ⟨hreaches, hdemo⟩
    · exact ⟨_, _, rfl, awaits_of_serves hdemo _, fun _ => rfl, fun h => absurd hreaches h⟩
    · exact ⟨_, _, rfl, awaits_of_serves hdemo _, fun h => absurd h hreaches, fun _ => rfl⟩

theorem launch_error (h : ∀ s, Settings.HeldIn files args.config s → ¬ s.Loops) (seed : Nat) :
    ∃ report, launch files args seed = .error report ∧ report.exitCode = 2 := by
  cases hload : Settings.load files args.config with
  | error failure =>
    simp only [launch, hload]
    exact ⟨_, rfl, rfl⟩
  | ok s =>
    have hs := Settings.load_eq_ok_iff.1 hload
    rcases setUp_cases hs.validate with ⟨hloops, -⟩ | ⟨-, fault, hsetUp⟩
    · exact absurd hloops (h s hs)
    · simp only [launch, hload, hsetUp]
      exact ⟨_, rfl, rfl⟩

/-- A whole run under a command line that can be read. It ends with code 2 exactly when no usable settings
are found or they ask for another wire. Else it gets as far as to wait for the signal, and in the end one
message was enqueued and sent if the demo document was asked for and there was somebody to send it to, and
none otherwise. -/
theorem run_outcome (files : Files) {argv : List String} {args : Arguments}
    (hargs : Arguments.read argv = .ok args) (seed : Nat) :
    ((run files argv seed).exitCode = 2 ↔
      ∀ s, Settings.HeldIn files args.config s → ¬ s.Loops) ∧
    ∀ s, Settings.HeldIn files args.config s → s.Loops →
      ∃ r stats, launch files args seed = .ok r ∧ run files argv seed = r.stop ∧ Awaits r stats ∧
        (Wanted files s args → stats = ⟨1, 1, 0, 0⟩) ∧ (¬ Wanted files s args → stats = Stats.zero) := by
  have hstopped {r : Running} (hlaunch : launch files args seed = .ok r) :
      run files argv seed = r.stop := by simp only [run, hargs, hlaunch]
  refine ⟨⟨fun hcode s hs hloops => ?_, fun hnone => ?_⟩, fun s hs hloops => ?_⟩
  · obtain ⟨r, stats, hlaunch, hawaits, -⟩ := launch_ok hs hloops seed
    have hstop := hawaits.ends [] nofun
    rw [hstopped hlaunch, show r = r.after [] from rfl, hstop] at hcode
    cases hcode
  · obtain ⟨report, hlaunch, hcode⟩ := launch_error hnone seed
    simpa only [run, hargs, hlaunch] using hcode
  · obtain ⟨r, stats, hlaunch, hrest⟩ := launch_ok hs hloops seed
    exact ⟨r, stats, hlaunch, hstopped hlaunch, hrest⟩

/-- The settings select no wire, the default one is the loopback wire, and the file they name lists one
endpoint for the receiver. -/
theorem run_outcome_sent :
    let settings := "\x7b'gateway_name': 'a', 'transport': \x7b'default': 'loopback'\x7d, " ++
      "'discovery': \x7b'static_file': 'e.json'\x7d\x7d"
    let endpoints := "\x7b\"b\": [\x7b\"certificate\": \"TWE=\", " ++
      "\"transport_profile\": \"bdxr-transport-ebms3-as4-v1p0\", \"endpoint_url\": \"u\"\x7d]\x7d"
    let files : Files := fun path =>
      .ok (if path = "e.json" then endpoints else settings).toByteArray.data.toList
    let argv := ["--demo-receiver", "b"]
    ∃ args s, Arguments.read argv = .ok args ∧
      (Settings.HeldIn files args.config s ∧ s.Loops ∧ Wanted files s args) ∧
      (run files argv 7).exitCode ≠ 2 ∧
      ∃ r, launch files args 7 = .ok r ∧ run files argv 7 = r.stop ∧ Awaits r ⟨1, 1, 0, 0⟩ := by
  intro settings endpoints files argv
  let s : Settings := ⟨"a", ⟨none, "loopback"⟩, 300, 300, some "e.json", none⟩
  have hargs : Arguments.read argv = .ok ⟨"DEFAULT_CONFIG.json5", some "b", 5000⟩ := by decide +kernel
  have hread : (Json5.read? settings).map Settings.ofJson5 = some (.ok s) := by decide +kernel
  have hs : Settings.HeldIn files "DEFAULT_CONFIG.json5" s := by
    obtain ⟨v, hv, hshape⟩ := Option.map_eq_some_iff.1 hread
    exact ⟨settings, v, Files.text_eq_ok rfl, hv, hshape, by decide⟩
  have hloops : s.Loops := .inr rfl
  have hfound : ((demoQuery s "b").routes "demo" (Endpoint.inFile files "e.json" "b")).found ≠ [] := by
    decide +kernel
  have hanswers := Route.Query.answers_inFile files "e.json" "demo" (q := demoQuery s "b") (by decide)
    (by decide) (by decide)
  have hwanted : Wanted files s ⟨"DEFAULT_CONFIG.json5", some "b", 5000⟩ :=
    ⟨"b", rfl, "e.json", rfl, hanswers.found_ne_nil_iff.1 hfound⟩
  obtain ⟨hfails, hruns⟩ := run_outcome files hargs 7
  obtain ⟨r, stats, hlaunch, hrun, hawaits, hsent, -⟩ := hruns s hs hloops
  refine ⟨_, s, hargs, ⟨hs, hloops, hwanted⟩, fun h => hfails.1 h s hs hloops, r, hlaunch, hrun, ?_⟩
  exact hsent hwanted ▸ hawaits

end Cli

end MessageExchange

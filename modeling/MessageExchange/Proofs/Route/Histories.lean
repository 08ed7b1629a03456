import MessageExchange.Proofs.Outbound.Balance
import MessageExchange.Proofs.Route.Drafts

/-! Drafts whose fields are set one after the other, in any order and as often as one likes. What was set
last is all that counts. A history makes a route when every field was set and no text that was set last is
blank, and the route carries just what was set last. Otherwise the first field at fault is reported, and
whether it was never set or is blank. -/

namespace MessageExchange

namespace Text

theorem isBlank_eq_true_iff {v : String} : isBlank v = true ↔ ∀ c ∈ v.toList, isBlankChar c = true :=
  List.all_eq_true

theorem isBlank_eq_false_iff {v : String} : isBlank v = false ↔ ∃ c ∈ v.toList, isBlankChar c = false := by
  rw [isBlank, List.all_eq_false]
  simp only [Bool.not_eq_true]

end Text

theorem Certificate.ofDer_eq_ok_iff {der : List UInt8} {c : Certificate} :
    Certificate.ofDer der = .ok c ↔ c.der = der := by
  obtain ⟨held, hheld⟩ := c
  unfold ofDer
  split_ifs with hempty
  · refine ⟨nofun, ?_⟩
    rintro rfl
    exact absurd hempty hheld
  · simp [eq_comm]

namespace Route

open Text

inductive Field
  | sender
  | url
  | documentType
  | process
  | profile
  | role
  | certificate
  deriving DecidableEq, Repr

namespace Field

/-- The fields in the order in which a draft is looked at. -/
def all : List Field := [sender, url, documentType, process, profile, role, certificate]

def name : Field → String
  | sender => "sender_id"
  | url => "endpoint_url"
  | documentType => "document_type_id"
  | process => "process_id"
  | profile => "transport_profile_id"
  | role => "peer_role"
  | certificate => "certificate"

theorem mem_all (f : Field) : f ∈ all := by cases f <;> decide

end Field

namespace Setting

def field : Setting → Field
  | sender _ => .sender
  | url _ => .url
  | documentType _ => .documentType
  | process _ => .process
  | profile _ => .profile
  | role _ => .role
  | certificate _ => .certificate

def text? : Setting → Option String
  | sender v | url v | documentType v | process v | profile v => some v
  | role _ | certificate _ => none

def isBlank (s : Setting) : Bool := s.text?.any Text.isBlank

/-- A text that is set has a character that is not white space. -/
def Reads (s : Setting) : Prop := ∀ v, s.text? = some v → ∃ c ∈ v.toList, isBlankChar c = false

theorem isBlank_eq_true_iff {s : Setting} :
    s.isBlank = true ↔ ∃ v, s.text? = some v ∧ ∀ c ∈ v.toList, isBlankChar c = true := by
  simp only [isBlank, Option.any_eq_true, Text.isBlank_eq_true_iff]

theorem isBlank_eq_false_iff {s : Setting} : s.isBlank = false ↔ s.Reads := by
  simp only [isBlank, Option.any_eq_false, Reads, ← Text.isBlank_eq_false_iff]

end Setting

/-- What a route carries in a field, as the setting that puts it there. -/
def setting (r : Route) : Field → Setting
  | .sender => .sender r.sender.val
  | .url => .url r.url.val
  | .documentType => .documentType r.documentType.val
  | .process => .process r.process.val
  | .profile => .profile r.profile.val
  | .role => .role r.role
  | .certificate => .certificate r.certificate

theorem reads_setting (r : Route) (f : Field) : (r.setting f).Reads := by
  rw [← Setting.isBlank_eq_false_iff]
  cases f with
  | sender => exact r.sender.property
  | url => exact r.url.property
  | documentType => exact r.documentType.property
  | process => exact r.process.property
  | profile => exact r.profile.property
  | role => rfl
  | certificate => rfl

theorem eq_of_setting_eq {r r' : Route} (h : ∀ f, r.setting f = r'.setting f) : r = r' := by
  obtain ⟨sender, url, documentType, process, profile, role, certificate⟩ := r
  obtain ⟨sender', url', documentType', process', profile', role', certificate'⟩ := r'
  obtain rfl : sender = sender' := Subtype.ext (Setting.sender.inj (h .sender))
  obtain rfl : url = url' := Subtype.ext (Setting.url.inj (h .url))
  obtain rfl : documentType = documentType' := Subtype.ext (Setting.documentType.inj (h .documentType))
  obtain rfl : process = process' := Subtype.ext (Setting.process.inj (h .process))
  obtain rfl : profile = profile' := Subtype.ext (Setting.profile.inj (h .profile))
  obtain rfl : role = role' := Setting.role.inj (h .role)
  obtain rfl : certificate = certificate' := Setting.certificate.inj (h .certificate)
  rfl

/-! The last setting of a field. -/

def lastSet (settings : List Setting) (f : Field) : Option Setting := settings.reverse.find? (·.field = f)

theorem lastSet_snoc (settings : List Setting) (s : Setting) (f : Field) :
    lastSet (settings ++ [s]) f = if s.field = f then some s else lastSet settings f := by
  rw [lastSet, List.reverse_append, List.reverse_singleton, List.singleton_append, List.find?_cons]
  by_cases hf : s.field = f
  · simp only [hf, decide_true, if_true]
  · simp only [hf, decide_false, if_false, lastSet]

theorem lastSet_eq_none_iff {settings : List Setting} {f : Field} :
    lastSet settings f = none ↔ ∀ s ∈ settings, s.field ≠ f := by
  simp only [lastSet, List.find?_eq_none, List.mem_reverse, decide_eq_true_eq, ne_eq]

namespace Draft

def get (d : Draft) : Field → Option Setting
  | .sender => d.sender.map .sender
  | .url => d.url.map .url
  | .documentType => d.documentType.map .documentType
  | .process => d.process.map .process
  | .profile => d.profile.map .profile
  | .role => d.role.map .role
  | .certificate => d.certificate.map .certificate

@[simp] theorem get_empty (f : Field) : empty.get f = none := by cases f <;> rfl

theorem get_set (d : Draft) (s : Setting) (f : Field) :
    (d.set s).get f = if s.field = f then some s else d.get f := by
  cases s <;> cases f <;> rfl

theorem get_foldl_set (settings : List Setting) (f : Field) :
    (settings.foldl set empty).get f = lastSet settings f := by
  -- from the end of the history, since a later setting covers the earlier ones
  induction settings using List.reverseRecOn with
  | nil => exact get_empty f
  | append_singleton settings s ih =>
    rw [List.foldl_append, List.foldl_cons, List.foldl_nil, get_set, lastSet_snoc, ih]

theorem get_draft (r : Route) (f : Field) : r.draft.get f = some (r.setting f) := by cases f <;> rfl

/-! Flaws, field by field. -/

def flaw (f : Field) : Option Setting → Option BadValue
  | none => some (.absent f.name)
  | some s => if s.isBlank then some (.blank f.name) else none

theorem flaw_eq_none_iff {f : Field} {held : Option Setting} :
    flaw f held = none ↔ ∃ s, held = some s ∧ s.Reads := by
  cases held with
  | none => simp [flaw]
  | some s => simp [flaw, ← Setting.isBlank_eq_false_iff]

theorem flaw_fault_iff {f : Field} {held : Option Setting} {fault : Fault} :
    (∃ cause, flaw f held = some cause ∧ fault = .invalidArgument cause) ↔
      held = none ∧ fault = .invalidArgument (.absent f.name) ∨
        ∃ s v, held = some s ∧ s.text? = some v ∧ (∀ c ∈ v.toList, isBlankChar c = true) ∧
          fault = .invalidArgument (.blank f.name) := by
  cases held with
  | none => simp [flaw]
  | some s =>
    constructor
    · rintro ⟨cause, hflaw, rfl⟩
      obtain ⟨hblank, rfl⟩ : s.isBlank = true ∧ .blank f.name = cause := by simpa [flaw] using hflaw
      obtain ⟨v, hv, hchars⟩ := Setting.isBlank_eq_true_iff.1 hblank
      exact .inr ⟨s, v, rfl, hv, hchars, rfl⟩
    · rintro (⟨hnone, -⟩ | ⟨s', v, hs, hv, hchars, rfl⟩)
      · cases hnone
      · obtain rfl := Option.some.inj hs
        exact ⟨_, if_pos (Setting.isBlank_eq_true_iff.2 ⟨v, hv, hchars⟩), rfl⟩

theorem textFlaw_eq_flaw (f : Field) {put : String → Setting} (hput : ∀ v, (put v).text? = some v)
    (v : Option String) : textFlaw f.name v = flaw f (v.map put) := by
  cases v with
  | none => rfl
  | some v => simp only [textFlaw, Option.map_some, flaw, Setting.isBlank, hput, Option.any_some]

theorem gap_eq_flaw {α : Type} (f : Field) {put : α → Setting} (hput : ∀ a, (put a).text? = none)
    (v : Option α) : gap f.name v = flaw f (v.map put) := by
  cases v with
  | none => rfl
  | some a => simp [gap, flaw, Setting.isBlank, hput]

theorem flaws_eq (d : Draft) : d.flaws = Field.all.map fun f => flaw f (d.get f) := by
  simp only [flaws, Field.all, List.map_cons, List.map_nil, get]
  rw [← textFlaw_eq_flaw .sender fun _ => rfl, ← textFlaw_eq_flaw .url fun _ => rfl,
    ← textFlaw_eq_flaw .documentType fun _ => rfl, ← textFlaw_eq_flaw .process fun _ => rfl,
    ← textFlaw_eq_flaw .profile fun _ => rfl, ← gap_eq_flaw .role fun _ => rfl,
    ← gap_eq_flaw .certificate fun _ => rfl]
  rfl

theorem firstFlaw_eq (d : Draft) : d.firstFlaw = Field.all.findSome? fun f => flaw f (d.get f) := by
  rw [firstFlaw, flaws_eq, List.findSome?_map]
  rfl

/-- A draft is without a flaw when every field holds something that reads. -/
theorem firstFlaw_eq_none_iff {d : Draft} : d.firstFlaw = none ↔ ∀ f, ∃ s, d.get f = some s ∧ s.Reads := by
  simp only [firstFlaw_eq, List.findSome?_eq_none_iff, Field.mem_all, true_imp_iff, flaw_eq_none_iff]

/-- A draft is built just into the route that carries what it holds. -/
theorem build_eq_ok_iff {d : Draft} {r : Route} : d.build = .ok r ↔ ∀ f, d.get f = some (r.setting f) := by
  obtain ⟨cause, hflaw, hbuild⟩ | ⟨r', -, hbuild, rfl⟩ := d.build_cases
  · rw [hbuild]
    refine ⟨nofun, fun h => ?_⟩
    have hnone := firstFlaw_eq_none_iff.2 fun f => ⟨_, h f, r.reads_setting f⟩
    rw [hflaw] at hnone
    cases hnone
  · simp only [hbuild, Except.ok.injEq, get_draft, Option.some.injEq]
    exact ⟨fun h _ => by rw [h], eq_of_setting_eq⟩

theorem exists_build_eq_ok_iff {d : Draft} :
    (∃ r, d.build = .ok r) ↔ ∀ f, ∃ s, d.get f = some s ∧ s.Reads := by
  rw [← firstFlaw_eq_none_iff]
  obtain ⟨cause, hflaw, hbuild⟩ | ⟨r, hflaw, hbuild, -⟩ := d.build_cases
  · simp [hflaw, hbuild]
  · simp [hflaw, hbuild]

theorem firstFlaw_eq_some_iff {d : Draft} {cause : BadValue} :
    d.firstFlaw = some cause ↔ ∃ earlier f later, Field.all = earlier ++ f :: later ∧
      flaw f (d.get f) = some cause ∧ ∀ g ∈ earlier, ∃ s, d.get g = some s ∧ s.Reads := by
  simp only [firstFlaw_eq, List.findSome?_eq_some_iff, flaw_eq_none_iff]

theorem build_eq_error_iff_firstFlaw {d : Draft} {fault : Fault} :
    d.build = .error fault ↔ ∃ cause, d.firstFlaw = some cause ∧ fault = .invalidArgument cause := by
  obtain ⟨cause, hflaw, hbuild⟩ | ⟨r, hflaw, hbuild, -⟩ := d.build_cases
  · simp [hflaw, hbuild, eq_comm]
  · simp [hflaw, hbuild]

theorem build_eq_error_iff {d : Draft} {fault : Fault} :
    d.build = .error fault ↔ ∃ earlier f later, Field.all = earlier ++ f :: later ∧
      (∀ g ∈ earlier, ∃ s, d.get g = some s ∧ s.Reads) ∧
        ∃ cause, flaw f (d.get f) = some cause ∧ fault = .invalidArgument cause := by
  rw [build_eq_error_iff_firstFlaw]
  simp only [firstFlaw_eq_some_iff]
  constructor
  · rintro ⟨cause, ⟨earlier, f, later, hall, hflaw, hearlier⟩, hfault⟩
    exact ⟨earlier, f, later, hall, hearlier, cause, hflaw, hfault⟩
  · rintro ⟨earlier, f, later, hall, hearlier, cause, hflaw, hfault⟩
    exact ⟨cause, ⟨earlier, f, later, hall, hflaw, hearlier⟩, hfault⟩

end Draft

theorem build_settings (r : Route) : ((Field.all.map r.setting).foldl Draft.set .empty).build = .ok r := by
  rw [Draft.build_eq_ok_iff]
  intro f
  rw [Draft.get_foldl_set]
  cases f <;> rfl

/-- What was set last decides. A history makes a route exactly when every field was set and each text that
was set last has a character that is not white space; the route carries what was set last, as it was set.
Any other history is refused for the first field at fault, and it is told whether the field was never set or
was last set to a blank text. So whatever the wire is asked to send goes by a route of such a history, whose
texts are not blank and whose certificate is not empty. -/
theorem last_settings_decide (settings : List Setting) :
    let answer := (settings.foldl Draft.set .empty).build
    let reads := fun f => ∃ s, lastSet settings f = some s ∧ s.Reads
    ((∃ r, answer = .ok r) ↔ ∀ f, reads f) ∧
      (∀ r, answer = .ok r ↔ ∀ f, lastSet settings f = some (r.setting f)) ∧
      (∀ fault, answer = .error fault ↔
        ∃ earlier f later, Field.all = earlier ++ f :: later ∧ (∀ g ∈ earlier, reads g) ∧
          ((∀ s ∈ settings, s.field ≠ f) ∧ fault = .invalidArgument (.absent f.name) ∨
            ∃ s v, lastSet settings f = some s ∧ s.text? = some v ∧
              (∀ c ∈ v.toList, isBlankChar c = true) ∧ fault = .invalidArgument (.blank f.name))) ∧
      (∀ der c, Certificate.ofDer der = .ok c ↔ c.der = der ∧ der ≠ []) ∧
      ∀ wire moves, ∀ i ∈ (Outbound.Course.start wire).invoked moves,
        .enqueue i.message i.route ∈ moves ∧
          (∃ history : List Setting, (history.foldl Draft.set .empty).build = .ok i.route) ∧
          (∀ f, (i.route.setting f).Reads) ∧ i.route.certificate.der ≠ [] := by
  intro answer reads
  refine ⟨?_, fun r => ?_, fun fault => ?_, fun der c => ?_, fun wire moves i hi => ?_⟩
  · simp only [answer, reads, Draft.exists_build_eq_ok_iff, Draft.get_foldl_set]
  · simp only [answer, Draft.build_eq_ok_iff, Draft.get_foldl_set]
  · simp only [answer, reads, Draft.build_eq_error_iff, Draft.get_foldl_set, Draft.flaw_fault_iff,
      lastSet_eq_none_iff]
  · rw [Certificate.ofDer_eq_ok_iff]
    exact ⟨fun hder => ⟨hder, hder ▸ c.nonempty⟩, And.left⟩
  · exact ⟨Outbound.Course.enqueue_of_invoked hi, ⟨_, i.route.build_settings⟩, i.route.reads_setting,
      i.route.certificate.nonempty⟩

/-- A text that is blanked again is at fault, and before one that was never set. -/
example : ([.url "u", .sender "s", .sender "\u2003"].foldl Draft.set .empty).build =
    .error (.invalidArgument (.blank "sender_id")) := by rfl

end Route

end MessageExchange

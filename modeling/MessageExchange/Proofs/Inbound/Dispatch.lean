import MessageExchange.Inbound
import Mathlib.Tactic

/-! Who gets an inbound document. After any history of registrations and deliveries it is the handler
that was the first to be registered for the class of the document, provided that the document came with
all it refers to, and nobody else; and nothing but a failure of that handler is reported back. -/

namespace MessageExchange

namespace Fault

/-- What went wrong below all the handlers that reported it. -/
def root : Fault → Fault
  | handler _ source => source.root
  | fault => fault

theorem exchangeCode_eq_some_iff {fault : Fault} {code : String} :
    fault.exchangeCode = some code ↔ ∃ message, fault.root = .exchange code message := by
  induction fault with
  | handler direction source ih => exact ih
  | exchange code' message => simp [exchangeCode, root]
  | _ => simp [exchangeCode, root]

end Fault

namespace Delivery

def Answered (d : Delivery) (reference : String) : Prop := ∃ a ∈ d.attachments, a.id = reference

def Complete (d : Delivery) : Prop := ∀ r ∈ d.references, d.Answered r

def FirstMissing (d : Delivery) (id : String) : Prop :=
  ∃ before after, d.references = before ++ id :: after ∧ (∀ r ∈ before, d.Answered r) ∧ ¬ d.Answered id

variable {d : Delivery}

theorem answers_iff {r : String} : (d.attachments.any fun a => a.id == r) = true ↔ d.Answered r := by
  simp [Answered]

theorem missingAttachment_eq_none_iff : d.missingAttachment = none ↔ d.Complete := by
  unfold missingAttachment
  simp only [List.find?_eq_none, Bool.not_eq_true', Bool.not_eq_false, answers_iff]
  rfl

theorem missingAttachment_eq_some_iff {id : String} :
    d.missingAttachment = some id ↔ d.FirstMissing id := by
  unfold missingAttachment
  rw [List.find?_eq_some_iff_append]
  constructor
  · rintro ⟨hid, before, after, hall, hbefore⟩
    refine ⟨before, after, hall, fun r hr => answers_iff.1 (by simpa using hbefore r hr), fun h => ?_⟩
    rw [answers_iff.2 h] at hid
    cases hid
  · rintro ⟨before, after, hall, hbefore, hid⟩
    refine ⟨?_, before, after, hall, fun r hr => by simp [answers_iff.2 (hbefore r hr)]⟩
    rw [← answers_iff, Bool.not_eq_true] at hid
    rw [hid]
    rfl

theorem FirstMissing.not_complete {id : String} (h : d.FirstMissing id) : ¬ d.Complete := by
  obtain ⟨before, after, hall, -, hid⟩ := h
  exact fun hc => hid (hc id (by simp [hall]))

end Delivery

def Direction.documentClass : Direction → DocumentClass
  | .request => .request
  | .response => .response

namespace Inbound

inductive Act
  | register (direction : Direction) (h : Handler)
  /-- The handler of this direction will end its calls otherwise from now on: how each call ends is up to
  the handler. -/
  | sway (direction : Direction) (failure : Option Fault)
  | dispatch (site : Site) (d : Delivery)

def sway (i : Inbound) (failure : Option Fault) : Direction → Inbound
  | .request => { i with request := i.request.map fun h => { h with failure } }
  | .response => { i with response := i.response.map fun h => { h with failure } }

/-- One act. A registration that fails and a dispatch change nothing. -/
def step (i : Inbound) : Act → Inbound
  | .register direction h => (i.register direction h).toOption.getD i
  | .sway direction failure => i.sway failure direction
  | .dispatch _ _ => i

def after (i : Inbound) (acts : List Act) : Inbound := acts.foldl step i

def first? (direction : Direction) : List Act → Option Handler
  | [] => none
  | .register direction' h :: rest => if direction' = direction then some h else first? direction rest
  | _ :: rest => first? direction rest

def calls (effects : List Effect) : List (String × Direction × Delivery) :=
  effects.filterMap fun
    | .handled name direction d => some (name, direction, d)
    | _ => none

variable {i : Inbound}

/-- A registration succeeds unless there is a handler, and touches the other direction in no case. -/
theorem register_cases (i : Inbound) (direction : Direction) (h : Handler) :
    (∃ old, i.handler direction = some old ∧
      i.register direction h = .error (.configuration (.handlerTaken direction))) ∨
    (i.handler direction = none ∧ ∃ i', i.register direction h = .ok i' ∧
      ∀ other, i'.handler other = if direction = other then some h else i.handler other) := by
  unfold register
  cases hold : i.handler direction with
  | some old => exact .inl ⟨old, rfl, rfl⟩
  | none =>
    refine .inr ⟨rfl, ?_⟩
    cases direction with
    | request => exact ⟨_, rfl, fun other => by cases other <;> rfl⟩
    | response => exact ⟨_, rfl, fun other => by cases other <;> rfl⟩

theorem handler_sway (i : Inbound) (failure : Option Fault) (direction other : Direction) :
    ((i.sway failure direction).handler other).map Handler.name = (i.handler other).map Handler.name := by
  cases direction <;> cases other <;> simp [sway, handler, Function.comp_def]

theorem handler_after (i : Inbound) (acts : List Act) (direction : Direction) :
    ((i.after acts).handler direction).map Handler.name =
      ((i.handler direction).or (first? direction acts)).map Handler.name := by
  induction acts generalizing i with
  | nil =>
    rw [first?, Option.or_none]
    rfl
  | cons a rest ih =>
    have hrest := ih (i.step a)
    refine hrest.trans ?_
    cases a with
    | register other h =>
      rcases i.register_cases other h with ⟨old, hold, hr⟩ | ⟨hfree, i', hr, hi'⟩
      · have hsame : i.step (.register other h) = i := by
          simp only [step, hr]
          rfl
        rw [hsame, first?]
        split_ifs with ho
        · rw [← ho, hold, Option.some_or, Option.some_or]
        · rfl
      · have hnew : i.step (.register other h) = i' := by
          simp only [step, hr]
          rfl
        rw [hnew, hi', first?]
        split_ifs with ho
        · rw [← ho, hfree, Option.some_or, Option.none_or]
        · rfl
    | sway other failure =>
      simp only [step, first?, Option.map_or, handler_sway]
    | dispatch site d => rfl

theorem after_append (i : Inbound) (acts more : List Act) :
    i.after (acts ++ more) = (i.after acts).after more := List.foldl_append

theorem exists_first (acts : List Act) {direction : Direction} {h : Handler}
    (hh : (empty.after acts).handler direction = some h) :
    ∃ first, first? direction acts = some first ∧ first.name = h.name := by
  have hname := handler_after empty acts direction
  have hnone : empty.handler direction = none := by cases direction <;> rfl
  rw [hh, hnone, Option.none_or, Option.map_some, eq_comm, Option.map_eq_some_iff] at hname
  exact hname

theorem exists_handler (acts : List Act) {direction : Direction} {first : Handler}
    (hf : first? direction acts = some first) :
    ∃ h, (empty.after acts).handler direction = some h ∧ h.name = first.name := by
  have hname := handler_after empty acts direction
  have hnone : empty.handler direction = none := by cases direction <;> rfl
  rw [hf, hnone, Option.none_or, Option.map_some, Option.map_eq_some_iff] at hname
  exact hname

theorem documentClass_cases (c : DocumentClass) :
    (∃ direction : Direction, c = direction.documentClass ∧ Inbound.direction c = .ok direction) ∨
      (∀ direction : Direction, c ≠ direction.documentClass) ∧
        ∃ raw, Inbound.direction c = .error (.unknownClass raw) := by
  cases c with
  | request => exact .inl ⟨.request, rfl, rfl⟩
  | response => exact .inl ⟨.response, rfl, rfl⟩
  | other raw => exact .inr ⟨fun direction => by cases direction <;> simp [Direction.documentClass], raw, rfl⟩

/-- All that can come of a dispatch: three ways for a document to be dropped, and the call of one handler. -/
theorem dispatch_cases (i : Inbound) (site : Site) (d : Delivery) :
    (∃ id, d.FirstMissing id ∧ i.dispatch site d = (.ok (), [.logged site (.received d),
      .logged site (.droppedIncomplete d.sender d.documentType (.attachmentMissing id))])) ∨
    (d.Complete ∧ (∀ direction : Direction, d.documentClass ≠ direction.documentClass) ∧
      ∃ cause, i.dispatch site d = (.ok (), [.logged site (.received d),
        .logged site (.droppedUnclassified d.sender d.documentType cause)])) ∨
    (∃ direction, d.Complete ∧ d.documentClass = direction.documentClass ∧
      i.handler direction = none ∧ i.dispatch site d = (.ok (), [.logged site (.received d),
        .logged site (.droppedUnhandled direction d.sender)])) ∨
    ∃ direction h, d.Complete ∧ d.documentClass = direction.documentClass ∧
      i.handler direction = some h ∧
      ((h.failure = none ∧ i.dispatch site d = (.ok (), [.logged site (.received d),
        .handled h.name direction d])) ∨
      ∃ failure, h.failure = some failure ∧ i.dispatch site d = (.error (.handler direction failure),
        [.logged site (.received d), .handled h.name direction d,
          .logged site (.handlerFailed direction d.sender failure)])) := by
  unfold dispatch
  cases hm : d.missingAttachment with
  | some id => exact .inl ⟨id, Delivery.missingAttachment_eq_some_iff.1 hm, rfl⟩
  | none =>
    have hcomplete := Delivery.missingAttachment_eq_none_iff.1 hm
    rcases documentClass_cases d.documentClass with ⟨direction, hclass, hd⟩ | ⟨hclass, raw, hd⟩
    · cases hh : i.handler direction with
      | none =>
        refine .inr (.inr (.inl ⟨direction, hcomplete, hclass, hh, ?_⟩))
        simp only [hd, hh]
      | some h =>
        refine .inr (.inr (.inr ⟨direction, h, hcomplete, hclass, hh, ?_⟩))
        cases hf : h.failure with
        | none => exact .inl ⟨rfl, by simp only [hd, hh, hf]⟩
        | some failure => exact .inr ⟨failure, rfl, by simp only [hd, hh, hf]⟩
    · exact .inr (.inl ⟨hcomplete, hclass, .unknownClass raw, by simp only [hd]⟩)

theorem documentClass_injective {direction other : Direction}
    (h : direction.documentClass = other.documentClass) : direction = other := by
  cases direction <;> cases other <;> first | rfl | cases h

structure Recipient (i : Inbound) (d : Delivery) (direction : Direction) (h : Handler) : Prop where
  complete : d.Complete
  class_ : d.documentClass = direction.documentClass
  handler : i.handler direction = some h

theorem Recipient.unique {d : Delivery} {direction other : Direction} {h h' : Handler}
    (hr : Recipient i d direction h) (hr' : Recipient i d other h') : direction = other ∧ h = h' := by
  obtain rfl := documentClass_injective (hr.class_.symm.trans hr'.class_)
  exact ⟨rfl, Option.some.inj (hr.handler.symm.trans hr'.handler)⟩

def verdict (direction : Direction) : Option Fault → Except Fault Unit
  | none => .ok ()
  | some failure => .error (.handler direction failure)

theorem dispatch_outcome (i : Inbound) (site : Site) (d : Delivery) :
    (∃ direction h, Recipient i d direction h ∧
      calls (i.dispatch site d).2 = [(h.name, direction, d)] ∧
      (i.dispatch site d).1 = verdict direction h.failure) ∨
    ((∀ direction h, ¬ Recipient i d direction h) ∧ calls (i.dispatch site d).2 = [] ∧
      (i.dispatch site d).1 = .ok ()) := by
  rcases dispatch_cases i site d with ⟨id, hid, hd⟩ | ⟨-, hclass, cause, hd⟩ |
    ⟨direction, -, hclass, hh, hd⟩ | ⟨direction, h, hcomplete, hclass, hh, hcall⟩
  · refine .inr ⟨fun direction h hr => hid.not_complete hr.complete, ?_⟩
    rw [hd]
    exact ⟨rfl, rfl⟩
  · refine .inr ⟨fun direction h hr => hclass direction hr.class_, ?_⟩
    rw [hd]
    exact ⟨rfl, rfl⟩
  · refine .inr ⟨fun other h hr => ?_, ?_⟩
    · obtain rfl := documentClass_injective (hclass.symm.trans hr.class_)
      rw [hr.handler] at hh
      cases hh
    · rw [hd]
      exact ⟨rfl, rfl⟩
  · refine .inl ⟨direction, h, ⟨hcomplete, hclass, hh⟩, ?_⟩
    rcases hcall with ⟨hf, hd⟩ | ⟨failure, hf, hd⟩
    · rw [hd, hf]
      exact ⟨rfl, rfl⟩
    · rw [hd, hf]
      exact ⟨rfl, rfl⟩

theorem reported_iff (i : Inbound) (site : Site) (d : Delivery) (id : String) :
    .logged site (.droppedIncomplete d.sender d.documentType (.attachmentMissing id)) ∈
      (i.dispatch site d).2 ↔ d.FirstMissing id := by
  rcases dispatch_cases i site d with ⟨id', hid, hd⟩ | ⟨hcomplete, -, cause, hd⟩ |
    ⟨direction, hcomplete, -, -, hd⟩ | ⟨direction, h, hcomplete, -, -, ⟨-, hd⟩ | ⟨failure, -, hd⟩⟩
  · rw [hd, ← Delivery.missingAttachment_eq_some_iff, Delivery.missingAttachment_eq_some_iff.2 hid]
    simp [eq_comm]
  all_goals
    have hnone : ¬ d.FirstMissing id := fun hid => hid.not_complete hcomplete
    rw [hd]
    simp [hnone]

structure Demultiplexed (acts : List Act) (site : Site) (d : Delivery) (result : Except Fault Unit)
    (effects : List Effect) : Prop where
  called : ∀ direction first, d.Complete → d.documentClass = direction.documentClass →
    first? direction acts = some first → calls effects = [(first.name, direction, d)]
  uncalled : (¬ ∃ direction first, d.Complete ∧ d.documentClass = direction.documentClass ∧
    first? direction acts = some first) → calls effects = [] ∧ result = .ok ()
  failed : ∀ fault, result = .error fault ↔ ∃ direction h failure, d.Complete ∧
    d.documentClass = direction.documentClass ∧ (empty.after acts).handler direction = some h ∧
    h.failure = some failure ∧ fault = .handler direction failure
  /-- The code of an exchange is not lost, however many handlers report it. -/
  coded : ∀ direction failure, result = .error (.handler direction failure) →
    (Fault.handler direction failure).exchangeCode = failure.exchangeCode ∧
      ∀ code, failure.exchangeCode = some code ↔ ∃ message, failure.root = .exchange code message
  reported : ∀ id, .logged site (.droppedIncomplete d.sender d.documentType (.attachmentMissing id)) ∈
    effects ↔ d.FirstMissing id

theorem demultiplexed (acts : List Act) (site : Site) (d : Delivery) :
    Demultiplexed acts site d ((empty.after acts).dispatch site d).1
      ((empty.after acts).dispatch site d).2 := by
  have hcoded : ∀ direction failure,
      ((empty.after acts).dispatch site d).1 = .error (.handler direction failure) →
      (Fault.handler direction failure).exchangeCode = failure.exchangeCode ∧
        ∀ code, failure.exchangeCode = some code ↔
          ∃ message, failure.root = .exchange code message :=
    fun _ _ _ => ⟨rfl, fun _ => Fault.exchangeCode_eq_some_iff⟩
  have hreported := reported_iff (empty.after acts) site d
  rcases dispatch_outcome (empty.after acts) site d with
    ⟨direction, h, hr, hcalls, hresult⟩ | ⟨hnobody, hcalls, hresult⟩
  · obtain ⟨first, hfirst, hname⟩ := exists_first acts hr.handler
    refine ⟨fun other first' hcomplete hclass hfirst' => ?_, fun hnone => ?_, fun fault => ?_, hcoded,
      hreported⟩
    · obtain ⟨h', hh', hname'⟩ := exists_handler acts hfirst'
      obtain ⟨rfl, rfl⟩ := hr.unique ⟨hcomplete, hclass, hh'⟩
      rw [hcalls, hname']
    · exact absurd ⟨direction, first, hr.complete, hr.class_, hfirst⟩ hnone
    · rw [hresult]
      constructor
      · intro hfault
        cases hf : h.failure with
        | none =>
          rw [hf] at hfault
          cases hfault
        | some failure =>
          rw [hf] at hfault
          obtain rfl := Except.error.inj hfault
          exact ⟨direction, h, failure, hr.complete, hr.class_, hr.handler, hf, rfl⟩
      · rintro ⟨other, h', failure, hcomplete, hclass, hh', hf, rfl⟩
        obtain ⟨rfl, rfl⟩ := hr.unique ⟨hcomplete, hclass, hh'⟩
        rw [hf]
        rfl
  · refine ⟨fun direction first hcomplete hclass hfirst => ?_, fun _ => ⟨hcalls, hresult⟩,
      fun fault => ?_, hcoded, hreported⟩
    · obtain ⟨h, hh, -⟩ := exists_handler acts hfirst
      exact absurd ⟨hcomplete, hclass, hh⟩ (hnobody direction h)
    · rw [hresult]
      constructor
      · intro hfault
        cases hfault
      · rintro ⟨direction, h, failure, hcomplete, hclass, hh, -⟩
        exact absurd ⟨hcomplete, hclass, hh⟩ (hnobody direction h)

/-- At every moment the first handler registered for a direction is the one that handles it: another
registration fails, whatever happens later does not replace it, and each document goes to the handler
for its class, complete and unchanged, or to nobody. -/
theorem first_handler_called (acts : List Act) :
    (∀ direction h,
      (first? direction acts = none ∧ ∃ i', (empty.after acts).register direction h = .ok i') ∨
      ((first? direction acts).isSome ∧ (empty.after acts).register direction h =
        .error (.configuration (.handlerTaken direction)))) ∧
    (∀ more direction h, (empty.after acts).handler direction = some h →
      ∃ h', (empty.after (acts ++ more)).handler direction = some h' ∧ h'.name = h.name) ∧
    ∀ site d, Demultiplexed acts site d ((empty.after acts).dispatch site d).1
      ((empty.after acts).dispatch site d).2 := by
  refine ⟨fun direction h => ?_, fun more direction h hh => ?_, demultiplexed acts⟩
  · rcases (empty.after acts).register_cases direction h with ⟨old, hold, hr⟩ | ⟨hfree, i', hr, -⟩
    · obtain ⟨first, hfirst, -⟩ := exists_first acts hold
      exact .inr ⟨by rw [hfirst]; rfl, hr⟩
    · refine .inl ⟨?_, i', hr⟩
      cases hfirst : first? direction acts with
      | none => rfl
      | some first =>
        obtain ⟨h', hh', -⟩ := exists_handler acts hfirst
        rw [hfree] at hh'
        cases hh'
  · have hname := handler_after (empty.after acts) more direction
    rw [hh, Option.some_or, Option.map_some, Option.map_eq_some_iff, ← after_append] at hname
    exact hname

end Inbound

end MessageExchange

import MessageExchange.Event
import MessageExchange.Settings
import MessageExchange.Shelf

/-! The wires a gateway can be bound to, by identifier. The registry holds the last catalog that
could be used: one that is not empty and names no identifier twice. -/

namespace MessageExchange

structure Registry (ι : Type) where
  choice : WireChoice
  wires : Shelf String ι

namespace Registry

variable {ι : Type}

def firstRepeated : List String → List String → Option String
  | _, [] => none
  | before, id :: rest =>
    if id ∈ before then some id else firstRepeated (id :: before) rest

/-- A catalog as a shelf, or why it cannot be used. -/
def shelve (catalog : List (String × ι)) : Except Misconfiguration (Shelf String ι) :=
  if catalog.isEmpty then .error .noWires
  else match firstRepeated [] (catalog.map Prod.fst) with
    | some id => .error (.duplicateWire id)
    | none => .ok (catalog.foldl (fun s p => s.put p.1 p.2) Shelf.empty)

def complaint : Misconfiguration → Event
  | .duplicateWire id => .registryDuplicate id
  | _ => .registryEmpty

/-- Takes over the catalog and counts its wires. One that cannot be used changes nothing. -/
def rescan (r : Registry ι) (catalog : List (String × ι)) :
    Except Fault Nat × Registry ι × List Event :=
  match shelve catalog with
  | .error cause => (.error (.configuration cause), r, [complaint cause])
  | .ok wires =>
    (.ok wires.size, { r with wires }, [.registryReady wires.size r.choice.fallback])

def create (choice : WireChoice) (catalog : List (String × ι)) :
    Except Fault (Registry ι) × List Event :=
  match rescan ⟨choice, Shelf.empty⟩ catalog with
  | (.error fault, _, events) => (.error fault, events)
  | (.ok _, r, events) => (.ok r, events)

/-- The wire called `id`, or else the default one. -/
def resolve (r : Registry ι) (id : Option String) : Option (String × ι) :=
  let named (id : String) := (r.wires.get? id).map (id, ·)
  (id.bind named).or (named r.choice.fallback)

def resolveConfigured (r : Registry ι) : Except Fault (String × ι) × List Event :=
  match r.resolve r.choice.selected with
  | none =>
    (.error (.configuration (.defaultWireMissing r.choice.fallback)),
      [.registryUnresolved r.choice.selected r.choice.fallback])
  | some (id, wire) =>
    (.ok (id, wire),
      match r.choice.selected with
      | some selected => if id = selected then [] else [.registryFellBack selected id]
      | none => [])

/-- In sorted order. -/
def identifiers (r : Registry ι) : List String := r.wires.keys.mergeSort fun a b => decide (a ≤ b)

end Registry

end MessageExchange

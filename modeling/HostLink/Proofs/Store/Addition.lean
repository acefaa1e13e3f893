/-
Adding objects to a compartment.

Objects are added one at a time, each behind those of its kind.  `Additions` collects what
was added by any number of steps, and `plus` adds it all at once, so that what a longer
construction leaves can be said in one equation.  The handle of an added object lies behind
all that there were before.
-/
import HostLink.Proofs.Store.Evolution

namespace HostLink

variable {Host : Type}

/-- Objects to be added to a compartment, in order for each kind. -/
structure Additions (Host : Type) where
  memories : List Memory := []
  tables : List (Table (Handle .function)) := []
  globals : List Global := []
  functions : List (Function Host) := []
  instances : List Instance := []

namespace Additions

def objects (a : Additions Host) : (kind : Kind) → List (kind.Object Host)
  | .memory => a.memories
  | .table => a.tables
  | .global => a.globals
  | .function => a.functions
  | .instance_ => a.instances

def one : (kind : Kind) → kind.Object Host → Additions Host
  | .memory, memory => { memories := [memory] }
  | .table, table => { tables := [table] }
  | .global, global => { globals := [global] }
  | .function, function => { functions := [function] }
  | .instance_, instance_ => { instances := [instance_] }

instance : Append (Additions Host) where
  append a b :=
    { memories := a.memories ++ b.memories
      tables := a.tables ++ b.tables
      globals := a.globals ++ b.globals
      functions := a.functions ++ b.functions
      instances := a.instances ++ b.instances }

theorem append_def (a b : Additions Host) :
    a ++ b = ⟨a.memories ++ b.memories, a.tables ++ b.tables, a.globals ++ b.globals,
      a.functions ++ b.functions, a.instances ++ b.instances⟩ := rfl

end Additions

namespace Compartment

variable {c : Compartment Host} {a b : Additions Host} {kind : Kind}

/-- The compartment with some objects added. -/
def plus (c : Compartment Host) (a : Additions Host) : Compartment Host :=
  { c with
    memories := c.memories ++ a.memories.toArray
    tables := c.tables ++ a.tables.toArray
    globals := c.globals ++ a.globals.toArray
    functions := c.functions ++ a.functions.toArray
    instances := c.instances ++ a.instances.toArray }

@[simp] theorem id_plus (c : Compartment Host) (a : Additions Host) : (c.plus a).id = c.id := rfl

theorem objects_plus (c : Compartment Host) (a : Additions Host) (kind : Kind) :
    (c.plus a).objects kind = c.objects kind ++ (a.objects kind).toArray := by
  cases kind <;> rfl

theorem count_plus (c : Compartment Host) (a : Additions Host) (kind : Kind) :
    (c.plus a).count kind = c.count kind + (a.objects kind).length := by
  rw [count, objects_plus, Array.size_append, List.size_toArray]
  rfl

theorem plus_plus (c : Compartment Host) (a b : Additions Host) :
    (c.plus a).plus b = c.plus (a ++ b) := by
  simp only [plus, Additions.append_def, Array.append_assoc, List.append_toArray]

theorem plus_empty (c : Compartment Host) : c.plus {} = c := by
  simp [plus]

theorem add_eq (c : Compartment Host) (kind : Kind) (object : kind.Object Host) :
    c.add kind object = (c.plus (.one kind object), ⟨c.id, c.count kind⟩) := by
  cases kind <;> simp [add, withObjects, objects, plus, Additions.one]

theorem extends_plus (c : Compartment Host) (a : Additions Host) : c.Extends (c.plus a) := by
  refine ⟨rfl, rfl, fun kind i object hobject => ?_⟩
  have hlt : i < (c.objects kind).size := (Array.getElem?_eq_some_iff.mp hobject).1
  rw [objects_plus, Array.getElem?_append_left hlt, hobject]

/-- What is added is found behind what was there. -/
theorem get?_plus (c : Compartment Host) (a : Additions Host) (kind : Kind) (i : Nat) :
    (c.plus a).get? (⟨c.id, c.count kind + i⟩ : Handle kind) = (a.objects kind)[i]? := by
  have hi : (c.objects kind).size ≤ c.count kind + i := Nat.le_add_right _ _
  have hdistance : c.count kind + i - (c.objects kind).size = i := Nat.add_sub_cancel_left _ _
  simp only [get?, owns, id_plus, beq_self_eq_true, if_true, objects_plus,
    Array.getElem?_append_right hi, hdistance, List.getElem?_toArray]

/-- Changing the only memory that was added is adding it changed. -/
theorem set_plus_memory (c : Compartment Host) (a : Additions Host) (m m' : Memory) :
    (c.plus { a with memories := [m] }).set (⟨c.id, c.count .memory⟩ : Handle .memory) m' =
      c.plus { a with memories := [m'] } := by
  have howns : (c.plus { a with memories := [m] }).owns
      (⟨c.id, c.count .memory⟩ : Handle .memory) = true := by simp [owns]
  have hlast : (c.memories ++ #[m]).setIfInBounds (c.count .memory) m' = c.memories ++ #[m'] := by
    have hcount : c.count .memory = c.memories.size := rfl
    rw [hcount, Array.setIfInBounds_append_right (Nat.le_refl _), Nat.sub_self]
    rfl
  simp only [set, if_pos howns]
  show ({ c.plus { a with memories := [m'] } with
    memories := (c.memories ++ #[m]).setIfInBounds (c.count .memory) m' } : Compartment Host) = _
  rw [hlast]
  rfl

end Compartment

/-! ## Handles of added objects -/

/-- Whether a handle lies behind all objects of its kind. -/
def Handle.Behind {kind : Kind} (handle : Handle kind) (c : Compartment Host) : Prop :=
  handle.compartment = c.id ∧ c.count kind ≤ handle.index

theorem Handle.Behind.mono {kind : Kind} {handle : Handle kind} {c c' : Compartment Host}
    (h : handle.Behind c') (hc : c.Extends c') : handle.Behind c :=
  ⟨h.1.trans hc.id, Nat.le_trans (hc.evolves.count_le kind) h.2⟩

def Entity.Behind (entity : Entity) (c : Compartment Host) : Prop :=
  match entity with
  | function handle => handle.Behind c
  | global handle => handle.Behind c
  | table handle => handle.Behind c
  | memory handle => handle.Behind c

theorem Entity.Behind.mono {entity : Entity} {c c' : Compartment Host} (h : entity.Behind c')
    (hc : c.Extends c') : entity.Behind c := by
  cases entity with
  | function handle | global handle | table handle | memory handle => exact Handle.Behind.mono h hc

end HostLink

/-
Types ordered by what may stand for what.

Whether an export may stand for an import is decided from two types, and a size if the object
exists.  Without a size it is an order.  Functions and globals are related to themselves only,
and a table or a memory to those of its form whose bounds are wider: a smaller minimum and a
larger maximum, where none at all is the largest.  `ExternType.Fits` says this once for all
pairs of types, so that the laws of the order have a case for each kind and not for each pair.

A size takes the place of the minimum and does nothing else.  An object shows its size as the
minimum of its type already, so the check against an object is the order on types.
-/
import HostLink.Proofs.Store.Evolution

namespace HostLink

variable {Host : Type}

/-! ## Maxima -/

section Maximum

variable {x y z : Option UInt32}

theorem maximumWithin_self (maximum : Option UInt32) : maximumWithin maximum maximum = true := by
  cases maximum with
  | none => rfl
  | some maximum => exact decide_eq_true (UInt32.le_refl maximum)

theorem maximumWithin_trans (hxy : maximumWithin x y = true) (hyz : maximumWithin y z = true) :
    maximumWithin x z = true := by
  cases z with
  | none => rfl
  | some last =>
    -- What is within a maximum has one, and so has what is within that.
    cases y with
    | none => cases hyz
    | some middle =>
      cases x with
      | none => cases hxy
      | some first =>
        exact decide_eq_true (UInt32.le_trans (of_decide_eq_true hxy) (of_decide_eq_true hyz))

theorem maximumWithin_antisymm (hxy : maximumWithin x y = true) (hyx : maximumWithin y x = true) :
    x = y := by
  cases x with
  | none =>
    cases y with
    | none => rfl
    | some maximum => cases hxy
  | some first =>
    cases y with
    | none => cases hyx
    | some second =>
      rw [UInt32.le_antisymm (of_decide_eq_true hxy) (of_decide_eq_true hyx)]

end Maximum

/-! ## Bounds -/

/-- The bounds on the size of a table or a memory. -/
structure Bounds where
  minimum : UInt32
  maximum : Option UInt32

namespace Bounds

variable {x y z : Bounds}

/-- Whether all that keeps to the first bounds keeps to the second ones. -/
structure Within (x y : Bounds) : Prop where
  minimum : y.minimum ≤ x.minimum
  maximum : maximumWithin x.maximum y.maximum = true

theorem Within.refl (x : Bounds) : x.Within x :=
  ⟨UInt32.le_refl x.minimum, maximumWithin_self x.maximum⟩

theorem Within.trans (hxy : x.Within y) (hyz : y.Within z) : x.Within z :=
  ⟨UInt32.le_trans hyz.minimum hxy.minimum, maximumWithin_trans hxy.maximum hyz.maximum⟩

theorem Within.antisymm (hxy : x.Within y) (hyx : y.Within x) : x = y := by
  obtain ⟨minimum, maximum⟩ := x
  obtain ⟨minimum', maximum'⟩ := y
  obtain rfl : minimum = minimum' := UInt32.le_antisymm hyx.minimum hxy.minimum
  obtain rfl : maximum = maximum' := maximumWithin_antisymm hxy.maximum hyx.maximum
  rfl

/-- The bounds of an object whose current size is known. -/
def sized (x : Bounds) (size : Option UInt32) : Bounds :=
  { x with minimum := size.getD x.minimum }

end Bounds

def TableType.bounds (type : TableType) : Bounds :=
  { minimum := type.minimum, maximum := type.maximum }

theorem TableType.satisfies_iff {x y : TableType} {size : Option UInt32} :
    x.satisfies y size = true ↔
      x.element = y.element ∧ (x.bounds.sized size).Within y.bounds := by
  simp only [satisfies, Bool.and_eq_true, beq_iff_eq, decide_eq_true_eq]
  constructor
  · rintro ⟨⟨helement, hminimum⟩, hmaximum⟩
    exact ⟨helement, hminimum, hmaximum⟩
  · rintro ⟨helement, hminimum, hmaximum⟩
    exact ⟨⟨helement, hminimum⟩, hmaximum⟩

theorem TableType.eq_of_bounds {x y : TableType} (helement : x.element = y.element)
    (hbounds : x.bounds = y.bounds) : x = y := by
  obtain ⟨element, minimum, maximum⟩ := x
  cases helement
  cases hbounds
  rfl

def MemoryType.bounds (type : MemoryType) : Bounds :=
  { minimum := type.minimum.count, maximum := type.maximum.map Pages.count }

theorem MemoryType.satisfies_iff {x y : MemoryType} {size : Option UInt32} :
    x.satisfies y size = true ↔
      (x.bounds.sized size).Within y.bounds ∧ x.shared = y.shared := by
  simp only [satisfies, Bool.and_eq_true, beq_iff_eq, decide_eq_true_eq]
  constructor
  · rintro ⟨⟨hminimum, hmaximum⟩, hshared⟩
    exact ⟨⟨hminimum, hmaximum⟩, hshared⟩
  · rintro ⟨⟨hminimum, hmaximum⟩, hshared⟩
    exact ⟨⟨hminimum, hmaximum⟩, hshared⟩

theorem Pages.count_injective : Function.Injective Pages.count := by
  rintro ⟨count⟩ ⟨count'⟩ rfl
  rfl

theorem MemoryType.eq_of_bounds {x y : MemoryType} (hbounds : x.bounds = y.bounds)
    (hshared : x.shared = y.shared) : x = y := by
  obtain ⟨hminimum, hmaximum⟩ := Bounds.mk.inj hbounds
  obtain ⟨minimum, maximum, shared⟩ := x
  obtain ⟨minimum', maximum', shared'⟩ := y
  obtain rfl : minimum = minimum' := Pages.count_injective hminimum
  obtain rfl : maximum = maximum' := Option.map_injective Pages.count_injective hmaximum
  obtain rfl : shared = shared' := hshared
  rfl

/-! ## The order -/

namespace ExternType

variable {a b d : ExternType} {size : Option UInt32}

/-- What it takes for an export of the first type to stand for an import of the second. -/
inductive Fits (size : Option UInt32) : ExternType → ExternType → Prop
  | function (x : FunctionType) : Fits size (.function x) (.function x)
  | global (x : GlobalType) : Fits size (.global x) (.global x)
  | table {x y : TableType} (helement : x.element = y.element)
      (hbounds : (x.bounds.sized size).Within y.bounds) : Fits size (.table x) (.table y)
  | memory {x y : MemoryType} (hbounds : (x.bounds.sized size).Within y.bounds)
      (hshared : x.shared = y.shared) : Fits size (.memory x) (.memory y)

theorem satisfies_iff_fits : a.satisfies b size = true ↔ Fits size a b := by
  constructor
  · intro h
    cases a with
    | function x =>
      cases b with
      | function y =>
        obtain rfl : x = y := eq_of_beq h
        exact .function x
      | global y | table y | memory y => cases h
    | global x =>
      cases b with
      | global y =>
        obtain rfl : x = y := eq_of_beq h
        exact .global x
      | function y | table y | memory y => cases h
    | table x =>
      cases b with
      | table y =>
        obtain ⟨helement, hbounds⟩ := TableType.satisfies_iff.mp h
        exact .table helement hbounds
      | function y | global y | memory y => cases h
    | memory x =>
      cases b with
      | memory y =>
        obtain ⟨hbounds, hshared⟩ := MemoryType.satisfies_iff.mp h
        exact .memory hbounds hshared
      | function y | global y | table y => cases h
  · intro h
    cases h with
    | function x => exact beq_self_eq_true x
    | global x => exact beq_self_eq_true x
    | table helement hbounds => exact TableType.satisfies_iff.mpr ⟨helement, hbounds⟩
    | memory hbounds hshared => exact MemoryType.satisfies_iff.mpr ⟨hbounds, hshared⟩

theorem Fits.refl (a : ExternType) : Fits none a a := by
  cases a with
  | function x => exact .function x
  | global x => exact .global x
  | table x => exact .table rfl (.refl _)
  | memory x => exact .memory (.refl _) rfl

/-- What an object fits, all wider types fit; the size is that of the object. -/
theorem Fits.trans (hab : Fits size a b) (hbd : Fits none b d) : Fits size a d := by
  cases hab with
  | function x => cases hbd with | function => exact .function x
  | global x => cases hbd with | global => exact .global x
  | table helement hbounds =>
    cases hbd with
    | table helement' hbounds' => exact .table (helement.trans helement') (hbounds.trans hbounds')
  | memory hbounds hshared =>
    cases hbd with
    | memory hbounds' hshared' => exact .memory (hbounds.trans hbounds') (hshared.trans hshared')

theorem Fits.antisymm (hab : Fits none a b) (hba : Fits none b a) : a = b := by
  cases hab with
  | function x => rfl
  | global x => rfl
  | table helement hbounds =>
    cases hba with
    | table _ hbounds' => rw [TableType.eq_of_bounds helement (hbounds.antisymm hbounds')]
  | memory hbounds hshared =>
    cases hba with
    | memory hbounds' _ => rw [MemoryType.eq_of_bounds (hbounds.antisymm hbounds') hshared]

/-! ## Sizes -/

/-- A type with another minimum.  Functions and globals have none. -/
def withMinimum (minimum : UInt32) : ExternType → ExternType
  | function type => .function type
  | global type => .global type
  | table type => .table { type with minimum := minimum }
  | memory type => .memory { type with minimum := ⟨minimum⟩ }

/-- A size takes the place of the minimum. -/
theorem satisfies_some (a b : ExternType) (size : UInt32) :
    a.satisfies b (some size) = (a.withMinimum size).satisfies b none := by
  cases a <;> cases b <;> rfl

end ExternType

namespace Entity

variable {entity : Entity} {c : Compartment Host}

/-- Whether the handle of an object carries the number of a compartment and is in range in
it. -/
def In (entity : Entity) (c : Compartment Host) : Prop :=
  match entity with
  | function handle => c.Has handle
  | global handle => c.Has handle
  | table handle => c.Has handle
  | memory handle => c.Has handle

theorem live_iff_in : entity.Live c ↔ entity.In c := by
  cases entity with
  | function handle | global handle | table handle | memory handle =>
    simp only [Live, In, type?, Option.isSome_map, Option.isSome_iff_exists,
      Compartment.has_iff]

/-- The check against an object is the one against its current type, without a size. -/
theorem satisfies?_eq (entity : Entity) (c : Compartment Host) (declared : ExternType) :
    entity.satisfies? c declared =
      (entity.type? c).map fun type => type.satisfies declared none := by
  cases entity with
  | function handle | global handle => rfl
  | table handle =>
    cases htable : c.get? handle with
    | none => simp [satisfies?, type?, htable]
    | some t =>
      simp only [satisfies?, type?, runtimeSize?, htable, Option.map_some]
      rw [ExternType.satisfies_some]
      rfl
  | memory handle =>
    cases hmemory : c.get? handle with
    | none => simp [satisfies?, type?, hmemory]
    | some m =>
      simp only [satisfies?, type?, runtimeSize?, hmemory, Option.map_some]
      rw [ExternType.satisfies_some]
      rfl

/-- An object of a smaller type does wherever one of a larger type does. -/
theorem satisfies?_of_satisfies {entity' : Entity} {c' : Compartment Host}
    {type type' declared : ExternType} (htype : entity.type? c = some type)
    (htype' : entity'.type? c' = some type') (hsmaller : type.satisfies type' none = true)
    (h : entity'.satisfies? c' declared = some true) :
    entity.satisfies? c declared = some true := by
  rw [satisfies?_eq, htype', Option.map_some, Option.some.injEq,
    ExternType.satisfies_iff_fits] at h
  rw [ExternType.satisfies_iff_fits] at hsmaller
  rw [satisfies?_eq, htype, Option.map_some, Option.some.injEq, ExternType.satisfies_iff_fits]
  exact hsmaller.trans h

end Entity

/-! ## The laws -/

/-- Without a size the check is a partial order.  With one it is the check of the type that has
the size as its minimum, so what is satisfied at one size is satisfied at every larger one.
An object whose handle is good has a current type, and the check against the object is the one
against that type.  So an object of a smaller type does wherever one of a larger type does. -/
theorem ExternType.satisfies_order :
    (∀ a : ExternType, a.satisfies a none = true) ∧
      (∀ a b d : ExternType, a.satisfies b none = true → b.satisfies d none = true →
        a.satisfies d none = true) ∧
      (∀ a b : ExternType, a.satisfies b none = true → b.satisfies a none = true → a = b) ∧
      (∀ (a b : ExternType) (size : UInt32),
        a.satisfies b (some size) = (a.withMinimum size).satisfies b none) ∧
      (∀ (a b : ExternType) (size size' : UInt32), size ≤ size' →
        a.satisfies b (some size) = true → a.satisfies b (some size') = true) ∧
      (∀ (entity : Entity) (c : Compartment Host), entity.In c →
        ∃ type, entity.type? c = some type ∧ ∀ declared,
          entity.satisfies? c declared = some (type.satisfies declared none)) ∧
      ∀ (entity entity' : Entity) (c c' : Compartment Host) (type type' declared : ExternType),
        entity.type? c = some type → entity'.type? c' = some type' →
          type.satisfies type' none = true → entity'.satisfies? c' declared = some true →
            entity.satisfies? c declared = some true := by
  refine ⟨fun a => ?_, fun a b d hab hbd => ?_, fun a b hab hba => ?_, satisfies_some,
    fun a b size size' hsize h => satisfies_mono hsize h, fun entity c hin => ?_,
    fun entity entity' c c' type type' declared htype htype' hsmaller h =>
      Entity.satisfies?_of_satisfies htype htype' hsmaller h⟩
  · exact satisfies_iff_fits.mpr (.refl a)
  · exact satisfies_iff_fits.mpr ((satisfies_iff_fits.mp hab).trans (satisfies_iff_fits.mp hbd))
  · exact (satisfies_iff_fits.mp hab).antisymm (satisfies_iff_fits.mp hba)
  · obtain ⟨type, htype⟩ := Option.isSome_iff_exists.mp (Entity.live_iff_in.mpr hin)
    refine ⟨type, htype, fun declared => ?_⟩
    rw [Entity.satisfies?_eq, htype, Option.map_some]

/-- A compartment with a memory that has grown from one page to three, and one of two pages. -/
def Compartment.grownMemory : Compartment Empty :=
  let grown : Memory := { Memory.zeroed ⟨1, some 4, false⟩ with size := 3 }
  (((empty ⟨0⟩).add .memory grown).1.add .memory (.zeroed ⟨2, some 8, false⟩)).1

/-- A table without room does where one with any room does, and a memory at three pages where it
does at two.  The memory that has grown is checked by what it is now, so it does where the other
one does, though it was declared smaller. -/
theorem ExternType.satisfies_order_grown :
    (table ⟨.funcRef, 5, some 5⟩).satisfies (.table ⟨.funcRef, 0, none⟩) none = true ∧
      (memory ⟨1, some 4, false⟩).satisfies (.memory ⟨2, some 4, false⟩) (some 3) = true ∧
      (∃ type, (Entity.memory ⟨⟨0⟩, 0⟩).type? .grownMemory = some type ∧
        (Entity.memory ⟨⟨0⟩, 0⟩).satisfies? .grownMemory (.memory ⟨4, none, false⟩) =
          some (type.satisfies (.memory ⟨4, none, false⟩) none)) ∧
      (Entity.memory ⟨⟨0⟩, 1⟩).satisfies? .grownMemory (.memory ⟨2, none, false⟩) = some true ∧
      (Entity.memory ⟨⟨0⟩, 0⟩).satisfies? .grownMemory (.memory ⟨2, none, false⟩) = some true := by
  obtain ⟨-, htrans, -, -, hmono, hchecked, hsubstituted⟩ := satisfies_order
  have hother : (Entity.memory ⟨⟨0⟩, 1⟩).satisfies? .grownMemory (.memory ⟨2, none, false⟩) =
      some true := by
    decide +kernel
  refine ⟨?_, ?_, ?_, hother, ?_⟩
  · exact htrans _ (.table ⟨.funcRef, 2, some 7⟩) _ (by decide) (by decide)
  · exact hmono _ _ 2 3 (by decide) (by decide)
  · obtain ⟨type, htype, hall⟩ := hchecked (.memory ⟨⟨0⟩, 0⟩) .grownMemory ⟨rfl, by decide +kernel⟩
    exact ⟨type, htype, hall _⟩
  · exact hsubstituted _ _ .grownMemory .grownMemory (.memory ⟨3, some 4, false⟩)
      (.memory ⟨2, some 8, false⟩) _ (by decide +kernel) (by decide +kernel) (by decide +kernel)
      hother

end HostLink

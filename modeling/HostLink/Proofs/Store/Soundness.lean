/-
What always holds of the objects of a compartment.

A memory or a table keeps to its declared limits, and what it holds lies in its size.  A
global holds a value of its type.  `Kind.Sound` has these facts by kind.  Constructors
establish them, and `Kind.Advances`, which is what every operation of an object does, keeps
them.

An operation of a memory takes its bytes from a slice, and no slice is longer than a 64-bit
word can say.  The bound is needed: the check of a write adds the length as a word.
-/
import HostLink.Proofs.Store.Evolution
import HostLink.Proofs.Store.Refinement

namespace HostLink

/-! ## Memories -/

namespace Memory

variable {m m' : Memory} {offset length source target : UInt64} {bytes : List UInt8}

theorem backed_of_create {type : MemoryType} (h : create type = .ok m) : m.Backed := by
  obtain ⟨rfl, hlimits⟩ := create_eq_ok_iff.mp h
  exact backed_zeroed hlimits

theorem Backed.write (hm : m.Backed) (hshort : bytes.length < UInt64.size)
    (h : m.write offset bytes = .ok m') : m'.Backed := by
  have hlength : (UInt64.ofNat bytes.length).toNat = bytes.length :=
    UInt64.toNat_ofNat_of_lt hshort
  have hcovers : m.Covers offset (UInt64.ofNat bytes.length) := by
    by_contra houtside
    rw [write_eq_error houtside] at h
    cases h
  rw [Covers, hlength] at hcovers
  rw [eq_store_of_write h]
  exact hm.store hcovers

theorem Backed.fill (hm : m.Backed) {value : UInt8} (h : m.fill offset value length = .ok m') :
    m'.Backed := by
  have hcovers : m.Covers offset length := by
    by_contra houtside
    rw [fill_eq_error houtside] at h
    cases h
  rw [eq_store_of_fill h]
  exact hm.store hcovers

theorem Backed.commit (hm : m.Backed) {last : Nat} (hlast : last ≤ m.length) :
    (m.commit last).Backed := by
  refine ⟨hm.minimum, hm.maximum, ?_, fun _ => byte_of_le⟩
  rw [committed_commit]
  exact Nat.max_le.mpr ⟨hm.inside, hlast⟩

/-- A copy keeps a memory backed, even one that brings the host down. -/
theorem Backed.copyWithin (hm : m.Backed) {copy : Copy}
    (h : m.copyWithin source target length = .ok copy) : copy.memory.Backed := by
  by_cases hcovers : m.CoversCopy source target length
  · by_cases hstart : m.StartsBehind source target length
    · rw [copyWithin_eq_crash hcovers hstart] at h
      obtain rfl := Except.ok.inj h
      exact hm.commit hcovers.2
    · rw [copyWithin_eq_done hcovers hstart] at h
      obtain rfl := Except.ok.inj h
      rw [Copy.memory, copied]
      exact hm.store hcovers.2
  · obtain ⟨offset, herror⟩ := copyWithin_eq_error hcovers
    rw [herror] at h
    cases h

theorem Backed.grow (hm : m.Backed) {delta previous : Pages}
    (h : m.grow delta = .ok (m', previous)) : m'.Backed := by
  rw [grow_eq] at h
  split at h
  · rename_i hgrowable
    obtain ⟨rfl, -⟩ := Prod.mk.inj (Except.ok.inj h)
    exact hm.grown hgrowable
  · cases h

end Memory

/-! ## Tables -/

namespace Table

variable {α : Type} {t t' : Table α}

/-- What holds of every table: it keeps to its declared limits, what was filled lies in it,
and all else is empty. -/
structure Backed (t : Table α) : Prop where
  minimum : t.declared.minimum ≤ t.size
  maximum : ∀ maximum ∈ t.declared.maximum, t.size ≤ maximum
  inside : t.elements.length ≤ t.size.toNat
  empty : ∀ index : UInt32, t.elements.length ≤ index.toNat → t.slot index = none

theorem slot_of_le {index : UInt32} (h : t.elements.length ≤ index.toNat) :
    t.slot index = none := by
  rw [slot, Buffer.get?_of_le h]
  rfl

theorem create_eq_ok_iff {type : TableType} :
    create type = .ok t ↔ t = vacant type ∧
      ∀ maximum, type.maximum = some maximum → type.minimum ≤ maximum := by
  constructor
  · intro h
    have hlimits : ∀ maximum, type.maximum = some maximum → type.minimum ≤ maximum := by
      intro maximum hmaximum
      simp only [create, hmaximum] at h
      split at h
      · cases h
      · exact UInt32.not_lt.mp ‹_›
    rw [create_eq_ok hlimits] at h
    exact ⟨(Except.ok.inj h).symm, hlimits⟩
  · rintro ⟨rfl, hlimits⟩
    exact create_eq_ok hlimits

theorem backed_of_create {type : TableType} (h : create type = .ok t) : t.Backed := by
  obtain ⟨rfl, hlimits⟩ := create_eq_ok_iff.mp h
  exact ⟨UInt32.le_refl _, hlimits, Nat.zero_le _, fun _ => slot_of_le⟩

/-- What becomes of a table by setting a slot.  Only filling one behind the buffer makes it
longer. -/
structure Filled (t : Table α) (index : UInt32) (value : Option α) (t' : Table α) : Prop where
  declared : t'.declared = t.declared
  size : t'.size = t.size
  slot : ∀ i, t'.slot i = if i = index then value else t.slot i
  length : t'.elements.length =
    if value.isSome then max t.elements.length (index.toNat + 1) else t.elements.length

/-- A buffer with a new value in a cell shows it in the slot and shows the others as before. -/
theorem slot_set {elements : Buffer (Option α)} {index : UInt32} {value : Option α}
    (hindex : index.toNat < elements.length)
    (hsame : ∀ i : UInt32, (elements.get? i.toNat).join = t.slot i) (i : UInt32) :
    Table.slot { t with elements := elements.set index.toNat value hindex } i =
      if i = index then value else t.slot i := by
  rw [slot, Buffer.get?_set]
  by_cases hi : i = index
  · rw [if_pos hi, if_pos (congrArg UInt32.toNat hi)]
    rfl
  · rw [if_neg hi, if_neg (mt UInt32.toNat_inj.mp hi), hsame]

theorem filled_of_set {index : UInt32} {value : Option α} (h : t.set index value = .ok t') :
    t.Filled index value t' := by
  simp only [set] at h
  split at h
  · split at h
    · rename_i hindex
      obtain rfl := Except.ok.inj h
      refine ⟨rfl, rfl, slot_set hindex fun _ => rfl, ?_⟩
      show t.elements.length = _
      rw [Nat.max_eq_left hindex, ite_self]
    · rename_i hindex
      have hbehind : t.elements.length ≤ index.toNat := Nat.le_of_not_lt hindex
      cases value with
      | none =>
        obtain rfl := Except.ok.inj h
        refine ⟨rfl, rfl, fun i => ?_, rfl⟩
        split
        · rename_i hi
          rw [hi, slot_of_le hbehind]
        · rfl
      | some a =>
        obtain rfl := Except.ok.inj h
        have hsame : ∀ i : UInt32,
            ((t.elements.resize (index.toNat + 1) none).get? i.toNat).join = t.slot i := by
          intro i
          rw [Buffer.get?_resize]
          split
          · rw [slot]
            cases t.elements.get? i.toNat <;> rfl
          · rw [slot_of_le (by omega), Option.join_none]
        exact ⟨rfl, rfl, slot_set (Nat.lt_succ_self _) hsame,
          (Nat.max_eq_right (Nat.le_succ_of_le hbehind)).symm⟩
  · cases h

theorem exists_set {index : UInt32} (h : index < t.size) (value : Option α) :
    ∃ t', t.set index value = .ok t' := by
  simp only [set, if_pos h]
  split
  · exact ⟨_, rfl⟩
  · split <;> exact ⟨_, rfl⟩

theorem set_eq_error {index : UInt32} {value : Option α} (h : ¬ index < t.size) :
    t.set index value = .error (.outOfBounds index t.size) := if_neg h

theorem lt_size_of_set {index : UInt32} {value : Option α} (h : t.set index value = .ok t') :
    index < t.size := by
  by_contra hindex
  rw [set_eq_error hindex] at h
  cases h

theorem Backed.set (ht : t.Backed) {index : UInt32} {value : Option α}
    (h : t.set index value = .ok t') : t'.Backed := by
  have hfilled := filled_of_set h
  have hindex := UInt32.lt_iff_toNat_lt.mp (lt_size_of_set h)
  have hinside := ht.inside
  refine ⟨?_, ?_, ?_, fun _ => slot_of_le⟩
  · rw [hfilled.declared, hfilled.size]
    exact ht.minimum
  · rw [hfilled.declared, hfilled.size]
    exact ht.maximum
  · rw [hfilled.length, hfilled.size]
    split <;> omega

theorem Backed.grow (ht : t.Backed) {delta previous : UInt32}
    (h : t.grow delta = .ok (t', previous)) : t'.Backed := by
  simp only [Table.grow] at h
  split at h
  · rename_i hgrow
    obtain ⟨rfl, -⟩ := Prod.mk.inj (Except.ok.inj h)
    have hsum : (t.size + delta).toNat = t.size.toNat + delta.toNat := by
      rw [UInt32.toNat_add, Nat.mod_eq_of_lt hgrow.1]
    refine ⟨?_, fun maximum hmaximum => ?_, ?_, ht.empty⟩
    · have hminimum := ht.minimum
      show t.declared.minimum ≤ t.size + delta
      rw [UInt32.le_iff_toNat_le] at hminimum ⊢
      omega
    · have hall := hgrow.2
      rw [Option.mem_def.mp hmaximum, Option.all_some] at hall
      exact of_decide_eq_true hall
    · have hinside := ht.inside
      show t.elements.length ≤ (t.size + delta).toNat
      omega
  · cases h

end Table

/-! ## Globals -/

namespace Global

variable {g g' : Global}

/-- Whether a global holds a value of its declared type. -/
def Typed (g : Global) : Prop := g.value.type = g.type.content

theorem typed_of_create {type : GlobalType} {value : Value} (h : create type value = .ok g) :
    g.Typed := by
  simp only [create] at h
  split at h
  · rename_i htype
    obtain rfl := Except.ok.inj h
    exact htype
  · cases h

theorem Typed.set {value : Value} (h : g.set value = .ok g') : g'.Typed := by
  simp only [Global.set] at h
  split at h
  · cases h
  · split at h
    · rename_i htype
      obtain rfl := Except.ok.inj h
      exact htype
    · cases h

theorem Evolves.eq_of_constant (h : g.Evolves g') (hconstant : g.type.mutability = .constant) :
    g' = g := by
  induction h with
  | refl => rfl
  | tail _ hstep ih =>
    subst ih
    cases hstep with
    | set hset =>
      simp only [Global.set, hconstant] at hset
      cases hset

end Global

/-! ## Objects of any kind -/

variable {Host : Type}

/-- What always holds of an object of a kind.  Nothing is asked of functions and instances. -/
def Kind.Sound : (kind : Kind) → kind.Object Host → Prop
  | .memory => Memory.Backed
  | .table => Table.Backed
  | .global => Global.Typed
  | .function => fun _ => True
  | .instance_ => fun _ => True

/-- What an operation does to an object: it is one of the object's own, or some of them, and
keeps what always holds. -/
structure Kind.Advances (Host : Type) (kind : Kind) (object new : kind.Object Host) : Prop where
  evolves : kind.Evolves object new
  sound : kind.Sound object → kind.Sound new

namespace Memory

variable {m m' : Memory} {offset length source target : UInt64}

theorem advances_write {bytes : List UInt8} (hshort : bytes.length < UInt64.size)
    (h : m.write offset bytes = .ok m') : Kind.memory.Advances Host m m' :=
  ⟨.single (.write h), fun hm => Backed.write hm hshort h⟩

theorem advances_fill {value : UInt8} (h : m.fill offset value length = .ok m') :
    Kind.memory.Advances Host m m' :=
  ⟨.single (.fill h), fun hm => Backed.fill hm h⟩

theorem advances_copyWithin {copy : Copy} (h : m.copyWithin source target length = .ok copy) :
    Kind.memory.Advances Host m copy.memory := by
  refine ⟨?_, fun hm => Backed.copyWithin hm h⟩
  cases copy with
  | done m' => exact .single (.copy h)
  | crash m' => exact .single (.crash h)

theorem advances_grow {delta previous : Pages} (h : m.grow delta = .ok (m', previous)) :
    Kind.memory.Advances Host m m' :=
  ⟨.single (.grow h), fun hm => Backed.grow hm h⟩

end Memory

namespace Table

variable {t t' : Table (Handle .function)}

theorem advances_set {index : UInt32} {value : Option (Handle .function)}
    (h : t.set index value = .ok t') : Kind.table.Advances Host t t' :=
  ⟨.single (.set h), fun ht => Backed.set ht h⟩

theorem advances_grow {delta previous : UInt32} (h : t.grow delta = .ok (t', previous)) :
    Kind.table.Advances Host t t' :=
  ⟨.single (.grow h), fun ht => Backed.grow ht h⟩

end Table

theorem Global.advances_set {g g' : Global} {value : Value} (h : g.set value = .ok g') :
    Kind.global.Advances Host g g' :=
  ⟨.single (.set h), fun _ => Global.Typed.set h⟩

end HostLink

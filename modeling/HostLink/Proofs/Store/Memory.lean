/-
What the operations of a memory do.

Bounds are checked in 64-bit words and meant as natural numbers.  A memory has less
than 2^48 bytes, so the two agree, and `checkBounds_eq_ok_iff` is the form in which
they are used.  What is stored is read through `Memory.byte`, which knows no end, and
`Memory.store` is what writing, filling and copying come to under that reading: some more
bytes are committed and those of one range are new.  `Memory.Step` is one operation of a
memory and `Memory.Evolves` any number of them.  Neither changes what a memory was
declared as, and neither takes pages away.
-/
import HostLink.Proofs.Store.Buffer
import HostLink.Store.Memory
import Mathlib.Logic.Relation

namespace HostLink
namespace Memory

variable {m m' : Memory} {offset length source target : UInt64} {bytes : List UInt8}

/-! ## New memories -/

/-- A memory of the declared minimum size that was never written to. -/
def zeroed (type : MemoryType) : Memory :=
  { declared := type, size := type.minimum, data := .empty }

theorem create_eq_ok {type : MemoryType}
    (h : ∀ maximum, type.maximum = some maximum → type.minimum.count ≤ maximum.count) :
    create type = .ok (zeroed type) := by
  simp only [create]
  split
  · rename_i maximum hmaximum
    rw [if_neg (UInt32.not_lt.mpr (h maximum hmaximum))]
    rfl
  · rfl

/-! ## Bounds -/

theorem length_lt (m : Memory) : m.length < UInt32.size * pageSize :=
  Nat.mul_lt_mul_of_pos_right m.size.count.toNat_lt (by decide)

theorem checkBounds_eq_ok_iff :
    m.checkBounds offset length = .ok () ↔ offset.toNat + length.toNat ≤ m.length := by
  have hlength := m.length_lt
  by_cases h : offset.toNat + length.toNat < UInt64.size
  · have hsum : (offset + length).toNat = offset.toNat + length.toNat := by
      rw [UInt64.toNat_add, Nat.mod_eq_of_lt h]
    simp only [checkBounds, endOf?, if_pos h, hsum]
    split <;> simp_all
  · simp only [checkBounds, endOf?, if_neg h, reduceCtorEq, false_iff]
    simp only [UInt64.size, UInt32.size, pageSize] at h hlength
    omega

/-! ## What is stored -/

theorem byte_eq_getD (i : Nat) : m.byte i = (m.data.get? i).getD 0 := by
  rw [byte, Buffer.get?]
  split <;> rfl

theorem get?_data {i : Nat} (h : i < m.committed) : m.data.get? i = some (m.byte i) := by
  rw [byte_eq_getD, Buffer.get?_of_lt (show i < m.data.length from h), Option.getD_some]

/-- What was not committed reads as zero. -/
theorem byte_of_le {i : Nat} (h : m.committed ≤ i) : m.byte i = 0 := dif_neg (Nat.not_lt.mpr h)

@[simp] theorem byte_zeroed (type : MemoryType) (i : Nat) : (zeroed type).byte i = 0 :=
  byte_of_le (Nat.zero_le i)

/-- A longer buffer shows the bytes as they were. -/
theorem get?_backing (m : Memory) (last i : Nat) :
    (m.backing last).get? i = if i < max m.committed last then some (m.byte i) else none := by
  rw [backing, byte_eq_getD]
  split
  · rename_i h
    rw [Buffer.get?_resize, show max m.committed last = last from Nat.max_eq_right (Nat.le_of_lt h)]
  · rename_i h
    rw [show max m.committed last = m.committed from Nat.max_eq_left (Nat.le_of_not_lt h)]
    split
    · rename_i hi
      rw [get?_data hi, Option.getD_some]
    · rename_i hi
      exact Buffer.get?_of_le (Nat.le_of_not_lt hi)

theorem length_backing (m : Memory) (last : Nat) :
    (m.backing last).length = max m.committed last := by
  rw [backing]
  split
  · rename_i h
    exact (Nat.max_eq_right (Nat.le_of_lt h)).symm
  · rename_i h
    exact (Nat.max_eq_left (Nat.le_of_not_lt h)).symm

@[simp] theorem committed_commit (m : Memory) (last : Nat) :
    (m.commit last).committed = max m.committed last := m.length_backing last

/-! ## Reading and writing -/

theorem read_eq_ok (h : offset.toNat + length.toNat ≤ m.length) :
    m.read offset length =
      .ok ((List.range length.toNat).map fun i => m.byte (offset.toNat + i)) := by
  simp only [read, checkBounds_eq_ok_iff.mpr h]
  rfl

/-- Commits a range and gives its bytes new values, by their distance from its start.  An
empty range commits nothing. -/
def store (m : Memory) (start count : Nat) (value : Nat → UInt8) : Memory :=
  if count = 0 then m
  else
    { m with
      data :=
        { length := max m.committed (start + count)
          cell := fun i =>
            if start ≤ i.val ∧ i.val < start + count then value (i.val - start)
            else m.byte i } }

theorem get?_store {start count : Nat} {value : Nat → UInt8} (hcount : count ≠ 0) (i : Nat) :
    (m.store start count value).data.get? i =
      if i < max m.committed (start + count) then
        some (if start ≤ i ∧ i < start + count then value (i - start) else m.byte i)
      else none := by
  rw [store, if_neg hcount, Buffer.get?]
  split <;> rfl

/-- A buffer that has the bytes of a store is the one of the store. -/
theorem eq_store {start count : Nat} {value : Nat → UInt8} {data : Buffer UInt8}
    (hcount : count ≠ 0)
    (hdata : ∀ i, data.get? i =
      if start ≤ i ∧ i < start + count then some (value (i - start))
      else (m.backing (start + count)).get? i) :
    { m with data := data } = m.store start count value := by
  have hstored : data = (m.store start count value).data := by
    apply Buffer.ext_get?
    intro i
    rw [hdata, get?_backing, get?_store hcount]
    by_cases hrange : start ≤ i ∧ i < start + count
    · rw [if_pos hrange, if_pos hrange, if_pos (by omega)]
    · rw [if_neg hrange, if_neg hrange]
  rw [hstored, store, if_neg hcount]

theorem toNat_ne_zero (h : length ≠ 0) : length.toNat ≠ 0 := fun hzero =>
  h (UInt64.toNat_inj.mp (hzero.trans UInt64.toNat_zero.symm))

/-- A write whose range passes the check is a store of its bytes. -/
theorem write_eq_store (h : m.checkBounds offset (UInt64.ofNat bytes.length) = .ok ()) :
    m.write offset bytes = .ok (m.store offset.toNat bytes.length fun i => bytes.getD i 0) := by
  simp only [write, h, bind, Except.bind]
  by_cases hbytes : bytes = []
  · subst hbytes
    rfl
  · have hempty : bytes.isEmpty = false := by simpa using hbytes
    rw [hempty]
    refine congrArg Except.ok (eq_store (by simpa using hbytes) fun i => ?_)
    rw [Buffer.get?_overwrite]
    split
    · have hindex : i - offset.toNat < bytes.length := by omega
      simp [hindex]
    · rfl

theorem fill_eq_store {value : UInt8} (h : m.checkBounds offset length = .ok ()) :
    m.fill offset value length = .ok (m.store offset.toNat length.toNat fun _ => value) := by
  simp only [fill, h, bind, Except.bind]
  by_cases hlength : length = 0
  · subst hlength
    rfl
  · rw [if_neg hlength]
    exact congrArg Except.ok (eq_store (toNat_ne_zero hlength) fun i => Buffer.get?_fill _ i)

theorem write_eq_ok (hbytes : bytes.length < UInt64.size)
    (h : offset.toNat + bytes.length ≤ m.length) :
    m.write offset bytes = .ok (m.store offset.toNat bytes.length fun i => bytes.getD i 0) := by
  have hlength : (UInt64.ofNat bytes.length).toNat = bytes.length := UInt64.toNat_ofNat_of_lt hbytes
  exact write_eq_store (checkBounds_eq_ok_iff.mpr (by omega))

@[simp] theorem declared_store (m : Memory) (offset length : Nat) (value : Nat → UInt8) :
    (m.store offset length value).declared = m.declared := by
  simp only [store]
  split <;> rfl

@[simp] theorem size_store (m : Memory) (offset length : Nat) (value : Nat → UInt8) :
    (m.store offset length value).size = m.size := by
  simp only [store]
  split <;> rfl

@[simp] theorem length_store (m : Memory) (offset length : Nat) (value : Nat → UInt8) :
    (m.store offset length value).length = m.length := by
  simp only [Memory.length, size_store]

theorem committed_store (m : Memory) (start count : Nat) (value : Nat → UInt8) :
    (m.store start count value).committed =
      if count = 0 then m.committed else max m.committed (start + count) := by
  simp only [store]
  split <;> rfl

/-- A store changes the bytes of its range and no others. -/
theorem byte_store (m : Memory) (start count : Nat) (value : Nat → UInt8) (i : Nat) :
    (m.store start count value).byte i =
      if start ≤ i ∧ i < start + count then value (i - start) else m.byte i := by
  by_cases hcount : count = 0
  · have hrange : ¬ (start ≤ i ∧ i < start + count) := by omega
    simp only [store, if_pos hcount, if_neg hrange]
  · rw [byte_eq_getD, get?_store hcount]
    split
    · rfl
    · rename_i hi
      rw [if_neg (by omega), byte_of_le (by omega)]
      rfl

/-- A store depends on the bytes for its range only. -/
theorem store_congr {start count : Nat} {value value' : Nat → UInt8}
    (h : ∀ i, i < count → value i = value' i) :
    m.store start count value = m.store start count value' := by
  by_cases hcount : count = 0
  · simp only [store, if_pos hcount]
  · have hcell : ∀ i, (if start ≤ i ∧ i < start + count then value (i - start) else m.byte i) =
        if start ≤ i ∧ i < start + count then value' (i - start) else m.byte i := by
      intro i
      split
      · exact h _ (by omega)
      · rfl
    simp only [store, if_neg hcount, hcell]

/-- Reading depends on the size and on the bytes of the range. -/
theorem read_congr (hlength : m'.length = m.length)
    (hbyte : ∀ i, offset.toNat ≤ i → i < offset.toNat + length.toNat → m'.byte i = m.byte i) :
    m'.read offset length = m.read offset length := by
  have hbounds : m'.checkBounds offset length = m.checkBounds offset length := by
    simp only [checkBounds, hlength]
  have hbytes : (List.range length.toNat).map (fun i => m'.byte (offset.toNat + i)) =
      (List.range length.toNat).map fun i => m.byte (offset.toNat + i) := by
    refine List.map_congr_left fun i hi => hbyte _ (Nat.le_add_right _ _) ?_
    exact Nat.add_lt_add_left (List.mem_range.mp hi) _
  simp only [read, hbounds, hbytes]

/-- Reading from what was stored gives that part of it. -/
theorem read_store_inside {start : Nat} (hstart : start ≤ offset.toNat)
    (hlast : offset.toNat + length.toNat ≤ start + bytes.length)
    (hfits : start + bytes.length ≤ m.length) :
    (m.store start bytes.length fun i => bytes.getD i 0).read offset length =
      .ok ((bytes.drop (offset.toNat - start)).take length.toNat) := by
  rw [read_eq_ok (by rw [length_store]; omega), Except.ok.injEq]
  refine List.ext_getElem (by simp; omega) fun i hi hi' => ?_
  simp only [List.length_map, List.length_range] at hi
  have hindex : offset.toNat + i - start = offset.toNat - start + i := by omega
  have hbound : offset.toNat - start + i < bytes.length := by omega
  simp only [List.getElem_map, List.getElem_range, byte_store, List.getElem_take, List.getElem_drop]
  rw [if_pos (by omega), hindex, List.getD_eq_getElem?_getD, List.getElem?_eq_getElem hbound]
  rfl

/-- What was stored is read back. -/
theorem read_store_self (hbytes : bytes.length < UInt64.size)
    (hfits : offset.toNat + bytes.length ≤ m.length) :
    (m.store offset.toNat bytes.length fun i => bytes.getD i 0).read offset
      (UInt64.ofNat bytes.length) = .ok bytes := by
  have hlength : (UInt64.ofNat bytes.length).toNat = bytes.length := UInt64.toNat_ofNat_of_lt hbytes
  rw [read_store_inside (Nat.le_refl _) (by omega) hfits, hlength, Nat.sub_self, List.drop_zero,
    List.take_length]

/-- Reading beside what was stored does not show it. -/
theorem read_store_outside {start count : Nat} {value : Nat → UInt8}
    (h : offset.toNat + length.toNat ≤ start) :
    (m.store start count value).read offset length = m.read offset length := by
  refine read_congr (length_store m start count value) fun i _ hi => ?_
  rw [byte_store, if_neg (by omega)]

theorem read_zeroed {type : MemoryType}
    (h : offset.toNat + length.toNat ≤ (zeroed type).length) :
    (zeroed type).read offset length = .ok (List.replicate length.toNat 0) := by
  rw [read_eq_ok h]
  simp [List.map_const']

/-! ## Copies -/

/-- Whether a range lies in a memory. -/
def Covers (m : Memory) (offset length : UInt64) : Prop :=
  offset.toNat + length.toNat ≤ m.length

/-- Whether both ranges of a copy do. -/
def CoversCopy (m : Memory) (source target length : UInt64) : Prop :=
  m.Covers source length ∧ m.Covers target length

instance (m : Memory) (source target length : UInt64) :
    Decidable (m.CoversCopy source target length) :=
  inferInstanceAs (Decidable (_ ≤ _ ∧ _ ≤ _))

theorem checkBounds_eq_ok (h : m.Covers offset length) : m.checkBounds offset length = .ok () :=
  checkBounds_eq_ok_iff.mpr h

theorem checkBounds_eq_error (h : ¬ m.Covers offset length) :
    m.checkBounds offset length = .error (.outOfBounds offset length m.length) := by
  have hne : m.checkBounds offset length ≠ .ok () := fun hok => h (checkBounds_eq_ok_iff.mp hok)
  simp only [checkBounds] at hne ⊢
  split
  · rename_i last hlast
    rw [hlast] at hne
    by_cases hle : last.toNat ≤ m.length
    · exact absurd (if_pos hle) hne
    · exact if_neg hle
  · rfl

/-- Whether a copy starts behind all that is committed, its own target included. -/
def StartsBehind (m : Memory) (source target length : UInt64) : Prop :=
  length ≠ 0 ∧ max m.committed (target.toNat + length.toNat) < source.toNat

instance (m : Memory) (source target length : UInt64) :
    Decidable (m.StartsBehind source target length) :=
  inferInstanceAs (Decidable (_ ≠ _ ∧ _ < _))

/-- The memory with the bytes of one range in another one. -/
def copied (m : Memory) (source target length : UInt64) : Memory :=
  m.store target.toNat length.toNat fun i => m.byte (source.toNat + i)

/-- The slice a copy moves can be moved unless the copy starts behind all that is committed,
even where nothing is to be moved. -/
theorem canCopy_iff (hlength : length ≠ 0) :
    (m.backing (target.toNat + length.toNat)).CanCopy source.toNat
        (source.toNat + m.committedFrom source length) target.toNat ↔
      ¬ m.StartsBehind source target length := by
  have hcommitted : m.data.length = m.committed := rfl
  rw [Buffer.canCopy_iff, StartsBehind, length_backing, committedFrom, hcommitted]
  constructor
  · rintro ⟨⟨-, hlast⟩, -⟩ ⟨-, hbehind⟩
    omega
  · intro h
    have hinside : ¬ max m.committed (target.toNat + length.toNat) < source.toNat :=
      fun hbehind => h ⟨hlength, hbehind⟩
    omega

/-- Moving the committed part of the source and filling up with zeros copies the bytes of the
source, since those that were not committed are zero. -/
theorem get?_moved_filled {data : Buffer UInt8} {moved last : Nat} (hcount : length ≠ 0)
    (hdata : data = m.backing last) (hmoved : moved = m.committedFrom source length)
    (hlast : last = target.toNat + length.toNat)
    (can : data.CanCopy source.toNat (source.toNat + moved) target.toNat)
    (slice : (data.copyWithin source.toNat (source.toNat + moved) target.toNat can).HasSlice
      (target.toNat + moved) last) :
    { m with
      data := (data.copyWithin source.toNat (source.toNat + moved) target.toNat can).fill
        (target.toNat + moved) last 0 slice } = m.copied source target length := by
  refine eq_store (toNat_ne_zero hcount) fun i => ?_
  subst hdata hlast
  have hcommitted : m.data.length = m.committed := rfl
  have hpart : moved ≤ length.toNat := hmoved ▸ Nat.min_le_right _ _
  rw [Buffer.get?_fill, Buffer.get?_copyWithin, Nat.add_sub_cancel_left]
  by_cases hrange : target.toNat ≤ i ∧ i < target.toNat + length.toNat
  · rw [if_pos hrange]
    by_cases hinside : i < target.toNat + moved
    · have hsource : source.toNat + (i - target.toNat) < m.committed := by
        rw [hmoved, committedFrom, hcommitted] at hinside
        omega
      rw [if_neg (by omega), if_pos ⟨hrange.1, hinside⟩, get?_backing, if_pos (by omega)]
    · have hzero : m.committed ≤ source.toNat + (i - target.toNat) := by
        rw [hmoved, committedFrom, hcommitted] at hinside
        omega
      rw [if_pos ⟨Nat.le_of_not_lt hinside, hrange.2⟩, byte_of_le hzero]
  · rw [if_neg hrange, if_neg (by omega), if_neg (by omega)]

/-- A copy within bounds is done, unless it starts behind all that is committed. -/
theorem copyWithin_eq_done (hcovers : m.CoversCopy source target length)
    (h : ¬ m.StartsBehind source target length) :
    m.copyWithin source target length = .ok (.done (m.copied source target length)) := by
  simp only [copyWithin, checkBounds_eq_ok hcovers.1, checkBounds_eq_ok hcovers.2, bind,
    Except.bind]
  by_cases hlength : length = 0
  · subst hlength
    rfl
  · have hcan := (canCopy_iff hlength).mpr h
    rw [if_neg hlength, dif_pos hcan]
    exact congrArg (Except.ok ∘ Copy.done) (get?_moved_filled hlength rfl rfl rfl hcan _)

/-- A copy that starts behind all that is committed brings the host down, with its target
committed and nothing copied. -/
theorem copyWithin_eq_crash (hcovers : m.CoversCopy source target length)
    (h : m.StartsBehind source target length) :
    m.copyWithin source target length = .ok (.crash (m.commit (target.toNat + length.toNat))) := by
  have hcan := mt (canCopy_iff h.1).mp (not_not_intro h)
  simp only [copyWithin, checkBounds_eq_ok hcovers.1, checkBounds_eq_ok hcovers.2, bind,
    Except.bind]
  rw [if_neg h.1, dif_neg hcan]
  rfl

theorem copyWithin_eq_error_source (h : ¬ m.Covers source length) :
    m.copyWithin source target length = .error (.outOfBounds source length m.length) := by
  simp only [copyWithin, checkBounds_eq_error h]
  rfl

theorem copyWithin_eq_error_target (hsource : m.Covers source length)
    (h : ¬ m.Covers target length) :
    m.copyWithin source target length = .error (.outOfBounds target length m.length) := by
  simp only [copyWithin, checkBounds_eq_ok hsource, checkBounds_eq_error h]
  rfl

/-- A copy out of bounds blames the range that does not lie in the memory, the source if
neither does. -/
theorem copyWithin_eq_error (h : ¬ m.CoversCopy source target length) :
    ∃ offset, m.copyWithin source target length = .error (.outOfBounds offset length m.length) := by
  by_cases hsource : m.Covers source length
  · have htarget : ¬ m.Covers target length := fun htarget => h ⟨hsource, htarget⟩
    exact ⟨target, copyWithin_eq_error_target hsource htarget⟩
  · exact ⟨source, copyWithin_eq_error_source hsource⟩

/-! ## Accesses out of bounds -/

theorem read_eq_error (h : ¬ m.Covers offset length) :
    m.read offset length = .error (.outOfBounds offset length m.length) := by
  simp only [read, checkBounds_eq_error h]
  rfl

theorem write_eq_error (h : ¬ m.Covers offset (UInt64.ofNat bytes.length)) :
    m.write offset bytes =
      .error (.outOfBounds offset (UInt64.ofNat bytes.length) m.length) := by
  simp only [write, checkBounds_eq_error h]
  rfl

theorem fill_eq_ok {value : UInt8} (h : m.Covers offset length) :
    m.fill offset value length = .ok (m.store offset.toNat length.toNat fun _ => value) :=
  fill_eq_store (checkBounds_eq_ok h)

theorem fill_eq_error {value : UInt8} (h : ¬ m.Covers offset length) :
    m.fill offset value length = .error (.outOfBounds offset length m.length) := by
  simp only [fill, checkBounds_eq_error h]
  rfl

/-! ## Steps -/

/-- One operation of a memory that changes it.  A copy that brings the host down has
committed its target. -/
inductive Step : Memory → Memory → Prop where
  | write {m m' : Memory} {offset : UInt64} {bytes : List UInt8}
      (h : m.write offset bytes = .ok m') : Step m m'
  | fill {m m' : Memory} {offset length : UInt64} {value : UInt8}
      (h : m.fill offset value length = .ok m') : Step m m'
  | copy {m m' : Memory} {source target length : UInt64}
      (h : m.copyWithin source target length = .ok (.done m')) : Step m m'
  | crash {m m' : Memory} {source target length : UInt64}
      (h : m.copyWithin source target length = .ok (.crash m')) : Step m m'
  | grow {m m' : Memory} {delta previous : Pages}
      (h : m.grow delta = .ok (m', previous)) : Step m m'

/-- What a memory becomes by operations of its own. -/
abbrev Evolves : Memory → Memory → Prop := Relation.ReflTransGen Step

/-- A write that is accepted is a store of its bytes. -/
theorem eq_store_of_write (h : m.write offset bytes = .ok m') :
    m' = m.store offset.toNat bytes.length fun i => bytes.getD i 0 := by
  cases hbounds : m.checkBounds offset (UInt64.ofNat bytes.length) with
  | error e => rw [write, hbounds] at h; cases h
  | ok u => rw [write_eq_store hbounds] at h; exact (Except.ok.inj h).symm

theorem eq_store_of_fill {value : UInt8} (h : m.fill offset value length = .ok m') :
    m' = m.store offset.toNat length.toNat fun _ => value := by
  cases hbounds : m.checkBounds offset length with
  | error e => rw [fill, hbounds] at h; cases h
  | ok u => rw [fill_eq_store hbounds] at h; exact (Except.ok.inj h).symm

/-- What a copy leaves behind, whether it is done or brings the host down. -/
def Copy.memory : Copy → Memory
  | done m => m
  | crash m => m

/-- A copy leaves the declared type and the size alone, even one that brings the host
down. -/
theorem frame_copyWithin {copy : Copy} (h : m.copyWithin source target length = .ok copy) :
    copy.memory.declared = m.declared ∧ copy.memory.size = m.size := by
  simp only [copyWithin] at h
  cases hsource : m.checkBounds source length with
  | error e => rw [hsource] at h; cases h
  | ok u =>
    cases htarget : m.checkBounds target length with
    | error e => rw [hsource, htarget] at h; cases h
    | ok u =>
      rw [hsource, htarget] at h
      simp only [bind, Except.bind] at h
      split at h
      · cases h
        exact ⟨rfl, rfl⟩
      · split at h <;> cases h <;> exact ⟨rfl, rfl⟩

theorem frame_grow {delta previous : Pages} (h : m.grow delta = .ok (m', previous)) :
    m'.declared = m.declared ∧ m.size.count ≤ m'.size.count := by
  simp only [grow, Pages.add?] at h
  by_cases hsum : m.size.count.toNat + delta.count.toNat < UInt32.size
  · simp only [if_pos hsum] at h
    split at h
    · cases h
    · cases h
      refine ⟨rfl, ?_⟩
      rw [UInt32.le_iff_toNat_le, UInt32.toNat_add, Nat.mod_eq_of_lt hsum]
      exact Nat.le_add_right _ _
  · simp only [if_neg hsum] at h
    cases h

/-- One operation keeps the declared type and takes no pages away. -/
theorem Step.frame (h : m.Step m') : m'.declared = m.declared ∧ m.size.count ≤ m'.size.count := by
  cases h with
  | write h =>
    rw [eq_store_of_write h, declared_store, size_store]
    exact ⟨rfl, UInt32.le_refl _⟩
  | fill h =>
    rw [eq_store_of_fill h, declared_store, size_store]
    exact ⟨rfl, UInt32.le_refl _⟩
  | copy h =>
    obtain ⟨hdeclared, hsize⟩ := frame_copyWithin h
    exact ⟨hdeclared, UInt32.le_of_eq (congrArg Pages.count hsize.symm)⟩
  | crash h =>
    obtain ⟨hdeclared, hsize⟩ := frame_copyWithin h
    exact ⟨hdeclared, UInt32.le_of_eq (congrArg Pages.count hsize.symm)⟩
  | grow h => exact frame_grow h

/-- Any number of operations keep the declared type and take no pages away. -/
theorem Evolves.frame (h : m.Evolves m') :
    m'.declared = m.declared ∧ m.size.count ≤ m'.size.count := by
  induction h with
  | refl => exact ⟨rfl, UInt32.le_refl _⟩
  | tail _ hstep ih =>
    exact ⟨hstep.frame.1.trans ih.1, UInt32.le_trans ih.2 hstep.frame.2⟩

end Memory
end HostLink

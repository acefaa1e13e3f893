/-
A memory refines a flat array of bytes.

Each operation of a memory is the one of the flat array it is read as, with the same answer.
Two facts about a memory make it so.  The bytes that are not committed read as zero, so growing
shows zeros, and what is committed lies in the memory, so no byte behind the end was ever
written.  `Backed` has both, and every operation keeps it.  What is committed is then the
largest end of the ranges that were written to.

A copy may bring the host down, in which case there is no answer and the run stops.  It does
so exactly if it starts behind all that is committed.
-/
import HostLink.Proofs.Store.Flat
import Mathlib.Data.List.Basic

namespace HostLink
namespace Memory

variable {m m' : Memory} {type : MemoryType} {offset length source target : UInt64}
  {operation : Operation} {operations : List Operation}
  {answer : Except MemoryError Answer} {answers : List (Except MemoryError Answer)}

/-! ## Runs of a memory -/

/-- What an operation that may fail leaves of a memory. -/
def settle (m : Memory) : Except MemoryError (Answer × Memory) →
    Except MemoryError Answer × Memory
  | .ok (answer, m) => (.ok answer, m)
  | .error error => (.error error, m)

/-- The answer of a memory to an operation, and what it becomes.  There is none if the
operation brings the host down. -/
def perform (m : Memory) : Operation → Option (Except MemoryError Answer × Memory)
  | .read offset length =>
    some (m.settle ((m.read offset length).map fun bytes => (.bytes bytes, m)))
  | .write offset bytes _ => some (m.settle ((m.write offset bytes).map fun m => (.done, m)))
  | .fill offset value length =>
    some (m.settle ((m.fill offset value length).map fun m => (.done, m)))
  | .copy source target length =>
    match m.copyWithin source target length with
    | .ok (.done m') => some (.ok .done, m')
    | .ok (.crash _) => none
    | .error error => some (.error error, m)
  | .grow delta => some (m.settle ((m.grow delta).map fun (m, size) => (.previous size, m)))

def run : Memory → List Operation → Option (List (Except MemoryError Answer) × Memory)
  | m, [] => some ([], m)
  | m, operation :: rest => do
    let (answer, m) ← m.perform operation
    let (answers, m) ← m.run rest
    some (answer :: answers, m)

/-! ## Backed memories -/

/-- What holds of every memory: it keeps to its declared limits, what is committed lies in
it, and all else is zero. -/
structure Backed (m : Memory) : Prop where
  minimum : m.declared.minimum.count ≤ m.size.count
  maximum : ∀ maximum ∈ m.declared.maximum, m.size.count ≤ maximum.count
  inside : m.committed ≤ m.length
  zero : ∀ i, m.committed ≤ i → m.byte i = 0

theorem backed_zeroed
    (h : ∀ maximum, type.maximum = some maximum → type.minimum.count ≤ maximum.count) :
    (zeroed type).Backed :=
  ⟨UInt32.le_refl _, h, Nat.zero_le _, fun _ => byte_of_le⟩

theorem create_eq_ok_iff :
    create type = .ok m ↔ m = zeroed type ∧
      ∀ maximum, type.maximum = some maximum → type.minimum.count ≤ maximum.count := by
  constructor
  · intro h
    have hlimits : ∀ maximum, type.maximum = some maximum →
        type.minimum.count ≤ maximum.count := by
      intro maximum hmaximum
      simp only [create, hmaximum] at h
      split at h
      · cases h
      · exact UInt32.not_lt.mp ‹_›
    rw [create_eq_ok hlimits] at h
    exact ⟨(Except.ok.inj h).symm, hlimits⟩
  · rintro ⟨rfl, hlimits⟩
    exact create_eq_ok hlimits

theorem committed_store_endOfRange (m : Memory) (start count : Nat) (value : Nat → UInt8) :
    (m.store start count value).committed =
      max m.committed ((endOfRange start count).getD 0) := by
  rw [committed_store, endOfRange]
  split
  · exact (Nat.max_zero _).symm
  · rfl

theorem Backed.store {start count : Nat} {value : Nat → UInt8} (h : m.Backed)
    (hfits : start + count ≤ m.length) : (m.store start count value).Backed := by
  refine ⟨?_, ?_, ?_, fun _ => byte_of_le⟩
  · rw [declared_store, size_store]
    exact h.minimum
  · rw [declared_store, size_store]
    exact h.maximum
  · have hinside := h.inside
    rw [committed_store, length_store]
    split <;> omega

/-! ## Growing -/

/-- A memory that may grow grows, and only then. -/
theorem grow_eq (m : Memory) (delta : Pages) :
    m.grow delta =
      if m.flat.Growable delta then
        .ok ({ m with size := ⟨m.size.count + delta.count⟩ }, m.size)
      else .error (.couldNotGrow m.size delta) := by
  by_cases hsum : m.size.count.toNat + delta.count.toNat < UInt32.size
  · have htoNat : (m.size.count + delta.count).toNat = m.size.count.toNat + delta.count.toNat := by
      rw [UInt32.toNat_add, Nat.mod_eq_of_lt hsum]
    have hmaximum : (m.declared.maximum.any fun maximum =>
        maximum.count < m.size.count + delta.count) = true ↔ ¬ m.flat.Growable delta := by
      rw [Flat.Growable, flat]
      cases m.declared.maximum with
      | none => simp [hsum]
      | some maximum => simp [hsum, UInt32.lt_iff_toNat_lt, htoNat]
    simp only [grow, Pages.add?, if_pos hsum]
    by_cases hgrowable : m.flat.Growable delta
    · rw [if_pos hgrowable, if_neg (fun hany => hmaximum.mp hany hgrowable)]
    · rw [if_neg hgrowable, if_pos (hmaximum.mpr hgrowable)]
  · have hgrowable : ¬ m.flat.Growable delta := fun h => hsum h.1
    simp only [grow, Pages.add?, if_neg hsum, if_neg hgrowable]

theorem length_grown {delta : Pages} (h : m.flat.Growable delta) :
    (Pages.mk (m.size.count + delta.count)).bytes = m.length + delta.bytes := by
  have hsum : m.size.count.toNat + delta.count.toNat < UInt32.size := h.1
  simp only [Pages.bytes, length]
  rw [UInt32.toNat_add, Nat.mod_eq_of_lt hsum, Nat.add_mul]

/-- Growing shows zeros, since nothing was written behind the end. -/
theorem flat_grown {delta : Pages} (hm : m.Backed) (h : m.flat.Growable delta) :
    flat { m with size := ⟨m.size.count + delta.count⟩ } = m.flat.enlarge delta := by
  have hbytes : contents { m with size := ⟨m.size.count + delta.count⟩ } =
      m.contents ++ List.replicate delta.bytes 0 := by
    have hnew : (List.range delta.bytes).map (fun i => m.byte (m.length + i)) =
        List.replicate delta.bytes 0 := by
      rw [List.eq_replicate_iff]
      constructor
      · simp
      · intro b hb
        obtain ⟨i, -, rfl⟩ := List.mem_map.mp hb
        have hinside := hm.inside
        exact hm.zero _ (by omega)
    show (List.range (Pages.mk (m.size.count + delta.count)).bytes).map (fun i => m.byte i) = _
    rw [length_grown h, List.range_add, List.map_append, List.map_map, ← hnew]
    rfl
  simp only [flat, Flat.enlarge, hbytes]

theorem Backed.grown {delta : Pages} (hm : m.Backed) (h : m.flat.Growable delta) :
    Backed { m with size := ⟨m.size.count + delta.count⟩ } := by
  have hsum : m.size.count.toNat + delta.count.toNat < UInt32.size := h.1
  have htoNat : (m.size.count + delta.count).toNat = m.size.count.toNat + delta.count.toNat := by
    rw [UInt32.toNat_add, Nat.mod_eq_of_lt hsum]
  refine ⟨?_, fun maximum hmaximum => ?_, ?_, hm.zero⟩
  · have hminimum := hm.minimum
    simp only [UInt32.le_iff_toNat_le, htoNat] at hminimum ⊢
    omega
  · rw [UInt32.le_iff_toNat_le, htoNat]
    exact h.2 maximum hmaximum
  · have hinside := hm.inside
    show m.committed ≤ (Pages.mk (m.size.count + delta.count)).bytes
    rw [length_grown h]
    omega

/-! ## One operation -/

/-- What an operation does to a backed memory: it is the operation of the flat array, keeps
the memory backed, and commits what it has written. -/
structure Simulates (m : Memory) (operation : Operation) (answer : Except MemoryError Answer)
    (m' : Memory) : Prop where
  flat : m.flat.perform operation = (answer, m'.flat)
  backed : m'.Backed
  declared : m'.declared = m.declared
  committed : m'.committed = max m.committed (reach [(operation, answer)])

/-- An operation that fails changes nothing. -/
theorem Simulates.of_error {error : MemoryError} (hm : m.Backed)
    (hflat : m.flat.perform operation = (.error error, m.flat)) :
    m.Simulates operation (.error error) m :=
  ⟨hflat, hm, rfl, by simp [reach, touched, Except.isOk, Except.toBool]⟩

/-- An operation that writes a range commits it. -/
theorem Simulates.of_store {start count : Nat} {value : Nat → UInt8} (hm : m.Backed)
    (hfits : start + count ≤ m.length) (hlast : operation.last? = endOfRange start count)
    (hflat : m.flat.perform operation =
      (.ok .done, m.flat.splice start ((List.range count).map value))) :
    m.Simulates operation (.ok .done) (m.store start count value) := by
  refine ⟨?_, hm.store hfits, declared_store m start count value, ?_⟩
  · rw [hflat, flat_store hfits]
  · rw [committed_store_endOfRange, ← hlast]
    cases hcase : operation.last? with
    | none => simp [reach, touched, Except.isOk, Except.toBool, hcase]
    | some last => simp [reach, touched, Except.isOk, Except.toBool, hcase]

/-- An operation that only looks leaves the memory. -/
theorem Simulates.of_read {bytes : List UInt8} (hm : m.Backed) (hlast : operation.last? = none)
    (hflat : m.flat.perform operation = (.ok (.bytes bytes), m.flat)) :
    m.Simulates operation (.ok (.bytes bytes)) m :=
  ⟨hflat, hm, rfl, by simp [reach, touched, Except.isOk, Except.toBool, hlast]⟩

theorem covers_flat_iff : m.flat.Covers offset.toNat length.toNat ↔ m.Covers offset length := by
  rw [Flat.Covers, Covers, flat, length_contents]

theorem outside_flat (m : Memory) (offset length : UInt64) :
    m.flat.outside offset length = .outOfBounds offset length m.length := by
  rw [Flat.outside, flat, length_contents]

/-- Whether an operation brings the host down. -/
def Operation.Crashes (m : Memory) : Operation → Prop
  | copy source target length =>
    m.CoversCopy source target length ∧ m.StartsBehind source target length
  | read .. | write .. | fill .. | grow _ => False

/-- How an operation of a backed memory ends. -/
inductive Performs (m : Memory) (operation : Operation) :
    Option (Except MemoryError Answer × Memory) → Prop
  | answered {answer : Except MemoryError Answer} {m' : Memory} (hsafe : ¬ operation.Crashes m)
      (hsimulates : m.Simulates operation answer m') : Performs m operation (some (answer, m'))
  | crashed (hcrashes : operation.Crashes m) : Performs m operation none

theorem performs_read (hm : m.Backed) (offset length : UInt64) :
    m.Performs (.read offset length) (m.perform (.read offset length)) := by
  by_cases hcovers : m.Covers offset length
  · have hperform : m.perform (.read offset length) =
        some (.ok (.bytes (m.flat.slice offset.toNat length.toNat)), m) := by
      simp only [perform, read_eq_ok hcovers, slice_flat hcovers]
      rfl
    rw [hperform]
    refine .answered id (.of_read hm rfl ?_)
    simp only [Flat.perform, if_pos (covers_flat_iff.mpr hcovers)]
  · have hperform : m.perform (.read offset length) =
        some (.error (.outOfBounds offset length m.length), m) := by
      simp only [perform, read_eq_error hcovers]
      rfl
    rw [hperform]
    refine .answered id (.of_error hm ?_)
    simp only [Flat.perform, if_neg (fun h => hcovers (covers_flat_iff.mp h)), outside_flat]

theorem performs_write (hm : m.Backed) (offset : UInt64) (bytes : List UInt8)
    (short : bytes.length < UInt64.size) :
    m.Performs (.write offset bytes short) (m.perform (.write offset bytes short)) := by
  have htoNat : (UInt64.ofNat bytes.length).toNat = bytes.length := UInt64.toNat_ofNat_of_lt short
  have hcovers_iff : m.flat.Covers offset.toNat bytes.length ↔
      m.Covers offset (UInt64.ofNat bytes.length) := by
    rw [← covers_flat_iff, htoNat]
  by_cases hcovers : m.Covers offset (UInt64.ofNat bytes.length)
  · have hfits : offset.toNat + bytes.length ≤ m.length := by
      rw [Covers, htoNat] at hcovers
      exact hcovers
    have hperform : m.perform (.write offset bytes short) =
        some (.ok .done, m.store offset.toNat bytes.length fun i => bytes.getD i 0) := by
      simp only [perform, write_eq_ok short hfits]
      rfl
    rw [hperform]
    refine .answered id (.of_store hm hfits rfl ?_)
    simp only [Flat.perform, if_pos (hcovers_iff.mpr hcovers), map_getD_range]
  · have hperform : m.perform (.write offset bytes short) =
        some (.error (.outOfBounds offset (UInt64.ofNat bytes.length) m.length), m) := by
      simp only [perform, write_eq_error hcovers]
      rfl
    rw [hperform]
    refine .answered id (.of_error hm ?_)
    simp only [Flat.perform, if_neg (fun h => hcovers (hcovers_iff.mp h)), outside_flat]

theorem performs_fill (hm : m.Backed) (offset : UInt64) (value : UInt8) (length : UInt64) :
    m.Performs (.fill offset value length) (m.perform (.fill offset value length)) := by
  by_cases hcovers : m.Covers offset length
  · have hperform : m.perform (.fill offset value length) =
        some (.ok .done, m.store offset.toNat length.toNat fun _ => value) := by
      simp only [perform, fill_eq_ok hcovers]
      rfl
    have hbytes : (List.range length.toNat).map (fun _ => value) =
        List.replicate length.toNat value := by
      simp [List.map_const']
    rw [hperform]
    refine .answered id (.of_store hm hcovers rfl ?_)
    simp only [Flat.perform, if_pos (covers_flat_iff.mpr hcovers), hbytes]
  · have hperform : m.perform (.fill offset value length) =
        some (.error (.outOfBounds offset length m.length), m) := by
      simp only [perform, fill_eq_error hcovers]
      rfl
    rw [hperform]
    refine .answered id (.of_error hm ?_)
    simp only [Flat.perform, if_neg (fun h => hcovers (covers_flat_iff.mp h)), outside_flat]

theorem performs_copy (hm : m.Backed) (source target length : UInt64) :
    m.Performs (.copy source target length) (m.perform (.copy source target length)) := by
  by_cases hsource : m.Covers source length
  · have hsource' := covers_flat_iff.mpr hsource
    by_cases htarget : m.Covers target length
    · have htarget' := covers_flat_iff.mpr htarget
      by_cases hstart : m.StartsBehind source target length
      · have hperform : m.perform (.copy source target length) = none := by
          simp only [perform, copyWithin_eq_crash ⟨hsource, htarget⟩ hstart]
        rw [hperform]
        exact .crashed ⟨⟨hsource, htarget⟩, hstart⟩
      · have hperform : m.perform (.copy source target length) =
            some (.ok .done, m.copied source target length) := by
          simp only [perform, copyWithin_eq_done ⟨hsource, htarget⟩ hstart]
        rw [hperform]
        -- The source is read before anything is written, so it is a slice of the old array.
        refine .answered (fun h => hstart h.2) (.of_store hm htarget rfl ?_)
        simp only [Flat.perform, if_pos hsource', if_pos htarget', slice_flat hsource]
    · have htarget' : ¬ m.flat.Covers target.toNat length.toNat :=
        fun h => htarget (covers_flat_iff.mp h)
      have hperform : m.perform (.copy source target length) =
          some (.error (.outOfBounds target length m.length), m) := by
        simp only [perform, copyWithin_eq_error_target hsource htarget]
      rw [hperform]
      refine .answered (fun h => htarget h.1.2) (.of_error hm ?_)
      simp only [Flat.perform, if_pos hsource', if_neg htarget', outside_flat]
  · have hsource' : ¬ m.flat.Covers source.toNat length.toNat :=
      fun h => hsource (covers_flat_iff.mp h)
    have hperform : m.perform (.copy source target length) =
        some (.error (.outOfBounds source length m.length), m) := by
      simp only [perform, copyWithin_eq_error_source hsource]
    rw [hperform]
    refine .answered (fun h => hsource h.1.1) (.of_error hm ?_)
    simp only [Flat.perform, if_neg hsource', outside_flat]

theorem performs_grow (hm : m.Backed) (delta : Pages) :
    m.Performs (.grow delta) (m.perform (.grow delta)) := by
  by_cases hgrowable : m.flat.Growable delta
  · have hperform : m.perform (.grow delta) =
        some (.ok (.previous m.size), { m with size := ⟨m.size.count + delta.count⟩ }) := by
      simp only [perform, grow_eq, if_pos hgrowable]
      rfl
    rw [hperform]
    refine .answered id ⟨?_, hm.grown hgrowable, rfl, ?_⟩
    · simp only [Flat.perform, if_pos hgrowable, flat_grown hm hgrowable]
      rfl
    · show m.committed = _
      simp [reach, touched, Operation.last?]
  · have hperform : m.perform (.grow delta) = some (.error (.couldNotGrow m.size delta), m) := by
      simp only [perform, grow_eq, if_neg hgrowable]
      rfl
    rw [hperform]
    refine .answered id (.of_error hm ?_)
    simp only [Flat.perform, if_neg hgrowable]
    rfl

theorem performs (hm : m.Backed) (operation : Operation) :
    m.Performs operation (m.perform operation) := by
  cases operation with
  | read offset length => exact performs_read hm offset length
  | write offset bytes short => exact performs_write hm offset bytes short
  | fill offset value length => exact performs_fill hm offset value length
  | copy source target length => exact performs_copy hm source target length
  | grow delta => exact performs_grow hm delta

theorem perform_eq_none_iff (hm : m.Backed) :
    m.perform operation = none ↔ operation.Crashes m := by
  have hperforms := performs hm operation
  generalize m.perform operation = outcome at hperforms ⊢
  cases hperforms with
  | answered hsafe _ => simp [hsafe]
  | crashed hcrashes => simp [hcrashes]

theorem simulates (hm : m.Backed) (h : m.perform operation = some (answer, m')) :
    m.Simulates operation answer m' := by
  have hperforms := performs hm operation
  rw [h] at hperforms
  cases hperforms with
  | answered _ hsimulates => exact hsimulates

/-! ## Runs -/

theorem run_cons_eq_some_iff :
    m.run (operation :: operations) = some (answers, m') ↔
      ∃ answer rest m₁, m.perform operation = some (answer, m₁) ∧
        m₁.run operations = some (rest, m') ∧ answers = answer :: rest := by
  simp only [run, Option.bind_eq_bind, Option.bind_eq_some_iff]
  constructor
  · rintro ⟨⟨answer, m₁⟩, hperform, ⟨rest, m₂⟩, hrun, hresult⟩
    cases hresult
    exact ⟨answer, rest, m₁, hperform, hrun, rfl⟩
  · rintro ⟨answer, rest, m₁, hperform, hrun, rfl⟩
    exact ⟨(answer, m₁), hperform, (rest, m'), hrun, rfl⟩

theorem reach_cons (entry : Operation × Except MemoryError Answer)
    (rest : List (Operation × Except MemoryError Answer)) :
    reach (entry :: rest) = max (reach [entry]) (reach rest) := by
  simp only [reach, touched, List.filterMap_cons, List.filterMap_nil]
  split
  · simp
  · simp

/-- A run of a backed memory is the run of the flat array. -/
theorem run_simulates (hm : m.Backed) (h : m.run operations = some (answers, m')) :
    m.flat.run operations = (answers, m'.flat) ∧ m'.Backed ∧ m'.declared = m.declared ∧
      m'.committed = max m.committed (reach (operations.zip answers)) := by
  induction operations generalizing m answers with
  | nil =>
    obtain ⟨rfl, rfl⟩ := Prod.mk.inj (Option.some.inj h)
    exact ⟨rfl, hm, rfl, by simp [reach, touched]⟩
  | cons operation rest ih =>
    obtain ⟨answer, others, m₁, hperform, hrun, rfl⟩ := run_cons_eq_some_iff.mp h
    have hfirst := simulates hm hperform
    obtain ⟨hflat, hbacked, hdeclared, hcommitted⟩ := ih hfirst.backed hrun
    refine ⟨?_, hbacked, hdeclared.trans hfirst.declared, ?_⟩
    · simp only [Flat.run, hfirst.flat, hflat]
    · rw [List.zip_cons_cons, reach_cons (operation, answer) (rest.zip others), hcommitted,
        hfirst.committed, Nat.max_assoc]

/-- A run stops at the first operation that brings the host down. -/
theorem run_eq_none_iff (hm : m.Backed) :
    m.run operations = none ↔ ∃ before operation after answers m',
      operations = before ++ operation :: after ∧ m.run before = some (answers, m') ∧
        operation.Crashes m' := by
  induction operations generalizing m with
  | nil =>
    constructor
    · intro h
      cases h
    · rintro ⟨before, operation, after, answers, m', hsplit, -⟩
      simp at hsplit
  | cons first rest ih =>
    cases hperform : m.perform first with
    | none =>
      have hcrashes := (perform_eq_none_iff hm).mp hperform
      constructor
      · intro _
        exact ⟨[], first, rest, [], m, rfl, rfl, hcrashes⟩
      · intro _
        simp only [run, hperform, Option.bind_eq_bind, Option.bind_none]
    | some outcome =>
      obtain ⟨answer, m₁⟩ := outcome
      have hfirst := simulates hm hperform
      have hsafe : ¬ first.Crashes m := fun hcrashes => by
        rw [(perform_eq_none_iff hm).mpr hcrashes] at hperform
        cases hperform
      have hrun : m.run (first :: rest) = none ↔ m₁.run rest = none := by
        simp only [run, hperform, Option.bind_eq_bind, Option.bind_some]
        cases m₁.run rest with
        | none => simp
        | some outcome => simp
      rw [hrun, ih hfirst.backed]
      constructor
      · rintro ⟨before, operation, after, answers, m', rfl, hbefore, hcrashes⟩
        refine ⟨first :: before, operation, after, answer :: answers, m', rfl, ?_, hcrashes⟩
        exact run_cons_eq_some_iff.mpr ⟨answer, answers, m₁, hperform, hbefore, rfl⟩
      · rintro ⟨before, operation, after, answers, m', hsplit, hbefore, hcrashes⟩
        cases before with
        | nil =>
          obtain ⟨rfl, rfl⟩ := List.cons.inj hsplit
          obtain ⟨-, rfl⟩ := Prod.mk.inj (Option.some.inj hbefore)
          exact absurd hcrashes hsafe
        | cons _ before =>
          obtain ⟨rfl, rfl⟩ := List.cons.inj hsplit
          obtain ⟨answer', others, m₂, hperform', hbefore', rfl⟩ := run_cons_eq_some_iff.mp hbefore
          obtain ⟨rfl, rfl⟩ := Prod.mk.inj (Option.some.inj (hperform.symm.trans hperform'))
          exact ⟨before, operation, after, others, m', rfl, hbefore', hcrashes⟩

/-- A memory refines a flat array that starts with zeros: every run that is answered has the
answers of the array and leaves its contents.  The size keeps to the declared limits, and
committed is what lies before the largest end of the ranges written to, which is in the
memory.  A run is answered unless it comes to a copy that starts behind all of that. -/
theorem flat_run (h : create type = .ok m) (operations : List Operation) :
    (∀ answers m', m.run operations = some (answers, m') →
      (Flat.zero type).run operations = (answers, m'.flat) ∧
        type.minimum.count ≤ m'.size.count ∧
        (∀ maximum, type.maximum = some maximum → m'.size.count ≤ maximum.count) ∧
        m'.committed = reach (operations.zip answers) ∧ m'.committed ≤ m'.length) ∧
      (m.run operations = none ↔ ∃ before operation after answers m',
        operations = before ++ operation :: after ∧ m.run before = some (answers, m') ∧
          operation.Crashes m') := by
  obtain ⟨rfl, hlimits⟩ := create_eq_ok_iff.mp h
  have hzeroed : (zeroed type).Backed := backed_zeroed hlimits
  refine ⟨fun answers m' hrun => ?_, run_eq_none_iff hzeroed⟩
  obtain ⟨hflat, hbacked, hdeclared, hcommitted⟩ := run_simulates hzeroed hrun
  have htype : m'.declared = type := hdeclared
  rw [flat_zeroed] at hflat
  refine ⟨hflat, ?_, ?_, ?_, hbacked.inside⟩
  · rw [← htype]
    exact hbacked.minimum
  · rw [← htype]
    exact hbacked.maximum
  · rw [hcommitted]
    exact Nat.zero_max _

/-- Writing at the end of a page, moving what was written by two bytes, growing by a page
and once more, and reading across the pages. -/
def straddling : List Operation :=
  [.write 65532 [1, 2, 3, 4] (by decide), .copy 65530 65528 6, .grow 1, .grow 1,
    .read 65526 12, .fill 131070 7 3]

theorem flat_run_straddling :
    ((Flat.zero ⟨1, some 2, false⟩).run straddling).1 =
        [.ok .done, .ok .done, .ok (.previous 1), .error (.couldNotGrow 2 1),
          .ok (.bytes [0, 0, 0, 0, 1, 2, 3, 4, 3, 4, 0, 0]),
          .error (.outOfBounds 131070 3 131072)] ∧
      ((zeroed ⟨1, some 2, false⟩).run straddling).map (fun result => result.2.committed) =
        some 65536 := by
  have hanswers : ((zeroed ⟨1, some 2, false⟩).run straddling).map Prod.fst =
      some [.ok .done, .ok .done, .ok (.previous 1), .error (.couldNotGrow 2 1),
        .ok (.bytes [0, 0, 0, 0, 1, 2, 3, 4, 3, 4, 0, 0]),
        .error (.outOfBounds 131070 3 131072)] := by
    decide +kernel
  obtain ⟨⟨answers, m'⟩, hrun, rfl⟩ := Option.map_eq_some_iff.mp hanswers
  have hcreate : create ⟨1, some 2, false⟩ = .ok (zeroed ⟨1, some 2, false⟩) := rfl
  obtain ⟨hflat, -, -, hcommitted, -⟩ := (flat_run hcreate straddling).1 _ m' hrun
  refine ⟨congrArg Prod.fst hflat, ?_⟩
  rw [hrun, Option.map_some, hcommitted]
  decide +kernel

end Memory
end HostLink

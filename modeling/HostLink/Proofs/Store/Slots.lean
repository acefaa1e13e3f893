/-
A table refines a plain array of slots.

`Table.Plain` is what the users of a table have in mind: a list of all its slots, empty at first,
of which an access sees or replaces one, and which growing makes longer.  It knows nothing of
what is stored.  Sizes are added as natural numbers, so no sum wraps.

Each operation of a table is the one of the array it is read as, with the same answer.  That
growing shows empty slots needs the invariant `Table.Backed`: what is stored lies in the table,
so nothing behind its end was ever filled.  What is stored reads as a list of its own, of which
the slots of the table are a continuation by empty ones (`Backed.slots_eq`).

What a slot holds is told by the past, too.  It is the value of the last set there that
succeeded, if there was one.
-/
import HostLink.Proofs.Store.Soundness

namespace HostLink
namespace Table

variable {α : Type}

/-! ## Operations -/

/-- An operation of a table with its arguments. -/
inductive Operation (α : Type) where
  | get (index : UInt32)
  | set (index : UInt32) (value : Option α)
  | grow (delta : UInt32)

inductive Answer (α : Type) where
  | value (value : Option α)
  | done
  | previous (size : UInt32)
  deriving DecidableEq, Repr

/-- What an operation that may fail leaves of a table. -/
def settle (t : Table α) : Except TableError (Answer α × Table α) →
    Except TableError (Answer α) × Table α
  | .ok (answer, t) => (.ok answer, t)
  | .error error => (.error error, t)

/-- The answer of a table to an operation, and what it becomes. -/
def perform (t : Table α) : Operation α → Except TableError (Answer α) × Table α
  | .get index => t.settle ((t.get index).map fun value => (.value value, t))
  | .set index value => t.settle ((t.set index value).map fun t => (.done, t))
  | .grow delta => t.settle ((t.grow delta).map fun (t, size) => (.previous size, t))

def run : Table α → List (Operation α) → List (Except TableError (Answer α)) × Table α
  | t, [] => ([], t)
  | t, operation :: rest =>
    let (answer, t) := t.perform operation
    let (answers, t) := t.run rest
    (answer :: answers, t)

/-- The values that a run has set at an index, in their order. -/
def given (index : UInt32) (run : List (Operation α × Except TableError (Answer α))) :
    List (Option α) :=
  run.filterMap fun
    | (.set i value, .ok _) => if i = index then some value else none
    | _ => none

/-- The last of them; a slot that was not set is empty. -/
def lastGiven (index : UInt32) (run : List (Operation α × Except TableError (Answer α))) :
    Option α :=
  (given index run).getLast?.getD none

/-! ## Plain arrays -/

/-- All slots of a table, with what it was declared as. -/
structure Plain (α : Type) where
  declared : TableType
  slots : List (Option α)
  deriving DecidableEq, Repr

namespace Plain

def vacant (type : TableType) : Plain α :=
  { declared := type, slots := List.replicate type.minimum.toNat none }

def size (p : Plain α) : UInt32 := UInt32.ofNat p.slots.length

/-- Whether the array may become so much larger. -/
def Growable (p : Plain α) (delta : UInt32) : Prop :=
  p.slots.length + delta.toNat < UInt32.size ∧
    ∀ maximum ∈ p.declared.maximum, p.slots.length + delta.toNat ≤ maximum.toNat

theorem growable_iff {p : Plain α} {delta : UInt32} :
    p.Growable delta ↔ p.slots.length + delta.toNat < UInt32.size ∧
      (p.declared.maximum.all fun maximum => p.slots.length + delta.toNat ≤ maximum.toNat) := by
  simp only [Growable, Option.all_eq_true, decide_eq_true_eq, Option.mem_def]

-- An instance for all maxima would go through all words.
instance (p : Plain α) (delta : UInt32) : Decidable (p.Growable delta) :=
  decidable_of_iff' _ growable_iff

/-- The answer of a plain array to an operation, and what it becomes.  An operation that
fails changes nothing. -/
def perform (p : Plain α) : Operation α → Except TableError (Answer α) × Plain α
  | .get index =>
    match p.slots[index.toNat]? with
    | some value => (.ok (.value value), p)
    | none => (.error (.outOfBounds index p.size), p)
  | .set index value =>
    if index.toNat < p.slots.length then
      (.ok .done, { p with slots := p.slots.set index.toNat value })
    else (.error (.outOfBounds index p.size), p)
  | .grow delta =>
    if p.Growable delta then
      (.ok (.previous p.size), { p with slots := p.slots ++ List.replicate delta.toNat none })
    else (.error (.couldNotGrow p.size delta), p)

def run : Plain α → List (Operation α) → List (Except TableError (Answer α)) × Plain α
  | p, [] => ([], p)
  | p, operation :: rest =>
    let (answer, p) := p.perform operation
    let (answers, p) := p.run rest
    (answer :: answers, p)

end Plain

variable {t : Table α} {type : TableType} {index delta : UInt32} {value : Option α}

/-! ## Reading a table as an array -/

/-- The slots below an index. -/
def below (t : Table α) (count : Nat) : List (Option α) :=
  (List.range count).map fun i => t.slot (UInt32.ofNat i)

@[simp] theorem length_below (t : Table α) (count : Nat) : (t.below count).length = count := by
  simp [below]

theorem getElem?_below (t : Table α) (count i : Nat) :
    (t.below count)[i]? = if i < count then some (t.slot (UInt32.ofNat i)) else none := by
  by_cases hi : i < count
  · simp [below, hi]
  · simp [below, hi]

/-- All slots of a table. -/
def slots (t : Table α) : List (Option α) := t.below t.size.toNat

def plain (t : Table α) : Plain α := { declared := t.declared, slots := t.slots }

theorem length_slots (t : Table α) : t.slots.length = t.size.toNat := t.length_below _

theorem getElem?_slots (t : Table α) (i : Nat) :
    t.slots[i]? = if i < t.size.toNat then some (t.slot (UInt32.ofNat i)) else none :=
  t.getElem?_below _ i

@[simp] theorem size_plain (t : Table α) : t.plain.size = t.size := by
  rw [Plain.size, plain, length_slots, UInt32.ofNat_toNat]

theorem plain_vacant (type : TableType) : (vacant (α := α) type).plain = Plain.vacant type := by
  have hslots : (vacant (α := α) type).slots = List.replicate type.minimum.toNat none := by
    have hempty : ∀ index, (vacant (α := α) type).slot index = none := fun _ =>
      slot_of_le (Nat.zero_le _)
    simp only [slots, below, hempty, List.map_const', List.length_range]
    rfl
  simp only [plain, Plain.vacant, hslots]
  rfl

/-- Behind what is stored all slots are empty. -/
theorem below_eq {count : Nat} (hstored : t.elements.length ≤ count)
    (hcount : count ≤ UInt32.size) :
    t.below count =
      t.elements.toList ++ List.replicate (count - t.elements.length) none := by
  apply List.ext_getElem?
  intro i
  rw [getElem?_below]
  rcases Nat.lt_or_ge i t.elements.length with hi | hi
  · have hindex : (UInt32.ofNat i).toNat = i := UInt32.toNat_ofNat_of_lt' (by omega)
    rw [List.getElem?_append_left (by rwa [Buffer.length_toList]), Buffer.getElem?_toList, slot,
      hindex, Buffer.get?_of_lt hi, if_pos (by omega), Option.join_some]
  · rw [List.getElem?_append_right (by rwa [Buffer.length_toList]), Buffer.length_toList,
      List.getElem?_replicate]
    by_cases hlast : i < count
    · have hempty : t.slot (UInt32.ofNat i) = none :=
        slot_of_le (by rwa [UInt32.toNat_ofNat_of_lt' (by omega)])
      rw [if_pos hlast, if_pos (by omega), hempty]
    · rw [if_neg hlast, if_neg (by omega)]

/-- A table shows what is stored and, up to its size, empty slots. -/
theorem Backed.slots_eq (ht : t.Backed) :
    t.slots = t.elements.toList ++ List.replicate (t.size.toNat - t.elements.length) none :=
  below_eq ht.inside (Nat.le_of_lt t.size.toNat_lt)

/-! ## Filling -/

theorem Filled.below_eq {t' : Table α} (h : t.Filled index value t') {count : Nat}
    (hcount : count ≤ UInt32.size) : t'.below count = (t.below count).set index.toNat value := by
  apply List.ext_getElem?
  intro i
  rw [getElem?_below, List.getElem?_set, length_below, getElem?_below, h.slot]
  by_cases hi : i < count
  · have hindex : UInt32.ofNat i = index ↔ index.toNat = i := by
      rw [← UInt32.toNat_inj, UInt32.toNat_ofNat_of_lt' (by omega), eq_comm]
    by_cases heq : index.toNat = i
    · subst heq
      simp [hi]
    · simp [hi, hindex, heq]
  · by_cases heq : index.toNat = i
    · subst heq
      simp [hi]
    · simp [hi, heq]

/-- Filling a slot replaces an entry of the array. -/
theorem Filled.plain_eq {t' : Table α} (h : t.Filled index value t') :
    t'.plain = { t.plain with slots := t.plain.slots.set index.toNat value } := by
  have hslots : t'.slots = t.slots.set index.toNat value := by
    rw [slots, h.size]
    exact h.below_eq (Nat.le_of_lt t.size.toNat_lt)
  simp only [plain, hslots, h.declared]

/-! ## Growing -/

/-- A table with further slots at its end. -/
def grown (t : Table α) (delta : UInt32) : Table α := { t with size := t.size + delta }

/-- A table that may grow grows, and only then. -/
theorem grow_eq (t : Table α) (delta : UInt32) :
    t.grow delta =
      if t.plain.Growable delta then .ok (t.grown delta, t.size)
      else .error (.couldNotGrow t.size delta) := by
  have hgrowable : (t.size.toNat + delta.toNat < UInt32.size ∧
      (t.declared.maximum.all fun maximum => t.size + delta ≤ maximum) = true) ↔
        t.plain.Growable delta := by
    rw [Plain.growable_iff, plain, length_slots]
    refine and_congr_right fun hsum => ?_
    have htoNat : (t.size + delta).toNat = t.size.toNat + delta.toNat := by
      rw [UInt32.toNat_add, Nat.mod_eq_of_lt hsum]
    simp only [UInt32.le_iff_toNat_le, htoNat]
  simp only [grow]
  by_cases h : t.plain.Growable delta
  · rw [if_pos h, if_pos (hgrowable.mpr h)]
    rfl
  · rw [if_neg h, if_neg fun h' => h (hgrowable.mp h')]

/-- Growing shows empty slots, since nothing was filled behind the end. -/
theorem plain_grown (ht : t.Backed) (h : t.plain.Growable delta) :
    (t.grown delta).plain =
      { t.plain with slots := t.plain.slots ++ List.replicate delta.toNat none } := by
  have hsum : t.size.toNat + delta.toNat < UInt32.size := by
    have hlength := h.1
    rwa [plain, length_slots] at hlength
  have hslots : (t.grown delta).slots = t.slots ++ List.replicate delta.toNat none := by
    have htoNat : (t.grown delta).size.toNat = t.size.toNat + delta.toNat := by
      rw [grown, UInt32.toNat_add, Nat.mod_eq_of_lt hsum]
    have hinside := ht.inside
    have hcount : t.size.toNat + delta.toNat - t.elements.length =
        t.size.toNat - t.elements.length + delta.toNat := by omega
    rw [slots, htoNat, ht.slots_eq, List.append_assoc, List.replicate_append_replicate, ← hcount]
    exact below_eq (show t.elements.length ≤ _ by omega) (Nat.le_of_lt hsum)
  simp only [plain, hslots]
  rfl

/-! ## One operation -/

variable {t' : Table α} {operation : Operation α} {operations : List (Operation α)}
  {answer : Except TableError (Answer α)}

/-- What an operation does to a backed table: it is the operation of the plain array, and keeps
the table backed and as it was declared. -/
structure Simulates (t : Table α) (operation : Operation α)
    (answer : Except TableError (Answer α)) (t' : Table α) : Prop where
  plain : t.plain.perform operation = (answer, t'.plain)
  backed : t'.Backed
  declared : t'.declared = t.declared

/-- An operation that does not change a table keeps what holds of it. -/
theorem Simulates.of_unchanged (ht : t.Backed)
    (hplain : t.plain.perform operation = (answer, t.plain)) :
    t.Simulates operation answer t :=
  ⟨hplain, ht, rfl⟩

theorem simulates_get (ht : t.Backed) (index : UInt32) :
    t.Simulates (.get index) (t.perform (.get index)).1 (t.perform (.get index)).2 := by
  by_cases hindex : index < t.size
  · have hperform : t.perform (.get index) = (.ok (.value (t.slot index)), t) := by
      simp only [perform, Table.get, if_pos hindex]
      rfl
    rw [hperform]
    apply Simulates.of_unchanged ht
    rw [UInt32.lt_iff_toNat_lt] at hindex
    simp only [Plain.perform, plain, getElem?_slots, if_pos hindex, UInt32.ofNat_toNat]
  · have hperform : t.perform (.get index) = (.error (.outOfBounds index t.size), t) := by
      simp only [perform, Table.get, if_neg hindex]
      rfl
    rw [hperform]
    apply Simulates.of_unchanged ht
    rw [UInt32.lt_iff_toNat_lt] at hindex
    rw [← size_plain]
    simp only [Plain.perform, plain, getElem?_slots, if_neg hindex]

theorem simulates_set (ht : t.Backed) (index : UInt32) (value : Option α) :
    t.Simulates (.set index value) (t.perform (.set index value)).1
      (t.perform (.set index value)).2 := by
  have hlength : index.toNat < t.plain.slots.length ↔ index < t.size := by
    rw [plain, length_slots, UInt32.lt_iff_toNat_lt]
  by_cases hindex : index < t.size
  · obtain ⟨t', hset⟩ := exists_set hindex value
    have hfilled := filled_of_set hset
    have hperform : t.perform (.set index value) = (.ok .done, t') := by
      simp only [perform, hset]
      rfl
    rw [hperform]
    refine ⟨?_, ht.set hset, hfilled.declared⟩
    simp only [Plain.perform, if_pos (hlength.mpr hindex), hfilled.plain_eq]
  · have hperform : t.perform (.set index value) = (.error (.outOfBounds index t.size), t) := by
      simp only [perform, set_eq_error hindex]
      rfl
    rw [hperform]
    apply Simulates.of_unchanged ht
    simp only [Plain.perform, if_neg (fun h => hindex (hlength.mp h)), size_plain]

theorem simulates_grow (ht : t.Backed) (delta : UInt32) :
    t.Simulates (.grow delta) (t.perform (.grow delta)).1 (t.perform (.grow delta)).2 := by
  by_cases hgrowable : t.plain.Growable delta
  · have hgrow : t.grow delta = .ok (t.grown delta, t.size) := by
      rw [grow_eq, if_pos hgrowable]
    have hperform : t.perform (.grow delta) = (.ok (.previous t.size), t.grown delta) := by
      simp only [perform, hgrow]
      rfl
    rw [hperform]
    refine ⟨?_, ht.grow hgrow, rfl⟩
    simp only [Plain.perform, if_pos hgrowable, size_plain, plain_grown ht hgrowable]
  · have hperform : t.perform (.grow delta) = (.error (.couldNotGrow t.size delta), t) := by
      simp only [perform, grow_eq, if_neg hgrowable]
      rfl
    rw [hperform]
    apply Simulates.of_unchanged ht
    simp only [Plain.perform, if_neg hgrowable, size_plain]

theorem simulates (ht : t.Backed) (operation : Operation α) :
    t.Simulates operation (t.perform operation).1 (t.perform operation).2 := by
  cases operation with
  | get index => exact simulates_get ht index
  | set index value => exact simulates_set ht index value
  | grow delta => exact simulates_grow ht delta

/-! ## What a slot holds -/

theorem given_cons (index : UInt32) (entry : Operation α × Except TableError (Answer α))
    (rest : List (Operation α × Except TableError (Answer α))) :
    given index (entry :: rest) = given index [entry] ++ given index rest := by
  rw [given, given, given, ← List.filterMap_append]
  rfl

/-- One operation gives a slot the value it sets there, if it succeeds, and no other does. -/
theorem slot_perform (t : Table α) (operation : Operation α) (index : UInt32) :
    (t.perform operation).2.slot index =
      (given index [(operation, (t.perform operation).1)]).getLast?.getD (t.slot index) := by
  cases operation with
  | get i =>
    have hsame : (t.perform (.get i)).2 = t := by
      simp only [perform, Table.get]
      split <;> rfl
    rw [hsame]
    rfl
  | set i value =>
    by_cases hbound : i < t.size
    · obtain ⟨t', hset⟩ := exists_set hbound value
      simp only [perform, hset]
      show t'.slot index =
        ((if i = index then some value else none).toList).getLast?.getD (t.slot index)
      rw [(filled_of_set hset).slot]
      by_cases hindex : i = index
      · simp [hindex]
      · simp [hindex, Ne.symm hindex]
    · simp only [perform, set_eq_error hbound]
      rfl
  | grow delta =>
    have hsame : (t.perform (.grow delta)).2.elements = t.elements := by
      simp only [perform, grow_eq]
      split <;> rfl
    rw [slot, hsame]
    rfl

/-- After a run a slot holds the last value that was set there. -/
theorem slot_run (t : Table α) (operations : List (Operation α)) (index : UInt32) :
    (t.run operations).2.slot index =
      (given index (operations.zip (t.run operations).1)).getLast?.getD (t.slot index) := by
  induction operations generalizing t with
  | nil => rfl
  | cons operation rest ih =>
    simp only [run, List.zip_cons_cons]
    rw [given_cons, List.getLast?_append, ih, slot_perform, Option.getD_or]

/-! ## Runs -/

/-- A run of a backed table is the run of the plain array. -/
theorem run_simulates (ht : t.Backed) (operations : List (Operation α)) :
    t.plain.run operations = ((t.run operations).1, (t.run operations).2.plain) ∧
      (t.run operations).2.Backed ∧ (t.run operations).2.declared = t.declared := by
  induction operations generalizing t with
  | nil => exact ⟨rfl, ht, rfl⟩
  | cons operation rest ih =>
    have hfirst := simulates ht operation
    obtain ⟨hplain, hbacked, hdeclared⟩ := ih hfirst.backed
    refine ⟨?_, hbacked, hdeclared.trans hfirst.declared⟩
    simp only [Plain.run, run, hfirst.plain, hplain]

/-- A table refines a plain array that starts with empty slots: every run has the answers of the
array and leaves its slots, each of which can be seen exactly if it lies in the table and holds
what was last set there.  The declared type stays and the size keeps to its limits.  What is
stored is no longer than the table, and all slots behind it are empty. -/
theorem plain_run (h : create type = .ok t) (operations : List (Operation α)) :
    (Plain.vacant type).run operations = ((t.run operations).1, (t.run operations).2.plain) ∧
      (∀ index, (t.run operations).2.get index =
        if index < (t.run operations).2.size then
          .ok (lastGiven index (operations.zip (t.run operations).1))
        else .error (.outOfBounds index (t.run operations).2.size)) ∧
      (t.run operations).2.declared = type ∧
      type.minimum ≤ (t.run operations).2.size ∧
      (∀ maximum ∈ type.maximum, (t.run operations).2.size ≤ maximum) ∧
      (t.run operations).2.elements.length ≤ (t.run operations).2.size.toNat ∧
      (t.run operations).2.slots = (t.run operations).2.elements.toList ++
        List.replicate ((t.run operations).2.size.toNat - (t.run operations).2.elements.length)
          none := by
  obtain ⟨hplain, hbacked, hdeclared⟩ := run_simulates (backed_of_create h) operations
  obtain ⟨rfl, -⟩ := create_eq_ok_iff.mp h
  rw [plain_vacant] at hplain
  have htype : ((vacant type).run operations).2.declared = type := hdeclared
  refine ⟨hplain, fun index => ?_, htype, ?_, fun maximum hmaximum => ?_, ?_, hbacked.slots_eq⟩
  · have hslot : ((vacant type).run operations).2.slot index =
        lastGiven index (operations.zip ((vacant type).run operations).1) :=
      slot_run (vacant type) operations index
    rw [← hslot]
    rfl
  · have hminimum := hbacked.minimum
    rwa [htype] at hminimum
  · exact hbacked.maximum maximum (htype.symm ▸ hmaximum)
  · exact hbacked.inside

/-- Emptying a slot that is not backed, filling one behind the end, growing by two slots and
filling the last one, growing once more, and looking at three slots. -/
def sparse : List (Operation Nat) :=
  [.set 0 none, .set 2 (some 7), .grow 2, .set 2 (some 7), .grow 1, .grow 1, .get 1, .get 2, .get 3]

theorem plain_run_sparse :
    ((vacant ⟨.funcRef, 1, some 4⟩).run sparse).1 =
        [.ok .done, .error (.outOfBounds 2 1), .ok (.previous 1), .ok .done, .ok (.previous 3),
          .error (.couldNotGrow 4 1), .ok (.value none), .ok (.value (some 7)), .ok (.value none)] ∧
      ((vacant ⟨.funcRef, 1, some 4⟩).run sparse).2.get 2 = .ok (some 7) := by
  have hcreate : create ⟨.funcRef, 1, some 4⟩ = .ok (vacant (α := Nat) ⟨.funcRef, 1, some 4⟩) := rfl
  obtain ⟨hplain, hget, -⟩ := plain_run hcreate sparse
  have hanswers := congrArg Prod.fst hplain
  refine ⟨hanswers.symm.trans (by decide), ?_⟩
  rw [hget]
  decide

end Table
end HostLink

/-
What a call of a default function can change.

Five of the default functions edit the memory of their caller, each in one range, and no
other function changes anything.  `HostOp.edit?` says which edit a call asks for and
`Edit.Ends` how an edit may end: refused for want of a memory, out of bounds, done, or with
the host going down.  Only an edit that is done leaves something behind, and what it leaves
differs from before in the range it was for.

A function under a signature that does not suit it could edit and fail afterwards, since the
results are checked last.  The default functions have their own signatures.
-/
import HostLink.Proofs.Host.Copying
import HostLink.Proofs.Host.Signature
import HostLink.Proofs.Store.Refinement
import Mathlib.Algebra.Ring.Int.Defs
import Mathlib.Algebra.Ring.Nat

namespace HostLink

open HostM

/-! ## Words -/

/-- The number a word stands for where it is read without a sign. -/
def unsignedWord (word : Int32) : Nat := (word.toInt % 2 ^ 32).toNat

theorem toNat_toUInt32 (word : Int32) : word.toUInt32.toNat = unsignedWord word := by
  have hword : word.toInt = word.toUInt32.toBitVec.toInt := rfl
  have hlt := word.toUInt32.toNat_lt
  rw [unsignedWord, hword, BitVec.toInt_eq_toNat_cond]
  show word.toUInt32.toNat = _
  simp only [UInt32.toNat_toBitVec]
  split <;> omega

theorem toNat_address (word : Int32) : (address word).toNat = unsignedWord word := by
  rw [← toNat_toUInt32]
  simp [address]

theorem ofNat_unsignedWord (word : Int32) : UInt64.ofNat (unsignedWord word) = address word := by
  rw [← toNat_address, UInt64.ofNat_toNat]

theorem LittleEndian.getD_encode {count i : Nat} (h : i < count) (n : Nat) :
    (encode count n).getD i 0 = UInt8.ofNat (n / 256 ^ i) := by
  induction count generalizing n i with
  | zero => omega
  | succ count ih =>
    cases i with
    | zero =>
      have hbyte : UInt8.ofNat (n % 256) = UInt8.ofNat n := by
        rw [← UInt8.toNat_inj]
        simp
      simp [encode, hbyte]
    | succ i =>
      have hrest := ih (Nat.lt_of_succ_lt_succ h) (n / 256)
      rw [encode, List.getD_cons_succ, hrest, Nat.div_div_eq_div_mul, Nat.pow_succ']

/-! ## Edits -/

/-- A change of one range of bytes of a memory. -/
inductive Edit where
  | copy (source target length : Nat)
  | fill (value target length : Nat)
  | word (value target : Nat)
  deriving DecidableEq, Repr

namespace Edit

def target : Edit → Nat
  | copy _ target _ => target
  | fill _ target _ => target
  | word _ target => target

def length : Edit → Nat
  | copy _ _ length => length
  | fill _ _ length => length
  | word .. => 4

/-- The new bytes of the range, by their distance from its start, given the old bytes of the
memory: those of another range, the low byte of a number, or its four bytes from the lowest
to the highest. -/
def value (old : Nat → UInt8) : Edit → Nat → UInt8
  | copy source _ _, i => old (source + i)
  | fill value _ _, _ => UInt8.ofNat value
  | word value _, i => UInt8.ofNat (value / 256 ^ i)

/-- The starts and lengths of the ranges an edit needs, in the order in which they are
checked. -/
def ranges : Edit → List (Nat × Nat)
  | copy source target length => [(source, length), (target, length)]
  | fill _ target length => [(target, length)]
  | word _ target => [(target, 4)]

/-- The first of these ranges that does not lie in a memory of so many bytes. -/
def outside? (edit : Edit) (size : Nat) : Option (Nat × Nat) :=
  edit.ranges.find? fun range => size < range.1 + range.2

end Edit

def Memory.edited (m : Memory) (edit : Edit) : Memory :=
  m.store edit.target edit.length (edit.value m.byte)

/-- The edit that a call of a host function asks for, if any.  Where an error number is kept
is for the compartment to say. -/
def HostOp.edit? (errnoLocation : Option UInt32) : HostOp → List Value → Option Edit
  | memcpy, [.i32 target, .i32 source, .i32 length]
  | memmove, [.i32 target, .i32 source, .i32 length]
  | memcpyBig, [.i32 target, .i32 source, .i32 length] =>
    some (.copy (unsignedWord source) (unsignedWord target) (unsignedWord length))
  | memset, [.i32 target, .i32 value, .i32 length] =>
    some (.fill (unsignedWord value) (unsignedWord target) (unsignedWord length))
  | setErrno, [.i32 value] =>
    errnoLocation.map fun location => .word (unsignedWord value) location.toNat
  | _, _ => none

/-- Whether a host function edits memory. -/
def HostOp.Edits (errnoLocation : Option UInt32) : HostOp → Prop
  | memcpy | memmove | memcpyBig | memset => True
  | setErrno => errnoLocation.isSome
  | _ => False

/-! ## Ends of an edit -/

variable {c c' : Compartment HostOp} {memory : Option (Handle .memory)} {edit : Edit}

/-- How an edit of the memory that a call was given ends. -/
inductive Edit.Ends (edit : Edit) (memory : Option (Handle .memory)) (c : Compartment HostOp) :
    Except (Failure Trap) Unit → Compartment HostOp → Prop
  | refused (hforeign : ∀ handle, memory = some handle → handle.compartment ≠ c.id) :
    Ends edit memory c (.error (.error .noMemory)) c
  | outside {handle : Handle .memory} {m : Memory} {start length : Nat}
      (hmemory : memory = some handle) (hget : c.get? handle = some m)
      (houtside : edit.outside? m.length = some (start, length)) :
    Ends edit memory c
      (.error (.error (.memory (.outOfBounds (.ofNat start) (.ofNat length) m.length)))) c
  | done {handle : Handle .memory} {m : Memory}
      (hmemory : memory = some handle) (hget : c.get? handle = some m)
      (hinside : edit.outside? m.length = none) :
    Ends edit memory c (.ok ()) (c.set handle (m.edited edit))
  | crashed {c' : Compartment HostOp} : Ends edit memory c (.error .crash) c'

/-- The memory a call was given is refused, found, or missing. -/
theorem exec_callerMemory_cases (memory : Option (Handle .memory)) (c : Compartment HostOp) :
    ((∀ handle, memory = some handle → handle.compartment ≠ c.id) ∧
        exec (callerMemory memory) c = (.error (.error .noMemory), c)) ∨
      exec (callerMemory memory) c = (.error .crash, c) ∨
      ∃ handle m, memory = some handle ∧ c.get? handle = some m := by
  cases memory with
  | none =>
    refine .inl ⟨?_, rfl⟩
    rintro handle ⟨⟩
  | some handle =>
    by_cases howns : c.owns handle
    · cases hget : c.get? handle with
      | none =>
        refine .inr (.inl ?_)
        simp only [callerMemory, exec_bind, exec_get, if_pos howns, hget, exec_crash]
      | some m => exact .inr (.inr ⟨handle, m, rfl, hget⟩)
    · refine .inl ⟨?_, ?_⟩
      · rintro _ ⟨⟩ hid
        exact howns (by simp [Compartment.owns, hid])
      · simp only [callerMemory, exec_bind, exec_get, if_neg howns, exec_trap]

theorem ends_of_callerMemory {x : Handle .memory × Memory → HostM HostOp Unit}
    (h : ∀ handle m, memory = some handle → c.get? handle = some m →
      edit.Ends memory c (exec (x (handle, m)) c).1 (exec (x (handle, m)) c).2) :
    edit.Ends memory c (exec (callerMemory memory >>= x) c).1
      (exec (callerMemory memory >>= x) c).2 := by
  rw [exec_bind]
  rcases exec_callerMemory_cases memory c with ⟨hforeign, hrun⟩ | hrun | ⟨handle, m, rfl, hget⟩
  · rw [hrun]
    exact .refused hforeign
  · rw [hrun]
    exact .crashed
  · rw [exec_callerMemory_of_get? hget]
    exact h handle m rfl hget

theorem covers_address_iff {m : Memory} {start length : Int32} :
    m.Covers (address start) (address length) ↔
      unsignedWord start + unsignedWord length ≤ m.length := by
  rw [Memory.Covers, toNat_address, toNat_address]

theorem ends_copyMemory (source target length : Int32) :
    (Edit.copy (unsignedWord source) (unsignedWord target) (unsignedWord length)).Ends memory c
      (exec (copyMemory memory (address source) (address target) (address length)) c).1
      (exec (copyMemory memory (address source) (address target) (address length)) c).2 := by
  refine ends_of_callerMemory fun handle m hmemory hget => ?_
  dsimp only
  by_cases hsource : m.Covers (address source) (address length)
  · have hsource' := covers_address_iff.mp hsource
    by_cases htarget : m.Covers (address target) (address length)
    · have htarget' := covers_address_iff.mp htarget
      by_cases hstart : m.StartsBehind (address source) (address target) (address length)
      · rw [Memory.copyWithin_eq_crash ⟨hsource, htarget⟩ hstart]
        exact .crashed
      · have hcopied : m.copied (address source) (address target) (address length) =
            m.edited (.copy (unsignedWord source) (unsignedWord target) (unsignedWord length)) := by
          simp only [Memory.copied, Memory.edited, toNat_address]
          rfl
        rw [Memory.copyWithin_eq_done ⟨hsource, htarget⟩ hstart, hcopied]
        refine .done hmemory hget ?_
        simp [Edit.outside?, Edit.ranges, hsource', htarget']
    · rw [Memory.copyWithin_eq_error_target hsource htarget]
      rw [covers_address_iff] at htarget
      rw [← ofNat_unsignedWord target, ← ofNat_unsignedWord length]
      refine .outside hmemory hget ?_
      simp [Edit.outside?, Edit.ranges, hsource', Nat.not_le.mp htarget]
  · rw [Memory.copyWithin_eq_error_source hsource]
    rw [covers_address_iff] at hsource
    rw [← ofNat_unsignedWord source, ← ofNat_unsignedWord length]
    refine .outside hmemory hget ?_
    simp [Edit.outside?, Edit.ranges, Nat.not_le.mp hsource]

theorem ends_fill (target value length : Int32) :
    (Edit.fill (unsignedWord value) (unsignedWord target) (unsignedWord length)).Ends memory c
      (exec (changeMemory memory fun m =>
        m.fill (address target) value.toUInt32.toUInt8 (address length)) c).1
      (exec (changeMemory memory fun m =>
        m.fill (address target) value.toUInt32.toUInt8 (address length)) c).2 := by
  refine ends_of_callerMemory fun handle m hmemory hget => ?_
  dsimp only
  by_cases htarget : m.Covers (address target) (address length)
  · have hfilled : m.store (address target).toNat (address length).toNat
          (fun _ => value.toUInt32.toUInt8) =
        m.edited (.fill (unsignedWord value) (unsignedWord target) (unsignedWord length)) := by
      have hbyte : value.toUInt32.toUInt8 = UInt8.ofNat (unsignedWord value) := by
        rw [← toNat_toUInt32]
        simp
      simp only [Memory.edited, toNat_address, hbyte]
      rfl
    rw [Memory.fill_eq_ok htarget, hfilled]
    rw [covers_address_iff] at htarget
    refine .done hmemory hget ?_
    simp [Edit.outside?, Edit.ranges, htarget]
  · rw [Memory.fill_eq_error htarget]
    rw [covers_address_iff] at htarget
    rw [← ofNat_unsignedWord target, ← ofNat_unsignedWord length]
    refine .outside hmemory hget ?_
    simp [Edit.outside?, Edit.ranges, Nat.not_le.mp htarget]

theorem ends_word (location : UInt32) (value : Int32) :
    (Edit.word (unsignedWord value) location.toNat).Ends memory c
      (exec (changeMemory memory fun m =>
        m.write location.toUInt64 (LittleEndian.encode 4 value.toUInt32.toNat)) c).1
      (exec (changeMemory memory fun m =>
        m.write location.toUInt64 (LittleEndian.encode 4 value.toUInt32.toNat)) c).2 := by
  refine ends_of_callerMemory fun handle m hmemory hget => ?_
  dsimp only
  rw [toNat_toUInt32 value]
  generalize hbytes : LittleEndian.encode 4 (unsignedWord value) = bytes
  have hlength : bytes.length = 4 := by rw [← hbytes, LittleEndian.length_encode]
  have hlocation : location.toUInt64.toNat = location.toNat := by simp
  by_cases hfits : location.toNat + 4 ≤ m.length
  · have hwritten : m.store location.toUInt64.toNat bytes.length (fun i => bytes.getD i 0) =
        m.edited (.word (unsignedWord value) location.toNat) := by
      rw [hlocation, hlength, ← hbytes]
      exact Memory.store_congr fun i hi => LittleEndian.getD_encode hi _
    rw [Memory.write_eq_ok (by rw [hlength]; decide) (by rw [hlength, hlocation]; exact hfits),
      hwritten]
    refine .done hmemory hget ?_
    simp [Edit.outside?, Edit.ranges, hfits]
  · have houtside : ¬ m.Covers location.toUInt64 (UInt64.ofNat bytes.length) := by
      rw [Memory.Covers, hlength, hlocation]
      exact hfits
    have hstart : location.toUInt64 = UInt64.ofNat location.toNat := by
      rw [← UInt64.toNat_inj, hlocation]
      simp
    rw [Memory.write_eq_error houtside, hlength, hstart]
    refine .outside hmemory hget ?_
    simp [Edit.outside?, Edit.ranges, Nat.not_le.mp hfits]

/-! ## Runs of host functions -/

theorem exec_bind_pure {α β : Type} (x : HostM HostOp α) (b : β) (c : Compartment HostOp) :
    exec (x >>= fun _ => pure b) c = ((exec x c).1.map fun _ => b, (exec x c).2) := by
  rw [exec_bind]
  rcases exec x c with ⟨_ | _, _⟩ <;> rfl

/-- What changes nothing, followed by what changes nothing, changes nothing. -/
theorem exec_bind_snd {α β : Type} {x : HostM HostOp α} {f : α → HostM HostOp β}
    (hx : (exec x c).2 = c) (hf : ∀ a, (exec (f a) c).2 = c) : (exec (x >>= f) c).2 = c := by
  rw [exec_bind]
  rcases hrun : exec x c with ⟨_ | a, c₁⟩
  · rw [hrun] at hx
    exact hx
  · rw [hrun] at hx
    obtain rfl : c₁ = c := hx
    exact hf a

namespace HostOp

variable {op : HostOp} {arguments : List Value}

/-- A host function whose call asks for an edit makes it and answers with its first
argument. -/
theorem exec_run_edit (memory : Option (Handle .memory))
    (h : op.edit? c.errnoLocation arguments = some edit) :
    ∃ outcome c', edit.Ends memory c outcome c' ∧
      exec (op.run memory arguments) c = (outcome.map fun _ => arguments.take 1, c') := by
  unfold edit? at h
  split at h
  · cases h
    refine ⟨_, _, ends_copyMemory .., ?_⟩
    simp only [run, copy, exec_bind _ (fun _ => _ >>= _), exec_log, exec_bind_pure]
    rfl
  · cases h
    refine ⟨_, _, ends_copyMemory .., ?_⟩
    simp only [run, copy, exec_bind _ (fun _ => _ >>= _), exec_log, exec_bind_pure]
    rfl
  · cases h
    refine ⟨_, _, ends_copyMemory .., ?_⟩
    simp only [run, copy, exec_bind _ (fun _ => _ >>= _), exec_log, exec_bind_pure]
    rfl
  · cases h
    refine ⟨_, _, ends_fill .., ?_⟩
    simp only [run, exec_bind _ (fun _ => _ >>= _), exec_log, exec_bind_pure]
    rfl
  · obtain ⟨location, hlocation, rfl⟩ := Option.map_eq_some_iff.mp h
    refine ⟨_, _, ends_word .., ?_⟩
    simp only [run, storeErrno, exec_bind get, exec_get, hlocation,
      exec_bind _ (fun _ => _ >>= _), exec_log, exec_bind_pure]
    rfl
  · cases h

theorem exec_run_of_edit?_eq_none (memory : Option (Handle .memory))
    (h : op.edit? c.errnoLocation arguments = none) :
    (exec (op.run memory arguments) c).2 = c := by
  unfold run
  split
  · cases h
  · cases h
  · cases h
  · rfl
  · rfl
  · rfl
  · rfl
  · rcases exec_callerMemory memory c with ⟨failure, hrun⟩ | ⟨handle, m, hrun, -, -⟩
    · simp only [exec_bind, hrun]
    · simp only [exec_bind, hrun]
      rfl
  · rfl
  · have hlocation : c.errnoLocation = none := Option.map_eq_none_iff.mp h
    simp only [storeErrno, exec_bind, exec_get, hlocation]
    rfl
  · rfl
  · rfl
  · rfl
  · cases h
  all_goals rfl

theorem types_of_edit? (h : op.edit? c.errnoLocation arguments = some edit) :
    arguments.map Value.type = op.signature.params ∧
      (arguments.take 1).map Value.type = op.signature.results := by
  unfold edit? at h
  split at h
  · exact ⟨rfl, rfl⟩
  · exact ⟨rfl, rfl⟩
  · exact ⟨rfl, rfl⟩
  · exact ⟨rfl, rfl⟩
  · exact ⟨rfl, rfl⟩
  · cases h

theorem eq_i32_of_type {value : Value} (h : value.type = .i32) : ∃ word, value = .i32 word := by
  cases value with
  | i32 word => exact ⟨word, rfl⟩
  | i64 word | f32 word | f64 word | v128 word => cases h

/-- With arguments of its signature, a function that edits is asked for an edit. -/
theorem exists_edit (hedits : op.Edits c.errnoLocation)
    (htypes : arguments.map Value.type = op.signature.params) :
    ∃ edit, op.edit? c.errnoLocation arguments = some edit := by
  have hthree : arguments.map Value.type = [.i32, .i32, .i32] →
      ∃ x y z, arguments = [.i32 x, .i32 y, .i32 z] := by
    intro h
    simp only [List.map_eq_cons_iff, List.map_eq_nil_iff] at h
    obtain ⟨_, _, rfl, hx, _, _, rfl, hy, _, _, rfl, hz, rfl⟩ := h
    obtain ⟨x, rfl⟩ := eq_i32_of_type hx
    obtain ⟨y, rfl⟩ := eq_i32_of_type hy
    obtain ⟨z, rfl⟩ := eq_i32_of_type hz
    exact ⟨x, y, z, rfl⟩
  cases op with
  | memcpy | memmove | memset | memcpyBig =>
    obtain ⟨x, y, z, rfl⟩ := hthree htypes
    exact ⟨_, rfl⟩
  | setErrno =>
    simp only [signature, List.map_eq_cons_iff, List.map_eq_nil_iff] at htypes
    obtain ⟨_, _, rfl, hx, rfl⟩ := htypes
    obtain ⟨x, rfl⟩ := eq_i32_of_type hx
    obtain ⟨location, hlocation⟩ := Option.isSome_iff_exists.mp hedits
    exact ⟨_, congrArg (Option.map _) hlocation⟩
  | abort | abortCode | abortStackOverflow | enlargeMemory | totalMemory | abortOnCannotGrow
  | errnoLocation | lock | unlock | unary | pow | floatRem | floatToInt | integer | debugger =>
    exact absurd hedits id

end HostOp

/-! ## Calls -/

namespace Function

variable {function : Handle .function} {f : Function HostOp} {arguments : List Value}

/-- Calling a function with its own signature for an edit makes the edit and answers with
the first argument: both checks are passed. -/
theorem exec_call_edit (memory : Option (Handle .memory)) (hfound : c.get? function = some f)
    (htype : f.type = f.host.signature)
    (hedit : f.host.edit? c.errnoLocation arguments = some edit) :
    ∃ outcome c', edit.Ends memory c outcome c' ∧
      exec (call function memory arguments) c =
        (outcome.map fun _ => arguments.take 1, c') := by
  obtain ⟨outcome, c', hends, hrun⟩ := HostOp.exec_run_edit memory hedit
  obtain ⟨hparams, hresults⟩ := HostOp.types_of_edit? hedit
  rw [← htype] at hparams hresults
  refine ⟨outcome, c', hends, ?_⟩
  simp only [call, exec_bind, exec_get, hfound, exec_log, exec_checkTypes hparams,
    HostFunctions.run_hostOp, hrun]
  cases outcome with
  | error failure => rfl
  | ok done => simp only [Except.map, exec_checkTypes hresults, exec_pure]

theorem exec_checkTypes_snd (signature : FunctionType) (declared : List ValueType)
    (values : List Value) : (exec (checkTypes signature declared values) c).2 = c := by
  unfold checkTypes
  dsimp only
  split <;> rfl

/-- Calling a function for anything else changes nothing, whatever its signature. -/
theorem exec_call_of_edit?_eq_none (memory : Option (Handle .memory))
    (hfound : c.get? function = some f)
    (hedit : f.host.edit? c.errnoLocation arguments = none) :
    (exec (call function memory arguments) c).2 = c := by
  have hrun := HostOp.exec_run_of_edit?_eq_none memory hedit
  simp only [call, exec_bind get, exec_get, hfound]
  refine exec_bind_snd rfl fun _ => ?_
  refine exec_bind_snd (exec_checkTypes_snd ..) fun _ => ?_
  refine exec_bind_snd hrun fun _ => ?_
  exact exec_bind_snd (exec_checkTypes_snd ..) fun _ => rfl

end Function

/-! ## Frames -/

/-- Whether a compartment differs from an earlier one in the bytes of one memory, by an edit,
and in what that commits. -/
structure Compartment.Edited (c : Compartment HostOp) (handle : Handle .memory) (m : Memory)
    (edit : Edit) (c' : Compartment HostOp) : Prop where
  id : c'.id = c.id
  errnoLocation : c'.errnoLocation = c.errnoLocation
  others : ∀ kind, kind ≠ .memory → c'.objects kind = c.objects kind
  beside : ∀ i, i ≠ handle.index → c'.memories[i]? = c.memories[i]?
  edited : ∃ m', c'.get? handle = some m' ∧ m'.declared = m.declared ∧ m'.size = m.size ∧
    m'.committed = max m.committed (if edit.length = 0 then 0 else edit.target + edit.length) ∧
    ∀ i, m'.byte i =
      if edit.target ≤ i ∧ i < edit.target + edit.length then
        edit.value m.byte (i - edit.target)
      else m.byte i

theorem edited_set {handle : Handle .memory} {m : Memory} (hget : c.get? handle = some m)
    (edit : Edit) : c.Edited handle m edit (c.set handle (m.edited edit)) := by
  have hset : c.set handle (m.edited edit) =
      { c with memories := c.memories.setIfInBounds handle.index (m.edited edit) } := by
    rw [Compartment.set, if_pos (Compartment.owns_of_get? hget)]
    rfl
  refine ⟨Compartment.id_set c handle _, ?_, fun kind hkind => ?_, fun i hi => ?_, m.edited edit,
    Compartment.get?_set_self hget _, Memory.declared_store .., Memory.size_store .., ?_,
    Memory.byte_store _ _ _ _⟩
  · rw [hset]
  · rw [hset]
    cases kind with
    | memory => exact absurd rfl hkind
    | table | global | function | instance_ => rfl
  · rw [hset]
    exact Array.getElem?_setIfInBounds_ne hi.symm
  · rw [Memory.edited, Memory.committed_store]
    split
    · exact (Nat.max_zero _).symm
    · rfl

/-! ## Confinement -/

namespace Edit.Ends

variable {outcome : Except (Failure Trap) Unit} {trap : Trap} {handle : Handle .memory}
  {m : Memory}

theorem unchanged (h : edit.Ends memory c (.error (.error trap)) c') : c' = c := by
  cases h with
  | refused _ => rfl
  | outside _ _ _ => rfl

theorem edited (h : edit.Ends memory c (.ok ()) c') :
    ∃ handle m, memory = some handle ∧ c.get? handle = some m ∧ c.Edited handle m edit c' := by
  cases h with
  | done hmemory hget _ => exact ⟨_, _, hmemory, hget, edited_set hget edit⟩

theorem noMemory_iff (h : edit.Ends memory c outcome c') (hreturns : outcome ≠ .error .crash) :
    outcome = .error (.error .noMemory) ↔
      ∀ handle, memory = some handle → handle.compartment ≠ c.id := by
  cases h with
  | refused hforeign => exact ⟨fun _ => hforeign, fun _ => rfl⟩
  | outside hmemory hget _ =>
    have howned := (Compartment.get?_eq_some_iff.mp hget).1
    constructor
    · rintro ⟨⟩
    · intro hforeign
      exact absurd howned (hforeign _ hmemory)
  | done hmemory hget _ =>
    have howned := (Compartment.get?_eq_some_iff.mp hget).1
    constructor
    · rintro ⟨⟩
    · intro hforeign
      exact absurd howned (hforeign _ hmemory)
  | crashed => exact absurd rfl hreturns

/-- Given a memory of the compartment, the ranges decide how an edit ends, unless the host
goes down. -/
theorem of_get? (h : edit.Ends memory c outcome c') (hmemory : memory = some handle)
    (hget : c.get? handle = some m) (hreturns : outcome ≠ .error .crash) :
    (edit.outside? m.length = none → outcome = .ok ()) ∧
      ∀ start length, edit.outside? m.length = some (start, length) →
        outcome = .error (.error
          (.memory (.outOfBounds (.ofNat start) (.ofNat length) m.length))) := by
  have howned := (Compartment.get?_eq_some_iff.mp hget).1
  cases h with
  | refused hforeign => exact absurd howned (hforeign handle hmemory)
  | outside hmemory' hget' houtside =>
    obtain rfl := Option.some.inj (hmemory.symm.trans hmemory')
    obtain rfl := Option.some.inj (hget.symm.trans hget')
    refine ⟨fun hinside => ?_, fun start length hrange => ?_⟩
    · rw [houtside] at hinside
      cases hinside
    · rw [houtside] at hrange
      cases hrange
      rfl
  | done hmemory' hget' hinside =>
    obtain rfl := Option.some.inj (hmemory.symm.trans hmemory')
    obtain rfl := Option.some.inj (hget.symm.trans hget')
    refine ⟨fun _ => rfl, fun start length hrange => ?_⟩
    rw [hinside] at hrange
    cases hrange
  | crashed => exact absurd rfl hreturns

end Edit.Ends

/-- A call of a default function that returns is confined and atomic.  A trap leaves the
compartment as it was.  An answer leaves it as it was too, but for the range that the call
asked to edit in the memory it was given.  With arguments of its signature, a function that
edits traps for want of a memory if and only if none of the compartment was given, and blames
the first range that does not lie in the memory; otherwise it answers with its first
argument. -/
theorem call_confined {c c' : Compartment HostOp} {function : Handle .function}
    {f : Function HostOp} {memory : Option (Handle .memory)} {arguments : List Value}
    {answer : Except (Failure Trap) (List Value)} (hfound : c.get? function = some f)
    (hdefault : f.Default)
    (hcall : exec (Function.call function memory arguments) c = (answer, c'))
    (hreturns : answer ≠ .error .crash) :
    (∀ trap, answer = .error (.error trap) → c' = c) ∧
      (∀ results, answer = .ok results →
        (f.host.edit? c.errnoLocation arguments = none → c' = c) ∧
          ∀ edit, f.host.edit? c.errnoLocation arguments = some edit →
            ∃ handle m, memory = some handle ∧ c.get? handle = some m ∧
              c.Edited handle m edit c') ∧
      (f.host.Edits c.errnoLocation → arguments.map Value.type = f.type.params →
        ∃ edit, f.host.edit? c.errnoLocation arguments = some edit ∧
          (answer = .error (.error .noMemory) ↔
            ∀ handle, memory = some handle → handle.compartment ≠ c.id) ∧
          ∀ handle m, memory = some handle → c.get? handle = some m →
            (edit.outside? m.length = none → answer = .ok (arguments.take 1)) ∧
              ∀ start length, edit.outside? m.length = some (start, length) →
                answer = .error (.error
                  (.memory (.outOfBounds (.ofNat start) (.ofNat length) m.length)))) := by
  cases hedit : f.host.edit? c.errnoLocation arguments with
  | none =>
    have hkept : c' = c := by
      have hsnd := Function.exec_call_of_edit?_eq_none memory hfound hedit
      rw [hcall] at hsnd
      exact hsnd
    refine ⟨fun _ _ => hkept, fun _ _ => ⟨fun _ => hkept, ?_⟩, fun hedits htypes => ?_⟩
    · rintro edit ⟨⟩
    · rw [hdefault.type_eq] at htypes
      obtain ⟨edit, hsome⟩ := HostOp.exists_edit hedits htypes
      rw [hedit] at hsome
      cases hsome
  | some edit =>
    obtain ⟨outcome, c₁, hends, hrun⟩ :=
      Function.exec_call_edit memory hfound hdefault.type_eq hedit
    rw [hcall, Prod.mk.injEq] at hrun
    obtain ⟨rfl, rfl⟩ := hrun
    have hanswered : outcome ≠ .error .crash := by
      rintro rfl
      exact hreturns rfl
    have hmap : ∀ failure, (outcome.map fun _ => arguments.take 1) = .error failure ↔
        outcome = .error failure := by
      intro failure
      cases outcome with
      | error e => simp [Except.map]
      | ok done => simp [Except.map]
    refine ⟨fun trap htrap => ?_, fun results hresults => ⟨?_, ?_⟩,
      fun _ _ => ⟨edit, rfl, ?_, fun handle m hmemory hget => ⟨fun hinside => ?_, ?_⟩⟩⟩
    · rw [(hmap _).mp htrap] at hends
      exact hends.unchanged
    · rintro ⟨⟩
    · rintro _ ⟨⟩
      cases outcome with
      | error e => cases hresults
      | ok done => exact hends.edited
    · rw [hmap]
      exact hends.noMemory_iff hanswered
    · rw [(hends.of_get? hmemory hget hanswered).1 hinside]
      rfl
    · intro start length houtside
      rw [hmap]
      exact (hends.of_get? hmemory hget hanswered).2 start length houtside

/-- Filling the last two bytes of a page with the low byte of -1. -/
theorem call_confined_filling :
    (exec (Function.call ⟨⟨0⟩, 2⟩ (some ⟨⟨0⟩, 0⟩) [.i32 65534, .i32 (-1), .i32 2]) untouched).1 =
        .ok [.i32 65534] ∧
      ∃ m : Memory, (exec (Function.call ⟨⟨0⟩, 2⟩ (some ⟨⟨0⟩, 0⟩)
          [.i32 65534, .i32 (-1), .i32 2]) untouched).2.get? (⟨⟨0⟩, 0⟩ : Handle .memory) = some m ∧
        m.byte 65533 = 0 ∧ m.byte 65534 = 255 ∧ m.byte 65535 = 255 := by
  have hfound : untouched.get? (⟨⟨0⟩, 2⟩ : Handle .function) =
      some { name := "env.memset", type := HostOp.memset.signature, host := .memset } := rfl
  have hdefault : Function.Default
      { name := "env.memset", type := HostOp.memset.signature, host := .memset } :=
    ⟨.standard, .standardEnv, List.mem_cons_self, "memset", rfl, rfl⟩
  have hanswer : (exec (Function.call ⟨⟨0⟩, 2⟩ (some ⟨⟨0⟩, 0⟩)
      [.i32 65534, .i32 (-1), .i32 2]) untouched).1 = .ok [.i32 65534] := by decide +kernel
  rcases hcall : exec (Function.call ⟨⟨0⟩, 2⟩ (some ⟨⟨0⟩, 0⟩)
      [.i32 65534, .i32 (-1), .i32 2]) untouched with ⟨answer, after⟩
  rw [hcall] at hanswer
  obtain rfl : answer = .ok [.i32 65534] := hanswer
  obtain ⟨-, hedited, -⟩ := call_confined hfound hdefault hcall (by rintro ⟨⟩)
  obtain ⟨handle, m, ⟨⟩, hget, hframe⟩ := (hedited _ rfl).2 _ rfl
  obtain ⟨m', hget', -, -, -, hbyte⟩ := hframe.edited
  have hold : m = .zeroed ⟨1, none, false⟩ := Option.some.inj (hget.symm.trans rfl)
  subst hold
  refine ⟨rfl, m', hget', ?_, ?_, ?_⟩
  · rw [hbyte]
    decide +kernel
  · rw [hbyte]
    decide +kernel
  · rw [hbyte]
    decide +kernel

end HostLink

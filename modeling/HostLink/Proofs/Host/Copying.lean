/-
Copies asked for by a module.

Three functions of the default collections copy within the memory of their caller, and
the module chooses the ranges.  A call is answered with the target or with a trap as long
as the copy starts in what is committed, the target included, or the ranges do not lie in
the memory.  In between the host goes down: a source that lies in the memory, behind every
byte that was ever written and behind the target, reads as zero for every other operation
but cannot be copied.
-/
import HostLink.Host.Defaults
import HostLink.Proofs.Host.Call
import HostLink.Proofs.Host.Collection

namespace HostLink
namespace HostM

variable {c : Compartment HostOp} {handle : Handle .memory} {m : Memory}
  {source target length : UInt64}

/-! ## Copying in the memory of a caller -/

theorem exec_callerMemory_of_get? (h : c.get? handle = some m) :
    exec (callerMemory (some handle)) c = (.ok (handle, m), c) := by
  simp only [callerMemory, exec_bind, exec_get, if_pos (Compartment.owns_of_get? h), h]
  rfl

theorem exec_copyMemory_done (h : c.get? handle = some m)
    (hcovers : m.CoversCopy source target length) (hstart : ¬ m.StartsBehind source target length) :
    exec (copyMemory (some handle) source target length) c =
      (.ok (), c.set handle (m.copied source target length)) := by
  simp only [copyMemory, exec_bind, exec_callerMemory_of_get? h,
    Memory.copyWithin_eq_done hcovers hstart]
  rfl

theorem exec_copyMemory_crash (h : c.get? handle = some m)
    (hcovers : m.CoversCopy source target length) (hstart : m.StartsBehind source target length) :
    exec (copyMemory (some handle) source target length) c =
      (.error .crash, c.set handle (m.commit (target.toNat + length.toNat))) := by
  simp only [copyMemory, exec_bind, exec_callerMemory_of_get? h,
    Memory.copyWithin_eq_crash hcovers hstart]
  rfl

theorem exec_copyMemory_error (h : c.get? handle = some m)
    (hcovers : ¬ m.CoversCopy source target length) :
    ∃ offset, exec (copyMemory (some handle) source target length) c =
      (.error (.error (.memory (.outOfBounds offset length m.length))), c) := by
  obtain ⟨offset, hcopy⟩ := Memory.copyWithin_eq_error hcovers
  refine ⟨offset, ?_⟩
  simp only [copyMemory, exec_bind, exec_callerMemory_of_get? h, hcopy]
  rfl

end HostM

open HostM

variable {c c' : Compartment HostOp} {collection : Collection HostOp} {name : String}
  {function : Handle .function} {memory : Handle .memory} {target source length : Int32}
  {outcome : Except (Failure Trap) Unit}

/-! ## Functions that copy -/

/-- Whether a collection defines one of the functions that copy under a name. -/
inductive Collection.Copies : Collection HostOp → String → Prop
  | memcpy : Copies .standardEnv "memcpy"
  | memmove : Copies .standardEnv "memmove"
  | memcpyBig (layout : Layout) : Copies (.legacyEnv layout) "_emscripten_memcpy_big"

/-- Three words in, one word out. -/
def copySignature : FunctionType := { params := [.i32, .i32, .i32], results := [.i32] }

/-- Whether a function is one of those that copy. -/
def HostOp.Copies (op : HostOp) : Prop := op = .memcpy ∨ op = .memmove ∨ op = .memcpyBig

theorem Collection.Copies.get? (h : collection.Copies name) :
    ∃ op : HostOp, op.Copies ∧ collection.definitions.get? name =
      some (.function copySignature op) := by
  cases h with
  | memcpy => exact ⟨.memcpy, .inl rfl, rfl⟩
  | memmove => exact ⟨.memmove, .inr (.inl rfl), rfl⟩
  | memcpyBig layout =>
    refine ⟨.memcpyBig, .inr (.inr rfl), ?_⟩
    simp [Collection.legacyEnv, Collection.global, Collection.function, Named.get?_put,
      copySignature]

/-- Such a function copies the range its words stand for and answers with the target. -/
theorem HostOp.Copies.exec_run {op : HostOp} (h : op.Copies)
    (hcopy : exec (copyMemory (some memory) (address source) (address target) (address length)) c =
      (outcome, c')) :
    exec (op.run (some memory) [.i32 target, .i32 source, .i32 length]) c =
      (outcome.map fun _ => [.i32 target], c') := by
  rcases h with rfl | rfl | rfl <;>
    (simp only [run, copy, exec_bind, exec_log, hcopy]; cases outcome <;> rfl)

theorem Function.exec_checkTypes {signature : FunctionType} {declared : List ValueType}
    {values : List Value} (h : values.map Value.type = declared) :
    exec (checkTypes signature declared values) c = (.ok (), c) := by
  simp only [checkTypes, h, ne_eq, not_true_eq_false, ↓reduceIte, exec_pure]

/-- Whether a function is one that copies, made in a compartment. -/
def Function.CopiesIn (function : Handle .function) (c : Compartment HostOp) : Prop :=
  ∃ collection name definition, Collection.Copies collection name ∧
    collection.definitions.get? name = some definition ∧
    Realizes collection c name definition (.function function)

/-- Calling a function that copies is copying: the words pass the check of the signature,
and so does the answer. -/
theorem Function.CopiesIn.exec_call (h : CopiesIn function c)
    (hcopy : exec (copyMemory (some memory) (address source) (address target) (address length)) c =
      (outcome, c')) :
    exec (call function (some memory) [.i32 target, .i32 source, .i32 length]) c =
      (outcome.map fun _ => [.i32 target], c') := by
  obtain ⟨collection, name, definition, hcopies, hdefinition, hmade⟩ := h
  obtain ⟨op, hop, hget⟩ := hcopies.get?
  rw [hget, Option.some.injEq] at hdefinition
  subst hdefinition
  obtain ⟨handle, hhandle, hfound⟩ := hmade
  cases hhandle
  have hparams : [Value.i32 target, .i32 source, .i32 length].map Value.type =
      copySignature.params := rfl
  have hresults : [Value.i32 target].map Value.type = copySignature.results := rfl
  simp only [call, exec_bind, exec_get, hfound, exec_log, exec_checkTypes hparams,
    HostFunctions.run_hostOp, hop.exec_run hcopy]
  cases outcome with
  | error failure => rfl
  | ok done => simp only [Except.map, exec_checkTypes hresults, exec_pure]

/-! ## Answers -/

/-- The answer to a copy that a module asks for with three words. -/
def Function.copyAnswer (function : Handle .function) (memory : Handle .memory)
    (c : Compartment HostOp) (target source length : Int32) : Except (Failure Trap) (List Value) :=
  (exec (call function (some memory) [.i32 target, .i32 source, .i32 length]) c).1

/-- A copy within bounds is done, or brings the host down if it starts behind all that is
committed.  A call of a function that copies answers with the target, or with a trap if a
range does not lie in the memory, unless its copy is such a one. -/
theorem copying_crashes_iff (m : Memory) :
    (∀ source target length : UInt64, m.CoversCopy source target length →
      ((∃ m', m.copyWithin source target length = .ok (.done m')) ↔
          ¬ m.StartsBehind source target length) ∧
        ((∃ m', m.copyWithin source target length = .ok (.crash m')) ↔
          m.StartsBehind source target length)) ∧
    ∀ (c : Compartment HostOp) (function : Handle .function) (memory : Handle .memory)
      (target source length : Int32), Function.CopiesIn function c → c.get? memory = some m →
      (Function.copyAnswer function memory c target source length = .ok [.i32 target] ↔
          m.CoversCopy (address source) (address target) (address length) ∧
            ¬ m.StartsBehind (address source) (address target) (address length)) ∧
        ((∃ offset, Function.copyAnswer function memory c target source length =
            .error (.error (.memory (.outOfBounds offset (address length) m.length)))) ↔
          ¬ m.CoversCopy (address source) (address target) (address length)) ∧
        (Function.copyAnswer function memory c target source length = .error .crash ↔
          m.CoversCopy (address source) (address target) (address length) ∧
            m.StartsBehind (address source) (address target) (address length)) := by
  refine ⟨fun source target length hcovers => ?_,
    fun c function memory target source length hfunction hmemory => ?_⟩
  · by_cases hstart : m.StartsBehind source target length
    · simp [Memory.copyWithin_eq_crash hcovers hstart, hstart]
    · simp [Memory.copyWithin_eq_done hcovers hstart, hstart]
  · unfold Function.copyAnswer
    by_cases hcovers : m.CoversCopy (address source) (address target) (address length)
    · by_cases hstart : m.StartsBehind (address source) (address target) (address length)
      · rw [hfunction.exec_call (exec_copyMemory_crash hmemory hcovers hstart)]
        simp [hcovers, hstart, Except.map]
      · rw [hfunction.exec_call (exec_copyMemory_done hmemory hcovers hstart)]
        simp [hcovers, hstart, Except.map]
    · obtain ⟨offset, hcopy⟩ := exec_copyMemory_error hmemory hcovers
      rw [hfunction.exec_call hcopy]
      simp [hcovers, Except.map]

/-- A compartment with a memory of one page that was never written to and the collection of
standard modules. -/
def untouched : Compartment HostOp :=
  (Collection.standardEnv.instantiate
    ((Compartment.empty ⟨0⟩).add .memory (.zeroed ⟨1, none, false⟩)).1 "env" []).value.1

/-- There four bytes cannot be copied from the ninth byte to the first. -/
theorem copying_crashes_untouched :
    Function.copyAnswer ⟨⟨0⟩, 0⟩ ⟨⟨0⟩, 0⟩ untouched 0 8 4 = .error .crash := by
  have hfunction : Function.CopiesIn ⟨⟨0⟩, 0⟩ untouched :=
    ⟨.standardEnv, "memcpy", _, .memcpy, rfl, ⟨⟨0⟩, 0⟩, rfl, rfl⟩
  have hmemory : untouched.get? (⟨⟨0⟩, 0⟩ : Handle .memory) =
      some (.zeroed ⟨1, none, false⟩) := rfl
  have hcrash := ((copying_crashes_iff _).2 _ _ _ 0 8 4 hfunction hmemory).2.2
  exact hcrash.mpr (by decide +kernel)

end HostLink

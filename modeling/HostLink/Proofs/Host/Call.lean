/-
What a host call does to its compartment.

`HostM.exec` is a host computation without its log: an answer and the compartment left.
A host function is lawful if it lets its compartment evolve, and then so does every call
of it, which is as much as the other modules need.  The functions a linker comes with do
less: they add no objects and change at most the memory they were given.
-/
import HostLink.Host.Call
import HostLink.Proofs.Store.Evolution

namespace HostLink
namespace HostM

variable {Host : Type}

variable {α β : Type} {memory : Option (Handle .memory)}

/-! ## Running -/

/-- The answer of a host computation and the compartment it leaves. -/
def exec (x : HostM Host α) (c : Compartment Host) : Except (Failure Trap) α × Compartment Host :=
  (x.run.run c).value

@[simp] theorem exec_pure (a : α) (c : Compartment Host) :
    exec (pure a : HostM Host α) c = (.ok a, c) := rfl

theorem exec_bind (x : HostM Host α) (f : α → HostM Host β) (c : Compartment Host) :
    exec (x >>= f) c =
      match exec x c with
      | (.ok a, c) => exec (f a) c
      | (.error failure, c) => (.error failure, c) := by
  simp only [exec, ExceptT.run_bind, StateT.run_bind, Logged.value_bind]
  rcases (x.run.run c).value with ⟨_ | _, _⟩ <;> rfl

@[simp] theorem exec_get (c : Compartment Host) : exec get c = (.ok c, c) := rfl

@[simp] theorem exec_trap (t : Trap) (c : Compartment Host) :
    exec (trap t : HostM Host α) c = (.error (.error t), c) := rfl

@[simp] theorem exec_crash (c : Compartment Host) :
    exec (crash : HostM Host α) c = (.error .crash, c) := rfl

@[simp] theorem exec_log (level : Level) (message : String) (fields : List (String × String))
    (c : Compartment Host) : exec (log level message fields) c = (.ok (), c) := rfl

/-! ## Evolution -/

/-- Whether a computation leaves every compartment as it could evolve by itself. -/
structure Evolving (x : HostM Host α) : Prop where
  evolves : ∀ c : Compartment Host, c.Evolves (exec x c).2

theorem evolving_pure (a : α) : Evolving (pure a : HostM Host α) := ⟨fun c => .refl c⟩

theorem evolving_get : Evolving (get : HostM Host (Compartment Host)) := ⟨fun c => .refl c⟩

theorem evolving_trap (t : Trap) : Evolving (trap t : HostM Host α) := ⟨fun c => .refl c⟩

theorem evolving_crash : Evolving (crash : HostM Host α) := ⟨fun c => .refl c⟩

theorem evolving_log (level : Level) (message : String) (fields : List (String × String)) :
    Evolving (log level message fields : HostM Host Unit) := ⟨fun c => .refl c⟩

theorem Evolving.bind {x : HostM Host α} {f : α → HostM Host β} (hx : Evolving x)
    (hf : ∀ a, Evolving (f a)) : Evolving (x >>= f) := by
  refine ⟨fun c => ?_⟩
  rw [exec_bind]
  have hc := hx.evolves c
  rcases hrun : exec x c with ⟨_ | a, c'⟩
  · rw [hrun] at hc
    exact hc
  · rw [hrun] at hc
    exact hc.trans ((hf a).evolves c')

theorem exec_callerMemory (memory : Option (Handle .memory)) (c : Compartment Host) :
    (∃ failure, exec (callerMemory memory) c = (.error failure, c)) ∨
      ∃ handle m, exec (callerMemory memory) c = (.ok (handle, m), c) ∧
        memory = some handle ∧ c.get? handle = some m := by
  cases memory with
  | none => exact .inl ⟨_, rfl⟩
  | some handle =>
    simp only [callerMemory, exec_bind, exec_get]
    by_cases howns : c.owns handle
    · rw [if_pos howns]
      cases hget : c.get? handle with
      | none => exact .inl ⟨_, rfl⟩
      | some m => exact .inr ⟨handle, m, rfl, rfl, hget⟩
    · rw [if_neg howns]
      exact .inl ⟨_, rfl⟩

theorem evolving_callerMemory (memory : Option (Handle .memory)) :
    Evolving (callerMemory memory : HostM Host (Handle .memory × Memory)) := by
  refine ⟨fun c => ?_⟩
  rcases exec_callerMemory memory c with ⟨failure, hrun⟩ | ⟨handle, m, hrun, -, -⟩ <;>
    rw [hrun] <;> exact .refl c

/-- A change of the caller's memory by operations of that memory. -/
theorem evolving_changeMemory {change : Memory → Except MemoryError Memory}
    (hchange : ∀ {m m'}, change m = .ok m' → m.Evolves m') :
    Evolving (changeMemory memory change : HostM Host Unit) := by
  refine ⟨fun c => ?_⟩
  simp only [changeMemory, exec_bind]
  rcases exec_callerMemory memory c with ⟨failure, hrun⟩ | ⟨handle, m, hrun, -, hget⟩
  · rw [hrun]
    exact .refl c
  · rw [hrun]
    cases hm : change m with
    | error error =>
      simp only [hm]
      exact .refl c
    | ok m' =>
      simp only [hm]
      exact Compartment.evolves_set hget (hchange hm)

theorem evolving_copyMemory (source target length : UInt64) :
    Evolving (copyMemory memory source target length : HostM Host Unit) := by
  refine ⟨fun c => ?_⟩
  simp only [copyMemory, exec_bind]
  rcases exec_callerMemory memory c with ⟨failure, hrun⟩ | ⟨handle, m, hrun, -, hget⟩
  · rw [hrun]
    exact .refl c
  · rw [hrun]
    rcases hm : m.copyWithin source target length with error | (m' | m')
    · simp only [hm]
      exact .refl c
    · simp only [hm]
      exact Compartment.evolves_set hget (.single (.copy hm))
    · simp only [hm]
      exact Compartment.evolves_set hget (.single (.crash hm))

end HostM

namespace HostOp

open HostM

variable {memory : Option (Handle .memory)}

theorem evolving_copy (event : String) (target source length : Int32) :
    Evolving (copy memory event target source length) :=
  (evolving_log ..).bind fun _ => (evolving_copyMemory ..).bind fun _ => evolving_pure _

theorem evolving_storeErrno (value : Int32) : Evolving (storeErrno memory value) := by
  refine evolving_get.bind fun c => ?_
  cases c.errnoLocation with
  | none => exact (evolving_log ..).bind fun _ => evolving_pure _
  | some location =>
    refine (evolving_log ..).bind fun _ => ?_
    refine (evolving_changeMemory fun h => .single (.write h)).bind fun _ => evolving_pure _

/-- A host function changes a compartment by operations of the memory it was given. -/
theorem evolving_run (op : HostOp) (memory : Option (Handle .memory)) (arguments : List Value) :
    Evolving (op.run memory arguments) := by
  unfold run
  split
  · exact evolving_copy ..
  · exact evolving_copy ..
  · refine (evolving_log ..).bind fun _ => ?_
    exact (evolving_changeMemory fun h => .single (.fill h)).bind fun _ => evolving_pure _
  · exact (evolving_log ..).bind fun _ => evolving_trap _
  · exact (evolving_log ..).bind fun _ => evolving_trap _
  · exact (evolving_log ..).bind fun _ => evolving_trap _
  · exact (evolving_log ..).bind fun _ => evolving_pure _
  · exact (evolving_callerMemory _).bind fun _ => (evolving_log ..).bind fun _ => evolving_pure _
  · exact (evolving_log ..).bind fun _ => evolving_trap _
  · exact evolving_storeErrno _
  · exact evolving_get.bind fun _ => (evolving_log ..).bind fun _ => evolving_pure _
  · exact (evolving_log ..).bind fun _ => evolving_pure _
  · exact (evolving_log ..).bind fun _ => evolving_pure _
  · exact evolving_copy ..
  · exact evolving_pure _
  · exact evolving_pure _
  · exact (evolving_log ..).bind fun _ => evolving_pure _
  · exact evolving_pure _
  · exact evolving_pure _
  · exact (evolving_log ..).bind fun _ => evolving_pure _
  · exact evolving_trap _

end HostOp

/-- Host functions that change the compartment they are called in by the operations of its
objects.  They may add objects; what they may not do is to put others in the place of those
that are there, or another compartment in the place of their own. -/
class LawfulHostFunctions (Host : Type) extends HostFunctions Host where
  evolving_run (host : Host) (memory : Option (Handle .memory)) (arguments : List Value) :
    HostM.Evolving (run host memory arguments)

instance : LawfulHostFunctions HostOp where
  evolving_run := HostOp.evolving_run

namespace Function

open HostM

theorem evolving_checkTypes (signature : FunctionType) (declared : List ValueType)
    (values : List Value) :
    Evolving (checkTypes signature declared values : HostM Host Unit) := by
  unfold checkTypes
  dsimp only
  split
  · exact evolving_trap _
  · exact evolving_pure _

/-- A call of a lawful function, whatever its answer, lets the compartment evolve. -/
theorem evolving_call [LawfulHostFunctions Host] (handle : Handle .function)
    (memory : Option (Handle .memory)) (arguments : List Value) :
    Evolving (call handle memory arguments : HostM Host (List Value)) := by
  refine evolving_get.bind fun c => ?_
  cases c.get? handle with
  | none => exact evolving_crash
  | some f =>
    refine (evolving_log ..).bind fun _ => (evolving_checkTypes ..).bind fun _ => ?_
    exact (LawfulHostFunctions.evolving_run ..).bind fun _ => (evolving_checkTypes ..).bind fun _ =>
      evolving_pure _

end Function
end HostLink

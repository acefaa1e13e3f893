/-
What a call of a host function touches.

Whatever the answer of a call, a trap, or a crash of the host, the compartment it leaves is
the one from before or has one memory changed, which is the one the call was given.  Only the
functions that edit do the latter, each by one operation of that memory.
-/
import HostLink.Proofs.Host.Confinement
import HostLink.Proofs.Store.Soundness

namespace HostLink

open HostM

variable {c : Compartment HostOp} {memory : Option (Handle .memory)}

/-- Whether a compartment is an earlier one, but for an operation of one memory at most. -/
inductive Compartment.Touches (memory : Option (Handle .memory)) (c : Compartment HostOp) :
    Compartment HostOp → Prop
  | untouched : Touches memory c c
  | touched {handle : Handle .memory} {m m' : Memory} (hmemory : memory = some handle)
      (hget : c.get? handle = some m) (hadvances : Kind.memory.Advances HostOp m m') :
      Touches memory c (c.set handle m')

open Compartment (Touches)

theorem touches_of_callerMemory {x : Handle .memory × Memory → HostM HostOp Unit}
    (h : ∀ handle m, memory = some handle → c.get? handle = some m →
      c.Touches memory (exec (x (handle, m)) c).2) :
    c.Touches memory (exec (callerMemory memory >>= x) c).2 := by
  rw [exec_bind]
  rcases exec_callerMemory memory c with ⟨failure, hrun⟩ | ⟨handle, m, hrun, hmemory, hget⟩
  · rw [hrun]
    exact .untouched
  · rw [hrun]
    exact h handle m hmemory hget

theorem touches_changeMemory {change : Memory → Except MemoryError Memory}
    (hchange : ∀ {m m'}, change m = .ok m' → Kind.memory.Advances HostOp m m') :
    c.Touches memory (exec (changeMemory memory change) c).2 := by
  refine touches_of_callerMemory fun handle m hmemory hget => ?_
  dsimp only
  cases hm : change m with
  | error error => exact .untouched
  | ok m' => exact .touched hmemory hget (hchange hm)

theorem touches_copyMemory (source target length : UInt64) :
    c.Touches memory (exec (copyMemory memory source target length) c).2 := by
  refine touches_of_callerMemory fun handle m hmemory hget => ?_
  dsimp only
  rcases hm : m.copyWithin source target length with error | (m' | m')
  · exact .untouched
  · exact .touched hmemory hget (Memory.advances_copyWithin hm)
  · exact .touched hmemory hget (Memory.advances_copyWithin hm)

namespace HostOp

theorem touches_copy (event : String) (target source length : Int32) :
    c.Touches memory (exec (copy memory event target source length) c).2 := by
  simp only [copy, exec_bind _ (fun _ => _ >>= _), exec_log, exec_bind_pure]
  exact touches_copyMemory ..

theorem touches_storeErrno {location : UInt32} (hlocation : c.errnoLocation = some location)
    (value : Int32) : c.Touches memory (exec (storeErrno memory value) c).2 := by
  simp only [storeErrno, exec_bind get, exec_get, hlocation, exec_bind _ (fun _ => _ >>= _),
    exec_log, exec_bind_pure]
  refine touches_changeMemory (Memory.advances_write ?_)
  rw [LittleEndian.length_encode]
  decide

theorem touches_run (op : HostOp) (memory : Option (Handle .memory))
    (arguments : List Value) : c.Touches memory (exec (op.run memory arguments) c).2 := by
  cases hedit : op.edit? c.errnoLocation arguments with
  | none =>
    rw [exec_run_of_edit?_eq_none memory hedit]
    exact .untouched
  | some edit =>
    -- One case for each function that edits, the three that copy first.
    unfold edit? at hedit
    split at hedit
    · exact touches_copy ..
    · exact touches_copy ..
    · exact touches_copy ..
    · simp only [run, exec_bind _ (fun _ => _ >>= _), exec_log, exec_bind_pure]
      exact touches_changeMemory Memory.advances_fill
    · obtain ⟨location, hlocation, -⟩ := Option.map_eq_some_iff.mp hedit
      exact touches_storeErrno hlocation _
    · cases hedit

end HostOp

section Sequences

variable {α β : Type} {x : HostM HostOp α} {f : α → HostM HostOp β}

theorem touches_bind_left (hx : (exec x c).2 = c)
    (hf : ∀ a, c.Touches memory (exec (f a) c).2) : c.Touches memory (exec (x >>= f) c).2 := by
  rw [exec_bind]
  rcases hrun : exec x c with ⟨_ | a, c'⟩
  · rw [hrun] at hx
    obtain rfl : c' = c := hx
    exact .untouched
  · rw [hrun] at hx
    obtain rfl : c' = c := hx
    exact hf a

theorem touches_bind_right (hx : c.Touches memory (exec x c).2)
    (hf : ∀ a c', (exec (f a) c').2 = c') : c.Touches memory (exec (x >>= f) c).2 := by
  rw [exec_bind]
  rcases hrun : exec x c with ⟨_ | a, c'⟩
  · rw [hrun] at hx
    exact hx
  · rw [hrun] at hx
    show c.Touches memory (exec (f a) c').2
    rw [hf a c']
    exact hx

end Sequences

/-- A call touches the memory it is given at most, under any signature. -/
theorem Function.touches_call (c : Compartment HostOp) (function : Handle .function)
    (memory : Option (Handle .memory)) (arguments : List Value) :
    c.Touches memory (exec (call function memory arguments) c).2 := by
  refine touches_bind_left rfl fun found => ?_
  cases found.get? function with
  | none => exact .untouched
  | some f =>
    refine touches_bind_left rfl fun _ => ?_
    refine touches_bind_left (exec_checkTypes_snd ..) fun _ => ?_
    refine touches_bind_right (f.host.touches_run memory arguments) fun results c' => ?_
    exact exec_bind_snd (exec_checkTypes_snd ..) fun _ => rfl

end HostLink

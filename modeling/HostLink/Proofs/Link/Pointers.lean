/-
Where the pointers of the C runtime point.

Set-up writes the variables of the C runtime at 64-bit addresses, and the collection a
legacy module imports from computes their addresses with 32-bit words.  The two agree as
long as the sums do not wrap, which validation does not ask for: a memory of more than
4 GiB may hold the block right below the 4 GiB line, and then pointers to the last of
the variables point at the beginning of the memory.
-/
import HostLink.Proofs.Link.SetUp

namespace HostLink
namespace Environment

variable {c : Compartment HostOp} {layout : Layout} {name : String} {word : UInt32}
  {env operators mathematics : Handle .instance_} {memory : Handle .memory}
  {table : Handle .table} {extra : Named Entity}

/-! ## Constants of the C runtime -/

/-- The value of a global that modules import from their environment. -/
def global? (environment : Environment) (c : Compartment HostOp) (name : String) : Option Value :=
  ((Origin.forImport? environment.toolchain "env").bind environment.instance?).bind fun handle =>
    (c.get? handle).bind fun found : Instance =>
      (found.exports.get? name).bind fun
        | .global handle => (c.get? handle).map fun g : Global => g.value
        | _ => none

/-- The word such a global holds, read without a sign. -/
def word? (environment : Environment) (c : Compartment HostOp) (name : String) : Option UInt32 :=
  ((environment.global? c name).bind Value.i32?).map Int32.toUInt32

/-- The memory of a legacy module. -/
def memoryObject? (environment : Environment) (c : Compartment HostOp) : Option Memory :=
  environment.memory?.bind fun handle => c.get? handle

/-- The number in the memory at the address such a global holds. -/
def pointee? (environment : Environment) (c : Compartment HostOp) (name : String)
    (length : UInt64) :
    Option Nat :=
  (environment.word? c name).bind fun pointer =>
    (environment.memoryObject? c).bind fun m => m.number? pointer.toUInt64 length

/-- The constants that depend on the layout, with their words. -/
def runtimeWords (layout : Layout) : Named UInt32 :=
  [("STACKTOP", layout.stackTop),
   ("STACK_MAX", layout.stackMax),
   ("DYNAMICTOP_PTR", layout.globalsField GlobalsBlock.dynamicTopOffset),
   ("tempDoublePtr", layout.globalsField GlobalsBlock.tempDoubleOffset),
   ("_stderr", layout.globalsField GlobalsBlock.stderrOffset),
   ("_stdin", layout.globalsField GlobalsBlock.stdinOffset),
   ("_stdout", layout.globalsField GlobalsBlock.stdoutOffset)]

theorem get?_legacyEnv (h : (name, word) ∈ runtimeWords layout) :
    (Collection.legacyEnv layout).definitions.get? name =
      some (.global (.i32 word.toInt32) .constant) := by
  simp only [runtimeWords, List.mem_cons, Prod.mk.injEq, List.not_mem_nil, or_false] at h
  rcases h with ⟨rfl, rfl⟩ | ⟨rfl, rfl⟩ | ⟨rfl, rfl⟩ | ⟨rfl, rfl⟩ | ⟨rfl, rfl⟩ | ⟨rfl, rfl⟩ |
    ⟨rfl, rfl⟩ <;>
    simp [Collection.legacyEnv, Collection.global, Collection.function, Named.get?_put]

/-- An environment that serves the C runtime holds the words of its layout. -/
theorem word?_legacy (hserves : (Collection.legacyEnv layout).Serves extra env c)
    (hextra : name ∉ extra.names) (h : (name, word) ∈ runtimeWords layout) :
    (legacy env operators mathematics memory table).word? c name = some word := by
  obtain ⟨found, hfound, entity, hentity, made, rfl, hmade⟩ :=
    hserves.realizes (get?_legacyEnv h) hextra
  have hglobal : (legacy env operators mathematics memory table).global? c name =
      some (.i32 word.toInt32) := by
    simp [global?, toolchain, Origin.forImport?, instance?, hfound, hentity, hmade,
      Global.ofValue]
  simp [word?, hglobal, Value.i32?]

/-! ## Agreement -/

/-- Whether a module finds its heap and its stack where the C runtime says they are: the
stack in the memory, and the heap pointer and the scratch variable behind their pointers. -/
def RuntimeAgrees (environment : Environment) (c : Compartment HostOp) : Prop :=
  ∃ stackTop stackMax m, environment.word? c "STACKTOP" = some stackTop ∧
    environment.word? c "STACK_MAX" = some stackMax ∧
    environment.memoryObject? c = some m ∧
    stackTop ≤ stackMax ∧ stackMax.toNat ≤ m.length ∧
    environment.pointee? c "DYNAMICTOP_PTR" 4 = some stackMax.toNat ∧
    environment.pointee? c "tempDoublePtr" 8 = some Ieee.Binary64.zero.bits.toNat

/-- Whether the pointer to a stream points at its number. -/
def StreamAgrees (environment : Environment) (c : Compartment HostOp) (stream : Stream) : Prop :=
  environment.pointee? c stream.symbol 4 = some stream.number.toUInt32.toNat

/-- A pointer of the C runtime is followed into the memory of the environment. -/
theorem pointee?_legacy {length : UInt64} {m : Memory}
    (hserves : (Collection.legacyEnv layout).Serves extra env c) (hextra : name ∉ extra.names)
    (h : (name, word) ∈ runtimeWords layout) (hmemory : c.get? memory = some m) :
    (legacy env operators mathematics memory table).pointee? c name length =
      m.number? word.toUInt64 length := by
  have hm : (legacy env operators mathematics memory table).memoryObject? c = some m := hmemory
  simp only [pointee?, word?_legacy hserves hextra h, hm, Option.bind_some]

end Environment

namespace Resolver

open Environment GlobalsBlock

variable {r : Resolver HostOp} {c c' : Compartment HostOp} {m m' : ModuleInfo} {config : Config}
  {environment : Environment}

/-! ## Set-up of a legacy module -/

theorem mem_runtimeWords_stream (layout : Layout) (stream : Stream) :
    (stream.symbol, layout.globalsField stream.offset) ∈ runtimeWords layout := by
  cases stream <;> simp [runtimeWords, Stream.symbol, Stream.offset]

/-- The environment of a legacy module, seen through its pointers. -/
theorem Prepared.pointers (hvalid : config.Valid)
    (h : Prepared config (.default config.legacy.layout) m c .legacy environment c') :
    environment.RuntimeAgrees c' ∧
      ∀ stream, environment.StreamAgrees c' stream ↔
        config.legacy.globalsAddress.toNat + stream.offset.toNat < UInt32.size := by
  cases h with
  | @legacy firstMemory _ _ _ patched c₁ env operators mathematics memory table _ _ hmade
    hpatched =>
    have henv : (Collection.legacyEnv config.legacy.layout).Serves
        [("memory", .memory memory), ("table", .table table)] env c₁ := hmade.serves_env
    have hserves := henv.set_memory hmade.memoryFound (evolves_writeTo hpatched)
    have hmemory := Compartment.get?_set_self hmade.memoryFound patched
    have hlength : (Memory.zeroed (config.legacy.memoryType firstMemory)).length =
        config.legacy.initialBytes := rfl
    have hfits : config.legacy.layout.globalsAddress.toNat + size ≤
        (Memory.zeroed (config.legacy.memoryType firstMemory)).length :=
      hlength ▸ hvalid.globalsInside
    have hpointee : ∀ {name : String} {offset : UInt32} {length : UInt64},
        name ∉ ["memory", "table"] →
        (name, config.legacy.layout.globalsField offset) ∈ runtimeWords config.legacy.layout →
        offset.toNat + length.toNat ≤ size →
        (Environment.legacy env operators mathematics memory table).pointee?
            (c₁.set memory patched) name length =
          some (if config.legacy.globalsAddress.toNat + offset.toNat < UInt32.size then
            LittleEndian.decode (((initial config.legacy.layout).encode.drop offset.toNat).take
              length.toNat) else 0) := fun hname hword hoffset =>
      (pointee?_legacy hserves hname hword hmemory).trans
        (number?_globalsField hpatched hfits hoffset)
    refine ⟨⟨config.legacy.stackTop, config.legacy.stackMax, patched, ?_, ?_, hmemory,
      hvalid.stack, ?_, ?_, ?_⟩, fun stream => ?_⟩
    · exact word?_legacy hserves (by simp [Named.names]) (.head _)
    · exact word?_legacy hserves (by simp [Named.names]) (.tail _ (.head _))
    · rw [Memory.eq_store_of_write hpatched, Memory.length_store, hlength]
      exact hvalid.stackInside
    · have hbase : config.legacy.globalsAddress.toNat + dynamicTopOffset.toNat < UInt32.size :=
        config.legacy.globalsAddress.toNat_lt
      rw [hpointee (by decide) (.tail _ (.tail _ (.head _))) (by decide), if_pos hbase]
      exact congrArg some (decode_dynamicTop _)
    · -- The scratch variable is zero, like the memory before the block.
      rw [hpointee (by decide) (.tail _ (.tail _ (.tail _ (.head _)))) (by decide)]
      have hzero : LittleEndian.decode (((initial config.legacy.layout).encode.drop
          tempDoubleOffset.toNat).take (8 : UInt64).toNat) = 0 := decode_tempDouble _
      rw [hzero, ite_self]
      rfl
    · have hname : stream.symbol ∉ ["memory", "table"] := by
        cases stream <;> decide
      have hoffset : stream.offset.toNat + (4 : UInt64).toNat ≤ size := by
        cases stream <;> decide
      have hnumber : stream.number.toUInt32.toNat ≠ 0 := by
        cases stream <;> decide
      rw [StreamAgrees, hpointee hname (mem_runtimeWords_stream _ stream) hoffset]
      have hdecode : LittleEndian.decode (((initial config.legacy.layout).encode.drop
          stream.offset.toNat).take (4 : UInt64).toNat) = stream.number.toUInt32.toNat :=
        (decode_stream _ stream).trans (by rw [stream_initial])
      rw [hdecode]
      split
      · rename_i hsum
        exact iff_of_true rfl hsum
      · rename_i hwraps
        exact iff_of_false (fun h => hnumber (Option.some.inj h).symm) hwraps

/-- After the set-up of a legacy module with the default collections, the heap pointer,
the scratch variable and the stack are where the C runtime says they are.  The pointer to
a stream points at its number exactly if its address does not wrap, so all of them do
exactly if the address of the last one does not. -/
theorem setUp_pointers (hprovider : r.provider = .default r.config.legacy.layout)
    (hlegacy : Toolchain.detect m = .legacy) (hsetUp : (r.setUp c m).value.1 = .ok m') :
    ∃ environment, (r.setUp c m).value.2.1.environment = some environment ∧
      environment.RuntimeAgrees (r.setUp c m).value.2.2 ∧
      (∀ stream, environment.StreamAgrees (r.setUp c m).value.2.2 stream ↔
        r.config.legacy.globalsAddress.toNat + stream.offset.toNat < UInt32.size) ∧
      ((∀ stream, environment.StreamAgrees (r.setUp c m).value.2.2 stream) ↔
        r.config.legacy.globalsAddress.toNat + stdoutOffset.toNat < UInt32.size) := by
  have houtcome := setUp_outcome r c m
  rw [hsetUp] at houtcome
  generalize (r.setUp c m).value.2.1 = r' at houtcome ⊢
  generalize (r.setUp c m).value.2.2 = c' at houtcome ⊢
  cases houtcome with
  | @ready _ environment _ hphase hvalid hconfigure hprepared =>
    rw [hlegacy, hprovider] at hprepared
    obtain ⟨hruntime, hstream⟩ := hprepared.pointers hvalid
    refine ⟨environment, rfl, hruntime, hstream, fun h => (hstream .stdout).mp (h .stdout),
      fun h stream => (hstream stream).mpr ?_⟩
    have hlast : stream.offset.toNat ≤ stdoutOffset.toNat := by
      cases stream <;> decide
    omega

/-- A valid configuration whose block of variables crosses the 4 GiB line. -/
def crossing : Config :=
  { legacy := { initialPages := 65537, maximumPages := 65537, globalsAddress := 4294967280 } }

def legacySample : ModuleInfo :=
  { imports :=
      [{ module := "env", name := "memory"
         type := .memory { minimum := 1, maximum := some 1, shared := false } },
       { module := "env", name := "table"
         type := .table { element := .funcRef, minimum := 1, maximum := some 1 } }] }

/-- There the pointer to the standard error stream does not point at its number. -/
theorem setUp_pointers_crossing : ∃ environment,
    ((withConfig crossing).setUp (.empty ⟨0⟩) legacySample).value.2.1.environment =
        some environment ∧
      ¬ environment.StreamAgrees
        ((withConfig crossing).setUp (.empty ⟨0⟩) legacySample).value.2.2 .stderr := by
  have hsetUp : ((withConfig crossing).setUp (.empty ⟨0⟩) legacySample).value.1 =
      .ok ((legacySample.configure .legacy crossing).toOption.get (by decide +kernel)) := by
    decide +kernel
  obtain ⟨environment, henvironment, -, hstream, -⟩ := setUp_pointers rfl rfl hsetUp
  refine ⟨environment, henvironment, fun h => ?_⟩
  have hsum := (hstream .stderr).mp h
  exact absurd hsum (by decide)

end Resolver
end HostLink

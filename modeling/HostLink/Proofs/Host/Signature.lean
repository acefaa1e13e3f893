/-
The signatures of the default functions.

Each host function reads its arguments in one way only and has one form of result, so it
has a signature of its own, `HostOp.signature`.  The default collections declare every
function with that signature.  A call that passes the check of its arguments is then one
that the function can read.
-/
import HostLink.Host.Defaults
import HostLink.Proofs.Named

namespace HostLink

/-- The signature a host function is written for. -/
def HostOp.signature : HostOp → FunctionType
  | memcpy | memmove | memset | memcpyBig =>
    { params := [.i32, .i32, .i32], results := [.i32] }
  | abort | debugger => { params := [], results := [] }
  | abortCode | abortStackOverflow | lock | unlock => { params := [.i32], results := [] }
  | enlargeMemory | totalMemory | abortOnCannotGrow | errnoLocation =>
    { params := [], results := [.i32] }
  | setErrno => { params := [.i32], results := [.i32] }
  | unary _ => { params := [.f64], results := [.f64] }
  | pow | floatRem => { params := [.f64, .f64], results := [.f64] }
  | floatToInt => { params := [.f64], results := [.i32] }
  | integer _ => { params := [.i32, .i32], results := [.i32] }

/-- Whether a definition declares a function with its own signature. -/
def Definition.Suits : Definition HostOp → Prop
  | .function type host => type = host.signature
  | .global .. => True

def Provider.collections {Host : Type} (provider : Provider Host) : List (Collection Host) :=
  [provider.standardEnv, provider.legacyEnv, provider.operators, provider.mathematics]

namespace Collection

variable {collection : Collection HostOp} {name : String} {params results : List ValueType}
  {host : HostOp} {value : Value} {mutability : Mutability}

/-- Whether all functions of a collection are declared with their own signatures. -/
def Suits (collection : Collection HostOp) : Prop := ∀ entry ∈ collection.definitions, entry.2.Suits

theorem suits_empty (name : String) : Suits { name := name } :=
  fun _ hentry => absurd hentry List.not_mem_nil

theorem Suits.function (h : collection.Suits)
    (hsignature : host.signature = { params := params, results := results }) :
    (collection.function name params results host).Suits :=
  Named.of_mem_put h hsignature.symm

theorem Suits.global (h : collection.Suits) : (collection.global name value mutability).Suits :=
  Named.of_mem_put h trivial

theorem suits_standardEnv : standardEnv.Suits := by
  unfold standardEnv
  iterate 4 refine Suits.function ?_ rfl
  exact suits_empty "env"

theorem suits_legacyEnv (layout : Layout) : (legacyEnv layout).Suits := by
  unfold legacyEnv
  iterate 12 refine Suits.function ?_ rfl
  iterate 11 refine Suits.global ?_
  exact suits_empty "env"

theorem suits_operators : operators.Suits := by
  unfold operators
  iterate 7 refine Suits.function ?_ rfl
  exact suits_empty "asm2wasm"

theorem suits_mathematics : mathematics.Suits := by
  unfold mathematics
  iterate 7 refine Suits.function ?_ rfl
  iterate 2 refine Suits.global ?_
  exact suits_empty "global"

theorem suits_default {layout : Layout}
    (h : collection ∈ (Provider.default layout).collections) : collection.Suits := by
  simp only [Provider.collections, Provider.default, List.mem_cons, List.not_mem_nil,
    or_false] at h
  rcases h with rfl | rfl | rfl | rfl
  · exact suits_standardEnv
  · exact suits_legacyEnv layout
  · exact suits_operators
  · exact suits_mathematics

end Collection

namespace Function

variable {f : Function HostOp}

/-- Whether a function is what a default collection makes of one of its definitions. -/
def Default (f : Function HostOp) : Prop :=
  ∃ layout, ∃ collection ∈ (Provider.default layout).collections, ∃ name,
    collection.definitions.get? name = some (.function f.type f.host) ∧
      f.name = collection.name ++ "." ++ name

theorem Default.type_eq (h : f.Default) : f.type = f.host.signature := by
  obtain ⟨layout, collection, hcollection, name, hget, -⟩ := h
  exact Collection.suits_default hcollection _ (Named.mem_of_get? hget)

end Function
end HostLink

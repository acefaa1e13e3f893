/-
Linking types and what they mean in the format.

`Means` says which linking type stands for a type of the format, by what the two consist of, and
`fault?` why none does.  Converting a type gives a linking type that stands for it, or reports
its fault (`converts_entity` and those before it), so nothing else has to look into the
conversions.

Types of one meaning agree but for what linking types do not tell: whether a reference may be
null, what is shared except for memories, and how wide the indices of a table are.
-/
import HostLink.Wasm.Declaration
import Mathlib.Data.List.Forall2

namespace HostLink
namespace Wasm

/-- The type of something that can be linked, with the signature of a function written out. -/
inductive EntityType where
  | func (type : FuncType)
  | table (type : TableType)
  | memory (type : MemoryType)
  | global (type : GlobalType)
  deriving DecidableEq, Repr

/-! ## Meaning -/

inductive ValType.Means : ValType → ValueType → Prop where
  | i32 : Means .i32 .i32
  | i64 : Means .i64 .i64
  | f32 : Means .f32 .f32
  | f64 : Means .f64 .f64
  | v128 : Means .v128 .v128
  | func {nullable shared : Bool} : Means (.ref ⟨nullable, .abstract shared .func⟩) .funcRef
  | external {nullable shared : Bool} :
    Means (.ref ⟨nullable, .abstract shared .external⟩) .externRef

structure FuncType.Means (type : FuncType) (linked : FunctionType) : Prop where
  params : List.Forall₂ ValType.Means type.params linked.params
  results : List.Forall₂ ValType.Means type.results linked.results

structure TableType.Means (type : TableType) (linked : HostLink.TableType) : Prop where
  element : (ValType.ref type.element).Means linked.element
  minimum : type.minimum = linked.minimum.toNat
  maximum : type.maximum = linked.maximum.map UInt32.toNat

structure MemoryType.Means (type : MemoryType) (linked : HostLink.MemoryType) : Prop where
  index64 : type.index64 = false
  pageSize : type.pageSizeLog2 = none
  minimum : type.minimum = linked.minimum.count.toNat
  maximum : type.maximum = linked.maximum.map fun pages => pages.count.toNat
  shared : type.shared = linked.shared

structure GlobalType.Means (type : GlobalType) (linked : HostLink.GlobalType) : Prop where
  content : type.content.Means linked.content
  mutability : type.mutable = true ↔ linked.mutability = .mutable

inductive EntityType.Means : EntityType → ExternType → Prop where
  | func {type : FuncType} {linked : FunctionType} (h : type.Means linked) :
    Means (.func type) (.function linked)
  | table {type : TableType} {linked : HostLink.TableType} (h : type.Means linked) :
    Means (.table type) (.table linked)
  | memory {type : MemoryType} {linked : HostLink.MemoryType} (h : type.Means linked) :
    Means (.memory type) (.memory linked)
  | global {type : GlobalType} {linked : HostLink.GlobalType} (h : type.Means linked) :
    Means (.global type) (.global linked)

/-! ## Faults -/

/-- Why something that was read is refused. -/
inductive Fault where
  | undecodable (reason : String)
  | unknownIndex (space : IndexSpace) (index : Nat)
  | unsupported (feature : Feature)
  deriving DecidableEq

def Fault.error : Fault → CompileError
  | undecodable reason => .malformed reason
  | unknownIndex space index => .unknownIndex space index
  | unsupported feature => .unsupported feature

/-- Only function and external references can be linked. -/
def ValType.fault? : ValType → Option Fault
  | ref ⟨_, .abstract _ .func⟩ | ref ⟨_, .abstract _ .external⟩ => none
  | ref type => some (.unsupported (.referenceType type))
  | _ => none

def limitFault? (tooLarge : Nat → Feature) (value : Nat) : Option Fault :=
  if UInt32.size ≤ value then some (.unsupported (tooLarge value)) else none

/-- The minimum is blamed before the maximum. -/
def limitsFault? (tooLarge : Nat → Feature) (minimum : Nat) (maximum : Option Nat) :
    Option Fault :=
  limitFault? tooLarge minimum <|> maximum.bind (limitFault? tooLarge)

def FuncType.fault? (type : FuncType) : Option Fault :=
  type.params.findSome? ValType.fault? <|> type.results.findSome? ValType.fault?

def TableType.fault? (type : TableType) : Option Fault :=
  (ValType.ref type.element).fault? <|> limitsFault? .tableLimit type.minimum type.maximum

def MemoryType.fault? (type : MemoryType) : Option Fault :=
  if type.index64 then some (.unsupported .memory64)
  else if type.pageSizeLog2.isSome then some (.unsupported .customPageSize)
  else limitsFault? .memoryLimit type.minimum type.maximum

def GlobalType.fault? (type : GlobalType) : Option Fault := type.content.fault?

/-! ## Conversions -/

/-- What a step gives that may be at fault: the fault, or something with a property if there is
none. -/
inductive Converts {α : Type} (fault : Option Fault) (good : α → Prop) :
    Except CompileError α → Prop where
  | ok {a : α} (hfault : fault = none) (ha : good a) : Converts fault good (.ok a)
  | error {found : Fault} {error : CompileError} (hfault : fault = some found)
    (herror : error = found.error) : Converts fault good (.error error)

namespace Converts

variable {α β : Type} {fault fault' : Option Fault} {good good' : α → Prop}
  {better : β → Prop} {x : Except CompileError α} {f : α → Except CompileError β}

theorem bind (hx : Converts fault good x) (hf : ∀ a, good a → Converts fault' better (f a)) :
    Converts (fault <|> fault') better (x >>= f) := by
  cases hx with
  | error hfault herror => exact .error (by rw [hfault]; rfl) herror
  | ok hfault ha =>
    rw [hfault]
    exact hf _ ha

theorem map {g : α → β} (hx : Converts fault good x) (hg : ∀ a, good a → better (g a)) :
    Converts fault better (g <$> x) := by
  cases hx with
  | error hfault herror => exact .error hfault herror
  | ok hfault ha => exact .ok hfault (hg _ ha)

theorem mono (hx : Converts fault good x) (h : ∀ a, good a → good' a) : Converts fault good' x := by
  cases hx with
  | error hfault herror => exact .error hfault herror
  | ok hfault ha => exact .ok hfault (h _ ha)

theorem eq_error (hx : Converts fault good x) {found : Fault} (h : fault = some found) :
    x = .error found.error := by
  cases hx with
  | error hfault herror => rw [herror, Option.some.inj (hfault.symm.trans h)]
  | ok hfault _ => cases hfault.symm.trans h

theorem exists_ok (hx : Converts fault good x) (h : fault = none) : ∃ a, x = .ok a ∧ good a := by
  cases hx with
  | error hfault _ => cases hfault.symm.trans h
  | ok _ ha => exact ⟨_, rfl, ha⟩

theorem of_ok {a : α} (hx : Converts fault good (.ok a)) : fault = none ∧ good a := by
  cases hx with
  | ok hfault ha => exact ⟨hfault, ha⟩

end Converts

theorem converts_value (type : ValType) : Converts type.fault? type.Means type.toValueType := by
  cases type with
  | i32 => exact .ok rfl .i32
  | i64 => exact .ok rfl .i64
  | f32 => exact .ok rfl .f32
  | f64 => exact .ok rfl .f64
  | v128 => exact .ok rfl .v128
  | ref reference =>
    obtain ⟨nullable, heap⟩ := reference
    cases heap with
    | concrete index => exact .error rfl rfl
    | «abstract» shared heap =>
      cases heap with
      | func => exact .ok rfl .func
      | external => exact .ok rfl .external
      | _ => exact .error rfl rfl

theorem converts_values (types : List ValType) :
    Converts (types.findSome? ValType.fault?) (List.Forall₂ ValType.Means types)
      (types.mapM ValType.toValueType) := by
  induction types with
  | nil => exact .ok rfl .nil
  | cons first rest ih =>
    have hfault : (first :: rest).findSome? ValType.fault? =
        (first.fault? <|> rest.findSome? ValType.fault?) := by
      rw [List.findSome?_cons]
      cases first.fault? <;> rfl
    rw [hfault, List.mapM_cons]
    exact (converts_value first).bind fun value hvalue =>
      ih.map fun values hvalues => .cons hvalue hvalues

theorem converts_word (tooLarge : Nat → Feature) (value : Nat) :
    Converts (limitFault? tooLarge value) (fun w => value = w.toNat) (word tooLarge value) := by
  by_cases h : value < UInt32.size
  · rw [word, limitFault?, if_pos h, if_neg (Nat.not_le.mpr h)]
    exact .ok rfl (UInt32.toNat_ofNat_of_lt' h).symm
  · rw [word, limitFault?, if_neg h, if_pos (Nat.le_of_not_lt h)]
    exact .error rfl rfl

theorem converts_optionalWord (tooLarge : Nat → Feature) (value : Option Nat) :
    Converts (value.bind (limitFault? tooLarge)) (fun w => value = w.map UInt32.toNat)
      (optionalWord tooLarge value) := by
  cases value with
  | none => exact .ok rfl rfl
  | some value =>
    exact (converts_word tooLarge value).map fun w hw => congrArg some hw

theorem converts_signature (type : FuncType) :
    Converts type.fault? type.Means type.toFunctionType :=
  (converts_values type.params).bind fun _ hparams =>
    (converts_values type.results).map fun _ hresults => ⟨hparams, hresults⟩

theorem converts_table (type : TableType) : Converts type.fault? type.Means type.toLinkType :=
  (converts_value (.ref type.element)).bind fun _ helement =>
    (converts_word .tableLimit type.minimum).bind fun _ hminimum =>
      (converts_optionalWord .tableLimit type.maximum).map fun _ hmaximum =>
        ⟨helement, hminimum, hmaximum⟩

theorem converts_memory (type : MemoryType) : Converts type.fault? type.Means type.toLinkType := by
  obtain ⟨index64, shared, minimum, maximum, pageSize⟩ := type
  -- 64-bit indices and other page sizes are refused before the limits are looked at.
  cases index64 with
  | true => exact .error rfl rfl
  | false =>
    cases pageSize with
    | some size => exact .error rfl rfl
    | none =>
      refine (converts_word .memoryLimit minimum).bind fun least hleast =>
        (converts_optionalWord .memoryLimit maximum).map fun most hmost => ?_
      refine ⟨rfl, rfl, hleast, ?_, rfl⟩
      rw [Option.map_map]
      exact hmost

theorem converts_global (type : GlobalType) : Converts type.fault? type.Means type.toLinkType :=
  (converts_value type.content).map fun _ hcontent =>
    ⟨hcontent, by cases type.mutable <;> simp⟩

/-! ## One meaning -/

theorem ValType.Means.unique {type : ValType} {linked linked' : ValueType}
    (h : type.Means linked) (h' : type.Means linked') : linked = linked' := by
  cases h <;> cases h' <;> rfl

theorem FuncType.Means.unique {type : FuncType} {linked linked' : FunctionType}
    (h : type.Means linked) (h' : type.Means linked') : linked = linked' := by
  have hvalues : Relator.RightUnique (List.Forall₂ ValType.Means) :=
    Relator.RightUnique.forall₂ fun _ _ _ => ValType.Means.unique
  obtain ⟨params, results⟩ := linked
  obtain ⟨params', results'⟩ := linked'
  obtain rfl : params = params' := hvalues h.params h'.params
  obtain rfl : results = results' := hvalues h.results h'.results
  rfl

theorem TableType.Means.unique {type : TableType} {linked linked' : HostLink.TableType}
    (h : type.Means linked) (h' : type.Means linked') : linked = linked' := by
  obtain ⟨element, minimum, maximum⟩ := linked
  obtain ⟨element', minimum', maximum'⟩ := linked'
  obtain rfl : element = element' := h.element.unique h'.element
  obtain rfl : minimum = minimum' := UInt32.toNat_inj.mp (h.minimum.symm.trans h'.minimum)
  obtain rfl : maximum = maximum' :=
    Option.map_injective (fun _ _ => UInt32.toNat_inj.mp) (h.maximum.symm.trans h'.maximum)
  rfl

theorem MemoryType.Means.unique {type : MemoryType} {linked linked' : HostLink.MemoryType}
    (h : type.Means linked) (h' : type.Means linked') : linked = linked' := by
  obtain ⟨⟨minimum⟩, maximum, shared⟩ := linked
  obtain ⟨⟨minimum'⟩, maximum', shared'⟩ := linked'
  obtain rfl : minimum = minimum' := UInt32.toNat_inj.mp (h.minimum.symm.trans h'.minimum)
  obtain rfl : maximum = maximum' := by
    refine Option.map_injective (fun x y hxy => ?_) (h.maximum.symm.trans h'.maximum)
    exact congrArg Pages.mk (UInt32.toNat_inj.mp hxy)
  obtain rfl : shared = shared' := h.shared.symm.trans h'.shared
  rfl

theorem GlobalType.Means.unique {type : GlobalType} {linked linked' : HostLink.GlobalType}
    (h : type.Means linked) (h' : type.Means linked') : linked = linked' := by
  obtain ⟨content, mutability⟩ := linked
  obtain ⟨content', mutability'⟩ := linked'
  obtain rfl : content = content' := h.content.unique h'.content
  have hsame : mutability = .mutable ↔ mutability' = .mutable :=
    h.mutability.symm.trans h'.mutability
  cases mutability <;> cases mutability' <;> simp at hsame ⊢

theorem EntityType.Means.unique {type : EntityType} {linked linked' : ExternType}
    (h : type.Means linked) (h' : type.Means linked') : linked = linked' := by
  cases h with
  | func h => cases h' with | func h' => rw [h.unique h']
  | table h => cases h' with | table h' => rw [h.unique h']
  | memory h => cases h' with | memory h' => rw [h.unique h']
  | global h => cases h' with | global h' => rw [h.unique h']

end Wasm
end HostLink

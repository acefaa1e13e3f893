/-
Calls that keep to their signature.

A call first compares the types of its arguments with the declared parameters.  If they
differ, it ends there: the function does not run, so nothing but the line that announces the
call is logged.  If they agree, a default function can read them, since it is declared with
its own signature, and whatever it makes of them it answers with results of the declared types
or traps for a reason of its own.  So neither of the two traps that complain of a signature
comes from inside a default function.

Both traps are texts of the host for a mistake of the host, and `Trap.Mismatch` has both: the
one by which a call refuses arguments or results, and the one by which a function refuses
arguments it was not written for.
-/
import HostLink.Proofs.Host.Confinement

namespace HostLink

open HostM

variable {c c₀ c₁ : Compartment HostOp} {memory : Option (Handle .memory)}

/-! ## Complaints -/

/-- Whether a trap says that a function was called, or has answered, against a signature. -/
inductive Trap.Mismatch : Trap → Prop
  | signature (expected : FunctionType) (given : List ValueType) :
    Mismatch (.badSignature expected given)
  | arguments (name : String) (arguments : List Value) :
    Mismatch (HostOp.unexpectedArguments name arguments)

theorem getLast?_toList_append (s t : String) :
    (s ++ t).toList.getLast? = t.toList.getLast?.or s.toList.getLast? := by
  rw [String.toList_append, List.getLast?_append]

/-- A complaint of a function ends with the bracket that closes its arguments. -/
theorem Trap.not_mismatch_abort {reason : String} (h : reason.toList.getLast? ≠ some ']') :
    ¬ Mismatch (.abort reason) := by
  rintro ⟨name, arguments⟩
  refine h ?_
  rw [Value.describeAll, bracketed, getLast?_toList_append, getLast?_toList_append]
  rfl

/-! ## Answers of host functions -/

/-- Whether an answer keeps to some result types: it has them, or is a trap for another
reason, or the host goes down and there is no answer. -/
def Conforms (results : List ValueType) : Except (Failure Trap) (List Value) → Prop
  | .ok values => values.map Value.type = results
  | .error (.error trap) => ¬ trap.Mismatch
  | .error .crash => True

theorem conforms_abort {results : List ValueType} {reason : String}
    (h : reason.toList.getLast? ≠ some ']') : Conforms results (.error (.error (.abort reason))) :=
  Trap.not_mismatch_abort h

/-- An edit that is refused is refused for want of memory. -/
theorem Edit.Ends.conforms {edit : Edit} {outcome : Except (Failure Trap) Unit}
    {c' : Compartment HostOp} (h : edit.Ends memory c outcome c') {results : List ValueType}
    {values : List Value} (hvalues : values.map Value.type = results) :
    Conforms results (outcome.map fun _ => values) := by
  cases h with
  | refused _ => exact nofun
  | outside _ _ _ => exact nofun
  | done _ _ _ => exact hvalues
  | crashed => exact trivial

namespace HostOp

variable {op : HostOp} {arguments : List Value}

theorem eq_f64_of_type {value : Value} (h : value.type = .f64) : ∃ x, value = .f64 x := by
  cases value with
  | f64 x => exact ⟨x, rfl⟩
  | i32 x | i64 x | f32 x | v128 x => cases h

theorem conforms_of_edit (hedits : op.Edits c.errnoLocation)
    (htypes : arguments.map Value.type = op.signature.params) :
    Conforms op.signature.results (exec (op.run memory arguments) c).1 := by
  obtain ⟨edit, hedit⟩ := exists_edit hedits htypes
  obtain ⟨outcome, c', hends, hrun⟩ := exec_run_edit memory hedit
  rw [hrun]
  exact hends.conforms (types_of_edit? hedit).2

theorem exists_of_types_one {type : ValueType} (h : arguments.map Value.type = [type]) :
    ∃ x, arguments = [x] ∧ x.type = type := by
  simp only [List.map_eq_cons_iff, List.map_eq_nil_iff] at h
  obtain ⟨x, _, rfl, hx, rfl⟩ := h
  exact ⟨x, rfl, hx⟩

theorem exists_of_types_two {first second : ValueType}
    (h : arguments.map Value.type = [first, second]) :
    ∃ x y, arguments = [x, y] ∧ x.type = first ∧ y.type = second := by
  simp only [List.map_eq_cons_iff, List.map_eq_nil_iff] at h
  obtain ⟨x, _, rfl, hx, y, _, rfl, hy, rfl⟩ := h
  exact ⟨x, y, rfl, hx, hy⟩

/-- A host function that gets arguments of its signature keeps to it. -/
theorem conforms_run (op : HostOp) (memory : Option (Handle .memory)) (c : Compartment HostOp)
    (htypes : arguments.map Value.type = op.signature.params) :
    Conforms op.signature.results (exec (op.run memory arguments) c).1 := by
  cases op with
  | memcpy | memmove | memset | memcpyBig => exact conforms_of_edit trivial htypes
  | setErrno =>
    cases hlocation : c.errnoLocation with
    | some location => exact conforms_of_edit (by simp [Edits, hlocation]) htypes
    | none =>
      obtain ⟨x, rfl, hx⟩ := exists_of_types_one htypes
      obtain ⟨x, rfl⟩ := eq_i32_of_type hx
      simp only [run, storeErrno, exec_bind, exec_get, hlocation, exec_log, exec_pure]
      rfl
  | totalMemory =>
    rcases exec_callerMemory_cases memory c with ⟨-, hrun⟩ | hrun | ⟨handle, m, rfl, hget⟩
    · simp only [run, exec_bind, hrun]
      rintro ⟨⟩
    · simp only [run, exec_bind, hrun]
      exact trivial
    · simp only [run, exec_bind, exec_callerMemory_of_get? hget, exec_log, exec_pure]
      rfl
  | abort | abortOnCannotGrow => exact conforms_abort (by decide +kernel)
  | abortCode | abortStackOverflow =>
    obtain ⟨x, rfl, hx⟩ := exists_of_types_one htypes
    obtain ⟨x, rfl⟩ := eq_i32_of_type hx
    refine conforms_abort ?_
    rw [getLast?_toList_append]
    simp
  | enlargeMemory | errnoLocation | lock | unlock | debugger => rfl
  | unary op =>
    obtain ⟨x, rfl, hx⟩ := exists_of_types_one htypes
    obtain ⟨x, rfl⟩ := eq_f64_of_type hx
    rfl
  | floatToInt =>
    obtain ⟨x, rfl, hx⟩ := exists_of_types_one htypes
    obtain ⟨x, rfl⟩ := eq_f64_of_type hx
    rfl
  | pow | floatRem =>
    obtain ⟨x, y, rfl, hx, hy⟩ := exists_of_types_two htypes
    obtain ⟨x, rfl⟩ := eq_f64_of_type hx
    obtain ⟨y, rfl⟩ := eq_f64_of_type hy
    rfl
  | integer op =>
    obtain ⟨x, y, rfl, hx, hy⟩ := exists_of_types_two htypes
    obtain ⟨x, rfl⟩ := eq_i32_of_type hx
    obtain ⟨y, rfl⟩ := eq_i32_of_type hy
    rfl

end HostOp

/-! ## Calls -/

namespace Function

variable {function : Handle .function} {f : Function HostOp}

/-- The line that announces a call. -/
def announcement (f : Function HostOp) (arguments : List Value) : Event :=
  { level := .trace, message := "calling host function"
    fields := [("name", f.name), ("args", Value.describeAll arguments)] }

/-- A call with arguments of other types is announced and refused, and that is all. -/
theorem run_call_refused (memory : Option (Handle .memory)) (arguments : List Value)
    (hfound : c.get? function = some f) (htypes : arguments.map Value.type ≠ f.type.params) :
    (call function memory arguments).run.run c =
      { value := (.error (.error (.badSignature f.type (arguments.map Value.type))), c)
        events := [f.announcement arguments] } := by
  have hcheck : checkTypes f.type f.type.params arguments =
      (trap (.badSignature f.type (arguments.map Value.type)) : HostM HostOp Unit) := by
    simp only [checkTypes, ne_eq, htypes, not_false_eq_true, ↓reduceIte]
  -- Looking the function up logs nothing and changes nothing.
  have hget : ∀ next : Compartment HostOp → HostM HostOp (List Value),
      (get >>= next : HostM HostOp (List Value)).run.run c = (next c).run.run c := fun _ => rfl
  rw [call, hget]
  simp only [hfound, hcheck]
  rfl

/-- A call with arguments of the declared types keeps to the declared results, if the function
is declared with its own signature. -/
theorem conforms_call (memory : Option (Handle .memory)) (arguments : List Value)
    (hfound : c.get? function = some f) (htype : f.type = f.host.signature)
    (htypes : arguments.map Value.type = f.type.params) :
    Conforms f.type.results (exec (call function memory arguments) c).1 := by
  have hconforms := f.host.conforms_run memory c (htype ▸ htypes)
  rw [← htype] at hconforms
  simp only [call, exec_bind, exec_get, hfound, exec_log, exec_checkTypes htypes,
    HostFunctions.run_hostOp]
  rcases hrun : exec (f.host.run memory arguments) c with ⟨failure | results, c'⟩
  · rw [hrun] at hconforms
    exact hconforms
  · rw [hrun] at hconforms
    simp only [exec_checkTypes hconforms, exec_pure]
    exact hconforms

end Function

/-! ## Exported functions -/

variable {collection : Collection HostOp} {extra : Named Entity} {name key : String}
  {handle : Handle .instance_} {found : Instance} {entity : Entity}

/-- What an instance exports under a name that the extra exports do not have was made of the
definition of that name. -/
theorem Collection.Instantiates.realizes_of_exported
    (h : collection.Instantiates extra c₀ c₁ handle found) (hkey : key ∉ extra.names)
    (hexported : found.exports.get? key = some entity) :
    ∃ definition, collection.definitions.get? key = some definition ∧
      Realizes collection c₁ key definition entity := by
  obtain ⟨made, hexports, hmade⟩ := h.exports
  rw [hexports, Named.get?_putAll_of_notMem hkey] at hexported
  cases hdefinition : collection.definitions.get? key with
  | none =>
    rw [Named.get?_made_eq_none hmade hdefinition] at hexported
    cases hexported
  | some definition =>
    obtain ⟨made, hget, hmakes⟩ := Named.get?_made hmade hdefinition
    obtain rfl := Option.some.inj (hget.symm.trans hexported)
    exact ⟨definition, rfl, hmakes.realizes⟩

/-- An exported function is the one that the collection defines under its name, whatever has
become of the compartment since. -/
theorem function_of_exported {function : Handle .function}
    (hmade : (collection.instantiate c₀ name extra).value = (c₁, handle)) (hlater : c₁.Evolves c)
    (hfound : c.get? handle = some found) (hkey : key ∉ extra.names)
    (hexported : found.exports.get? key = some (.function function)) :
    ∃ type host, collection.definitions.get? key = some (.function type host) ∧
      c.get? function = some
        ({ name := collection.name ++ "." ++ key, type := type, host := host } :
          Function HostOp) := by
  obtain ⟨c', handle', first, hvalue, hinstantiates⟩ := collection.instantiate_spec c₀ name extra
  obtain ⟨rfl, rfl⟩ := Prod.mk.inj (hvalue.symm.trans hmade)
  obtain ⟨later, hlaterFound, rfl⟩ := hlater.get? hinstantiates.get?
  obtain rfl := Option.some.inj (hlaterFound.symm.trans hfound)
  obtain ⟨definition, hdefinition, hrealizes⟩ := hinstantiates.realizes_of_exported hkey hexported
  cases definition with
  | global value mutability =>
    obtain ⟨_, ⟨⟩, _⟩ := hrealizes
  | function type host =>
    obtain ⟨_, ⟨⟩, hget⟩ := hrealizes
    obtain ⟨f, hf, rfl⟩ := hlater.get? hget
    exact ⟨type, host, hdefinition, hf⟩

/-- Every function that an instance of a default collection exports keeps to the signature it is
declared with, whatever has happened in the compartment.  A call is refused with a signature
mismatch if and only if the types of its arguments are not the declared ones, and a call that is
refused is announced and does nothing else.  Any other call that is answered has results of the
declared types, or traps for a reason other than a mismatch. -/
theorem call_conforms {layout : Layout}
    (hcollection : collection ∈ (Provider.default layout).collections)
    {function : Handle .function}
    (hmade : (collection.instantiate c₀ name extra).value = (c₁, handle)) (hlater : c₁.Evolves c)
    (hfound : c.get? handle = some found) (hkey : key ∉ extra.names)
    (hexported : found.exports.get? key = some (.function function))
    (memory : Option (Handle .memory)) (arguments : List Value) :
    ∃ type host, collection.definitions.get? key = some (.function type host) ∧
      ((∃ expected given, (exec (Function.call function memory arguments) c).1 =
          .error (.error (.badSignature expected given))) ↔
        arguments.map Value.type ≠ type.params) ∧
      (arguments.map Value.type ≠ type.params →
        (Function.call function memory arguments).run.run c =
          { value := (.error (.error (.badSignature type (arguments.map Value.type))), c)
            events := [{ level := .trace, message := "calling host function"
                         fields := [("name", collection.name ++ "." ++ key),
                           ("args", Value.describeAll arguments)] }] }) ∧
      (arguments.map Value.type = type.params →
        (exec (Function.call function memory arguments) c).1 ≠ .error .crash →
        (∃ results, (exec (Function.call function memory arguments) c).1 = .ok results ∧
          results.map Value.type = type.results) ∨
        ∃ trap, (exec (Function.call function memory arguments) c).1 = .error (.error trap) ∧
          ¬ trap.Mismatch) := by
  obtain ⟨type, host, hdefinition, hf⟩ :=
    function_of_exported hmade hlater hfound hkey hexported
  have hsuits : type = host.signature :=
    Collection.suits_default hcollection _ (Named.mem_of_get? hdefinition)
  have hrefused := Function.run_call_refused memory arguments hf
  have haccepted := Function.conforms_call memory arguments hf hsuits
  refine ⟨type, host, hdefinition, ⟨?_, fun htypes => ?_⟩, hrefused, fun htypes hreturns => ?_⟩
  · rintro ⟨expected, given, hanswer⟩ htypes
    have hconforms := haccepted htypes
    rw [hanswer] at hconforms
    exact hconforms (.signature expected given)
  · rw [exec, hrefused htypes]
    exact ⟨_, _, rfl⟩
  · have hconforms := haccepted htypes
    rcases hanswer : (exec (Function.call function memory arguments) c).1 with
      (trap | _) | results
    · rw [hanswer] at hconforms
      exact .inr ⟨trap, rfl, hconforms⟩
    · exact absurd hanswer hreturns
    · rw [hanswer] at hconforms
      exact .inl ⟨results, rfl, hconforms⟩

/-- A compartment with the operators of legacy modules. -/
def operating : Compartment HostOp :=
  (Collection.operators.instantiate (.empty ⟨0⟩) "emAsm2wasm" []).value.1

/-- There a division by zero is answered with one word, and a division of a word by a long word
is refused. -/
theorem call_conforms_divisions :
    (∃ results, (exec (Function.call ⟨⟨0⟩, 2⟩ none [.i32 7, .i32 0]) operating).1 = .ok results ∧
        results.map Value.type = [.i32]) ∧
      (exec (Function.call ⟨⟨0⟩, 2⟩ none [.i32 7, .i64 0]) operating).1 =
        .error (.error (.badSignature (HostOp.integer .signedDiv).signature [.i32, .i64])) := by
  have hcollection : Collection.operators ∈ (Provider.default .standard).collections := by
    simp [Provider.collections, Provider.default]
  obtain ⟨handle, found, hmade, hfound, hexported⟩ :
      ∃ (handle : Handle .instance_) (found : Instance),
        (Collection.operators.instantiate (.empty ⟨0⟩) "emAsm2wasm" []).value =
            (operating, handle) ∧
          operating.get? handle = some found ∧
          found.exports.get? "i32s-div" = some (.function ⟨⟨0⟩, 2⟩) :=
    ⟨_, _, rfl, rfl, rfl⟩
  have hconforms := call_conforms hcollection hmade (.refl operating) hfound List.not_mem_nil
    hexported none
  have hdeclared : Collection.operators.definitions.get? "i32s-div" =
      some (.function (HostOp.integer .signedDiv).signature (.integer .signedDiv)) := rfl
  constructor
  · obtain ⟨type, host, hdefinition, -, -, haccepted⟩ := hconforms [.i32 7, .i32 0]
    obtain ⟨rfl, rfl⟩ :=
      Definition.function.inj (Option.some.inj (hdeclared.symm.trans hdefinition))
    have hanswer : (exec (Function.call ⟨⟨0⟩, 2⟩ none [.i32 7, .i32 0]) operating).1 =
        .ok [.i32 0] := by decide +kernel
    rcases haccepted rfl (by simp [hanswer]) with hresults | ⟨trap, htrap, -⟩
    · exact hresults
    · rw [hanswer] at htrap
      cases htrap
  · obtain ⟨type, host, hdefinition, -, hrefused, -⟩ := hconforms [.i32 7, .i64 0]
    obtain ⟨rfl, rfl⟩ :=
      Definition.function.inj (Option.some.inj (hdeclared.symm.trans hdefinition))
    rw [exec, hrefused (by decide)]
    rfl

end HostLink

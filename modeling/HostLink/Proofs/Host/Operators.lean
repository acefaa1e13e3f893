/-
The operators of legacy modules.

A compiler that has no instruction for an operation of its source language imports a function
for it.  Such a function computes its result from its arguments alone.  A call of it with
arguments of its types is answered and changes nothing, so that all there is to say about it is
which number it gives.

The four divisions give zero for a zero divisor.  For any other divisor they give the quotients
and remainders of the integers that the words stand for, with a sign or without one.  The one
signed quotient that is too large for a word wraps, and because it does, quotient and remainder
still make up the dividend, up to a multiple of `2 ^ 32`.

The conversion of a number takes its integer part modulo `2 ^ 32`.
-/
import HostLink.Proofs.Host.Conformance
import HostLink.Proofs.Ieee.Word
import Mathlib.Data.Int.ModEq

namespace HostLink

open HostM

variable {c c₀ c₁ : Compartment HostOp} {collection : Collection HostOp} {extra : Named Entity}
  {name key : String} {handle : Handle .instance_}

/-! ## Functions that are exported -/

/-- The instance that was made is still found, and it exports each function of its collection
under the name that it is defined under. -/
theorem exports_of_functions
    (hmade : (collection.instantiate c₀ name extra).value = (c₁, handle))
    (hlater : c₁.Evolves c) :
    ∃ found : Instance, c.get? handle = some found ∧ ∀ {key type host},
      collection.definitions.get? key = some (.function type host) → key ∉ extra.names →
      ∃ (function : Handle .function) (f : Function HostOp),
        found.exports.get? key = some (.function function) ∧ c.get? function = some f ∧
          f.type = type ∧ f.host = host := by
  obtain ⟨c', handle', first, hvalue, hinstantiates⟩ := collection.instantiate_spec c₀ name extra
  obtain ⟨rfl, rfl⟩ := Prod.mk.inj (hvalue.symm.trans hmade)
  obtain ⟨_, hfound, rfl⟩ := hlater.get? hinstantiates.get?
  refine ⟨first, hfound, fun {key type host} hdefinition hkey => ?_⟩
  obtain ⟨made, hexports, hmakes⟩ := hinstantiates.exports
  obtain ⟨entity, hget, hmakes⟩ := Named.get?_made hmakes hdefinition
  obtain ⟨function, rfl, hfunction⟩ := hmakes.realizes
  obtain ⟨_, hf, rfl⟩ := hlater.get? hfunction
  refine ⟨function, _, ?_, hf, rfl, rfl⟩
  rw [hexports, Named.get?_putAll_of_notMem hkey, hget]

/-- A function that only computes, and is declared with its signature, is called without an
effect. -/
theorem Function.exec_call_of_run {function : Handle .function} {f : Function HostOp}
    {host : HostOp} {memory : Option (Handle .memory)} {arguments results : List Value}
    (hfound : c.get? function = some f) (htype : f.type = host.signature) (hhost : f.host = host)
    (hparams : arguments.map Value.type = host.signature.params)
    (hrun : exec (host.run memory arguments) c = (.ok results, c))
    (hresults : results.map Value.type = host.signature.results) :
    exec (call function memory arguments) c = (.ok results, c) := by
  rw [← htype] at hparams hresults
  rw [← hhost] at hrun
  simp only [call, exec_bind, exec_get, hfound, exec_log, exec_checkTypes hparams,
    HostFunctions.run_hostOp, hrun, exec_checkTypes hresults, exec_pure]

/-! ## Words with a sign and without one -/

/-- A word without its sign is the word, up to a multiple of `2 ^ 32`. -/
theorem toNat_toUInt32_modEq (x : Int32) : x.toInt ≡ x.toUInt32.toNat [ZMOD 2 ^ 32] := by
  have hwrap : x.toInt = (x.toUInt32.toNat : Int).bmod (2 ^ 32) :=
    BitVec.toInt_eq_toNat_bmod x.toBitVec
  rw [hwrap]
  exact Int.bmod_emod

/-! ## Divisions -/

/-- What the four answers are if the divisor is not zero.  Signed operands are divided as
rational numbers, and the quotient is brought to an integer toward zero. -/
structure Divides (x y : Int32) (answer : IntegerOp → Int32) : Prop where
  signedDiv : (answer .signedDiv).toInt =
    (Ieee.integerPart ((x.toInt : ℚ) / y.toInt)).bmod (2 ^ 32)
  signedRem : (answer .signedRem).toInt =
    x.toInt - y.toInt * Ieee.integerPart ((x.toInt : ℚ) / y.toInt)
  sign : (answer .signedRem).toInt = 0 ∨ (answer .signedRem).toInt.sign = x.toInt.sign
  magnitude : (answer .signedRem).toInt.natAbs < y.toInt.natAbs
  unsignedDiv : (answer .unsignedDiv).toUInt32.toNat = x.toUInt32.toNat / y.toUInt32.toNat
  unsignedRem : (answer .unsignedRem).toUInt32.toNat = x.toUInt32.toNat % y.toUInt32.toNat
  signed : (answer .signedDiv).toInt * y.toInt + (answer .signedRem).toInt ≡ x.toInt
    [ZMOD 2 ^ 32]
  unsigned : (answer .unsignedDiv).toInt * y.toInt + (answer .unsignedRem).toInt ≡ x.toInt
    [ZMOD 2 ^ 32]

namespace IntegerOp

variable {x y : Int32}

theorem apply_zero (op : IntegerOp) (x : Int32) : op.apply x 0 = 0 := if_pos rfl

theorem toInt_signedDiv (h : y ≠ 0) :
    (signedDiv.apply x y).toInt = (x.toInt.tdiv y.toInt).bmod (2 ^ 32) := by
  rw [apply, if_neg h, Int32.toInt_div]

theorem toInt_signedRem (h : y ≠ 0) :
    (signedRem.apply x y).toInt = x.toInt.tmod y.toInt := by
  rw [apply, if_neg h, Int32.toInt_mod]

theorem toNat_unsignedDiv (h : y ≠ 0) :
    (unsignedDiv.apply x y).toUInt32.toNat = x.toUInt32.toNat / y.toUInt32.toNat := by
  rw [apply, if_neg h, UInt32.toUInt32_toInt32, UInt32.toNat_div]

theorem toNat_unsignedRem (h : y ≠ 0) :
    (unsignedRem.apply x y).toUInt32.toNat = x.toUInt32.toNat % y.toUInt32.toNat := by
  rw [apply, if_neg h, UInt32.toUInt32_toInt32, UInt32.toNat_mod]

/-- The quotient may wrap, but not the dividend that it makes up with the remainder. -/
theorem signed_modEq (h : y ≠ 0) :
    (signedDiv.apply x y).toInt * y.toInt + (signedRem.apply x y).toInt ≡ x.toInt
      [ZMOD 2 ^ 32] := by
  rw [toInt_signedDiv h, toInt_signedRem h]
  have hquotient : (x.toInt.tdiv y.toInt).bmod (2 ^ 32) ≡ x.toInt.tdiv y.toInt [ZMOD 2 ^ 32] :=
    Int.bmod_emod
  calc (x.toInt.tdiv y.toInt).bmod (2 ^ 32) * y.toInt + x.toInt.tmod y.toInt
      ≡ x.toInt.tdiv y.toInt * y.toInt + x.toInt.tmod y.toInt [ZMOD 2 ^ 32] :=
        (hquotient.mul_right _).add_right _
    _ = x.toInt := Int.tdiv_mul_add_tmod x.toInt y.toInt

theorem unsigned_modEq (h : y ≠ 0) :
    (unsignedDiv.apply x y).toInt * y.toInt + (unsignedRem.apply x y).toInt ≡ x.toInt
      [ZMOD 2 ^ 32] := by
  calc (unsignedDiv.apply x y).toInt * y.toInt + (unsignedRem.apply x y).toInt
      ≡ (unsignedDiv.apply x y).toUInt32.toNat * y.toUInt32.toNat +
          (unsignedRem.apply x y).toUInt32.toNat [ZMOD 2 ^ 32] :=
        ((toNat_toUInt32_modEq _).mul (toNat_toUInt32_modEq y)).add (toNat_toUInt32_modEq _)
    _ = x.toUInt32.toNat := by
        rw [toNat_unsignedDiv h, toNat_unsignedRem h]
        exact_mod_cast Nat.div_add_mod' x.toUInt32.toNat y.toUInt32.toNat
    _ ≡ x.toInt [ZMOD 2 ^ 32] := (toNat_toUInt32_modEq x).symm

theorem divides_apply (h : y ≠ 0) : Divides x y fun op => op.apply x y := by
  have hy : y.toInt ≠ 0 := fun hzero => h (Int32.toInt_inj.mp hzero)
  refine
    { signedDiv := ?_
      signedRem := ?_
      sign := ?_
      magnitude := ?_
      unsignedDiv := toNat_unsignedDiv h
      unsignedRem := toNat_unsignedRem h
      signed := signed_modEq h
      unsigned := unsigned_modEq h }
  · rw [toInt_signedDiv h, Ieee.integerPart_div]
  · rw [toInt_signedRem h, Ieee.integerPart_div, Int.tmod_def]
  · rw [toInt_signedRem h, Int.sign_tmod]
    by_cases hdvd : y.toInt ∣ x.toInt
    · exact .inl (Int.tmod_eq_zero_of_dvd hdvd)
    · exact .inr (if_neg hdvd)
  · rw [toInt_signedRem h, Int.natAbs_tmod]
    exact Nat.mod_lt _ (Int.natAbs_pos.mpr hy)

end IntegerOp

theorem get?_operators_integer (op : IntegerOp) :
    Collection.operators.definitions.get? op.name =
      some (.function (HostOp.integer op).signature (.integer op)) := by
  cases op <;> rfl

/-- An instance of the operators has the four divisions, and two words are divided without an
effect and without a trap, whatever has happened in the compartment.  A zero divisor gives zero.
For any other divisor the answers are the quotients and remainders that `Divides` names. -/
theorem divisions_exact
    (hmade : (Collection.operators.instantiate c₀ name extra).value = (c₁, handle))
    (hlater : c₁.Evolves c) (hextra : ∀ op : IntegerOp, op.name ∉ extra.names) :
    ∃ (found : Instance) (function : IntegerOp → Handle .function),
      c.get? handle = some found ∧
      (∀ op, found.exports.get? op.name = some (.function (function op))) ∧
      ∀ (memory : Option (Handle .memory)) (x y : Int32), ∃ answer : IntegerOp → Int32,
        (∀ op, exec (Function.call (function op) memory [.i32 x, .i32 y]) c =
          (.ok [.i32 (answer op)], c)) ∧
        (y = 0 → ∀ op, answer op = 0) ∧
        (y ≠ 0 → Divides x y answer) := by
  obtain ⟨found, hfound, hexports⟩ := exports_of_functions hmade hlater
  choose function f hexported hget htype hhost using fun op =>
    hexports (get?_operators_integer op) (hextra op)
  refine ⟨found, function, hfound, hexported, fun memory x y =>
    ⟨fun op => op.apply x y, fun op => ?_, ?_, IntegerOp.divides_apply⟩⟩
  · exact Function.exec_call_of_run (hget op) (htype op) (hhost op) rfl rfl rfl
  · rintro rfl op
    exact op.apply_zero x

/-- An instance of the operators with two of its functions. -/
theorem exports_operating :
    ∃ (handle : Handle .instance_) (found : Instance),
      (Collection.operators.instantiate (.empty ⟨0⟩) "emAsm2wasm" []).value =
          (operating, handle) ∧
        operating.get? handle = some found ∧
        found.exports.get? "f64-to-int" = some (.function ⟨⟨0⟩, 1⟩) ∧
        found.exports.get? IntegerOp.signedDiv.name = some (.function ⟨⟨0⟩, 2⟩) :=
  ⟨_, _, rfl, rfl, rfl, rfl⟩

/-- The smallest word divided by minus one. -/
theorem divisions_exact_minimum :
    ∃ answer : IntegerOp → Int32,
      exec (Function.call ⟨⟨0⟩, 2⟩ none [.i32 Int32.minValue, .i32 (-1)]) operating =
        (.ok [.i32 (answer .signedDiv)], operating) ∧
      Divides Int32.minValue (-1) answer ∧ answer .signedDiv = Int32.minValue := by
  obtain ⟨handle, found, hmade, hfound, -, hexported⟩ := exports_operating
  obtain ⟨found', function, hfound', hexports, hanswers⟩ :=
    divisions_exact hmade (.refl operating) fun _ => List.not_mem_nil
  obtain rfl := Option.some.inj (hfound'.symm.trans hfound)
  have hfunction : function .signedDiv = ⟨⟨0⟩, 2⟩ :=
    Entity.function.inj (Option.some.inj ((hexports _).symm.trans hexported))
  obtain ⟨answer, hcalls, -, hdivides⟩ := hanswers none Int32.minValue (-1)
  have hdivision := hdivides (by decide)
  refine ⟨answer, ?_, hdivision, ?_⟩
  · rw [← hfunction]
    exact hcalls .signedDiv
  · rw [← Int32.toInt_inj, hdivision.signedDiv, Ieee.integerPart_div]
    decide +kernel

/-! ## Numbers as words -/

/-- What is congruent to an integer is the word it is reduced to. -/
theorem eq_ofInt_iff_modEq {k : Int32} {i : Int} :
    k = Int32.ofInt i ↔ k.toInt ≡ i [ZMOD 2 ^ 32] := by
  rw [← Int32.toInt_inj, Int32.toInt_ofInt]
  constructor
  · intro h
    rw [h]
    exact Int.bmod_emod
  · intro h
    have hmod : k.toInt % Int32.size = i % Int32.size := h
    rw [← Int.emod_bmod i, ← hmod, Int.emod_bmod]
    exact k.toInt_bmod.symm

/-- An instance of the operators has the conversion of a number to a word, and a number is
converted without an effect and without a trap, whatever has happened in the compartment.  A
pattern with a full exponent field, which encodes no number, gives zero.  Any other gives the one
signed word that is congruent to the integer part of the number it encodes. -/
theorem float_to_int_exact
    (hmade : (Collection.operators.instantiate c₀ name extra).value = (c₁, handle))
    (hlater : c₁.Evolves c) (hextra : "f64-to-int" ∉ extra.names) :
    ∃ (found : Instance) (function : Handle .function),
      c.get? handle = some found ∧
      found.exports.get? "f64-to-int" = some (.function function) ∧
      ∀ (memory : Option (Handle .memory)) (x : Ieee.Binary64), ∃ n : Int32,
        exec (Function.call function memory [.f64 x]) c = (.ok [.i32 n], c) ∧
        (x.exponentField = 2047 → n = 0) ∧
        (x.exponentField ≠ 2047 →
          Ieee.integerPart x.value = x.truncated ∧
          ∀ k : Int32, k = n ↔ k.toInt ≡ x.truncated [ZMOD 2 ^ 32]) := by
  obtain ⟨found, hfound, hexports⟩ := exports_of_functions hmade hlater
  have hdefinition : Collection.operators.definitions.get? "f64-to-int" =
      some (.function HostOp.floatToInt.signature .floatToInt) := rfl
  obtain ⟨function, f, hexported, hget, htype, hhost⟩ := hexports hdefinition hextra
  refine ⟨found, function, hfound, hexported, fun memory x => ⟨x.toInt32, ?_, ?_, ?_⟩⟩
  · exact Function.exec_call_of_run hget htype hhost rfl rfl rfl
  · intro hfull
    rw [x.toInt32_eq_truncated, if_pos hfull]
  · intro hfinite
    refine ⟨x.integerPart_value, fun k => ?_⟩
    rw [x.toInt32_eq_truncated, if_neg hfinite]
    exact eq_ofInt_iff_modEq

/-- A negative number far out of the range of words, `-(2 ^ 83 + 2 ^ 31)`. -/
theorem float_to_int_exact_far :
    (⟨0xc520000000000001⟩ : Ieee.Binary64).truncated = -(2 ^ 83 + 2 ^ 31) ∧
      exec (Function.call ⟨⟨0⟩, 1⟩ none [.f64 ⟨0xc520000000000001⟩]) operating =
        (.ok [.i32 Int32.minValue], operating) := by
  obtain ⟨handle, found, hmade, hfound, hexported, -⟩ := exports_operating
  obtain ⟨found', function, hfound', hexports, hanswers⟩ :=
    float_to_int_exact hmade (.refl operating) List.not_mem_nil
  obtain rfl := Option.some.inj (hfound'.symm.trans hfound)
  obtain rfl : function = ⟨⟨0⟩, 1⟩ :=
    Entity.function.inj (Option.some.inj (hexports.symm.trans hexported))
  obtain ⟨n, hcall, -, hfinite⟩ := hanswers none ⟨0xc520000000000001⟩
  have htruncated : (⟨0xc520000000000001⟩ : Ieee.Binary64).truncated = -(2 ^ 83 + 2 ^ 31) := by
    decide +kernel
  obtain ⟨-, hword⟩ := hfinite (by decide +kernel)
  obtain rfl : Int32.minValue = n := by
    rw [hword, htruncated]
    decide +kernel
  exact ⟨htruncated, hcall⟩

end HostLink

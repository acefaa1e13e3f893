/-
What the messages of failures tell.

A message tells which kind of failure it is by its first letter, and which types the failure has,
since their texts are read back wherever they stand.  So the two types of a mismatch look
different: an object that has the declared type satisfies it.

The names of the import stand in a message as they are, with a dot between them, and names may
have dots themselves.  Two failures with the same message are of the same kind and have the same
types, but they are about the same import only if the names of the modules have as many dots.
A name that is quoted as well, as that of a module which is not recognised, is no exception:
the quotes are not escaped.
-/
import HostLink.Proofs.Link.Answers
import HostLink.Proofs.Link.TypeText
import HostLink.Proofs.Store.Compatibility

namespace HostLink

/-! ## Types of a mismatch -/

namespace Resolver

variable {Host : Type} {r : Resolver Host} {c : Compartment Host} {module name : String}
  {expected : ExternType}

/-- The types of a mismatch are the declared one and one that does not satisfy it. -/
theorem satisfies_eq_false_of_resolve {module' name' : String} {declared actual : ExternType}
    (h : (r.resolve c module name expected).value.1 =
      .error (.error (.typeMismatch module' name' declared actual))) :
    declared = expected ∧ actual.satisfies expected none = false := by
  rcases resolve_cases r c module name expected with
    ⟨environment, -, -, hfind⟩ | hforeign | hnotReady
  · cases finds_of_find (hfind.symm.trans h) nofun with
    | mismatch _ _ _ hactual hsatisfies =>
      rw [Entity.satisfies?_eq, hactual, Option.map_some] at hsatisfies
      exact ⟨rfl, Option.some.inj hsatisfies⟩
  · cases hforeign.symm.trans h
  · cases hnotReady.symm.trans h

/-- Types have the same text only if they are the same.  A mismatch is about the import that was
asked for and the type it was declared with, and the text of the type that was found is not the
text of that. -/
theorem mismatch_shows_types :
    (∀ s t : ExternType, s.text = t.text ↔ s = t) ∧
      ∀ (r : Resolver Host) (c : Compartment Host) (module name : String) (expected : ExternType)
        (module' name' : String) (declared actual : ExternType),
        (r.resolve c module name expected).value.1 =
            .error (.error (.typeMismatch module' name' declared actual)) →
          (module', name') = (module, name) ∧ declared = expected ∧
            actual.text ≠ declared.text := by
  refine ⟨fun s t => ⟨ExternType.text_inj, congrArg _⟩, ?_⟩
  intro r c module name expected module' name' declared actual h
  obtain ⟨rfl, hsatisfies⟩ := satisfies_eq_false_of_resolve h
  refine ⟨import_of_resolve h, rfl, fun htext => ?_⟩
  obtain rfl := ExternType.text_inj htext
  rw [ExternType.satisfies_iff_fits.mpr (.refl _)] at hsatisfies
  cases hsatisfies

/-- An import that is declared with a parameter too many. -/
theorem mismatch_shows_types_parameter :
    let c := (Collection.standardEnv.instantiate (.empty ⟨0⟩) "env" []).value.1
    let r : Resolver HostOp :=
      { Resolver.default with environment := some (.standard ⟨⟨0⟩, 0⟩), compartment := some ⟨0⟩ }
    (r.resolve c "env" "abort" (.function ⟨[.i32], []⟩)).value.1 =
        .error (.error (.typeMismatch "env" "abort" (.function ⟨[.i32], []⟩)
          (.function ⟨[], []⟩))) ∧
      (ExternType.function ⟨[], []⟩).text ≠ (ExternType.function ⟨[.i32], []⟩).text := by
  intro c r
  have hmismatch : (r.resolve c "env" "abort" (.function ⟨[.i32], []⟩)).value.1 =
      .error (.error (.typeMismatch "env" "abort" (.function ⟨[.i32], []⟩)
        (.function ⟨[], []⟩))) := by
    decide +kernel
  exact ⟨hmismatch, (mismatch_shows_types.2 r c _ _ _ _ _ _ _ hmismatch).2.2⟩

end Resolver

/-! ## Imports of failures -/

namespace ResolveError

/-- The same failure at another import. -/
def withImport (module name : String) : ResolveError → ResolveError
  | unrecognizedModule _ _ => unrecognizedModule module name
  | missingImport _ _ expected => missingImport module name expected
  | typeMismatch _ _ expected actual => typeMismatch module name expected actual
  | notReady _ _ => notReady module name
  | foreignCompartment _ _ => foreignCompartment module name

variable {e e' : ResolveError} {a b m n m' n' t : String}

@[simp] theorem import_withImport (e : ResolveError) (m n : String) :
    (e.withImport m n).import_ = (m, n) := by
  cases e <;> rfl

@[simp] theorem withImport_import (e : ResolveError) :
    e.withImport e.import_.1 e.import_.2 = e := by
  cases e <;> rfl

@[simp] theorem withImport_withImport (e : ResolveError) (m n m' n' : String) :
    (e.withImport m n).withImport m' n' = e.withImport m' n' := by
  cases e <;> rfl

/-! ## Parts of a message -/

/-- The kinds of failures. -/
inductive Kind where
  | unrecognizedModule
  | missingImport
  | typeMismatch
  | notReady
  | foreignCompartment
  deriving DecidableEq

def Kind.opening : Kind → String
  | unrecognizedModule => "unrecognised module \""
  | missingImport => "missing import "
  | typeMismatch => "resolved import "
  | notReady => "the resolver has no environment to resolve "
  | foreignCompartment => "import "

def kind : ResolveError → Kind
  | unrecognizedModule _ _ => .unrecognizedModule
  | missingImport _ _ _ => .missingImport
  | typeMismatch _ _ _ _ => .typeMismatch
  | notReady _ _ => .notReady
  | foreignCompartment _ _ => .foreignCompartment

/-- What stands behind the name of the module where it stands first. -/
def behind : ResolveError → String → String → String
  | unrecognizedModule _ _, module, name => "\" for import " ++ (module ++ ("." ++ name))
  | _, _, name => "." ++ name

/-- What a message shows of the names of an import. -/
def shown (e : ResolveError) : String := e.import_.1 ++ e.behind e.import_.1 e.import_.2

def closing : ResolveError → String
  | unrecognizedModule _ _ => ""
  | missingImport _ _ expected => " " ++ expected.text
  | typeMismatch _ _ expected actual =>
    " to a" ++ (" " ++ actual.text) ++ ", but was expecting" ++ (" " ++ expected.text)
  | notReady _ _ => " against"
  | foreignCompartment _ _ => " was resolved against a foreign compartment"

@[simp] theorem kind_withImport (e : ResolveError) (m n : String) :
    (e.withImport m n).kind = e.kind := by
  cases e <;> rfl

@[simp] theorem closing_withImport (e : ResolveError) (m n : String) :
    (e.withImport m n).closing = e.closing := by
  cases e <;> rfl

@[simp] theorem behind_withImport (e : ResolveError) (m n : String) :
    (e.withImport m n).behind = e.behind := by
  cases e <;> rfl

theorem message_eq (e : ResolveError) : e.message = e.kind.opening ++ (e.shown ++ e.closing) := by
  cases e with
  | typeMismatch m n expected actual =>
    have hto : " to a " = " to a" ++ " " := rfl
    have hbut : ", but was expecting " = ", but was expecting" ++ " " := rfl
    unfold message kind Kind.opening shown behind closing
    simp only [import_, hto, hbut, String.append_assoc]
  | unrecognizedModule m n =>
    unfold message kind Kind.opening shown behind closing
    simp only [import_, String.append_assoc, String.append_empty]
  | missingImport m n expected | notReady m n | foreignCompartment m n =>
    unfold message kind Kind.opening shown behind closing
    simp only [import_, String.append_assoc]

/-- The first letter of a message tells the kind of the failure. -/
theorem Kind.opening_append_inj {kind kind' : Kind} (h : kind.opening ++ a = kind'.opening ++ b) :
    kind = kind' := by
  have hhead : ∀ (kind : Kind) (rest : String),
      (kind.opening ++ rest).toList.head? = kind.opening.toList.head? := by
    intro kind rest
    have hopening : kind.opening.toList.head?.isSome := by cases kind <;> decide
    rw [String.toList_append, List.head?_append, Option.or_of_isSome hopening]
  have hfirst := hhead kind a
  rw [h, hhead] at hfirst
  cases kind <;> cases kind' <;> first | rfl | exact absurd hfirst (by decide)

/-- What a message ends with tells the types of a failure whose kind is known. -/
theorem append_closing_inj (hkind : e.kind = e'.kind) (h : a ++ e.closing = b ++ e'.closing) :
    a = b ∧ e' = e.withImport e'.import_.1 e'.import_.2 := by
  cases e with
  | unrecognizedModule m n =>
    cases e' with
    | unrecognizedModule m' n' => exact ⟨(String.append_left_inj _).mp h, rfl⟩
    | missingImport | typeMismatch | notReady | foreignCompartment => cases hkind
  | missingImport m n expected =>
    cases e' with
    | missingImport m' n' expected' =>
      obtain ⟨hfront, rfl⟩ := ExternType.append_text_inj h
      exact ⟨hfront, rfl⟩
    | unrecognizedModule | typeMismatch | notReady | foreignCompartment => cases hkind
  | typeMismatch m n expected actual =>
    cases e' with
    | typeMismatch m' n' expected' actual' =>
      -- The types are read from the right, the declared one before the one that was found.
      obtain ⟨hactual, rfl⟩ := ExternType.append_text_inj
        (String.append_assoc.trans (h.trans String.append_assoc.symm))
      have hto := (String.append_left_inj _).mp
        (String.append_assoc.trans (hactual.trans String.append_assoc.symm))
      obtain ⟨hfront, rfl⟩ := ExternType.append_text_inj
        (String.append_assoc.trans (hto.trans String.append_assoc.symm))
      exact ⟨(String.append_left_inj _).mp hfront, rfl⟩
    | unrecognizedModule | missingImport | notReady | foreignCompartment => cases hkind
  | notReady m n =>
    cases e' with
    | notReady m' n' => exact ⟨(String.append_left_inj _).mp h, rfl⟩
    | unrecognizedModule | missingImport | typeMismatch | foreignCompartment => cases hkind
  | foreignCompartment m n =>
    cases e' with
    | foreignCompartment m' n' => exact ⟨(String.append_left_inj _).mp h, rfl⟩
    | unrecognizedModule | missingImport | typeMismatch | notReady => cases hkind

/-- Two failures have the same message if they differ in their imports at most, and the messages
show the same of these. -/
theorem message_eq_iff :
    e.message = e'.message ↔ e' = e.withImport e'.import_.1 e'.import_.2 ∧ e.shown = e'.shown := by
  rw [message_eq, message_eq]
  constructor
  · intro h
    have hkind := Kind.opening_append_inj h
    rw [hkind, String.append_right_inj] at h
    exact (append_closing_inj hkind h).symm
  · rintro ⟨hsame, hshown⟩
    have hkind : e'.kind = e.kind := by rw [hsame, kind_withImport]
    have hclosing : e'.closing = e.closing := by rw [hsame, closing_withImport]
    rw [hkind, hclosing, hshown]

/-! ## Marks in names -/

/-- How many marks of a kind a text has. -/
def marks (mark : Char) (text : String) : Nat := text.toList.count mark

theorem marks_append (mark : Char) (a b : String) :
    marks mark (a ++ b) = marks mark a + marks mark b := by
  rw [marks, String.toList_append, List.count_append, marks, marks]

theorem marks_eq_zero_iff {mark : Char} : marks mark a = 0 ↔ mark ∉ a.toList :=
  List.count_eq_zero

/-- The first dot does not stand where it would if the name of the module were longer, but had no
more dots. -/
theorem eq_empty_of_behind_eq (e : ResolveError) (ht : '.' ∉ t.toList)
    (h : e.behind m n = t ++ e.behind (m ++ t) n') : t = "" := by
  have hfirst := congrArg (fun text : String => text.toList.idxOf '.') h
  have hdot : '.' ∈ ".".toList := by decide
  have hstart : ".".toList.idxOf '.' = 0 := by decide
  have hquote : '.' ∉ "\" for import ".toList := by decide
  have hlength : t.toList.length = 0 := by
    cases e with
    | unrecognizedModule =>
      by_cases hm : '.' ∈ m.toList
      · simp only [behind, String.toList_append, List.idxOf_append, hm, ht, hquote, List.mem_append,
          true_or, if_true, if_false] at hfirst
        omega
      · simp only [behind, String.toList_append, List.idxOf_append, hm, ht, hquote, List.mem_append,
          or_self, hdot, if_true, if_false, List.length_append, hstart] at hfirst
        omega
    | missingImport | typeMismatch | notReady | foreignCompartment =>
      simp only [behind, String.toList_append, List.idxOf_append, ht, hdot, if_true, if_false,
        hstart] at hfirst
      omega
  rw [← String.toList_inj]
  exact List.length_eq_zero_iff.mp hlength

theorem behind_inj (e : ResolveError) (h : e.behind m n = e.behind m n') : n = n' := by
  cases e with
  | unrecognizedModule =>
    unfold behind at h
    simpa only [String.append_right_inj] using h
  | missingImport | typeMismatch | notReady | foreignCompartment =>
    unfold behind at h
    exact (String.append_right_inj _).mp h

theorem names_eq_of_dots (e : ResolveError) (h : m ++ e.behind m n = m' ++ e.behind m' n')
    (hdots : marks '.' m = marks '.' m') : m = m' ∧ n = n' := by
  have hlonger : ∀ {m n n' t : String}, m ++ e.behind m n = m ++ t ++ e.behind (m ++ t) n' →
      marks '.' m = marks '.' (m ++ t) → t = "" := by
    intro m n n' t h hdots
    rw [marks_append] at hdots
    rw [String.append_assoc, String.append_right_inj] at h
    exact e.eq_empty_of_behind_eq (marks_eq_zero_iff.mp (by omega)) h
  obtain rfl : m = m' := by
    rcases exists_append_of_append_eq h with ⟨t, rfl⟩ | ⟨t, rfl⟩
    · rw [hlonger h hdots, String.append_empty]
    · rw [hlonger h.symm hdots.symm, String.append_empty]
  exact ⟨rfl, e.behind_inj ((String.append_right_inj _).mp h)⟩

/-- Of two failures with the same message, both are about the same import if the names of their
modules have as many dots. -/
theorem import_eq_of_dots (h : e.message = e'.message)
    (hdots : marks '.' e.import_.1 = marks '.' e'.import_.1) : e.import_ = e'.import_ := by
  obtain ⟨hsame, hshown⟩ := message_eq_iff.mp h
  have hbehind : e'.behind = e.behind := by rw [hsame, behind_withImport]
  rw [shown, shown, hbehind] at hshown
  obtain ⟨hmodule, hname⟩ := e.names_eq_of_dots hshown hdots
  exact Prod.ext hmodule hname

/-! ## Messages that tell the import -/

/-- Whether no other import has the message of a failure. -/
def TellsImport (e : ResolveError) : Prop :=
  ∀ e' : ResolveError, e'.message = e.message → e'.import_ = e.import_

/-- The name that stands first has no more dots than what is shown has behind it. -/
theorem marks_behind (e : ResolveError) (m n : String) :
    marks '.' (e.behind m n) =
      (if e.kind = .unrecognizedModule then marks '.' m else 0) + 1 + marks '.' n := by
  have hdot : marks '.' "." = 1 := by decide
  have hquote : marks '.' "\" for import " = 0 := by decide
  cases e with
  | unrecognizedModule =>
    unfold behind kind
    rw [marks_append, marks_append, marks_append, hdot, hquote, if_pos rfl]
    omega
  | missingImport | typeMismatch | notReady | foreignCompartment =>
    unfold behind kind
    rw [marks_append, hdot, if_neg nofun, Nat.zero_add]

/-- Names without dots are told by every message. -/
theorem tellsImport_of_undotted (hmodule : '.' ∉ e.import_.1.toList)
    (hname : '.' ∉ e.import_.2.toList) : e.TellsImport := by
  intro e' h
  obtain ⟨-, hshown⟩ := message_eq_iff.mp h
  have hmarks := congrArg (marks '.') hshown
  rw [← marks_eq_zero_iff] at hmodule hname
  rw [shown, shown, marks_append, marks_append, marks_behind, marks_behind, hmodule, hname,
    ite_self] at hmarks
  exact import_eq_of_dots h (by omega)

/-- So are names without quotes, where they are quoted. -/
theorem tellsImport_of_unquoted (hkind : e.kind = .unrecognizedModule)
    (hmodule : '"' ∉ e.import_.1.toList) (hname : '"' ∉ e.import_.2.toList) : e.TellsImport := by
  obtain ⟨m, n, rfl⟩ : ∃ m n, e = unrecognizedModule m n := by
    cases e with
    | unrecognizedModule m n => exact ⟨m, n, rfl⟩
    | missingImport | typeMismatch | notReady | foreignCompartment => cases hkind
  intro e' h
  obtain ⟨hsame, hshown⟩ := message_eq_iff.mp h.symm
  rw [hsame] at hshown ⊢
  generalize e'.import_.1 = m' at hshown ⊢
  generalize e'.import_.2 = n' at hshown ⊢
  have hm : marks '"' m = 0 := marks_eq_zero_iff.mpr hmodule
  have hn : marks '"' n = 0 := marks_eq_zero_iff.mpr hname
  have hquote : marks '"' "\" for import " = 1 := by decide
  have hdot : marks '"' "." = 0 := by decide
  have hmarks := congrArg (marks '"') hshown
  simp only [shown, import_, withImport, behind, marks_append, hm, hn, hquote, hdot]
    at hmarks hshown
  -- The first quote of both texts is the one behind the name of the module.
  obtain ⟨rfl, hrest⟩ := append_separator_inj '"' (by decide) (marks_eq_zero_iff.mp hm)
    (marks_eq_zero_iff.mp (by omega)) hshown
  rw [String.append_right_inj, String.append_right_inj] at hrest
  rw [hrest]
  rfl

theorem behind_of_kind_ne (hkind : e.kind ≠ .unrecognizedModule) (m n : String) :
    e.behind m n = "." ++ n := by
  cases e with
  | unrecognizedModule => exact absurd rfl hkind
  | missingImport | typeMismatch | notReady | foreignCompartment => rfl

/-- Where the names are not quoted, any way to take them apart is an import with this message. -/
theorem TellsImport.module_eq (h : e.TellsImport) (hkind : e.kind ≠ .unrecognizedModule)
    (hnames : m ++ ("." ++ n) = e.import_.1 ++ ("." ++ e.import_.2)) : m = e.import_.1 := by
  have hmessage : (e.withImport m n).message = e.message := by
    refine message_eq_iff.mpr ⟨by simp, ?_⟩
    rw [shown, shown, import_withImport, behind_withImport, behind_of_kind_ne hkind,
      behind_of_kind_ne hkind, hnames]
  have himport := h _ hmessage
  rw [import_withImport] at himport
  exact congrArg Prod.fst himport

theorem ne_append_dot (m t : String) : m ≠ m ++ ("." ++ t) := by
  intro heq
  have hlength := congrArg String.length heq
  have hdot : ".".length = 1 := by decide
  rw [String.length_append, String.length_append, hdot] at hlength
  omega

/-- A dot in one of the names can be taken for the one between them. -/
theorem undotted_of_tellsImport (hkind : e.kind ≠ .unrecognizedModule) (h : e.TellsImport) :
    '.' ∉ e.import_.1.toList ∧ '.' ∉ e.import_.2.toList := by
  constructor
  · intro hdot
    obtain ⟨m, n, hmodule, -⟩ := exists_append_separator "." rfl hdot
    have hnames : m ++ ("." ++ (n ++ ("." ++ e.import_.2))) =
        e.import_.1 ++ ("." ++ e.import_.2) := by
      rw [hmodule]
      simp only [String.append_assoc]
    exact ne_append_dot m n ((h.module_eq hkind hnames).trans hmodule)
  · intro hdot
    obtain ⟨m, n, hname, -⟩ := exists_append_separator "." rfl hdot
    have hnames : e.import_.1 ++ ("." ++ m) ++ ("." ++ n) =
        e.import_.1 ++ ("." ++ e.import_.2) := by
      rw [hname]
      simp only [String.append_assoc]
    exact ne_append_dot e.import_.1 m (h.module_eq hkind hnames).symm

/-- Failures with the same message are of the same kind and have the same types, and they are
about the same import if and only if the names of their modules have as many dots.  A message
tells the import if neither name has a dot, and that of a module that is not recognised does so
as well if neither has a quote.  Any other message does not, if one of the names has a dot. -/
theorem message_tells_import (e e' : ResolveError) :
    (e.message = e'.message ↔
        e' = e.withImport e'.import_.1 e'.import_.2 ∧ e.shown = e'.shown) ∧
      (e.message = e'.message →
        (e.import_ = e'.import_ ↔ marks '.' e.import_.1 = marks '.' e'.import_.1)) ∧
      ('.' ∉ e.import_.1.toList → '.' ∉ e.import_.2.toList → e.TellsImport) ∧
      (e.kind = .unrecognizedModule → '"' ∉ e.import_.1.toList → '"' ∉ e.import_.2.toList →
        e.TellsImport) ∧
      (e.kind ≠ .unrecognizedModule → e.TellsImport →
        '.' ∉ e.import_.1.toList ∧ '.' ∉ e.import_.2.toList) := by
  refine ⟨message_eq_iff, fun h => ⟨fun himport => ?_, import_eq_of_dots h⟩,
    tellsImport_of_undotted, tellsImport_of_unquoted, undotted_of_tellsImport⟩
  rw [himport]

/-- Two of the names that legacy modules are served under make one message of two imports. -/
theorem message_tells_import_confused :
    let type : ExternType := .function ⟨[.f64], [.f64]⟩
    (missingImport "global" "Math.round" type).message =
        (missingImport "global.Math" "round" type).message ∧
      (missingImport "global" "Math.round" type).import_ ≠
        (missingImport "global.Math" "round" type).import_ ∧
      ¬ (missingImport "global" "Math.round" type).TellsImport ∧
      (missingImport "env" "round" type).TellsImport := by
  intro type
  obtain ⟨hmessage, himport, -, -, hdotted⟩ := message_tells_import
    (missingImport "global" "Math.round" type) (missingImport "global.Math" "round" type)
  obtain ⟨-, -, hundotted, -, -⟩ := message_tells_import
    (missingImport "env" "round" type) (missingImport "env" "round" type)
  have hsame := hmessage.mpr ⟨rfl, by decide +kernel⟩
  refine ⟨hsame, fun h => ?_, fun h => ?_, hundotted (by decide) (by decide)⟩
  · have hdots : marks '.' "global" = marks '.' "global.Math" := (himport hsame).mp h
    exact absurd hdots (by decide)
  · have hname : '.' ∉ "Math.round".toList := (hdotted (by decide) h).2
    exact absurd hname (by decide)

end ResolveError
end HostLink

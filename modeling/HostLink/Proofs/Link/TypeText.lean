/-
The texts of types.

A text begins with the kind of its type, and what follows is read from the left: a name up to
the blank behind it, the lists of a function up to their closing brackets, a size up to the dots
behind it.  No part has the mark that it is read up to, whatever the type, so two types with the
same text are the same.

A text is read from the right as well, when something else stands in front of it.  The words
behind the kind are never the name of a kind, and so the last word that is one begins the text.
-/
import HostLink.ExternType
import HostLink.Proofs.Text.Marks

namespace HostLink

variable {mark : Char} {a b rest rest' : String}

/-! ## Names -/

namespace ValueType

theorem ofName?_name (type : ValueType) : ofName? type.name = some type := by
  cases type <;> rfl

theorem name_inj {s t : ValueType} (h : s.name = t.name) : s = t := by
  have hname := s.ofName?_name
  rw [h, t.ofName?_name] at hname
  exact (Option.some.inj hname).symm

/-- What the names of value types are written with. -/
def letters : String := "ExternFuncRefIV1234568"

theorem notMem_name (hmark : mark ∉ letters.toList) (type : ValueType) :
    mark ∉ type.name.toList := by
  have hletters : ∀ c ∈ type.name.toList, c ∈ letters.toList := by
    cases type <;> simp [name, letters]
  exact fun hmem => hmark (hletters mark hmem)

theorem plain_name (type : ValueType) : Plain ',' type.name :=
  ⟨by cases type <;> decide, type.notMem_name (by decide)⟩

end ValueType

theorem Mutability.text_inj {s t : Mutability} (h : s.text = t.text) : s = t := by
  cases s <;> cases t <;> first | rfl | exact absurd h (by decide)

namespace ExternKind

theorem name_inj {s t : ExternKind} (h : s.name = t.name) : s = t := by
  cases s <;> cases t <;> first | rfl | exact absurd h (by decide)

theorem blank_notMem_name (kind : ExternKind) : ' ' ∉ kind.name.toList := by
  cases kind <;> decide

end ExternKind

/-! ## Lists -/

theorem notMem_types (hletters : mark ∉ ValueType.letters.toList) (hmarks : mark ∉ ", ".toList)
    (types : List ValueType) : mark ∉ (", ".intercalate (types.map ValueType.name)).toList := by
  refine notMem_intercalate hmarks fun item hitem => ?_
  obtain ⟨type, -, rfl⟩ := List.mem_map.mp hitem
  exact type.notMem_name hletters

/-- A list is read up to the bracket that closes it. -/
theorem bracketed_append_inj {types types' : List ValueType}
    (h : bracketed (types.map ValueType.name) ++ rest =
      bracketed (types'.map ValueType.name) ++ rest') : types = types' ∧ rest = rest' := by
  have hitems : ∀ types : List ValueType, ∀ item ∈ types.map ValueType.name, Plain ',' item := by
    intro types item hitem
    obtain ⟨type, -, rfl⟩ := List.mem_map.mp hitem
    exact type.plain_name
  simp only [bracketed, String.append_assoc, String.append_right_inj] at h
  obtain ⟨hlist, hrest⟩ := append_separator_inj ']' (by decide)
    (notMem_types (by decide) (by decide) types) (notMem_types (by decide) (by decide) types') h
  have hnames := intercalate_inj ',' (by decide) (hitems types) (hitems types') hlist
  exact ⟨List.map_injective_iff.mpr (fun _ _ => ValueType.name_inj) hnames, hrest⟩

theorem bracketed_inj {types types' : List ValueType}
    (h : bracketed (types.map ValueType.name) = bracketed (types'.map ValueType.name)) :
    types = types' :=
  (bracketed_append_inj (congrArg (· ++ "") h)).1

theorem FunctionType.notMem_text (hletters : mark ∉ ValueType.letters.toList)
    (hmarks : mark ∉ "[, ] ->".toList) (type : FunctionType) : mark ∉ type.text.toList := by
  simp only [String.reduceToList, List.mem_cons, List.not_mem_nil, or_false, not_or] at hmarks
  have hlist := notMem_types hletters (by simp [hmarks])
  simp only [text, bracketed, String.toList_append, List.mem_append, hlist, not_or]
  simp [hmarks]

theorem FunctionType.text_inj {s t : FunctionType} (h : s.text = t.text) : s = t := by
  obtain ⟨params, results⟩ := s
  obtain ⟨params', results'⟩ := t
  simp only [text, String.append_assoc] at h
  obtain ⟨rfl, hresults⟩ := bracketed_append_inj h
  obtain rfl := bracketed_inj ((String.append_right_inj _).mp hresults)
  rfl

/-! ## Limits -/

/-- Whether the texts of sizes are read back from limits, which have dots between them. -/
structure Legible {α : Type} (display : α → String) : Prop where
  inj : ∀ {x y}, display x = display y → x = y
  shown : ∀ x, display x ≠ ""
  undotted : ∀ x, '.' ∉ (display x).toList

theorem legible_toString : Legible (toString : UInt32 → String) where
  inj h := UInt32.toNat_inj.mp (toString_inj h)
  shown _ := Nat.repr_ne_empty
  undotted size := notMem_toString (by decide) size.toNat

theorem legible_describe : Legible Pages.describe where
  inj {x y} h := by
    have hcount := legible_toString.inj ((String.append_left_inj _).mp h)
    exact congrArg Pages.mk hcount
  shown pages := by simp [Pages.describe]
  undotted pages := by
    rw [Pages.describe, String.toList_append, List.mem_append, not_or]
    exact ⟨legible_toString.undotted pages.count, by decide⟩

/-- The minimum ends at the dots, and the maximum, if there is one, at the bracket. -/
theorem Legible.limits_inj {α : Type} {display : α → String} (hlegible : Legible display)
    {minimum minimum' : α} {maximum maximum' : Option α}
    (h : display minimum ++ (".." ++ ((maximum.map display).getD "" ++ ")")) =
      display minimum' ++ (".." ++ ((maximum'.map display).getD "" ++ ")"))) :
    minimum = minimum' ∧ maximum = maximum' := by
  obtain ⟨hminimum, hmaximum⟩ := append_separator_inj '.' (by decide)
    (hlegible.undotted minimum) (hlegible.undotted minimum') h
  refine ⟨hlegible.inj hminimum, ?_⟩
  rw [String.append_left_inj] at hmaximum
  cases maximum with
  | none =>
    cases maximum' with
    | none => rfl
    | some size' => exact absurd hmaximum.symm (hlegible.shown size')
  | some size =>
    cases maximum' with
    | none => exact absurd hmaximum (hlegible.shown size)
    | some size' => exact congrArg some (hlegible.inj hmaximum)

theorem GlobalType.notMem_text (hletters : mark ∉ ValueType.letters.toList)
    (hmarks : mark ∉ " (constant mutable)".toList) (type : GlobalType) :
    mark ∉ type.text.toList := by
  simp only [String.reduceToList, List.mem_cons, List.not_mem_nil, or_false, not_or] at hmarks
  cases hmutability : type.mutability <;>
    simp [text, hmutability, Mutability.text, hmarks, type.content.notMem_name hletters]

theorem GlobalType.text_inj {s t : GlobalType} (h : s.text = t.text) : s = t := by
  obtain ⟨content, mutability⟩ := s
  obtain ⟨content', mutability'⟩ := t
  simp only [text, String.append_assoc] at h
  obtain ⟨hcontent, hmutability⟩ := append_separator_inj ' ' (by decide)
    (content.notMem_name (by decide)) (content'.notMem_name (by decide)) h
  rw [String.append_left_inj] at hmutability
  rw [ValueType.name_inj hcontent, Mutability.text_inj hmutability]

theorem TableType.notMem_text (hletters : mark ∉ ValueType.letters.toList)
    (hdigit : mark.isDigit = false) (hmarks : mark ∉ " (..)".toList) (type : TableType) :
    mark ∉ type.text.toList := by
  have hsize : ∀ size : UInt32, mark ∉ (toString size).toList :=
    fun size => notMem_toString hdigit size.toNat
  simp only [String.reduceToList, List.mem_cons, List.not_mem_nil, or_false, not_or] at hmarks
  cases hmaximum : type.maximum <;>
    simp [text, hmaximum, hsize, hmarks, type.element.notMem_name hletters]

theorem TableType.text_inj {s t : TableType} (h : s.text = t.text) : s = t := by
  obtain ⟨element, minimum, maximum⟩ := s
  obtain ⟨element', minimum', maximum'⟩ := t
  simp only [text, String.append_assoc] at h
  obtain ⟨helement, hlimits⟩ := append_separator_inj ' ' (by decide)
    (element.notMem_name (by decide)) (element'.notMem_name (by decide)) h
  obtain ⟨rfl, rfl⟩ := legible_toString.limits_inj hlimits
  rw [ValueType.name_inj helement]

theorem MemoryType.notMem_text (hdigit : mark.isDigit = false)
    (hmarks : mark ∉ "not shared (..pages)".toList) (type : MemoryType) :
    mark ∉ type.text.toList := by
  have hsize : ∀ size : UInt32, mark ∉ (toString size).toList :=
    fun size => notMem_toString hdigit size.toNat
  simp only [String.reduceToList, List.mem_cons, List.not_mem_nil, or_false, not_or] at hmarks
  cases hshared : type.shared <;> cases hmaximum : type.maximum <;>
    simp [text, hshared, hmaximum, Pages.describe, hsize, hmarks]

theorem MemoryType.text_inj {s t : MemoryType} (h : s.text = t.text) : s = t := by
  obtain ⟨minimum, maximum, shared⟩ := s
  obtain ⟨minimum', maximum', shared'⟩ := t
  simp only [text, String.append_assoc] at h
  -- A text that begins with `shared` is not one that begins with `not`.
  obtain rfl : shared = shared' := by
    have hfirst := congrArg (fun text : String => text.toList.head?) h
    cases shared <;> cases shared' <;> first | rfl | simp at hfirst
  rw [String.append_right_inj, String.append_right_inj] at h
  obtain ⟨rfl, rfl⟩ := legible_describe.limits_inj h
  rfl

/-! ## Texts -/

namespace ExternType

theorem text_inj {s t : ExternType} (h : s.text = t.text) : s = t := by
  simp only [text, String.append_assoc] at h
  obtain ⟨hname, hbody⟩ := append_separator_inj ' ' (by decide) s.kind.blank_notMem_name
    t.kind.blank_notMem_name h
  have hkind := ExternKind.name_inj hname
  cases s with
  | function x =>
    cases t with
    | function y => exact congrArg function (FunctionType.text_inj hbody)
    | global y | table y | memory y => cases hkind
  | global x =>
    cases t with
    | global y => exact congrArg global (GlobalType.text_inj hbody)
    | function y | table y | memory y => cases hkind
  | table x =>
    cases t with
    | table y => exact congrArg table (TableType.text_inj hbody)
    | function y | global y | memory y => cases hkind
  | memory x =>
    cases t with
    | memory y => exact congrArg memory (MemoryType.text_inj hbody)
    | function y | global y | table y => cases hkind

/-! ## The last kind -/

/-- Whether no word of a text is the name of a kind. -/
def Kindless (text : String) : Prop :=
  ∀ word ∈ fragments ' ' text, ∀ kind : ExternKind, word ≠ kind.name

theorem kindless_append : Kindless (a ++ (" " ++ b)) ↔ Kindless a ∧ Kindless b := by
  rw [Kindless, fragments_append (by decide), List.forall_mem_append]
  rfl

/-- The name of a kind does not stand in a text without one of its letters. -/
theorem kindless_of_notMem (letter : ExternKind → Char)
    (hname : ∀ kind, letter kind ∈ kind.name.toList) (htext : ∀ kind, letter kind ∉ a.toList) :
    Kindless a := by
  rintro word hword kind rfl
  exact htext kind (mem_of_mem_fragments hword (hname kind))

/-- Two letters are enough for all kinds. -/
theorem kindless_of_notMem_of_notMem (ho : 'o' ∉ a.toList) (ha : 'a' ∉ a.toList) :
    Kindless a := by
  refine kindless_of_notMem (fun kind => if kind = .table then 'a' else 'o') (fun kind => ?_)
    fun kind => ?_
  · cases kind <;> decide
  · cases kind with
    | table => exact ha
    | function | global | memory => exact ho

theorem kindless_global (type : GlobalType) : Kindless type.text := by
  have hcontent : Kindless type.content.name :=
    kindless_of_notMem_of_notMem (type.content.notMem_name (by decide))
      (type.content.notMem_name (by decide))
  have hmutability : Kindless ("(" ++ (type.mutability.text ++ ")")) := by
    have hblank : ' ' ∉ ("(" ++ (type.mutability.text ++ ")")).toList := by
      cases type.mutability <;> decide
    rw [Kindless, fragments_eq_singleton hblank, List.forall_mem_singleton]
    intro kind hkind
    generalize type.mutability = mutability at hkind
    cases mutability <;> cases kind <;> exact absurd hkind (by decide)
  have htext : type.text =
      type.content.name ++ (" " ++ ("(" ++ (type.mutability.text ++ ")"))) := by
    simp only [GlobalType.text, String.append_assoc]
    rfl
  rw [htext]
  exact kindless_append.mpr ⟨hcontent, hmutability⟩

theorem kindless_body (type : ExternType) : Kindless type.body := by
  cases type with
  | function type =>
    exact kindless_of_notMem_of_notMem (type.notMem_text (by decide) (by decide))
      (type.notMem_text (by decide) (by decide))
  | global type => exact kindless_global type
  | table type =>
    exact kindless_of_notMem_of_notMem (type.notMem_text (by decide) (by decide) (by decide))
      (type.notMem_text (by decide) (by decide) (by decide))
  | memory type =>
    refine kindless_of_notMem
      (fun kind => if kind = .function then 'f' else if kind = .memory then 'm' else 'l')
      (fun kind => ?_) fun kind => ?_
    · cases kind <;> decide
    · cases kind <;> exact type.notMem_text (by decide) (by decide)

/-- Wherever the text of a type stands behind something else, it is read back. -/
theorem append_text_inj {s t : ExternType} (h : a ++ (" " ++ s.text) = b ++ (" " ++ t.text)) :
    a = b ∧ s = t := by
  have hwords : ∀ (front : String) (type : ExternType),
      fragments ' ' (front ++ (" " ++ type.text)) =
        fragments ' ' front ++ type.kind.name :: fragments ' ' type.body := by
    intro front type
    rw [text, String.append_assoc, fragments_append (by decide), fragments_append (by decide),
      fragments_eq_singleton type.kind.blank_notMem_name, List.singleton_append]
  have hkindless : ∀ type : ExternType, ∀ word ∈ fragments ' ' type.body,
      ¬ ∃ kind : ExternKind, word = kind.name := by
    rintro type word hword ⟨kind, hkind⟩
    exact kindless_body type word hword kind hkind
  have hfragments := congrArg (fragments ' ') h
  rw [hwords, hwords] at hfragments
  obtain ⟨hfront, hkind, hbody⟩ := append_cons_inj_of_last (hkindless s) (hkindless t)
    ⟨_, rfl⟩ ⟨_, rfl⟩ hfragments
  refine ⟨fragments_inj hfront, text_inj ?_⟩
  rw [text, text, hkind, fragments_inj hbody]

end ExternType

end HostLink

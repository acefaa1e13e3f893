/-
Plain lines of a TOML document.

`Spelled` says how a blank line, the header of a table and the assignment of a number are
written without quotes, comments or further blanks.  Each reader takes such a line off the
front and stops at its end, whatever follows, so a document of such lines is read line by
line.
-/
import HostLink.Proofs.Toml.Decimal
import HostLink.Toml.Document
import Mathlib.Data.List.Forall2

namespace HostLink
namespace Toml

/-! ## Keys without quotes -/

theorem ne_of_isBareKeyChar {c other : Char} (hc : isBareKeyChar c)
    (hother : isBareKeyChar other = false) : c ≠ other := by
  rintro rfl
  rw [hother] at hc
  cases hc

namespace Bare

variable {name : String} {rest : List Char}

theorem exists_cons (h : Bare name) :
    ∃ c cs, name.toList = c :: cs ∧ isBareKeyChar c = true := by
  obtain ⟨c, cs, hcons⟩ := List.exists_cons_of_ne_nil h.1
  exact ⟨c, cs, hcons, h.2 c (hcons ▸ List.mem_cons_self)⟩

theorem of_mem_head? {c : Char} (h : Bare name) (hc : c ∈ (name.toList ++ rest).head?) :
    isBareKeyChar c := by
  obtain ⟨first, cs, hcons, hfirst⟩ := h.exists_cons
  rw [hcons] at hc
  obtain rfl := Option.some.inj hc
  exact hfirst

end Bare

namespace Text

variable {α β : Type} {good : Char → Bool} {cs rest : List Char} {name : String} {n : Nat}

/-! ## Readers -/

/-- A reader goes on where the one before it has stopped. -/
theorem bind_eq {first : Text α} {next : α → Text β} {a : α} (h : first cs = some (a, rest)) :
    (first >>= next) cs = next a rest := by
  show (first cs).bind _ = _
  rw [h]
  rfl

theorem takeWhile_append (hall : ∀ c ∈ cs, good c) (hstop : ∀ c ∈ rest.head?, good c = false) :
    takeWhile good (cs ++ rest) = some (cs, rest) := by
  rw [takeWhile, List.takeWhile_append_of_pos hall, List.dropWhile_append_of_pos hall]
  cases rest with
  | nil => simp
  | cons c rest => simp [hstop c rfl]

theorem blanks_eq (hstop : ∀ c ∈ rest.head?, isBlank c = false) : blanks rest = some ((), rest) :=
  bind_eq (takeWhile_append (List.forall_mem_nil _) hstop)

theorem blanks_cons (hstop : ∀ c ∈ rest.head?, isBlank c = false) :
    blanks (' ' :: rest) = some ((), rest) := by
  have htake : takeWhile isBlank ([' '] ++ rest) = some ([' '], rest) :=
    takeWhile_append (by simp [isBlank]) hstop
  exact bind_eq htake

/-! ## Keys -/

theorem blanks_bare (h : Bare name) (rest : List Char) :
    blanks (name.toList ++ rest) = some ((), name.toList ++ rest) := by
  refine Text.blanks_eq fun c hc => ?_
  have hbare := h.of_mem_head? hc
  have hspace : c ≠ ' ' := ne_of_isBareKeyChar hbare (by decide)
  have htab : c ≠ '\t' := ne_of_isBareKeyChar hbare (by decide)
  simp [isBlank, hspace, htab]

theorem simpleKey_eq (h : Bare name) (hstop : ∀ c ∈ rest.head?, isBareKeyChar c = false) :
    simpleKey (name.toList ++ rest) = some (name, rest) := by
  obtain ⟨c, cs, hcons, hc⟩ := h.exists_cons
  have hdouble : c ≠ '"' := ne_of_isBareKeyChar hc (by decide)
  have hsingle : c ≠ '\x27' := ne_of_isBareKeyChar hc (by decide)
  have hpeek : peek? (name.toList ++ rest) = some (some c, name.toList ++ rest) := by
    rw [hcons]
    rfl
  have htake := takeWhile_append h.2 hstop
  have hname : String.ofList (c :: cs) = name := by
    rw [← hcons, String.ofList_toList]
  unfold simpleKey
  rw [bind_eq hpeek]
  simp only [Option.some.injEq, hdouble, hsingle, imp_self]
  rw [bind_eq htake, hcons]
  exact congrArg (fun found => some (found, rest)) hname

theorem char?_eq_false {c : Char} (hrest : c ∉ rest.head?) :
    char? c rest = some (false, rest) := by
  cases rest with
  | nil => rfl
  | cons d rest =>
    have hne : c ≠ d := fun e => hrest (e ▸ rfl)
    simp [char?, hne]

theorem char_eq (c : Char) (rest : List Char) : char c (c :: rest) = some ((), rest) := by
  simp [char]

/-- A key of one part ends where no dot follows. -/
theorem key_eq {behind : List Char} (h : Bare name)
    (hstop : ∀ c ∈ behind.head?, isBareKeyChar c = false)
    (hblanks : blanks behind = some ((), rest)) (hdot : '.' ∉ rest.head?) :
    key (name.toList ++ behind) = some ([name], rest) := by
  unfold key maxDepth keyWithin
  rw [bind_eq (simpleKey_eq h hstop), bind_eq hblanks, bind_eq (char?_eq_false hdot)]
  rfl

/-! ## Values -/

theorem isScalarChar_of_isDigit {c : Char} (hc : c.isDigit) : isScalarChar c := by
  simp [isScalarChar, Char.isAlphanum, hc]

/-- What may stand behind a line: nothing, or the end of the line. -/
def AtEnd (rest : List Char) : Prop := ∀ c ∈ rest.head?, c = '\n'

theorem AtEnd.head_eq_false (h : AtEnd rest) (hgood : good '\n' = false) :
    ∀ c ∈ rest.head?, good c = false := by
  intro c hc
  rw [h c hc, hgood]

theorem AtEnd.notMem_head {c : Char} (h : AtEnd rest) (hc : c ≠ '\n') : c ∉ rest.head? :=
  fun hmem => hc (h c hmem)

theorem isScalarChar_newline : isScalarChar '\n' = false := by
  simp [isScalarChar]

theorem scalar_eq (hn : inRange n) (hrest : AtEnd rest) :
    scalar (digits n ++ rest) = some (.integer n, rest) := by
  have htake : takeWhile isScalarChar (digits n ++ rest) = some (digits n, rest) :=
    takeWhile_append (fun _ hc => isScalarChar_of_isDigit (isDigit_of_mem_digits hc))
      (hrest.head_eq_false isScalarChar_newline)
  unfold scalar
  rw [bind_eq htake, bind_eq (rfl : (get : Text (List Char)) rest = some (rest, rest))]
  split
  · exact absurd rfl (hrest.notMem_head (by decide))
  · rw [bind_eq (rfl : (pure (digits n) : Text (List Char)) rest = some (digits n, rest))]
    dsimp only
    rw [ofScalar?_digits hn]
    rfl

/-- Digits open no list, table or string. -/
theorem value_eq (hn : inRange n) (hrest : AtEnd rest) :
    value (digits n ++ rest) = some (.integer n, rest) := by
  obtain ⟨c, cs, hcons⟩ := List.exists_cons_of_ne_nil (digits_ne_nil n)
  have hc : c.isDigit := isDigit_of_mem_digits (hcons ▸ List.mem_cons_self)
  have hpeek : peek? (digits n ++ rest) = some (some c, digits n ++ rest) := by
    rw [hcons]
    rfl
  have hlist : c ≠ '[' := ne_of_isDigit hc (by decide)
  have htable : c ≠ '\x7b' := ne_of_isDigit hc (by decide)
  have hdouble : c ≠ '"' := ne_of_isDigit hc (by decide)
  have hsingle : c ≠ '\x27' := ne_of_isDigit hc (by decide)
  unfold value maxDepth valueWithin
  rw [bind_eq hpeek]
  simp only [Option.some.injEq, hlist, htable, imp_self]
  unfold plainValue
  rw [bind_eq hpeek]
  simp only [Option.some.injEq, hdouble, hsingle, imp_self]
  exact scalar_eq hn hrest

/-! ## Lines -/

/-- A line and its text. -/
inductive Spelled : String → Line → Prop
  | blank : Spelled "" .blank
  | header {title : String} (htitle : Bare title) :
      Spelled ("[" ++ title ++ "]") (.header [] title)
  | assignment {name : String} {n : Nat} (hname : Bare name) (hn : inRange n) :
      Spelled (name ++ " = " ++ toString n) (.assignment [] name (.integer n))

theorem header_eq {title : String} (htitle : Bare title) (rest : List Char) :
    header (title.toList ++ ']' :: rest) = some (.header [] title, rest) := by
  have hbracket : '[' ∉ (title.toList ++ ']' :: rest).head? := fun hc => by
    have hbare := htitle.of_mem_head? hc
    exact absurd hbare (by decide)
  have hkey : key (title.toList ++ ']' :: rest) = some ([title], ']' :: rest) :=
    key_eq htitle (by simp; decide) (blanks_eq (by simp; decide)) (by simp)
  unfold header
  rw [bind_eq (char?_eq_false hbracket), bind_eq (blanks_bare htitle _), bind_eq hkey,
    bind_eq (char_eq ']' rest)]
  rfl

theorem assignment_eq (hname : Bare name) (hn : inRange n) (hrest : AtEnd rest) :
    assignment value (name.toList ++ ' ' :: '=' :: ' ' :: (digits n ++ rest)) =
      some (([name], .integer n), rest) := by
  have hkey : key (name.toList ++ ' ' :: '=' :: ' ' :: (digits n ++ rest)) =
      some ([name], '=' :: ' ' :: (digits n ++ rest)) :=
    key_eq hname (by simp; decide) (blanks_cons (by simp; decide)) (by simp)
  have hblanks : blanks (' ' :: (digits n ++ rest)) = some ((), digits n ++ rest) := by
    refine blanks_cons fun c hc => ?_
    obtain ⟨first, cs, hcons⟩ := List.exists_cons_of_ne_nil (digits_ne_nil n)
    rw [hcons] at hc
    obtain rfl := Option.some.inj hc
    have hdigit : first.isDigit := isDigit_of_mem_digits (hcons ▸ List.mem_cons_self)
    have hspace : first ≠ ' ' := ne_of_isDigit hdigit (by decide)
    have htab : first ≠ '\t' := ne_of_isDigit hdigit (by decide)
    simp [isBlank, hspace, htab]
  unfold assignment
  rw [bind_eq hkey, bind_eq (char_eq '=' _), bind_eq hblanks, bind_eq (value_eq hn hrest)]
  rfl

/-- The reader of lines takes a line off the front and stops at its end. -/
theorem Spelled.lineContent_eq {text : String} {line : Line} (h : Spelled text line)
    (hrest : AtEnd rest) : lineContent (text.toList ++ rest) = some (line, rest) := by
  cases h with
  | blank =>
    cases rest with
    | nil => rfl
    | cons c rest =>
      obtain rfl := hrest c rfl
      rfl
  | @header title htitle =>
    have htext : ("[" ++ title ++ "]").toList ++ rest = '[' :: (title.toList ++ ']' :: rest) := by
      simp
    have hpeek : peek? ('[' :: (title.toList ++ ']' :: rest)) =
        some (some '[', '[' :: (title.toList ++ ']' :: rest)) := rfl
    rw [htext]
    unfold lineContent
    rw [bind_eq (blanks_eq (by simp; decide)), bind_eq hpeek]
    change (do char '['; Text.header : Text Line) _ = _
    rw [bind_eq (char_eq '[' _)]
    exact header_eq htitle rest
  | @assignment name n hname hn =>
    have htext : (name ++ " = " ++ toString n).toList ++ rest =
        name.toList ++ ' ' :: '=' :: ' ' :: (digits n ++ rest) := by
      simp only [String.toList_append, toList_toString, List.append_assoc]
      rfl
    obtain ⟨c, cs, hcons, hc⟩ := hname.exists_cons
    have hpeek : peek? (name.toList ++ ' ' :: '=' :: ' ' :: (digits n ++ rest)) =
        some (some c, name.toList ++ ' ' :: '=' :: ' ' :: (digits n ++ rest)) := by
      rw [hcons]
      rfl
    have hcomment : c ≠ '#' := ne_of_isBareKeyChar hc (by decide)
    have hnewline : c ≠ '\n' := ne_of_isBareKeyChar hc (by decide)
    have hreturn : c ≠ '\r' := ne_of_isBareKeyChar hc (by decide)
    have hbracket : c ≠ '[' := ne_of_isBareKeyChar hc (by decide)
    rw [htext]
    unfold lineContent
    rw [bind_eq (blanks_bare hname _), bind_eq hpeek]
    simp only
    rw [bind_eq (assignment_eq hname hn hrest)]
    rfl

/-! ## Documents -/

theorem AtEnd.blanks_eq (h : AtEnd rest) : blanks rest = some ((), rest) :=
  Text.blanks_eq (h.head_eq_false (by decide))

theorem AtEnd.comment_eq (h : AtEnd rest) : comment rest = some ((), rest) := by
  unfold comment
  rw [bind_eq (char?_eq_false (h.notMem_head (by decide)))]
  rfl

theorem toList_intercalate_cons (first second : String) (others : List String) :
    ("\n".intercalate (first :: second :: others)).toList =
      first.toList ++ '\n' :: ("\n".intercalate (second :: others)).toList := by
  rw [String.intercalate_cons_cons, String.toList_append, String.toList_append,
    List.append_assoc]
  rfl

/-- Plain lines with breaks between them are read one by one. -/
theorem linesWithin_eq {texts : List String} {lines : List Line}
    (h : List.Forall₂ Spelled texts lines) (hsome : texts ≠ []) {fuel : Nat}
    (hfuel : texts.length ≤ fuel) :
    linesWithin fuel ("\n".intercalate texts).toList = some (lines, []) := by
  induction h generalizing fuel with
  | nil => exact absurd rfl hsome
  | @cons text line texts lines hline hlines ih =>
    obtain ⟨fuel, rfl⟩ := Nat.exists_eq_add_one_of_ne_zero (Nat.ne_of_gt (Nat.lt_of_lt_of_le
      (Nat.succ_pos texts.length) hfuel))
    unfold linesWithin
    cases hlines with
    | nil =>
      have hend : AtEnd [] := nofun
      have hread := hline.lineContent_eq hend
      rw [List.append_nil] at hread
      rw [String.intercalate_singleton, bind_eq hread, bind_eq hend.blanks_eq,
        bind_eq hend.comment_eq, bind_eq (rfl : newline? [] = some (false, []))]
      rfl
    | @cons second _ others _ hsecond hothers =>
      have hrest := ih (List.cons_ne_nil _ _) (Nat.le_of_succ_le_succ hfuel)
      have hend : AtEnd ('\n' :: ("\n".intercalate (second :: others)).toList) :=
        fun c hc => (Option.some.inj hc).symm
      rw [toList_intercalate_cons, bind_eq (hline.lineContent_eq hend), bind_eq hend.blanks_eq,
        bind_eq hend.comment_eq, bind_eq (rfl : newline? ('\n' :: _) = some (true, _))]
      simp only [if_true]
      rw [bind_eq hrest]
      rfl

end Text

/-- No plain line begins with a byte order mark. -/
theorem Text.Spelled.head?_ne {text : String} {line : Line} (h : Text.Spelled text line) :
    text.toList.head? ≠ some byteOrderMark := by
  cases h with
  | blank => decide
  | header htitle =>
    rw [String.toList_append, String.toList_append]
    exact fun hmark => absurd (Option.some.inj hmark) (by decide)
  | assignment hname _ =>
    intro hmark
    rw [String.toList_append, String.toList_append, List.append_assoc] at hmark
    exact absurd (hname.of_mem_head? hmark) (by decide)

theorem length_le_intercalate (texts : List String) :
    texts.length ≤ ("\n".intercalate texts).toList.length + 1 := by
  induction texts with
  | nil => exact Nat.zero_le _
  | cons first rest ih =>
    cases rest with
    | nil => simp
    | cons second others =>
      rw [Text.toList_intercalate_cons, List.length_append]
      simp only [List.length_cons] at ih ⊢
      omega

theorem lines?_eq {texts : List String} {lines : List Line}
    (h : List.Forall₂ Text.Spelled texts lines) (hsome : texts ≠ []) :
    lines? ("\n".intercalate texts) = some lines := by
  have hmark : ("\n".intercalate texts).toList.head? ≠ some byteOrderMark := by
    cases h with
    | nil => exact absurd rfl hsome
    | @cons first _ rest _ hfirst _ =>
      cases rest with
      | nil =>
        rw [String.intercalate_singleton]
        exact hfirst.head?_ne
      | cons second others =>
        have hfirst := hfirst.head?_ne
        rw [Text.toList_intercalate_cons]
        cases hcs : first.toList with
        | nil => exact fun hbreak => absurd (Option.some.inj hbreak) (by decide)
        | cons c cs => rwa [hcs] at hfirst
  simp only [lines?, if_neg hmark]
  rw [Text.linesWithin_eq h hsome (length_le_intercalate texts)]
  rfl

end Toml
end HostLink

/-
The lines of what is printed.

Texts are printed one after the other with a line break behind each, and whoever reads them
has only the breaks to go by.  The texts come back as the lines exactly if none of them has
a break of its own, and their number comes back in the same case only.

The message of a failure is built from the names of its import, which are taken over as they
are, and from types, whose texts have no breaks.  So a message is one line exactly if the two
names are.
-/
import HostLink.Command
import HostLink.Proofs.Link.TypeText

namespace HostLink

/-! ## Texts of one line -/

/-- Whether a text has no line break. -/
def OneLine (text : String) : Prop := '\n' ∉ text.toList

instance (text : String) : Decidable (OneLine text) := inferInstanceAs (Decidable (_ ∉ _))

variable {a b : String}

@[simp] theorem oneLine_append : OneLine (a ++ b) ↔ OneLine a ∧ OneLine b := by
  simp [OneLine]

/-! ## Printed texts -/

/-- What the line breaks of a text leave of it. -/
def pieces (text : String) : List String := (text.toList.splitOn '\n').map String.ofList

/-- The lines of a text.  A line ends with a break, so what stands behind the last break is
none. -/
def rows (text : String) : List String := (pieces text).dropLast

theorem pieces_ne_nil (text : String) : pieces text ≠ [] := by
  simp [pieces, List.splitOn_ne_nil]

theorem pieces_eq_singleton (h : OneLine a) : pieces a = [a] := fragments_eq_singleton h

theorem pieces_append_break (text rest : String) :
    pieces (text ++ "\n" ++ rest) = pieces text ++ pieces rest := by
  rw [String.append_assoc]
  exact fragments_append rfl text rest

theorem length_pieces_eq_one_iff : (pieces a).length = 1 ↔ OneLine a := by
  constructor
  · intro hlength hbreak
    obtain ⟨before, behind, hsplit⟩ := List.append_of_mem hbreak
    have hbefore := List.length_pos_iff.mpr (List.splitOn_ne_nil '\n' before)
    have hbehind := List.length_pos_iff.mpr (List.splitOn_ne_nil '\n' behind)
    rw [pieces, hsplit, List.splitOn_append_cons_self, List.length_map,
      List.length_append] at hlength
    omega
  · intro h
    rw [pieces_eq_singleton h]
    rfl

/-- The lines of printed texts are their pieces. -/
theorem rows_lines (texts : List String) : rows (Command.lines texts) = texts.flatMap pieces := by
  induction texts with
  | nil => rfl
  | cons first rest ih =>
    have hcons : Command.lines (first :: rest) = first ++ "\n" ++ Command.lines rest :=
      String.join_cons
    rw [rows, hcons, pieces_append_break, List.dropLast_append_of_ne_nil (pieces_ne_nil _),
      List.flatMap_cons, ← ih, rows]

/-- No text takes less than a line, so only texts without breaks take as many lines as there
are texts. -/
theorem length_rows_lines_iff {texts : List String} :
    (rows (Command.lines texts)).length = texts.length ↔ ∀ text ∈ texts, OneLine text := by
  have hle : ∀ texts : List String, texts.length ≤ (texts.flatMap pieces).length := by
    intro texts
    induction texts with
    | nil => exact Nat.le_refl 0
    | cons first rest ih =>
      have hfirst := List.length_pos_iff.mpr (pieces_ne_nil first)
      rw [List.flatMap_cons, List.length_append, List.length_cons]
      omega
  rw [rows_lines]
  induction texts with
  | nil => simp
  | cons first rest ih =>
    have hfirst := List.length_pos_iff.mpr (pieces_ne_nil first)
    have hrest := hle rest
    rw [List.flatMap_cons, List.length_append, List.length_cons, List.forall_mem_cons]
    refine Iff.trans ?_ (and_congr length_pieces_eq_one_iff ih)
    omega

theorem rows_lines_eq_iff {texts : List String} :
    rows (Command.lines texts) = texts ↔ ∀ text ∈ texts, OneLine text := by
  constructor
  · intro h
    exact length_rows_lines_iff.mp (congrArg List.length h)
  · intro h
    rw [rows_lines]
    induction texts with
    | nil => rfl
    | cons first rest ih =>
      rw [List.flatMap_cons, pieces_eq_singleton (h first List.mem_cons_self),
        ih fun text htext => h text (List.mem_cons_of_mem first htext)]
      rfl

/-! ## Messages -/

theorem ExternType.oneLine_text (type : ExternType) : OneLine type.text := by
  have hkind : OneLine type.kind.name := by
    cases type.kind <;> decide
  have hbody : OneLine type.body := by
    cases type with
    | function type | global type => exact type.notMem_text (by decide) (by decide)
    | table type => exact type.notMem_text (by decide) (by decide) (by decide)
    | memory type => exact type.notMem_text (by decide) (by decide)
  rw [text, oneLine_append, oneLine_append]
  exact ⟨⟨hkind, by decide⟩, hbody⟩

/-- The message of a failure is one line if the names of its import are. -/
theorem ResolveError.oneLine_message (error : ResolveError) :
    OneLine error.message ↔ OneLine error.import_.1 ∧ OneLine error.import_.2 := by
  cases error <;> unfold message import_ <;>
    simp +decide only [oneLine_append, ExternType.oneLine_text, and_true, true_and,
      and_self]

end HostLink

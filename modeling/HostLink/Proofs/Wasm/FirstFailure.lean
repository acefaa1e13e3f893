/-
The first failure in a binary decides what becomes of it.

`places` are all there is to be read in a binary, in file order, each with the number of bytes up
to the end of its section if that is there in full.  A binary is refused for the first place that
is at fault, even if it is invalid in other ways; only if there is none, it is up to the
validator.

A parser reads from front to back, so the places up to the end of a section are the same whatever
follows it, and so is the first failure among them.
-/
import HostLink.Proofs.Wasm.IndexSpaces

namespace HostLink
namespace Wasm

/-! ## Places -/

/-- Something to be read in a binary, and where its section ends. -/
structure Place where
  item : Item
  stop : Option Nat

def Reading.places (reading : Reading) : List Place :=
  reading.items.map (⟨·, reading.stop⟩)

def places (readings : List Reading) : List Place := readings.flatMap Reading.places

/-- Whether a place is the first that is at fault, in view of what was read before. -/
def FirstFailure (readings : List Reading) (place : Place) (fault : Fault) : Prop :=
  ∃ before after, places readings = before ++ place :: after ∧
    Contents.firstFault? {} (before.map Place.item) = none ∧
    (Contents.ofItems (before.map Place.item)).fault? place.item = some fault

variable {readings : List Reading} {place : Place} {fault : Fault}

theorem map_item_places (readings : List Reading) :
    (places readings).map Place.item = items readings := by
  induction readings with
  | nil => rfl
  | cons first rest ih =>
    have hfirst : first.places.map Place.item = first.items := by
      simp [Reading.places, Function.comp_def]
    rw [places, List.flatMap_cons, List.map_append, hfirst, items, List.flatMap_cons]
    exact congrArg (first.items ++ ·) ih

/-! ## The first of all faults -/

namespace Contents

theorem firstFault?_append (c : Contents) (first second : List Item) :
    c.firstFault? (first ++ second) =
      (c.firstFault? first <|> (first.foldl add c).firstFault? second) := by
  induction first generalizing c with
  | nil => rfl
  | cons item rest ih =>
    rw [List.cons_append, firstFault?, firstFault?, ih, List.foldl_cons]
    cases c.fault? item <;> rfl

theorem exists_of_firstFault? {c : Contents} {items : List Item}
    (h : c.firstFault? items = some fault) :
    ∃ before item after, items = before ++ item :: after ∧ c.firstFault? before = none ∧
      (before.foldl add c).fault? item = some fault := by
  induction items generalizing c with
  | nil => cases h
  | cons first rest ih =>
    rw [firstFault?] at h
    cases hfirst : c.fault? first with
    | some found =>
      rw [hfirst] at h
      obtain rfl : found = fault := Option.some.inj h
      exact ⟨[], first, rest, rfl, rfl, hfirst⟩
    | none =>
      rw [hfirst] at h
      obtain ⟨before, item, after, rfl, hbefore, hitem⟩ := ih h
      refine ⟨first :: before, item, after, rfl, ?_, hitem⟩
      rw [firstFault?, hfirst]
      exact hbefore

end Contents

theorem FirstFailure.firstFault? (h : FirstFailure readings place fault) :
    Contents.firstFault? {} (items readings) = some fault := by
  obtain ⟨before, after, hplaces, hbefore, hfault⟩ := h
  rw [← map_item_places, hplaces, List.map_append, List.map_cons, Contents.firstFault?_append,
    hbefore, Contents.firstFault?]
  show ((Contents.ofItems (before.map Place.item)).fault? place.item <|> _) = some fault
  rw [hfault]
  rfl

theorem exists_firstFailure (h : Contents.firstFault? {} (items readings) = some fault) :
    ∃ place, FirstFailure readings place fault := by
  rw [← map_item_places] at h
  obtain ⟨before, item, after, hitems, hbefore, hfault⟩ := Contents.exists_of_firstFault? h
  obtain ⟨first, second, hplaces, rfl, hsecond⟩ := List.map_eq_append_iff.mp hitems
  obtain ⟨place, rest, rfl, rfl, -⟩ := List.map_eq_cons_iff.mp hsecond
  exact ⟨place, first, rest, hplaces, hbefore, hfault⟩

/-! ## The bytes up to a place -/

/-- An item of two lists is in the first, or behind it in the second. -/
theorem append_eq_append_cons {α : Type} {first second before after : List α} {item : α}
    (h : first ++ second = before ++ item :: after) :
    (∃ others, first = before ++ item :: others) ∨
      ∃ before', before = first ++ before' ∧ second = before' ++ item :: after := by
  rcases List.append_eq_append_iff.mp h with ⟨before', hbefore, hsecond⟩ | ⟨others, hfirst, hrest⟩
  · exact .inr ⟨before', hbefore, hsecond⟩
  · cases others with
    | nil => exact .inr ⟨[], by rw [hfirst, List.append_nil, List.append_nil], hrest.symm⟩
    | cons item' others =>
      obtain ⟨rfl, -⟩ := List.cons.inj hrest
      exact .inl ⟨others, hfirst⟩

/-- The reading that a place belongs to. -/
theorem exists_reading {before after : List Place}
    (h : places readings = before ++ place :: after) :
    ∃ front reading behind, readings = front ++ reading :: behind ∧ reading.stop = place.stop ∧
      ∃ inside others, reading.places = inside ++ place :: others ∧
        before = places front ++ inside := by
  induction readings generalizing before with
  | nil =>
    cases before <;> cases h
  | cons first rest ih =>
    rw [places, List.flatMap_cons] at h
    rcases append_eq_append_cons h with ⟨others, hfirst⟩ | ⟨before', rfl, hrest⟩
    · have hmem : place ∈ first.places := by simp [hfirst]
      obtain ⟨item, -, rfl⟩ := List.mem_map.mp hmem
      exact ⟨[], first, rest, rfl, rfl, before, others, hfirst, rfl⟩
    · obtain ⟨front, reading, behind, rfl, hstop, inside, others, hreading, rfl⟩ := ih hrest
      exact ⟨first :: front, reading, behind, rfl, hstop, inside, others, hreading,
        (List.append_assoc ..).symm⟩

/-- The first failure is the same whatever follows the section that it stands in. -/
theorem FirstFailure.of_take_eq {frontend : Frontend} {bytes other : Bytes} {stop : Nat}
    (hfront : frontend.FrontToBack) (h : FirstFailure (frontend.parse bytes) place fault)
    (hstop : place.stop = some stop) (hother : other.take stop = bytes.take stop) :
    FirstFailure (frontend.parse other) place fault := by
  obtain ⟨before, after, hplaces, hbefore, hfault⟩ := h
  obtain ⟨front, reading, behind, hparse, hsame, inside, others, hreading, rfl⟩ :=
    exists_reading hplaces
  obtain ⟨behind', hparse'⟩ := hfront.prefix_ hparse (hsame.trans hstop) hother
  refine ⟨places front ++ inside, others ++ places behind', ?_, hbefore, hfault⟩
  rw [hparse', places, List.flatMap_append, List.flatMap_cons, hreading]
  simp [places]

/-- What has the same bytes up to the end of a section is a binary, too. -/
theorem FirstFailure.magic_prefix {frontend : Frontend} {bytes other : Bytes} {stop : Nat}
    (hfront : frontend.FrontToBack) (h : FirstFailure (frontend.parse bytes) place fault)
    (hstop : place.stop = some stop) (hother : other.take stop = bytes.take stop)
    (hbinary : magic <+: bytes) : magic <+: other := by
  obtain ⟨before, after, hplaces, -, -⟩ := h
  obtain ⟨front, reading, behind, hparse, hsame, -⟩ := exists_reading hplaces
  have hmem : reading ∈ frontend.parse bytes := by simp [hparse]
  have hlength : magic.length ≤ stop := hfront.header hmem (hsame.trans hstop)
  have htake : magic <+: bytes.take stop := List.prefix_take_iff.mpr ⟨hbinary, hlength⟩
  exact (hother ▸ htake).trans (List.take_prefix stop other)

end Wasm

namespace ModuleInfo

open Wasm

variable {frontend : Frontend} {bytes binary : Bytes}

/-! ## What becomes of a binary -/

theorem translate_of_fault {fault : Fault} (h : frontend.assemble bytes = .ok binary)
    (hfault : Contents.firstFault? {} (items (frontend.parse binary)) = some fault) :
    translate frontend bytes = .error fault.error := by
  rw [translate_eq h, (converts_readings (frontend.parse binary)).eq_error hfault]
  rfl

/-- Without a fault it is up to the validator. -/
theorem translate_of_no_fault (h : frontend.assemble bytes = .ok binary)
    (hfault : Contents.firstFault? {} (items (frontend.parse binary)) = none) :
    ∃ m, translate frontend bytes =
      match frontend.validate binary with
      | .ok _ => .ok m
      | .error reason => .error (.invalid reason) := by
  obtain ⟨s, hs, -⟩ := (converts_readings (frontend.parse binary)).exists_ok hfault
  refine ⟨s.module, ?_⟩
  rw [translate_eq h, hs]
  cases frontend.validate binary <;> rfl

/-- A binary is refused with the error of its first failure, and so is any other input that has
the same bytes up to the end of the section in which it stands.  If nothing in it fails, it is
refused as invalid unless the validator accepts it. -/
theorem first_failure (hbinaries : frontend.KeepsBinaries) (hfront : frontend.FrontToBack)
    (hbinary : magic <+: bytes) :
    (∀ place fault, FirstFailure (frontend.parse bytes) place fault →
      translate frontend bytes = .error fault.error ∧
        ∀ stop, place.stop = some stop → ∀ other, other.take stop = bytes.take stop →
          translate frontend other = .error fault.error) ∧
      (∀ reason, translate frontend bytes = .error (.invalid reason) ↔
        (∀ place fault, ¬ FirstFailure (frontend.parse bytes) place fault) ∧
          frontend.validate bytes = .error reason) ∧
      ((∃ m, translate frontend bytes = .ok m) ↔
        (∀ place fault, ¬ FirstFailure (frontend.parse bytes) place fault) ∧
          frontend.validate bytes = .ok ()) := by
  have hassemble := hbinaries bytes hbinary
  refine ⟨fun place fault h => ⟨translate_of_fault hassemble h.firstFault?, ?_⟩, ?_⟩
  · intro stop hstop other hother
    have hagain := hbinaries other (h.magic_prefix hfront hstop hother hbinary)
    exact translate_of_fault hagain (h.of_take_eq hfront hstop hother).firstFault?
  · cases hfault : Contents.firstFault? {} (items (frontend.parse bytes)) with
    | some fault =>
      obtain ⟨place, hfailure⟩ := exists_firstFailure hfault
      have hsome : ¬ ∀ place fault, ¬ FirstFailure (frontend.parse bytes) place fault :=
        fun hnone => hnone place fault hfailure
      rw [translate_of_fault hassemble hfault]
      cases fault <;> simp [Fault.error, hsome]
    | none =>
      have hnone : ∀ place fault, ¬ FirstFailure (frontend.parse bytes) place fault :=
        fun place fault hfailure => by cases hfault.symm.trans hfailure.firstFault?
      obtain ⟨m, hm⟩ := translate_of_no_fault hassemble hfault
      rw [hm]
      cases frontend.validate bytes <;> simp [hnone]

/-- A binary whose memory stands in front of its imports.  The second of these is of an unknown
type, the third a tag; a type that cannot be decoded and a section that is cut short follow. -/
def flawed : Bytes :=
  [0x00, 0x61, 0x73, 0x6d, 0x01, 0x00, 0x00, 0x00,
    5, 3, 1, 0, 1,
    2, 21, 3, 1, 0x61, 1, 0x67, 3, 0x7f, 0, 1, 0x61, 1, 0x66, 0, 7, 1, 0x61, 1, 0x74, 4, 0, 0,
    1, 2, 1, 0x50,
    11, 99]

/-- The unknown type decides, also where nothing or something else follows the imports. -/
theorem first_failure_flawed :
    FirstFailure (tools.parse flawed) ⟨.import_ ⟨"a", "f", .func 7⟩, some 36⟩
        (.unknownIndex .type 7) ∧
      translate tools flawed = .error (.unknownIndex .type 7) ∧
      translate tools (flawed.take 36) = .error (.unknownIndex .type 7) ∧
      translate tools (flawed.take 36 ++ [7, 1]) = .error (.unknownIndex .type 7) := by
  have hfirst : FirstFailure (tools.parse flawed) ⟨.import_ ⟨"a", "f", .func 7⟩, some 36⟩
      (.unknownIndex .type 7) := by
    refine ⟨[⟨.memory ⟨false, false, 1, none, none⟩, some 13⟩,
        ⟨.import_ ⟨"a", "g", .global ⟨.i32, false, false⟩⟩, some 36⟩],
      [⟨.import_ ⟨"a", "t", .tag 0⟩, some 36⟩, ⟨.undecodable malformedReason, some 40⟩,
        ⟨.undecodable malformedReason, none⟩], rfl, rfl, rfl⟩
  have hbinary : magic <+: flawed := ⟨_, rfl⟩
  obtain ⟨hfailure, -, -⟩ := first_failure tools_keepsBinaries tools_frontToBack hbinary
  obtain ⟨herror, hprefix⟩ := hfailure _ _ hfirst
  exact ⟨hfirst, herror, hprefix 36 rfl _ rfl, hprefix 36 rfl _ rfl⟩

end ModuleInfo
end HostLink

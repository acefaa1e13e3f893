/-
The front end of the program does what can be relied on.

A section is cut out of a binary by a local reader, so the cuts up to the end of a section are
the same whatever follows it (`cuts_append`).  The other two properties are read off the
assembler and off the order of sections that validation asks for.
-/
import HostLink.Proofs.Wasm.Local
import HostLink.Wasm.Tools

namespace HostLink
namespace Wasm

open Reader
open Section (Cut cuts frame ofFrame)

variable {isModule : Bool} {fuel offset : Nat} {bytes front rest : Bytes} {cut : Cut}

/-! ## The first section -/

theorem exists_frame {id : UInt8} {content : Bytes}
    (h : frame bytes = some ((id, content), rest)) :
    ∃ front, front ≠ [] ∧ bytes = front ++ rest ∧
      ∀ more, frame (front ++ more) = some ((id, content), more) := by
  obtain ⟨front, hbytes, hfront⟩ := Section.local_frame h
  refine ⟨front, ?_, hbytes, hfront⟩
  rintro rfl
  cases hfront []

theorem cuts_of_frame {id : UInt8} {content : Bytes} (hfront : front ≠ [])
    (hframe : ∀ more, frame (front ++ more) = some ((id, content), more)) (more : Bytes) :
    cuts isModule (fuel + 1) offset (front ++ more) =
      match ofFrame isModule id content with
      | none => [⟨none, some (offset + front.length)⟩]
      | some found =>
        ⟨some found, some (offset + front.length)⟩ ::
          cuts isModule fuel (offset + front.length) more := by
  have hempty : List.isEmpty (front ++ more) = false := by
    simp [hfront]
  have hlength : List.length (front ++ more) - List.length more = front.length := by
    simp
  cases hfound : ofFrame isModule id content <;>
    simp only [cuts, hempty, Bool.false_eq_true, if_false, hframe, hfound, hlength]

/-- A cut is that of the section that comes first, or behind it. -/
theorem mem_cuts_of_frame {id : UInt8} {content more : Bytes} (hfront : front ≠ [])
    (hframe : ∀ more, frame (front ++ more) = some ((id, content), more))
    (h : cut ∈ cuts isModule (fuel + 1) offset (front ++ more)) :
    cut.stop = some (offset + front.length) ∨
      cut ∈ cuts isModule fuel (offset + front.length) more := by
  rw [cuts_of_frame hfront hframe] at h
  split at h
  · obtain rfl := List.mem_singleton.mp h
    exact .inl rfl
  · rcases List.mem_cons.mp h with rfl | hrest
    · exact .inl rfl
    · exact .inr hrest

/-- Where there is a section in full, one comes first. -/
theorem frame_of_mem_cuts {n : Nat} (h : cut ∈ cuts isModule fuel offset bytes)
    (hstop : cut.stop = some n) :
    ∃ fuel' id content rest, fuel = fuel' + 1 ∧ frame bytes = some ((id, content), rest) := by
  cases fuel with
  | zero =>
    simp only [cuts] at h
    split at h
    · cases h
    · obtain rfl := List.mem_singleton.mp h
      cases hstop
  | succ fuel =>
    cases hframe : frame bytes with
    | none =>
      simp only [cuts, hframe] at h
      split at h
      · cases h
      · obtain rfl := List.mem_singleton.mp h
        cases hstop
    | some framed => exact ⟨fuel, framed.1.1, framed.1.2, framed.2, rfl, rfl⟩

/-! ## The bytes up to the end of a section -/

/-- The end of a section lies behind its first byte and within the bytes. -/
theorem bounds_of_mem_cuts {n : Nat} (h : cut ∈ cuts isModule fuel offset bytes)
    (hstop : cut.stop = some n) : offset < n ∧ n ≤ offset + bytes.length := by
  induction fuel generalizing offset bytes with
  | zero =>
    obtain ⟨fuel', _, _, _, hfuel, -⟩ := frame_of_mem_cuts h hstop
    cases hfuel
  | succ fuel ih =>
    obtain ⟨_, id, content, rest, -, hframe⟩ := frame_of_mem_cuts h hstop
    obtain ⟨front, hfront, rfl, hmore⟩ := exists_frame hframe
    have hpositive : 0 < front.length := List.length_pos_iff.mpr hfront
    rw [List.length_append]
    rcases mem_cuts_of_frame hfront hmore h with hfirst | hrest
    · obtain rfl := Option.some.inj (hfirst.symm.trans hstop)
      omega
    · have hbounds := ih hrest
      omega

/-- The bytes up to the end of a section begin with the section that comes first. -/
theorem exists_front_of_mem {common : Bytes}
    (h : cut ∈ cuts isModule fuel offset (common ++ rest))
    (hstop : cut.stop = some (offset + common.length)) :
    ∃ fuel' id content front common', fuel = fuel' + 1 ∧ front ≠ [] ∧ common = front ++ common' ∧
      ∀ more, frame (front ++ more) = some ((id, content), more) := by
  obtain ⟨fuel', id, content, behind, rfl, hframe⟩ := frame_of_mem_cuts h hstop
  obtain ⟨front, hfront, hbytes, hmore⟩ := exists_frame hframe
  have hle : front.length ≤ common.length := by
    rw [hbytes] at h
    rcases mem_cuts_of_frame hfront hmore h with hfirst | hrest
    · have hend := Option.some.inj (hfirst.symm.trans hstop)
      omega
    · have hbounds := bounds_of_mem_cuts hrest hstop
      omega
  have hprefix : front <+: common :=
    List.prefix_of_prefix_length_le ⟨behind, hbytes.symm⟩ ⟨rest, rfl⟩ hle
  obtain ⟨common', hcommon⟩ := hprefix
  exact ⟨fuel', id, content, front, common', rfl, hfront, hcommon.symm, hmore⟩

/-- The cuts up to the end of a section are there whatever follows it. -/
theorem cuts_append {common other : Bytes} {before after : List Cut} {fuel' : Nat}
    (h : cuts isModule fuel offset (common ++ rest) = before ++ cut :: after)
    (hstop : cut.stop = some (offset + common.length))
    (hfuel : List.length (common ++ other) ≤ fuel') :
    ∃ after', cuts isModule fuel' offset (common ++ other) = before ++ cut :: after' := by
  induction fuel generalizing offset common before fuel' with
  | zero =>
    have hmem : cut ∈ cuts isModule 0 offset (common ++ rest) := by simp [h]
    obtain ⟨_, _, _, _, hzero, -⟩ := frame_of_mem_cuts hmem hstop
    cases hzero
  | succ fuel ih =>
    have hmem : cut ∈ cuts isModule (fuel + 1) offset (common ++ rest) := by simp [h]
    obtain ⟨_, id, content, front, common, -, hfront, rfl, hmore⟩ := exists_front_of_mem hmem hstop
    have hpositive : 0 < front.length := List.length_pos_iff.mpr hfront
    rw [List.append_assoc] at h hfuel ⊢
    rw [List.length_append] at hfuel hstop
    obtain ⟨fuel', rfl⟩ : ∃ fuel'', fuel' = fuel'' + 1 := ⟨fuel' - 1, by omega⟩
    rw [cuts_of_frame hfront hmore] at h ⊢
    cases hfound : ofFrame isModule id content with
    | none =>
      rw [hfound] at h
      exact ⟨after, h⟩
    | some found =>
      rw [hfound] at h
      dsimp only at h ⊢
      cases before with
      | nil =>
        obtain ⟨rfl, -⟩ := List.cons.inj h
        exact ⟨_, rfl⟩
      | cons first before =>
        -- The cut is behind the first section.
        obtain ⟨rfl, hrest⟩ := List.cons.inj h
        have hstop' : cut.stop = some (offset + front.length + common.length) := by
          rw [hstop, Nat.add_assoc]
        have hfuel' : List.length (common ++ other) ≤ fuel' := by omega
        obtain ⟨after', hafter'⟩ := ih hrest hstop' hfuel'
        exact ⟨after', by rw [hafter', List.cons_append]⟩

/-! ## Front to back -/

theorem parse_of_header {version : Nat}
    (hheader : ∀ more, Binary.header (front ++ more) = some ((version, isModule), more))
    (more : Bytes) :
    parse (front ++ more) = (cuts isModule more.length front.length more).map Cut.reading := by
  have hlength : List.length (front ++ more) - List.length more = front.length := by
    simp
  simp only [parse, Binary.decode, hheader, Option.map_some, hlength]

theorem header_of_mem_parse {reading : Reading} {n : Nat} (h : reading ∈ parse bytes)
    (hstop : reading.stop = some n) :
    ∃ version isModule front rest, bytes = front ++ rest ∧ magic.length ≤ front.length ∧
      ∀ more, Binary.header (front ++ more) = some ((version, isModule), more) := by
  cases hheader : Binary.header bytes with
  | none =>
    simp only [parse, Binary.decode, hheader, Option.map_none] at h
    obtain rfl := List.mem_singleton.mp h
    cases hstop
  | some found =>
    obtain ⟨front, hbytes, hfront⟩ := Binary.local_header hheader
    have hmagic : magic <+: front ++ [] := Binary.magic_prefix_of_header (hfront [])
    rw [List.append_nil] at hmagic
    exact ⟨found.1.1, found.1.2, front, found.2, hbytes, hmagic.length_le, hfront⟩

theorem magic_le_of_mem_parse {reading : Reading} {stop : Nat} (h : reading ∈ parse bytes)
    (hstop : reading.stop = some stop) : magic.length ≤ stop := by
  obtain ⟨version, isModule, front, rest, rfl, hmagic, hfront⟩ := header_of_mem_parse h hstop
  rw [parse_of_header hfront] at h
  obtain ⟨cut, hcut, rfl⟩ := List.mem_map.mp h
  obtain ⟨hlt, -⟩ := bounds_of_mem_cuts hcut hstop
  omega

theorem parse_prefix {other : Bytes} {before after : List Reading} {reading : Reading} {stop : Nat}
    (h : parse bytes = before ++ reading :: after) (hstop : reading.stop = some stop)
    (hother : other.take stop = bytes.take stop) :
    ∃ after', parse other = before ++ reading :: after' := by
  have hmem : reading ∈ parse bytes := by simp [h]
  obtain ⟨version, isModule, front, rest, rfl, -, hfront⟩ := header_of_mem_parse hmem hstop
  rw [parse_of_header hfront] at h
  obtain ⟨before, behind, hcuts, rfl, hbehind⟩ := List.map_eq_append_iff.mp h
  obtain ⟨cut, after, rfl, rfl, -⟩ := List.map_eq_cons_iff.mp hbehind
  have hcut : cut ∈ cuts isModule rest.length front.length rest := by simp [hcuts]
  obtain ⟨hlt, hle⟩ := bounds_of_mem_cuts hcut hstop
  obtain ⟨m, rfl⟩ : ∃ m, stop = front.length + m := ⟨stop - front.length, by omega⟩
  have hlength : (rest.take m).length = m := List.length_take_of_le (by omega)
  have hsplit : other = front ++ (rest.take m ++ other.drop (front.length + m)) := by
    rw [← List.append_assoc, ← List.take_length_add_append, ← hother, List.take_append_drop]
  rw [← List.take_append_drop m rest] at hcuts
  rw [hsplit, parse_of_header hfront]
  have hstop' : cut.stop = some (front.length + (rest.take m).length) := by
    rw [hlength]
    exact hstop
  obtain ⟨after', hafter'⟩ := cuts_append hcuts hstop' (Nat.le_refl _)
  exact ⟨after'.map Cut.reading, by rw [hafter', List.map_append, List.map_cons]⟩

theorem tools_frontToBack : tools.FrontToBack where
  header := magic_le_of_mem_parse
  prefix_ := parse_prefix

theorem tools_keepsBinaries : tools.KeepsBinaries := fun _ h =>
  if_pos (List.isPrefixOf_iff_prefix.mpr h)

/-! ## Order -/

/-- Linking leaves one of the places out, that of tags. -/
theorem Section.place?_of_payload {found : Section} {place : Nat}
    (h : found.payload.place? = some place) :
    found.place? = some (if place < 6 then place else place + 1) := by
  cases found with
  | custom name content =>
    simp only [payload] at h
    split at h <;> cases h
  | types _ | imports _ | functions _ | tables _ | memories _ | globals _ | «exports» _ =>
    cases h
    rfl
  | start _ | elements _ | code _ | data _ | dataCount _ | tags _ | unknown _ => cases h

theorem place?_of_reading {place : Nat} (h : cut.reading.place? = some place) :
    cut.section_.bind Section.place? = some (if place < 6 then place else place + 1) := by
  obtain ⟨_ | found, stop⟩ := cut
  · cases h
  · exact Section.place?_of_payload h

theorem pairwise_of_increasing {places : List Nat} (h : increasing places = true) :
    places.Pairwise (· < ·) := by
  induction places with
  | nil => exact .nil
  | cons first rest ih =>
    cases rest with
    | nil => exact List.pairwise_singleton ..
    | cons second rest =>
      simp only [increasing, Bool.and_eq_true, decide_eq_true_eq] at h
      have hrest : (second :: rest).Pairwise (· < ·) := ih h.2
      refine .cons (fun place hplace => ?_) hrest
      rcases List.mem_cons.mp hplace with rfl | hplace
      · exact h.1
      · exact Nat.lt_trans h.1 (List.rel_of_pairwise_cons hrest hplace)

theorem isValid_of_validate (h : validate bytes = .ok ()) :
    ∃ binary, Binary.decode bytes = some binary ∧ binary.isValid = true := by
  simp only [validate] at h
  split at h
  · rename_i hvalid
    exact (Option.any_eq_true _ _).mp hvalid
  · cases h

theorem tools_rejectsDisorder : tools.RejectsDisorder := by
  intro bytes h
  obtain ⟨binary, hdecode, hvalid⟩ := isValid_of_validate h
  simp only [Binary.isValid, Binary.inOrder, Bool.and_eq_true] at hvalid
  have hplaces := pairwise_of_increasing hvalid.1.1.2.2
  have hparse : tools.parse bytes = binary.cuts.map Cut.reading := by
    simp only [tools, parse, hdecode]
  rw [hparse, List.filterMap_map, List.pairwise_filterMap]
  rw [Binary.sections, List.filterMap_filterMap, List.pairwise_filterMap] at hplaces
  refine hplaces.imp fun {cut cut'} hlt place hplace place' hplace' => ?_
  have hfound := hlt _ (place?_of_reading hplace) _ (place?_of_reading hplace')
  split at hfound <;> split at hfound <;> omega

end Wasm
end HostLink

/-
Readers that do not look behind what they take.

What a local reader gives is settled by the bytes that it takes off: it gives the same in front
of any others.  The readers that cut a binary into its header and its sections are local, though
they do not say how many bytes there are.  A reader of a section's entries is not applied to the
binary, but to the content of the section, and nothing is asked of it.
-/
import HostLink.Wasm.Section

namespace HostLink
namespace Wasm
namespace Reader

variable {α β : Type} {r : Reader α} {f : α → Reader β}

/-- Whether what a reader gives depends on the bytes that it takes off only. -/
def Local (r : Reader α) : Prop :=
  ∀ ⦃bytes rest : Bytes⦄ ⦃a : α⦄, r bytes = some (a, rest) →
    ∃ front, bytes = front ++ rest ∧ ∀ more, r (front ++ more) = some (a, more)

theorem local_pure (a : α) : Local (pure a : Reader α) := by
  intro bytes rest a' h
  cases h
  exact ⟨[], rfl, fun more => rfl⟩

theorem local_fail : Local (fail : Reader α) := by
  intro bytes rest a h
  cases h

theorem Local.bind (hr : Local r) (hf : ∀ a, Local (f a)) : Local (r >>= f) := by
  intro bytes rest b h
  obtain ⟨⟨a, between⟩, hfirst, hsecond⟩ := Option.bind_eq_some_iff.mp h
  obtain ⟨front, rfl, hfront⟩ := hr hfirst
  obtain ⟨front', rfl, hfront'⟩ := hf a hsecond
  refine ⟨front ++ front', (List.append_assoc ..).symm, fun more => ?_⟩
  rw [List.append_assoc]
  exact Option.bind_eq_some_iff.mpr ⟨_, hfront _, hfront' more⟩

theorem local_byte : Local byte := by
  intro bytes rest b h
  cases bytes with
  | nil => cases h
  | cons first others =>
    cases h
    exact ⟨[b], rfl, fun more => rfl⟩

theorem take_append (front more : Bytes) :
    take front.length (front ++ more) = some (front, more) := by
  simp [take]

theorem append_of_take {n : Nat} {bytes front rest : Bytes}
    (h : take n bytes = some (front, rest)) : bytes = front ++ rest ∧ front.length = n := by
  simp only [take] at h
  split at h
  · rename_i hlength
    cases h
    exact ⟨(List.take_append_drop n bytes).symm, hlength⟩
  · cases h

theorem local_take (n : Nat) : Local (take n) := by
  intro bytes rest front h
  obtain ⟨hbytes, rfl⟩ := append_of_take h
  exact ⟨front, hbytes, take_append front⟩

theorem local_unsignedFrom (width fuel place : Nat) : Local (unsignedFrom width fuel place) := by
  induction fuel generalizing place with
  | zero => exact local_fail
  | succ fuel ih =>
    intro bytes rest value h
    cases bytes with
    | nil => cases h
    | cons b others =>
      simp only [unsignedFrom] at h
      split at h
      · cases h
      · rename_i hwidth
        split at h
        · rename_i hlast
          cases h
          refine ⟨[b], rfl, fun more => ?_⟩
          simp only [List.singleton_append, unsignedFrom, if_neg hwidth, if_pos hlast]
        · rename_i hmore
          obtain ⟨⟨high, behind⟩, hhigh, hvalue⟩ := Option.map_eq_some_iff.mp h
          cases hvalue
          obtain ⟨front, rfl, hfront⟩ := ih (place + 7) hhigh
          refine ⟨b :: front, rfl, fun more => ?_⟩
          simp only [List.cons_append, unsignedFrom, if_neg hwidth, if_neg hmore, hfront,
            Option.map_some]

theorem local_u32 : Local u32 := local_unsignedFrom _ _ _

theorem local_block : Local block := local_u32.bind local_take

end Reader

/-! ## Headers and sections -/

open Reader

theorem Section.local_frame : Local frame := by
  refine local_byte.bind fun id => ?_
  split
  · exact local_fail
  · exact local_block.bind fun content => local_pure (id, content)

namespace Binary

theorem local_header : Local header := by
  refine (local_take 4).bind fun start => ?_
  split
  · exact local_fail
  · refine (local_take 4).bind fun fields => ?_
    simp only []
    split
    · exact local_fail
    · exact local_pure _

theorem magic_prefix_of_header {bytes rest : Bytes} {found : Nat × Bool}
    (h : header bytes = some (found, rest)) : magic <+: bytes := by
  cases hstart : take 4 bytes with
  | none => simp [header, bind, StateT.bind, hstart] at h
  | some first =>
    obtain ⟨start, more⟩ := first
    by_cases hmagic : start = magic
    · exact ⟨more, hmagic ▸ (append_of_take hstart).1.symm⟩
    · simp [header, fail, bind, StateT.bind, hstart, hmagic] at h

end Binary
end Wasm
end HostLink

/-
  InfraEvidence — pieces of a string by byte offsets.

  A character takes one to four bytes, so a string cannot be cut at every offset.

  * `IsBoundary`: the offset is within the string and between two characters;
  * `slice?`: the piece between two offsets, if the string can be cut there;
  * `isBoundary_iff`: a string is cut at the length of its first part;
  * `slice?_eq_some_iff`: a piece is what stands between two parts of the string.
-/
import InfraEvidence.Text.Blank
import Mathlib.Data.List.Basic

namespace InfraEvidence.Text

/-- The byte offset is within the string, its end included, and not inside a
    character. -/
def IsBoundary (s : String) (i : Nat) : Prop := String.Pos.Raw.IsValid s ⟨i⟩

instance (s : String) (i : Nat) : Decidable (IsBoundary s i) :=
  inferInstanceAs (Decidable (String.Pos.Raw.IsValid s ⟨i⟩))

/-- The piece of a string between two byte offsets.  There is none if the first one
    is behind the second one or one of them is no boundary. -/
def slice? (s : String) (start stop : Nat) : Option String :=
  if h : start ≤ stop ∧ IsBoundary s start ∧ IsBoundary s stop then
    some (s.extract (s.pos ⟨start⟩ h.2.1) (s.pos ⟨stop⟩ h.2.2))
  else none

variable {s t : String} {start stop : Nat}

theorem isBoundary_iff {i : Nat} :
    IsBoundary s i ↔ ∃ before after, s = before ++ after ∧ i = before.utf8ByteSize := by
  rw [IsBoundary, String.Pos.Raw.isValid_iff_exists_append]
  simp only [String.Pos.Raw.ext_iff, String.byteIdx_rawEndPos]

/-- A position is what it splits the string into. -/
theorem splits_pos_iff {i : Nat} (h : IsBoundary s i) {before after : String} :
    (s.pos ⟨i⟩ h).Splits before after ↔ s = before ++ after ∧ i = before.utf8ByteSize :=
  ⟨fun hs => ⟨hs.eq_append, congrArg String.Pos.Raw.byteIdx hs.offset_eq_rawEndPos⟩,
    fun hs => ⟨hs.1, String.Pos.Raw.ext hs.2⟩⟩

/-- **A piece is what stands between two parts** of the string: one ends at the
    first offset, the other one begins at the second. -/
theorem slice?_eq_some_iff :
    slice? s start stop = some t ↔ ∃ before after, s = before ++ t ++ after ∧
      start = before.utf8ByteSize ∧ stop = (before ++ t).utf8ByteSize := by
  unfold slice?
  constructor
  · intro h
    split at h
    · next hcut =>
      have hle : s.pos ⟨start⟩ hcut.2.1 ≤ s.pos ⟨stop⟩ hcut.2.2 := hcut.1
      have hcopy := String.extract_eq_copy_slice _ _ hle
      obtain ⟨before, after, hfirst, hlast⟩ :=
        String.copy_slice_eq_iff_splits.1 ⟨hle, hcopy.symm.trans (Option.some.inj h)⟩
      obtain ⟨hs, hstop⟩ := (splits_pos_iff _).1 hlast
      exact ⟨before, after, hs, ((splits_pos_iff _).1 hfirst).2, hstop⟩
    · contradiction
  · rintro ⟨before, after, hs, hstart, hstop⟩
    have hs' : s = before ++ (t ++ after) := hs.trans String.append_assoc
    have hfirst : IsBoundary s start := isBoundary_iff.2 ⟨_, _, hs', hstart⟩
    have hlast : IsBoundary s stop := isBoundary_iff.2 ⟨_, _, hs, hstop⟩
    have hle : start ≤ stop := by
      rw [hstart, hstop, String.utf8ByteSize_append]
      exact Nat.le_add_right ..
    obtain ⟨hle', hcopy⟩ := String.copy_slice_eq_iff_splits.2
      ⟨before, after, (splits_pos_iff hfirst).2 ⟨hs', hstart⟩, (splits_pos_iff hlast).2 ⟨hs, hstop⟩⟩
    rw [dif_pos ⟨hle, hfirst, hlast⟩, String.extract_eq_copy_slice _ _ hle', hcopy]

end InfraEvidence.Text

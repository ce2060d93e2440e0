import Mathlib.Data.List.TakeDrop
import RootedStorage.Stream

/-!
# Reading piece by piece

One read takes a piece off what is ahead of a reader, and a piece may fall short of what was asked for
(`ByteReader.exists_read`).  That is all that the laws about reading in pieces rest on: whatever the
supply gives, the pieces are consecutive, and one that is empty was either asked for as such or stands
at the end.
-/

namespace RootedStorage

namespace ByteReader

variable {r : ByteReader} {d : Disk} {content : Bytes}

/-- A reader that skips octets has the others ahead. -/
theorem ahead_skip (h : r.ahead d = .ok content) (count : Nat) :
    (r.skip count).ahead d = .ok (content.drop count) := by
  unfold ahead at h ⊢
  cases hsource : r.source with
  | memory content =>
    rw [hsource] at h
    cases h
    simp [skip, hsource]
  | file stamp =>
    rw [hsource] at h
    cases h
    simp [skip, hsource]
  | directory =>
    rw [hsource] at h
    cases h

/-- A read takes a piece off what is ahead.  The piece is no longer than what was asked for, and it is
empty only if nothing was asked for or nothing is left. -/
theorem exists_read (h : r.ahead d = .ok content) (count : Nat) (supply : Supply) :
    ∃ piece rest, content = piece ++ rest ∧
      r.read count supply d = (.ok piece, r.skip piece.length) ∧
      (r.skip piece.length).ahead d = .ok rest ∧ piece.length ≤ count ∧
      (0 < count → piece = [] → rest = []) := by
  generalize hgiven : supply.given r.offset count content.length = given
  obtain ⟨rest, hrest⟩ := List.take_prefix given content
  generalize hpiece : content.take given = piece at hrest
  refine ⟨piece, rest, hrest.symm, ?_, ?_, ?_, ?_⟩
  · unfold read
    rw [h]
    dsimp only
    rw [hgiven, hpiece]
  · have hskip := ahead_skip h piece.length
    rwa [← hrest, List.drop_left] at hskip
  · have hle := supply.given_le r.offset count content.length
    rw [← hpiece, List.length_take]
    omega
  · rintro hcount rfl
    have hpos := supply.given_pos r.offset count content.length hcount
    rw [List.nil_append] at hrest
    subst hrest
    rcases List.take_eq_nil_iff.1 hpiece with rfl | hnil
    · exact List.eq_nil_of_length_eq_zero (by omega)
    · exact hnil

end ByteReader

end RootedStorage

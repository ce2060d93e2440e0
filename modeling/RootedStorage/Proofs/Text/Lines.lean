import RootedStorage.Proofs.Text.Utf8

/-!
# Lines of octets

Content falls into lines behind its line feeds, whatever octets it consists of.  No line is lost and
none is changed (`flatten_lines`), and since a line feed is never part of another character, content is
text exactly when each of its lines is (`isValid_iff_lines`).
-/

namespace RootedStorage

/-- The lines of content.  Each ends with its line feed; only the last may have none. -/
def lines : Bytes → List Bytes
  | [] => []
  | b :: rest =>
    if b = 10 then [b] :: lines rest
    else
      match lines rest with
      | [] => [[b]]
      | line :: others => (b :: line) :: others

variable {body rest content : Bytes}

theorem lines_of_not_mem (h : 10 ∉ body) (hne : body ≠ []) : lines body = [body] := by
  induction body with
  | nil => exact absurd rfl hne
  | cons b body ih =>
    obtain ⟨hb, hbody⟩ := not_or.1 (mt List.mem_cons.2 h)
    rw [lines, if_neg (Ne.symm hb)]
    by_cases hlast : body = []
    · rw [hlast]
      rfl
    · rw [ih hbody hlast]

theorem lines_append_feed (h : 10 ∉ body) :
    lines (body ++ 10 :: rest) = (body ++ [10]) :: lines rest := by
  induction body with
  | nil => simp [lines]
  | cons b body ih =>
    obtain ⟨hb, hbody⟩ := not_or.1 (mt List.mem_cons.2 h)
    rw [List.cons_append, lines, if_neg (Ne.symm hb), ih hbody, List.cons_append]

/-- Content holds no line feed, or it is cut behind the first one. -/
theorem feed_cases (content : Bytes) :
    10 ∉ content ∨ ∃ body rest, 10 ∉ body ∧ content = body ++ 10 :: rest := by
  by_cases h : 10 ∈ content
  · obtain ⟨body, rest, hcontent, hbody⟩ := List.eq_append_cons_of_mem h
    exact .inr ⟨body, rest, hbody, hcontent⟩
  · exact .inl h

/-- Induction line by line. -/
theorem line_induction {motive : Bytes → Prop} (nil : motive [])
    (last : ∀ body, 10 ∉ body → body ≠ [] → motive body)
    (feed : ∀ body rest, 10 ∉ body → motive rest → motive (body ++ 10 :: rest)) (content : Bytes) :
    motive content := by
  induction hlength : content.length using Nat.strongRecOn generalizing content with
  | ind n ih =>
    rcases feed_cases content with hnone | ⟨body, rest, hbody, rfl⟩
    · by_cases hempty : content = []
      · rw [hempty]
        exact nil
      · exact last content hnone hempty
    · refine feed body rest hbody (ih rest.length ?_ rest rfl)
      rw [← hlength, List.length_append, List.length_cons]
      omega

/-- The lines make up the content. -/
theorem flatten_lines (content : Bytes) : (lines content).flatten = content := by
  induction content using line_induction with
  | nil => rfl
  | last body hbody hne => rw [lines_of_not_mem hbody hne, List.flatten_singleton]
  | feed body rest hbody ih =>
    rw [lines_append_feed hbody, List.flatten_cons, ih, List.append_assoc, List.singleton_append]

/-- A text may be cut behind a line feed. -/
theorem isValid_append_feed_iff :
    Utf8.isValid (body ++ 10 :: rest) = true ↔
      Utf8.isValid (body ++ [10]) = true ∧ Utf8.isValid rest = true := by
  have hfeed : Utf8.isValid [10] = true := Utf8.isValid_singleton (by decide)
  constructor
  · intro h
    have hboundary : Utf8.AtBoundary (10 :: rest) := Utf8.atBoundary_cons.2 (by decide)
    obtain ⟨hbody, hrest⟩ := Utf8.isValid_of_append h hboundary
    exact ⟨Utf8.isValid_append hbody hfeed, Utf8.isValid_of_cons (by decide) hrest⟩
  · rintro ⟨hline, hrest⟩
    rw [← List.singleton_append, ← List.append_assoc]
    exact Utf8.isValid_append hline hrest

/-- Content is a text if and only if each of its lines is one. -/
theorem isValid_iff_lines (content : Bytes) :
    Utf8.isValid content = true ↔ ∀ line ∈ lines content, Utf8.isValid line = true := by
  induction content using line_induction with
  | nil => simp [lines, Utf8.isValid_nil]
  | last body hbody hne => rw [lines_of_not_mem hbody hne, List.forall_mem_singleton]
  | feed body rest hbody ih =>
    rw [lines_append_feed hbody, List.forall_mem_cons, isValid_append_feed_iff, ih]

end RootedStorage

import Mathlib.Data.List.TakeDrop
import Mathlib.Data.List.TakeWhile
import RootedStorage.Proofs.FileStorage.ReadSide
import RootedStorage.Proofs.Stream.Reads
import RootedStorage.Proofs.Text.Lines

/-!
# Reading line by line

A text reader reads ahead in chunks.  What it has not given yet (`unread`) is what it holds and what
its source still has, and a call of `readLine` takes exactly the first line off that, whether the line
is text or not (`step_lineCall`).  Calls one after the other therefore take the lines of the content in
order, into whatever buffers, and `readToEnd` decodes what is left behind them
(`readsLines_lineCalls`).
-/

namespace RootedStorage

namespace TextReader

variable {r r' : TextReader} {d : Disk} {path : String} {content body rest ahead : Bytes}

/-- What the reader has not given yet. -/
def unread (r : TextReader) (d : Disk) : Outcome Bytes := (r.reader.ahead d).map (r.pending ++ ·)

/-- The reader has this content of `path` before it. -/
structure Faces (r : TextReader) (d : Disk) (path : String) (content : Bytes) : Prop where
  unread : r.unread d = .ok content
  path_eq : r.reader.path = path

/-- What a reader has not given is what it holds and what is ahead of it. -/
theorem unread_eq_ok_iff :
    r.unread d = .ok content ↔
      ∃ ahead, r.reader.ahead d = .ok ahead ∧ content = r.pending ++ ahead := by
  unfold unread
  cases r.reader.ahead d <;> simp [Except.map, eq_comm]

/-- A reader that was just opened has the whole content of its file before it. -/
theorem unread_of_openTextRead {s : FileStorage} (h : s.openTextRead path d = .ok r) :
    r.unread d = s.readBytes path d := by
  unfold FileStorage.openTextRead at h
  unfold FileStorage.readBytes
  cases hopen : s.openRead path d with
  | error e =>
    rw [hopen] at h
    cases h
  | ok reader =>
    rw [hopen] at h
    obtain rfl := Except.ok.inj h
    simp only [bind, Except.bind, unread, ByteReader.readToEnd, List.nil_append]
    cases reader.ahead d <;> rfl

/-! ## The first line -/

/-- A line without a line feed is passed as a whole. -/
theorem forall_ne_feed (h : 10 ∉ body) : ∀ b ∈ body, decide (b ≠ 10) = true := by
  intro b hb
  exact decide_eq_true fun heq => h (heq ▸ hb)

/-- Without a line feed the first line is all there is. -/
theorem firstLine_of_not_mem (h : 10 ∉ body) : firstLine body = body := by
  rw [firstLine, List.span_eq_takeWhile_dropWhile, List.takeWhile_eq_self_iff.2 (forall_ne_feed h),
    List.dropWhile_eq_nil_iff.2 (forall_ne_feed h)]

/-- The first line ends with the first line feed. -/
theorem firstLine_append_feed (h : 10 ∉ body) : firstLine (body ++ 10 :: rest) = body ++ [10] := by
  rw [firstLine, List.span_eq_takeWhile_dropWhile, List.takeWhile_append_of_pos (forall_ne_feed h),
    List.dropWhile_append_of_pos (forall_ne_feed h)]
  simp

/-- What follows a line feed does not change the first line. -/
theorem firstLine_append_of_mem (h : 10 ∈ body) : firstLine (body ++ rest) = firstLine body := by
  obtain ⟨line, behind, rfl, hline⟩ := List.eq_append_cons_of_mem h
  rw [List.append_assoc, List.cons_append, firstLine_append_feed hline, firstLine_append_feed hline]

/-- Content begins with its first line. -/
theorem prefix_firstLine (content : Bytes) : firstLine content <+: content := by
  rcases feed_cases content with hnone | ⟨body, rest, hbody, rfl⟩
  · exact (firstLine_of_not_mem hnone).symm ▸ List.prefix_refl content
  · rw [firstLine_append_feed hbody]
    exact ⟨rest, (List.append_cons body 10 rest).symm⟩

/-- Content that is not empty has its first line and the lines behind that. -/
theorem lines_eq_cons (hne : content ≠ []) :
    lines content = firstLine content :: lines (content.drop (firstLine content).length) := by
  rcases feed_cases content with hnone | ⟨body, rest, hbody, rfl⟩
  · rw [firstLine_of_not_mem hnone, lines_of_not_mem hnone hne, List.drop_length]
    rfl
  · have hdrop : (body ++ 10 :: rest).drop (body ++ [10]).length = rest := by
      rw [List.append_cons body 10 rest, List.drop_left]
    rw [firstLine_append_feed hbody, lines_append_feed hbody, hdrop]

/-! ## Reading ahead -/

/-- A reader stays on its path. -/
theorem path_advance (r : TextReader) (ahead : Bytes) (count : Nat) :
    (r.advance ahead count).reader.path = r.reader.path := by
  unfold advance
  split <;> rfl

/-- What is in hand is given without reading ahead. -/
theorem unread_advance_of_le (h : r.reader.ahead d = .ok ahead) (fetched : Bytes) {count : Nat}
    (hcount : count ≤ r.pending.length) :
    (r.advance fetched count).unread d = .ok ((r.pending ++ ahead).drop count) := by
  rw [advance, if_pos hcount, unread_eq_ok_iff]
  exact ⟨ahead, h, List.drop_append_of_le_length hcount⟩

/-- Octets that are given are taken off, and no others, however many are read ahead. -/
theorem unread_advance (h : r.reader.ahead d = .ok ahead) {count : Nat}
    (hcount : count ≤ (r.pending ++ ahead).length) :
    (r.advance ahead count).unread d = .ok ((r.pending ++ ahead).drop count) := by
  by_cases hpending : count ≤ r.pending.length
  · exact unread_advance_of_le h ahead hpending
  · rw [List.length_append] at hcount
    rw [advance, if_neg hpending, unread_eq_ok_iff]
    refine ⟨_, ByteReader.ahead_skip h _, ?_⟩
    dsimp only
    generalize hneeded : count - r.pending.length = needed
    generalize hfetched : min ahead.length ((needed + chunk - 1) / chunk * chunk) = fetched
    have hle : needed ≤ (ahead.take fetched).length := by
      rw [List.length_take]
      simp only [chunk] at hfetched
      omega
    have hbehind : (r.pending ++ ahead).drop count = ahead.drop needed := by
      rw [List.drop_append, List.drop_eq_nil_of_le (by omega), List.nil_append, hneeded]
    rw [hbehind, ← List.drop_append_of_le_length hle, List.take_append_drop]

/-- The reader takes the first line of what it has not given. -/
theorem exists_takeLine (h : r.Faces d path content) :
    ∃ r', r.takeLine d = (.ok (firstLine content), r') ∧
      r'.Faces d path (content.drop (firstLine content).length) := by
  obtain ⟨ahead, hahead, rfl⟩ := unread_eq_ok_iff.1 h.unread
  unfold takeLine
  by_cases hfeed : 10 ∈ r.pending
  · rw [if_pos (List.contains_iff_mem.2 hfeed), firstLine_append_of_mem hfeed]
    refine ⟨_, rfl, ?_, (path_advance _ _ _).trans h.path_eq⟩
    exact unread_advance_of_le hahead [] (prefix_firstLine r.pending).length_le
  · rw [if_neg (mt List.contains_iff_mem.1 hfeed), hahead]
    refine ⟨_, rfl, ?_, (path_advance _ _ _).trans h.path_eq⟩
    exact unread_advance hahead (prefix_firstLine _).length_le

/-- Reading to the end decodes what the reader has before it. -/
theorem readToEnd_eq (h : r.Faces d path content) : (r.readToEnd d).1 = decodeText content path := by
  obtain ⟨ahead, hahead, rfl⟩ := unread_eq_ok_iff.1 h.unread
  unfold readToEnd ByteReader.readToEnd
  rw [hahead, ← h.path_eq]
  rfl

/-! ## Calls into a buffer -/

/-- What a call finds in its buffer, what it gives, and what it leaves in the buffer. -/
structure LineCall where
  before : String
  result : Outcome Nat
  after : String
  deriving DecidableEq

/-- A call of `readLine` into a buffer.  If it fails, the buffer keeps what it held. -/
def lineCall (r : TextReader) (before : String) (d : Disk) : LineCall × TextReader :=
  match r.readLine before d with
  | (.ok (count, after), r) => (⟨before, .ok count, after⟩, r)
  | (.error e, r) => (⟨before, .error e, before⟩, r)

/-- Calls into one buffer.  Before each of them something may be done to the buffer, such as clearing
it. -/
def lineCalls (r : TextReader) (held : String) (d : Disk) :
    List (String → String) → List LineCall × TextReader
  | [] => ([], r)
  | prepare :: others =>
    let (call, r) := r.lineCall (prepare held) d
    let (calls, r) := r.lineCalls call.after d others
    (call :: calls, r)

/-- What a call makes of the line that is next, if there is one: it appends a text, and it fails if the
line is none. -/
inductive LineCall.Takes (path : String) : LineCall → Option Bytes → Prop where
  | ended (held : String) : Takes path ⟨held, .ok 0, held⟩ none
  | text (held text : String) :
    Takes path ⟨held, .ok (Utf8.encode text).length, held ++ text⟩ (some (Utf8.encode text))
  | invalid (held : String) (line : Bytes) : Utf8.isValid line = false →
    Takes path ⟨held, .error (.access (.invalidText path)), held⟩ (some line)

/-- Octets that are not valid are refused as a text. -/
theorem decodeText_of_not_isValid (h : Utf8.isValid content = false) :
    decodeText content path = .error (.access (.invalidText path)) := by
  unfold decodeText
  rw [Option.not_isSome_iff_eq_none.1 (Bool.eq_false_iff.1 h)]

/-- A call that takes a text appends it and gives its length. -/
theorem lineCall_text {text : String} (h : r.takeLine d = (.ok (Utf8.encode text), r'))
    (held : String) :
    r.lineCall held d = (⟨held, .ok (Utf8.encode text).length, held ++ text⟩, r') := by
  unfold lineCall readLine
  simp only [h, FileStorage.decodeText_eq_ok_iff.2 rfl, Except.map]

/-- A call that takes octets that are not valid fails and leaves what was held. -/
theorem lineCall_invalid {line : Bytes} (h : r.takeLine d = (.ok line, r'))
    (hline : Utf8.isValid line = false) (held : String) :
    r.lineCall held d = (⟨held, .error (.access (.invalidText r'.reader.path)), held⟩, r') := by
  unfold lineCall readLine
  simp only [h, decodeText_of_not_isValid hline, Except.map]

/-- One call takes the line that is next, and leaves the ones behind it. -/
theorem step_lineCall (h : r.Faces d path content) (held : String) :
    ∃ (call : LineCall) (r' : TextReader) (rest : Bytes), r.lineCall held d = (call, r') ∧
      call.before = held ∧ call.Takes path (lines content).head? ∧ r'.Faces d path rest ∧
        lines rest = (lines content).tail := by
  obtain ⟨r', htake, hr'⟩ := exists_takeLine h
  by_cases hempty : content = []
  · subst hempty
    have hend : r.takeLine d = (.ok (Utf8.encode ""), r') := htake
    have hcall := lineCall_text hend held
    rw [String.append_empty] at hcall
    exact ⟨_, r', _, hcall, rfl, .ended held, hr', rfl⟩
  · rw [lines_eq_cons hempty]
    cases hvalid : Utf8.isValid (firstLine content) with
    | true =>
      obtain ⟨text, htext⟩ := Utf8.isValid_iff.1 hvalid
      rw [htext] at htake hr' ⊢
      exact ⟨_, r', _, lineCall_text htake held, rfl, .text held text, hr', rfl⟩
    | false =>
      have hcall := lineCall_invalid htake hvalid held
      rw [hr'.path_eq] at hcall
      exact ⟨_, r', _, hcall, rfl, .invalid held _ hvalid, hr', rfl⟩

/-- Calls take the lines in order. -/
theorem run_lineCalls (h : r.Faces d path content) (held : String)
    (prepares : List (String → String)) :
    ∃ calls left, r.lineCalls held d prepares = (calls, left) ∧ calls.length = prepares.length ∧
      calls.map LineCall.before =
        List.zipWith (fun prepare held => prepare held) prepares (held :: calls.map LineCall.after) ∧
      (∀ (k : Nat) (call : LineCall), calls[k]? = some call →
        call.Takes path (lines content)[k]?) ∧
      left.Faces d path ((lines content).drop prepares.length).flatten := by
  induction prepares generalizing r content held with
  | nil =>
    refine ⟨[], r, rfl, rfl, rfl, fun k call hcall => ?_, ?_⟩
    · cases hcall
    · rwa [List.length_nil, List.drop_zero, flatten_lines]
  | cons prepare prepares ih =>
    obtain ⟨call, r', rest, hcall, hbefore, htakes, hr', hrest⟩ := step_lineCall h (prepare held)
    obtain ⟨calls, left, hcalls, hlength, hchain, hall, hleft⟩ := ih hr' call.after
    refine ⟨call :: calls, left, ?_, ?_, ?_, fun k next hnext => ?_, ?_⟩
    · rw [lineCalls, hcall]
      dsimp only
      rw [hcalls]
    · rw [List.length_cons, List.length_cons, hlength]
    · rw [List.map_cons, List.map_cons, List.zipWith_cons_cons, hbefore, hchain]
    · cases k with
      | zero =>
        obtain rfl := Option.some.inj hnext
        rwa [← List.head?_eq_getElem?]
      | succ k =>
        have hline := hall k next hnext
        rwa [hrest, List.getElem?_tail] at hline
    · rwa [hrest, List.drop_tail] at hleft

/-! ## All lines -/

/-- The call does not fail. -/
def LineCall.Succeeds (call : LineCall) : Prop := ∃ count, call.result = .ok count

/-- A call that takes a valid line succeeds. -/
theorem LineCall.Takes.succeeds {call : LineCall} {line : Option Bytes} (h : call.Takes path line)
    (hline : ∀ l ∈ line, Utf8.isValid l = true) : call.Succeeds := by
  cases h with
  | ended held => exact ⟨_, rfl⟩
  | text held text => exact ⟨_, rfl⟩
  | invalid held l hinvalid =>
    rw [hline l rfl] at hinvalid
    cases hinvalid

/-- Calls that do not fail append texts, which make up the lines that the calls took. -/
theorem exists_texts {calls : List LineCall} {ls : List Bytes}
    (htakes : ∀ (k : Nat) (call : LineCall), calls[k]? = some call → call.Takes path ls[k]?)
    (hok : ∀ call ∈ calls, call.Succeeds) :
    ∃ texts, List.Forall₂ (fun call text => call.after = call.before ++ text) calls texts ∧
      Utf8.encode (String.join texts) = (ls.take calls.length).flatten := by
  induction calls generalizing ls with
  | nil => exact ⟨[], .nil, by rw [String.join_nil]; rfl⟩
  | cons call calls ih =>
    obtain ⟨hcall, hcalls⟩ := List.forall_mem_cons.1 hok
    have htail : ∀ (k : Nat) (next : LineCall), calls[k]? = some next →
        next.Takes path ls.tail[k]? := by
      intro k next hnext
      rw [List.getElem?_tail]
      exact htakes (k + 1) next hnext
    obtain ⟨texts, hafter, htexts⟩ := ih htail hcalls
    have htake := htakes 0 call rfl
    cases ls with
    | nil =>
      cases htake with
      | ended held =>
        refine ⟨"" :: texts, .cons String.append_empty.symm hafter, ?_⟩
        rw [String.join_cons, String.empty_append, htexts, List.tail_nil, List.take_nil,
          List.take_nil]
    | cons line ls =>
      cases htake with
      | text held text =>
        refine ⟨text :: texts, .cons rfl hafter, ?_⟩
        rw [String.join_cons, Utf8.encode_append, htexts]
        rfl
      | invalid held line hinvalid =>
        obtain ⟨count, hcount⟩ := hcall
        cases hcount

/-- What calls of `readLine` do that come one after the other, each into the buffer that the one before
it left and something was done to.  `left` is the reader behind the last of them. -/
structure ReadsLines (r : TextReader) (d : Disk) (content : Bytes) (held : String)
    (prepares : List (String → String)) (calls : List LineCall) (left : TextReader) : Prop where
  length_eq : calls.length = prepares.length
  before : calls.map LineCall.before =
    List.zipWith (fun prepare held => prepare held) prepares (held :: calls.map LineCall.after)
  takes : ∀ (k : Nat) (call : LineCall), calls[k]? = some call →
    call.Takes r.reader.path (lines content)[k]?
  left_unread : left.unread d = .ok ((lines content).drop prepares.length).flatten
  left_readToEnd : (left.readToEnd d).1 =
    decodeText ((lines content).drop prepares.length).flatten r.reader.path
  succeeds : Utf8.isValid content = true → ∀ call ∈ calls, call.Succeeds
  isValid : (lines content).length ≤ prepares.length → (∀ call ∈ calls, call.Succeeds) →
    Utf8.isValid content = true
  texts : (lines content).length ≤ prepares.length → Utf8.isValid content = true →
    ∃ texts, List.Forall₂ (fun call text => call.after = call.before ++ text) calls texts ∧
      (r.readToEnd d).1 = .ok (String.join texts)

/-- Calls of `readLine` take the content apart line by line, and lose nothing of it. -/
theorem readsLines_lineCalls (h : r.unread d = .ok content) (held : String)
    (prepares : List (String → String)) :
    ∃ calls left, r.lineCalls held d prepares = (calls, left) ∧
      r.ReadsLines d content held prepares calls left := by
  have hr : r.Faces d r.reader.path content := ⟨h, rfl⟩
  obtain ⟨calls, left, hcalls, hlength, hchain, htakes, hleft⟩ := run_lineCalls hr held prepares
  have hsucceeds : Utf8.isValid content = true → ∀ call ∈ calls, call.Succeeds := by
    intro hvalid call hcall
    obtain ⟨k, hk⟩ := List.mem_iff_getElem?.1 hcall
    refine (htakes k call hk).succeeds fun line hline => ?_
    exact (isValid_iff_lines content).1 hvalid line (List.mem_of_getElem? hline)
  have htexts : (lines content).length ≤ prepares.length → (∀ call ∈ calls, call.Succeeds) →
      ∃ texts, List.Forall₂ (fun call text => call.after = call.before ++ text) calls texts ∧
        content = Utf8.encode (String.join texts) := by
    intro hall hok
    obtain ⟨texts, hafter, hjoin⟩ := exists_texts htakes hok
    rw [hlength, List.take_of_length_le hall, flatten_lines] at hjoin
    exact ⟨texts, hafter, hjoin.symm⟩
  refine ⟨calls, left, hcalls, hlength, hchain, htakes, hleft.unread, readToEnd_eq hleft, hsucceeds,
    fun hall hok => ?_, fun hall hvalid => ?_⟩
  · obtain ⟨texts, -, hjoin⟩ := htexts hall hok
    exact Utf8.isValid_iff.2 ⟨_, hjoin⟩
  · obtain ⟨texts, hafter, hjoin⟩ := htexts hall (hsucceeds hvalid)
    refine ⟨texts, hafter, ?_⟩
    rw [readToEnd_eq hr]
    exact FileStorage.decodeText_eq_ok_iff.2 hjoin

/-- Three lines, the second of which is no text: the call that meets it fails, the others go on, and the
buffer holds the first line and the last one, which has no line feed. -/
theorem readsLines_lineCalls_broken :
    ∃ left, (TextReader.mk ⟨"t", .file 0, 0⟩ []).ReadsLines (Disk.linked [97, 10, 255, 10, 98] ".")
      [97, 10, 255, 10, 98] "" [id, id, id, id]
      [⟨"", .ok 2, "a\n"⟩, ⟨"a\n", .error (.access (.invalidText "t")), "a\n"⟩,
        ⟨"a\n", .ok 1, "a\nb"⟩, ⟨"a\nb", .ok 0, "a\nb"⟩] left := by
  have hopen : (FileStorage.mk ["r"]).openTextRead "t" (Disk.linked [97, 10, 255, 10, 98] ".") =
      .ok (TextReader.mk ⟨"t", .file 0, 0⟩ []) := rfl
  have hread : (FileStorage.mk ["r"]).readBytes "t" (Disk.linked [97, 10, 255, 10, 98] ".") =
      .ok [97, 10, 255, 10, 98] := rfl
  have hunread := (unread_of_openTextRead hopen).trans hread
  have hrun : ((TextReader.mk ⟨"t", .file 0, 0⟩ []).lineCalls ""
      (Disk.linked [97, 10, 255, 10, 98] ".") [id, id, id, id]).1 =
        [⟨"", .ok 2, "a\n"⟩, ⟨"a\n", .error (.access (.invalidText "t")), "a\n"⟩,
          ⟨"a\n", .ok 1, "a\nb"⟩, ⟨"a\nb", .ok 0, "a\nb"⟩] := by
    decide +kernel
  obtain ⟨calls, left, hcalls, hreads⟩ := readsLines_lineCalls hunread "" [id, id, id, id]
  rw [hcalls] at hrun
  exact ⟨left, hrun ▸ hreads⟩

end TextReader

end RootedStorage

import RootedStorage.Proofs.Disk.Lasting
import RootedStorage.Proofs.FileStorage.ReadSide
import RootedStorage.Proofs.Session.Confinement
import RootedStorage.Proofs.Stream.Reads
import RootedStorage.Proofs.Text.Utf8

/-!
# Streams against whole content

A file may be written at once or piece by piece over a stream, and read at once or buffer by buffer.
However the content is cut, both ways say the same (`Session.streams`).  On the writing side one step
adds a piece to what the file holds (`Disk.Written.append`); on the reading side one step takes a piece
off what is ahead, as much as one read gives (`ByteReader.exists_read`, `Delivers.cons`).
-/

namespace RootedStorage.Session

variable {s : Session} {key path name : String}

theorem handle?_keep_self (s : Session) (name : String) (h : Option Handle) :
    (s.keep name h).handle? name = h := by
  rw [handle?_keep, if_pos rfl]

/-! ## Writing -/

/-- A kind of stream that is written to: how it is opened, what is written to it at a time, and the
octets of that. -/
structure WriteStream (α : Type) where
  opens (path name : String) (overwrite : Bool) : FileRequest
  writes : α → StreamRequest
  octets : α → Bytes
  handle : Writer → Handle
  opened : String → Answer
  opened_ne : ∀ path, opened path ≠ .noHandle
  answer_opens : ∀ (s : Session) (files : FileStorage) (path name : String) (overwrite : Bool),
    s.answerFile files (opens path name overwrite) =
      s.keepOpened name (files.openWrite path overwrite s.disk) handle (opened path)
  answer_writes : ∀ (s : Session) (name : String) (w : Writer) (piece : α),
    s.handle? name = some (handle w) → s.answerStream name (writes piece) =
      (.ok .done, { s with disk := (w.write (octets piece) s.disk).2 }.keep name
        (some (handle (w.write (octets piece) s.disk).1)))

/-- A stream of octets. -/
def WriteStream.bytes : WriteStream Bytes where
  opens := .openWrite
  writes chunk := .write chunk ""
  octets := id
  handle := .writer
  opened := .opened
  opened_ne _ := nofun
  answer_opens _ _ _ _ _ := rfl
  answer_writes s name w chunk h := by simp only [answerStream, h, id_eq]

/-- A stream of text. -/
def WriteStream.text : WriteStream String where
  opens := .openTextWrite
  writes text := .write [] text
  octets := Utf8.encode
  handle := .textWriter
  opened := .openedText
  opened_ne _ := nofun
  answer_opens _ _ _ _ _ := rfl
  answer_writes s name w text h := by simp only [answerStream, h]

namespace WriteStream

variable {α : Type} (k : WriteStream α)

/-- Pieces are written in order and the stream is closed. -/
def rest (name : String) (pieces : List α) : List Request :=
  (pieces.map fun piece => .stream name (k.writes piece)) ++ [.stream name .close]

/-- A stream is opened, written to and closed. -/
def requests (key path name : String) (overwrite : Bool) (pieces : List α) : List Request :=
  .file key (k.opens path name overwrite) :: k.rest name pieces

end WriteStream

/-- All requests of a run were granted, and none asked for a stream that is not there. -/
def Succeeds (run : List (Outcome Answer) × Session) : Prop :=
  ∀ result ∈ run.1, ∃ a, result = .ok a ∧ a ≠ .noHandle

/-- Two runs both succeed or begin with the same error, and leave the same tree and the same streams. -/
structure EndsAs (run run' : List (Outcome Answer) × Session) : Prop where
  succeeds_iff : Succeeds run ↔ Succeeds run'
  error_iff : ∀ e, run.1.head? = some (.error e) ↔ run'.1.head? = some (.error e)
  find? : ∀ l, run.2.disk.find? l = run'.2.disk.find? l
  handle? : ∀ name, run.2.handle? name = run'.2.handle? name

/-- A run ends as another one, and if it succeeds the path leads to a file with this content. -/
structure Stores (files : FileStorage) (path : String) (content : Bytes)
    (run run' : List (Outcome Answer) × Session) : Prop extends EndsAs run run' where
  holds : Succeeds run → ∃ stamp, files.entryAt path run.2.disk = .ok (.file stamp content)

section Writing

variable {α : Type} {k : WriteStream α}

/-- Nothing comes of writing to a stream that is not open. -/
theorem run_rest_of_not_open (hname : s.handle? name = none) (pieces : List α) :
    s.run (k.rest name pieces) = (List.replicate (pieces.length + 1) (.ok .noHandle), s) := by
  have hnone : ∀ request, s.answerStream name request = (.ok .noHandle, s) := by
    intro request
    cases request <;> simp [answerStream, hname]
  induction pieces with
  | nil => simp [WriteStream.rest, run, answer, hnone]
  | cons piece pieces ih =>
    unfold WriteStream.rest at ih
    simp [WriteStream.rest, run, answer, hnone, ih, List.replicate_succ]

/-- A writer that stands behind all that its file holds adds the pieces one by one. -/
theorem run_rest {d : Disk} {overwrite : Bool} {l place : Location} {stamp : Nat} {held : Bytes}
    {w : Writer} (hname : s.handle? name = some (k.handle w)) (hstamp : w.stamp = stamp)
    (hoffset : w.offset = held.length) (hheld : d.Written overwrite l place stamp held s.disk)
    (pieces : List α) :
    ∃ t, s.run (k.rest name pieces) = (List.replicate (pieces.length + 1) (.ok .done), t) ∧
      d.Written overwrite l place stamp (held ++ pieces.flatMap k.octets) t.disk ∧
      ∀ other, t.handle? other = if other = name then none else s.handle? other := by
  induction pieces generalizing s w held with
  | nil =>
    have hclose : s.answer (.stream name .close) = (.ok .done, s.keep name none) := by
      simp only [answer, answerStream, hname]
    refine ⟨s.keep name none, ?_, ?_, fun other => handle?_keep s name other none⟩
    · simp [WriteStream.rest, run, hclose]
    · rwa [List.flatMap_nil, List.append_nil]
  | cons piece pieces ih =>
    have hwrite := k.answer_writes s name w piece hname
    have hoffset' : (w.write (k.octets piece) s.disk).1.offset = (held ++ k.octets piece).length := by
      rw [List.length_append, ← hoffset]
      rfl
    have hkept := handle?_keep_self { s with disk := (w.write (k.octets piece) s.disk).2 } name
      (some (k.handle (w.write (k.octets piece) s.disk).1))
    obtain ⟨t, hrun, hwritten, hhandles⟩ :=
      ih hkept hstamp hoffset' (hheld.append hstamp hoffset (k.octets piece))
    refine ⟨t, ?_, ?_, ?_⟩
    · unfold WriteStream.rest at hrun ⊢
      rw [List.map_cons, List.cons_append, run, answer, hwrite]
      dsimp only
      rw [hrun]
      rfl
    · rwa [List.flatMap_cons, ← List.append_assoc]
    · intro other
      rw [hhandles, handle?_keep]
      split
      · rfl
      · rfl

variable {files : FileStorage} (hkey : s.manager.fileStorage key = .ok files)
  (hd : s.disk.WellFormed) (hroot : s.disk.find? files.root = some .directory)
include hkey

theorem run_writeBytes (path : String) (data : Bytes) (overwrite : Bool) :
    s.run [.file key (.writeBytes path data overwrite)] =
      ([(files.writeBytes path data overwrite s.disk).1.map fun _ => .done],
        { s with disk := (files.writeBytes path data overwrite s.disk).2 }) := by
  simp only [run, answer, hkey, answerFile, change]

theorem run_opens (path name : String) (overwrite : Bool) (requests : List Request) :
    s.run (.file key (k.opens path name overwrite) :: requests) =
      (let opened := s.keepOpened name (files.openWrite path overwrite s.disk) k.handle
        (k.opened path)
      (opened.1 :: (opened.2.run requests).1, (opened.2.run requests).2)) := by
  simp only [run, answer, hkey, k.answer_opens]

include hd hroot

/-- Pieces that are written over a stream end as their concatenation that is written at once, and are
then what the file holds. -/
theorem stores_requests (hname : s.handle? name = none) (path : String) (overwrite : Bool)
    (pieces : List α) :
    Stores files path (pieces.flatMap k.octets) (s.run (k.requests key path name overwrite pieces))
      (s.run [.file key (.writeBytes path (pieces.flatMap k.octets) overwrite)]) := by
  rw [WriteStream.requests, run_opens hkey, run_writeBytes hkey]
  unfold FileStorage.writeBytes
  rcases FileStorage.openWrite_cases hd hroot path overwrite with
    ⟨e, hopen⟩ | ⟨names, place, stamp, d', hnames, hopen, hwritten⟩
  · rw [hopen]
    simp only [keepOpened, run_rest_of_not_open (k := k) hname pieces]
    exact {
      succeeds_iff := by simp [Succeeds, Except.map]
      error_iff := by simp [Except.map]
      find? := fun _ => rfl
      handle? := fun _ => rfl
      holds := fun hsucceeds => by simp [Succeeds] at hsucceeds }
  · rw [hopen]
    dsimp only [keepOpened]
    have hkept := handle?_keep_self { s with disk := d' } name (some (k.handle { path, stamp }))
    obtain ⟨t, hrun, hpieces, hhandles⟩ := run_rest hkept rfl rfl hwritten pieces
    rw [hrun]
    have hwhole := hwritten.write path (pieces.flatMap k.octets)
    exact {
      succeeds_iff := by simp [Succeeds, Except.map, k.opened_ne]
      error_iff := by simp [Except.map]
      find? := by
        intro l
        rw [hpieces.find?, hwhole.find?]
        rfl
      handle? := by
        intro other
        rw [hhandles, handle?_keep]
        split
        · next h =>
          subst h
          exact hname.symm
        · rfl
      holds := fun _ => ⟨stamp, (FileStorage.entryAt_eq_ok_iff hnames).2 hpieces.lookup⟩ }

end Writing

/-! ## Reading -/

/-- Content is cut into pieces, one for each buffer, and a rest.  No piece is longer than its buffer,
and one is empty only when all content has been given. -/
structure Delivers (content : Bytes) (sizes : List Nat) (pieces : List Bytes) (rest : Bytes) : Prop where
  length_le : List.Forall₂ (fun piece size => piece.length ≤ size) pieces sizes
  at_end : ∀ before after, pieces = before ++ [] :: after → before.flatten = content
  whole : pieces.flatten ++ rest = content

theorem Delivers.nil (content : Bytes) : Delivers content [] [] content where
  length_le := .nil
  at_end before after h := by simp at h
  whole := rfl

theorem Delivers.cons {piece content rest : Bytes} {size : Nat} {sizes : List Nat}
    {pieces : List Bytes} (h : Delivers content sizes pieces rest) (hle : piece.length ≤ size)
    (hend : piece = [] → content = []) :
    Delivers (piece ++ content) (size :: sizes) (piece :: pieces) rest where
  length_le := .cons hle h.length_le
  at_end := by
    intro before after hsplit
    cases before with
    | nil =>
      obtain ⟨rfl, -⟩ := List.cons.inj hsplit
      exact (hend rfl).symm
    | cons first before =>
      obtain ⟨rfl, hpieces⟩ := List.cons.inj hsplit
      rw [List.flatten_cons, h.at_end before after hpieces]
  whole := by rw [List.flatten_cons, List.append_assoc, h.whole]

/-- One buffer after the other is read into, and then what is left is read. -/
def readings (name : String) (sizes : List Nat) : List Request :=
  (sizes.map fun size => .stream name (.read size)) ++ [.stream name .readRest]

/-- A reader gives all that is ahead of it, however much one read gives. -/
theorem run_readings {r : ByteReader} {content : Bytes} (hname : s.handle? name = some (.reader r))
    (hahead : r.ahead s.disk = .ok content) {sizes : List Nat} (hsizes : ∀ size ∈ sizes, 0 < size) :
    ∃ pieces rest, (s.run (readings name sizes)).1 =
        (pieces.map fun piece => .ok (.bytes piece)) ++ [.ok (.bytes rest)] ∧
      Delivers content sizes pieces rest := by
  induction sizes generalizing s r content with
  | nil =>
    refine ⟨[], content, ?_, .nil content⟩
    simp [readings, run, answer, answerStream, hname, ByteReader.readToEnd, hahead, Except.map]
  | cons size sizes ih =>
    obtain ⟨hsize, hsizes⟩ := List.forall_mem_cons.1 hsizes
    obtain ⟨piece, tail, rfl, hpiece, hnext, hle, hend⟩ := ByteReader.exists_read hahead size s.supply
    have hread : s.answer (.stream name (.read size)) = (.ok (.bytes piece),
        s.keep name (some (.reader (r.skip piece.length)))) := by
      simp only [answer, answerStream, hname, hpiece, Except.map]
    have hkept := handle?_keep_self s name (some (.reader (r.skip piece.length)))
    obtain ⟨pieces, rest, hrun, hdelivers⟩ := ih hkept hnext hsizes
    refine ⟨piece :: pieces, rest, ?_, hdelivers.cons hle (hend hsize)⟩
    unfold readings at hrun ⊢
    rw [List.map_cons, List.cons_append, run, hread]
    dsimp only
    rw [hrun]
    rfl

/-! ## Both sides -/

/-- Streams at a path say what the operations on whole content say. -/
structure StreamsAgree (s : Session) (files : FileStorage) (key path name : String) : Prop where
  bytes : ∀ (overwrite : Bool) (chunks : List Bytes),
    Stores files path chunks.flatten (s.run (WriteStream.bytes.requests key path name overwrite chunks))
      (s.run [.file key (.writeBytes path chunks.flatten overwrite)])
  text : ∀ (overwrite : Bool) (texts : List String),
    Stores files path (Utf8.encode (String.join texts))
      (s.run (WriteStream.text.requests key path name overwrite texts))
      (s.run [.file key (.writeText path (String.join texts) overwrite)])
  read : ∀ (stamp : Nat) (content : Bytes),
    files.entryAt path s.disk = .ok (.file stamp content) →
    (s.run [.file key (.readBytes path)]).1 = [.ok (.bytes content)] ∧
    ∀ sizes : List Nat, (∀ size ∈ sizes, 0 < size) → ∃ pieces rest,
      (s.run (.file key (.openRead path name) :: readings name sizes)).1 =
        .ok (.opened path) :: (pieces.map fun piece => .ok (.bytes piece)) ++ [.ok (.bytes rest)] ∧
      Delivers content sizes pieces rest

/-- However content is cut into pieces, a stream under a new name writes and reads it as the operations
on whole content do, and what was written is what the file holds. -/
theorem streams {files : FileStorage} (hkey : s.manager.fileStorage key = .ok files)
    (hd : s.disk.WellFormed) (hroot : s.disk.find? files.root = some .directory)
    (hname : s.handle? name = none) (path : String) : s.StreamsAgree files key path name where
  bytes overwrite chunks := by
    have h := stores_requests (k := .bytes) hkey hd hroot hname path overwrite chunks
    rwa [show chunks.flatMap WriteStream.bytes.octets = chunks.flatten from List.flatMap_id] at h
  text overwrite texts := by
    have h := stores_requests (k := .text) hkey hd hroot hname path overwrite texts
    rwa [show texts.flatMap WriteStream.text.octets = Utf8.encode (String.join texts) from
      (Utf8.encode_join texts).symm] at h
  read stamp content hentry := by
    obtain ⟨place, hplace⟩ := FileStorage.exists_find?_of_entryAt hd hroot path hentry
    constructor
    · have hread : files.readBytes path s.disk = .ok content := by
        rw [FileStorage.readBytes_eq hd hroot, hentry]
        rfl
      simp only [run, answer, hkey, answerFile, look, hread]
      rfl
    · intro sizes hsizes
      have hopen : s.answer (.file key (.openRead path name)) =
          (.ok (.opened path), s.keep name (some (.reader { path, source := .file stamp }))) := by
        simp only [answer, hkey, answerFile, FileStorage.openRead, hentry, Except.map, keepOpened,
          FileStorage.sourceOf]
      have hahead : (ByteReader.mk path (.file stamp) 0).ahead s.disk = .ok content := by
        simp only [ByteReader.ahead, hd.content_eq hplace, List.drop_zero]
      have hkept := handle?_keep_self s name (some (.reader { path, source := .file stamp }))
      obtain ⟨pieces, rest, hrun, hdelivers⟩ := run_readings hkept hahead hsizes
      refine ⟨pieces, rest, ?_, hdelivers⟩
      rw [run, hopen]
      dsimp only
      rw [hrun]
      rfl

/-- A session over a file and a link to it, where one read gives one octet. -/
def dripping : Session :=
  { single "p" ["r"] (Disk.linked [195, 169] "t") with supply := .upTo 1 (by decide) }

/-- A character is written over a stream, through a link, in two parts with nothing between them, and
the file holds it then.  What the file held before is read in buffers that are too small, too large and
of no use any more. -/
theorem streams_link :
    Succeeds (dripping.run
      (WriteStream.bytes.requests "p" "./l" "h" true [[226], [], [130, 172]])) ∧
    (∃ stamp, (FileStorage.mk ["r"]).entryAt "./l" (dripping.run
      (WriteStream.bytes.requests "p" "./l" "h" true [[226], [], [130, 172]])).2.disk =
        .ok (.file stamp [226, 130, 172])) ∧
    ∃ pieces rest, Delivers [195, 169] [1, 3, 2] pieces rest ∧
      (dripping.run (.file "p" (.openRead "./l" "h") :: readings "h" [1, 3, 2])).1 =
        .ok (.opened "./l") :: (pieces.map fun piece => .ok (.bytes piece)) ++
          [.ok (.bytes rest)] := by
  have hd := Disk.wellFormed_linked [195, 169] (show Disk.isPathText "t" = true by decide)
  have hroot : (Disk.linked [195, 169] "t").find? ["r"] = some .directory := by
    simp [Disk.find?_linked, Disk.find?_single]
  have hkey : dripping.manager.fileStorage "p" = .ok ⟨["r"]⟩ := rfl
  have hlaw := streams hkey hd hroot (show dripping.handle? "h" = none from rfl) "./l"
  have hstores := hlaw.bytes true [[226], [], [130, 172]]
  have hsucceeds : Succeeds (dripping.run
      (WriteStream.bytes.requests "p" "./l" "h" true [[226], [], [130, 172]])) := by
    refine hstores.succeeds_iff.2 ?_
    have hwrite : ((FileStorage.mk ["r"]).writeBytes "./l" [226, 130, 172] true
        (Disk.linked [195, 169] "t")).1 = .ok () := by decide +kernel
    rw [run_writeBytes hkey]
    intro result hresult
    obtain rfl := List.mem_singleton.1 hresult
    exact ⟨.done, congrArg (Except.map fun _ => Answer.done) hwrite, nofun⟩
  have hentry : (FileStorage.mk ["r"]).entryAt "./l" (Disk.linked [195, 169] "t") =
      .ok (.file 0 [195, 169]) := by decide +kernel
  obtain ⟨-, hread⟩ := hlaw.read 0 [195, 169] hentry
  obtain ⟨pieces, rest, hrun, hdelivers⟩ := hread [1, 3, 2] (by decide)
  exact ⟨hsucceeds, hstores.holds hsucceeds, pieces, rest, hdelivers, hrun⟩

end RootedStorage.Session

import RootedStorage.Disk.Change

/-!
# Streams

Readers and writers over the content of one entry.  They keep to the file that they were opened on,
whatever happens to its name.  A text reader gives one line after the other: a line is what comes up
to and with the next line feed, and it is taken off the stream also when it is not UTF-8.
-/

namespace RootedStorage

/-- What a reader reads from: content in memory, a file, or a directory, which cannot be read. -/
inductive Source where
  | memory (content : Bytes)
  | file (stamp : Nat)
  | directory
  deriving DecidableEq, Repr

/-- A reader of octets. -/
structure ByteReader where
  path : String
  source : Source
  offset : Nat := 0
  deriving DecidableEq, Repr

/-- A reader of text.  It reads ahead; `pending` is what it has read and not given yet. -/
structure TextReader where
  reader : ByteReader
  pending : Bytes := []
  deriving DecidableEq, Repr

/-- A writer. -/
structure Writer where
  path : String
  stamp : Nat
  offset : Nat := 0
  deriving DecidableEq, Repr

/-- How much one read gives, by the reader's place, what is asked for and what is left.  A device may
give less than is asked for, but it gives something as long as something is asked for and left. -/
structure Supply where
  given (offset count left : Nat) : Nat
  given_le : ∀ offset count left, given offset count left ≤ count
  given_pos : ∀ offset count left, 0 < count → 0 < left → 0 < given offset count left

/-- As much as is asked for, but no more than a limit at a time. -/
def Supply.upTo (limit : Nat) (h : 0 < limit) : Supply where
  given _ count _ := min count limit
  given_le _ count _ := Nat.min_le_left count limit
  given_pos _ _ _ hcount _ := Nat.lt_min.2 ⟨hcount, h⟩

/-- The supply of ordinary files, which are read through a buffer of two mebibytes. -/
def Supply.buffered : Supply := .upTo (2 * 1024 * 1024) (by decide)

namespace ByteReader

/-- The content from the reader's place on. -/
def ahead (r : ByteReader) (d : Disk) : Outcome Bytes :=
  match r.source with
  | .memory content => .ok (content.drop r.offset)
  | .file stamp => .ok ((d.content stamp).drop r.offset)
  | .directory => .error (.access (.io r.path))

/-- The reader after it has read the given number of octets. -/
def skip (r : ByteReader) (count : Nat) : ByteReader := { r with offset := r.offset + count }

/-- Reads at most `count` octets. -/
def read (r : ByteReader) (count : Nat) (supply : Supply) (d : Disk) : Outcome Bytes × ByteReader :=
  match r.ahead d with
  | .ok rest =>
    let piece := rest.take (supply.given r.offset count rest.length)
    (.ok piece, r.skip piece.length)
  | .error e => (.error e, r)

/-- Reads what is left. -/
def readToEnd (r : ByteReader) (d : Disk) : Outcome Bytes × ByteReader :=
  match r.ahead d with
  | .ok rest => (.ok rest, r.skip rest.length)
  | .error e => (.error e, r)

end ByteReader

/-- The text of content, or the error that the content of `path` is no text. -/
def decodeText (content : Bytes) (path : String) : Outcome String :=
  match Utf8.decode? content with
  | some text => .ok text
  | none => .error (.access (.invalidText path))

namespace TextReader

/-- How many octets are read ahead at a time. -/
def chunk : Nat := 8192

/-- The first line of content, with its line feed if it has one. -/
def firstLine (content : Bytes) : Bytes :=
  match content.span (· ≠ 10) with
  | (line, b :: _) => line ++ [b]
  | (line, []) => line

/-- The reader after it has given the given number of octets of `pending ++ ahead`; it reads ahead
in whole chunks as long as there are any. -/
def advance (r : TextReader) (ahead : Bytes) (count : Nat) : TextReader :=
  if count ≤ r.pending.length then { r with pending := r.pending.drop count }
  else
    let needed := count - r.pending.length
    let fetched := min ahead.length ((needed + chunk - 1) / chunk * chunk)
    { reader := r.reader.skip fetched, pending := (ahead.take fetched).drop needed }

/-- Reads one line.  Gives the octets of the line, none at the end. -/
def takeLine (r : TextReader) (d : Disk) : Outcome Bytes × TextReader :=
  if r.pending.contains 10 then
    let line := firstLine r.pending
    (.ok line, r.advance [] line.length)
  else
    match r.reader.ahead d with
    | .ok ahead =>
      let line := firstLine (r.pending ++ ahead)
      (.ok line, r.advance ahead line.length)
    | .error e => (.error e, r)

/-- Reads one line and appends it to `held`.  Gives the number of octets of the line and the longer
text; a line that is not UTF-8 is an error. -/
def readLine (r : TextReader) (held : String) (d : Disk) :
    Outcome (Nat × String) × TextReader :=
  match r.takeLine d with
  | (.ok line, r) => ((decodeText line r.reader.path).map fun t => (line.length, held ++ t), r)
  | (.error e, r) => (.error e, r)

/-- Reads what is left as one text. -/
def readToEnd (r : TextReader) (d : Disk) : Outcome String × TextReader :=
  match r.reader.readToEnd d with
  | (.ok rest, reader) =>
    (decodeText (r.pending ++ rest) reader.path, { reader, pending := [] })
  | (.error e, reader) => (.error e, { r with reader })

end TextReader

/-- Content with data written over it at a place; a gap before the place is filled with zeros. -/
def overwriteAt (content : Bytes) (offset : Nat) (data : Bytes) : Bytes :=
  content.take offset ++ List.replicate (offset - content.length) 0 ++ data
    ++ content.drop (offset + data.length)

namespace Writer

/-- Writes data behind what has been written before. -/
def write (w : Writer) (data : Bytes) (d : Disk) : Writer × Disk :=
  ({ w with offset := w.offset + data.length },
    d.setContent w.stamp (overwriteAt (d.content w.stamp) w.offset data))

end Writer

end RootedStorage

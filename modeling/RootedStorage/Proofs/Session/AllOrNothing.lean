import RootedStorage.Proofs.Session.Confinement

/-!
# All of a table or nothing

A table write that succeeds leaves the whole encoded table in the file that its path names, and one
that fails leaves what stood there.  No link may be on the way, and a session never makes one, so the
law holds in every state of a session that started without links below the root
(`Session.allOrNothing_writeTable`).  Each way of writing has the law on its own disk first.
-/

namespace RootedStorage

open Disk

namespace TableStorage

/-- The content that a write of the table puts in its file. -/
def encoded (t : TableStorage) (format : String) (schema : TableSchema) (b : Batch)
    (options : FormatOptions) : Outcome Bytes :=
  t.formats.get format >>= fun f => f.encode schema b options

/-- A write that succeeded leaves the content to be read at the path, and one that failed leaves the
entry there. -/
structure AllOrNothing (root : Location) (path : String) (content : Outcome Bytes) (d : Disk)
    (result : Effect Unit) : Prop where
  all : result.1 = .ok () →
    ∃ data, content = .ok data ∧ (FileStorage.mk root).readBytes path result.2 = .ok data
  nothing : ∀ e, result.1 = .error e → ∀ names, Path.segments? path = some names →
    result.2.find? (root ++ names) = d.find? (root ++ names)

variable {root : Location} {d d' : Disk} {path : String} {names : List String}
  {content : Outcome Bytes}

/-- A failure that leaves the entry at the path is nothing. -/
theorem AllOrNothing.failed (e : StorageError)
    (h : ∀ names, Path.segments? path = some names → d'.find? (root ++ names) = d.find? (root ++ names)) :
    AllOrNothing root path content d (.error e, d') where
  all := fun hok => by cases hok
  nothing := fun _ _ => h

/-- A write is complete if its content stands at the path, with no link on the way. -/
theorem AllOrNothing.complete {data : Bytes} {stamp : Nat} (hcontent : content = .ok data)
    (hnames : Path.segments? path = some names) (hconfined : Confined root d d')
    (hwalkable : Walkable (root ++ names))
    (hfind : d'.find? (root ++ names) = some (.file stamp data)) :
    AllOrNothing root path content d (.ok (), d') := by
  have hstraight := hconfined.straight_of_segments? hconfined.wellFormed hnames
  refine ⟨fun _ => ⟨data, hcontent, ?_⟩, fun e herror => by cases herror⟩
  exact FileStorage.readBytes_of_find? hconfined.wellFormed hnames hstraight hwalkable hfind

section
variable (h : d.LinkFreeBelow root) (hd : d.WellFormed)
include h hd

/-- A write of the whole content is all. -/
theorem AllOrNothing.written (hnames : Path.segments? path = some names) {overwrite : Bool}
    {place : Location} {stamp : Nat} {data : Bytes} (hcontent : content = .ok data)
    (hwritten : d.Written overwrite (root ++ names) place stamp data d') :
    AllOrNothing root path content d (.ok (), d') := by
  have hname : ∀ part ∈ names, Path.isName part = true := fun _ =>
    Path.isName_of_mem_segments? hnames
  obtain rfl := h.eq_of_written hd hname hwritten
  exact AllOrNothing.complete hcontent hnames (hwritten.confined h hd hname)
    (walkable_of_walk hwritten.walk) hwritten.find?_place

/-- A table write through file storage is all or nothing. -/
theorem allOrNothing_streamWrite {t : TableStorage} (ht : t.files.root = root)
    (format : TableFormat) (path : String) (content : Outcome Bytes) (overwrite : Bool) :
    AllOrNothing root path content d (t.streamWrite format path content overwrite d) := by
  subst ht
  rcases streamWrite_cases t format path content overwrite d with
    ⟨e, hresult⟩ | ⟨data, hcontent, hresult⟩
  · rw [hresult]
    exact AllOrNothing.failed e fun _ _ => rfl
  · rw [hresult]
    rcases FileStorage.writeBytes_cases hd h.isDirectory path data overwrite with
      ⟨e, hwrite⟩ | ⟨names, place, stamp, d', hnames, hwrite, hwritten⟩
    · rw [hwrite]
      exact AllOrNothing.failed e fun _ _ => rfl
    · rw [hwrite]
      exact AllOrNothing.written h hd hnames hcontent hwritten

section
variable {above : List String} {name : String}
  (hnames : Path.segments? path = some (above ++ [name]))
include hnames

/-- Creating a file for a table is all or nothing, also if encoding fails halfway. -/
theorem allOrNothing_createEncoded (content : Outcome Bytes) :
    AllOrNothing root path content d
      (createEncoded (root ++ (above ++ [name])) path content d) := by
  have hl := FileStorage.no_slash_of_segments? hd h.isDirectory hnames
  have hname := Path.isName_of_segments?_concat hnames
  rw [← List.append_assoc] at hl ⊢
  rcases createEncoded_cases hd hl hname path content with
    ⟨fault, e, -, hresult⟩ | ⟨e, e', d', -, hresult, hfind⟩ |
      ⟨data, place, stamp, d', hcontent, hresult, hwritten⟩
  · rw [hresult]
    exact AllOrNothing.failed e fun _ _ => rfl
  · rw [hresult]
    exact AllOrNothing.failed e' fun _ _ => hfind _
  · rw [hresult]
    rw [List.append_assoc] at hwritten
    exact AllOrNothing.written h hd hnames hcontent hwritten

/-- The temporary file is not the target: until it moves there, the target is as it was. -/
theorem allOrNothing_replaceEncoded (content : Outcome Bytes) :
    AllOrNothing root path content d
      (replaceEncoded (root ++ (above ++ [name])) path content d) := by
  have hconfined := confined_replaceEncoded h hd hnames content
  have hne : root ++ (above ++ [name]) ≠ root ++ (above ++ [temporaryName name]) := by
    simpa using (temporaryName_ne name).symm
  rcases replaceEncoded_cases hd h hnames content with
    ⟨e, hresult⟩ | ⟨e, d', hresult, -, hfind⟩ |
      ⟨data, stamp, d', hcontent, hresult, -, hwalkable, hfind⟩
  · rw [hresult]
    exact AllOrNothing.failed e fun _ _ => rfl
  · rw [hresult]
    refine AllOrNothing.failed e fun names hnames' => ?_
    obtain rfl := Option.some.inj (hnames.symm.trans hnames')
    rw [hfind, if_neg hne]
  · rw [hresult] at hconfined ⊢
    have htarget := hfind (root ++ (above ++ [name]))
    rw [if_pos rfl] at htarget
    exact AllOrNothing.complete hcontent hnames hconfined hwalkable htarget

end

/-- A table write below a root is all or nothing. -/
theorem allOrNothing_pushdownWrite (path : String) (content : Outcome Bytes) (overwrite : Bool) :
    AllOrNothing root path content d (pushdownWrite root path content overwrite d) := by
  rcases pushdownWrite_cases root path content overwrite d with
    ⟨e, hresult⟩ | ⟨above, name, hnames, hresult⟩
  · rw [hresult]
    exact AllOrNothing.failed e fun _ _ => rfl
  · rw [hresult]
    cases overwrite with
    | false => exact allOrNothing_createEncoded h hd hnames content
    | true => exact allOrNothing_replaceEncoded h hd hnames content

/-- A table write on a disk without links below the root is all or nothing. -/
theorem allOrNothing_of_linkFree {t : TableStorage} (ht : t.HasRoot root) (schema : TableSchema)
    (b : Batch) (path format : String) (options : FormatOptions) (overwrite : Bool) :
    AllOrNothing root path (t.encoded format schema b options) d
      (t.writeTable schema b path format options overwrite d) := by
  obtain ⟨hfiles, hdirect⟩ := ht
  unfold writeTable encoded
  cases hformat : t.formats.get format with
  | error e => exact AllOrNothing.failed e fun _ _ => rfl
  | ok f =>
    cases hpushdown : t.pushdownRoot with
    | none => exact allOrNothing_streamWrite h hd hfiles f path _ overwrite
    | some direct =>
      obtain rfl := hdirect direct hpushdown
      exact allOrNothing_pushdownWrite h hd path _ overwrite

end

end TableStorage

/-- In every state that requests to storages below a root lead to, a table write that succeeds leaves
exactly the encoded table to be read at its path, and one that fails leaves the entry there. -/
theorem Session.allOrNothing_writeTable {s : Session} {root : Location} (h : s.Below root)
    (requests : List Request)
    (hbound : ∀ request ∈ requests, request.BoundTo s.manager root) {t : TableStorage}
    (ht : t.HasRoot root) (schema : TableSchema) (b : Batch) (path format : String)
    (options : FormatOptions) (overwrite : Bool) :
    TableStorage.AllOrNothing root path (t.encoded format schema b options)
      (s.run requests).2.disk
      (t.writeTable schema b path format options overwrite (s.run requests).2.disk) := by
  have hrun := (h.run requests hbound).below
  exact TableStorage.allOrNothing_of_linkFree hrun.toLinkFreeBelow hrun.wellFormed ht schema b path
    format options overwrite

/-- A table replaces the file that a request wrote before. -/
def Session.replaced (b : Batch) : Effect Unit :=
  (TableStorage.mk ⟨["r"]⟩ .builtin (some ["r"])).writeTable { fields := [⟨"n", "string", true⟩] } b
    "t" "csv" .empty true
    ((Session.single "p" ["r"] (Disk.single "r")).run
      [.file "p" (.writeBytes "./t" [1, 2] false)]).2.disk

/-- A table with the column of the schema is then what is read as a whole.  A table without it fails,
and the file that was written before is still there. -/
theorem Session.allOrNothing_writeTable_kept :
    ((replaced ⟨[⟨⟨"n", .text, true⟩, [.text "é"]⟩]⟩).1 = .ok () ∧
      (FileStorage.mk ["r"]).readBytes "t" (replaced ⟨[⟨⟨"n", .text, true⟩, [.text "é"]⟩]⟩).2 =
        .ok [110, 10, 195, 169, 10]) ∧
    (∃ e, (replaced .empty).1 = .error e) ∧
      (replaced .empty).2.find? ["r", "t"] = some (.file 0 [1, 2]) := by
  have hd : (Disk.single "r").WellFormed := Disk.wellFormed_single (by decide)
  have hroot : (Disk.single "r").LinkFreeBelow ["r"] := by
    refine ⟨by simp [Disk.find?_single], fun names target => ?_⟩
    rw [Disk.find?_single]
    split <;> simp
  have hbelow : (Session.single "p" ["r"] (Disk.single "r")).Below ["r"] :=
    Session.below_of_no_handles hd hroot rfl
  have hlaw := fun b => Session.allOrNothing_writeTable hbelow
    [.file "p" (.writeBytes "./t" [1, 2] false)] (fun request _ => boundTo_single request)
    (t := ⟨⟨["r"]⟩, .builtin, some ["r"]⟩) ⟨rfl, fun _ h => (Option.some.inj h).symm⟩
    { fields := [⟨"n", "string", true⟩] } b "t" "csv" .empty true
  constructor
  · have hok : (replaced ⟨[⟨⟨"n", .text, true⟩, [.text "é"]⟩]⟩).1 = .ok () := by decide +kernel
    obtain ⟨data, hencoded, hread⟩ := (hlaw _).all hok
    have hdata : (TableStorage.mk ⟨["r"]⟩ .builtin (some ["r"])).encoded "csv"
        { fields := [⟨"n", "string", true⟩] } ⟨[⟨⟨"n", .text, true⟩, [.text "é"]⟩]⟩ .empty =
          .ok [110, 10, 195, 169, 10] := by decide +kernel
    obtain rfl := Except.ok.inj (hdata.symm.trans hencoded)
    exact ⟨hok, hread⟩
  · have herror := (hlaw .empty).nothing _ rfl ["t"] (by decide)
    exact ⟨⟨_, rfl⟩, herror.trans (by decide)⟩

end RootedStorage

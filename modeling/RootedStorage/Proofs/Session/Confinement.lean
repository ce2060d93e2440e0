import RootedStorage.Session
import RootedStorage.Proofs.Disk.Confined
import RootedStorage.Proofs.TableStorage.Frame

/-!
# Sessions keep to their root

Requests to storages below one root change nothing elsewhere, whatever their paths are.  Paths are
resolved by their segments, so an operation starts below the root; without links it stays there.  A
stream is not looked up again, and the file that it writes to may be moved meanwhile: it stays below
the root since no change brings a file out of it.  `Session.Below` carries both facts from one
request to the next, and `Session.confined_run` is what they amount to.
-/

namespace RootedStorage

open Disk (LinkFreeBelow Confined)

/-! ## File storage -/

namespace FileStorage

variable {s : FileStorage} {d : Disk} (h : d.LinkFreeBelow s.root) (hd : d.WellFormed)
include h hd

/-- Opening a file to write stays below the root. -/
theorem confined_openWrite (path : String) (overwrite : Bool) :
    Confined s.root d (s.openWrite path overwrite d).2 := by
  rcases openWrite_cases hd h.isDirectory path overwrite with
    ⟨e, hresult⟩ | ⟨names, place, stamp, d', hnames, hresult, hwritten⟩
  · rw [hresult]
    exact Confined.refl h hd
  · rw [hresult]
    exact hwritten.confined h hd fun _ => Path.isName_of_mem_segments? hnames

/-- A writer writes to a file below the root. -/
theorem fileBelow_of_openWrite {path : String} {overwrite : Bool} {w : Writer} {d' : Disk}
    (hopen : s.openWrite path overwrite d = (.ok w, d')) : d'.FileBelow s.root w.stamp := by
  rcases openWrite_cases hd h.isDirectory path overwrite with
    ⟨e, hresult⟩ | ⟨names, place, stamp, d'', hnames, hresult, hwritten⟩
  · rw [hresult] at hopen
    cases hopen
  · rw [hresult] at hopen
    cases hopen
    exact hwritten.fileBelow h hd fun _ => Path.isName_of_mem_segments? hnames

/-- Writing content stays below the root. -/
theorem confined_writeBytes (path : String) (data : Bytes) (overwrite : Bool) :
    Confined s.root d (s.writeBytes path data overwrite d).2 := by
  rcases writeBytes_cases hd h.isDirectory path data overwrite with
    ⟨e, hresult⟩ | ⟨names, place, stamp, d', hnames, hresult, hwritten⟩
  · rw [hresult]
    exact Confined.refl h hd
  · rw [hresult]
    exact hwritten.confined h hd fun _ => Path.isName_of_mem_segments? hnames

/-- Removing stays below the root. -/
theorem confined_remove (path : String) (recursive : Bool) :
    Confined s.root d (s.remove path recursive d).2 := by
  rcases remove_cases_of_linkFree hd h.isDirectory h path recursive with
    ⟨e, hresult⟩ | ⟨names, d', -, hne, hresult, hfind, hd'⟩
  · rw [hresult]
    exact Confined.refl h hd
  · rw [hresult]
    exact h.confined_remove hne hfind hd'

/-- Making directories stays below the root. -/
theorem confined_makeDirectory (path : String) (recursive existsOk : Bool) :
    Confined s.root d (s.makeDirectory path recursive existsOk d).2 := by
  unfold makeDirectory
  cases hlocation : s.location path with
  | error e => exact Confined.refl h hd
  | ok l =>
    obtain ⟨names, hnames, rfl⟩ := location_eq_ok_iff.1 hlocation
    have hname : ∀ part ∈ names, Path.isName part = true := fun _ =>
      Path.isName_of_mem_segments? hnames
    have hslash := no_slash_of_segments? hd h.isDirectory hnames
    dsimp only
    cases hlookup : d.lookup (s.root ++ names) with
    | ok e => exact Confined.refl h hd
    | error fault =>
      cases recursive with
      | true => exact h.confined_makeDirectories hname hslash hd _ (by simp)
      | false =>
        show Confined s.root d (createOne (s.root ++ names) d).2
        unfold createOne
        cases hmake : d.makeDirectory (s.root ++ names) with
        | error fault => exact Confined.refl h hd
        | ok d' => exact h.confined_makeDirectory hname hslash hd (List.prefix_refl _) hmake

end FileStorage

/-! ## Table storage -/

namespace TableStorage

variable {root : Location} {d : Disk} {path : String} (h : d.LinkFreeBelow root)
  (hd : d.WellFormed)
include h hd

section
variable {above : List String} {name : String}
  (hnames : Path.segments? path = some (above ++ [name]))
include hnames

/-- Creating a file for a table stays below the root, also if it fails halfway. -/
theorem confined_createEncoded (content : Outcome Bytes) :
    Confined root d (createEncoded (root ++ (above ++ [name])) path content d).2 := by
  have hl := FileStorage.no_slash_of_segments? hd h.isDirectory hnames
  have hname := Path.isName_of_segments?_concat hnames
  have hd' := wellFormed_createEncoded hd hl path content
  rw [← List.append_assoc] at hl hd' ⊢
  rcases createEncoded_cases hd hl hname path content with
    ⟨fault, e, -, hresult⟩ | ⟨e, e', d', -, hresult, hfind⟩ |
      ⟨data, place, stamp, d', -, hresult, hwritten⟩
  · rw [hresult]
    exact Confined.refl h hd
  · rw [hresult] at hd' ⊢
    exact h.confined hd' fun k => Or.inl (hfind k)
  · rw [hresult]
    rw [List.append_assoc] at hwritten
    exact hwritten.confined h hd fun _ => Path.isName_of_mem_segments? hnames

/-- A replacement changes two names in a directory below the root. -/
theorem confined_replaceEncoded (content : Outcome Bytes) :
    Confined root d (replaceEncoded (root ++ (above ++ [name])) path content d).2 := by
  have hbelow : ∀ last, root <+: root ++ (above ++ [last]) ∧ root ++ (above ++ [last]) ≠ root :=
    fun last => ⟨List.prefix_append root _, by simp⟩
  rcases replaceEncoded_cases hd h hnames content with
    ⟨e, hresult⟩ | ⟨e, d', hresult, hd', hfind⟩ | ⟨data, stamp, d', -, hresult, hd', -, hfind⟩
  · rw [hresult]
    exact Confined.refl h hd
  · rw [hresult]
    refine h.confined hd' fun k => ?_
    rw [hfind]
    by_cases hk : k = root ++ (above ++ [temporaryName name])
    · subst hk
      exact Or.inr ⟨(hbelow _).1, (hbelow _).2, by simp⟩
    · exact Or.inl (if_neg hk)
  · rw [hresult]
    refine h.confined hd' fun k => ?_
    rw [hfind]
    by_cases htarget : k = root ++ (above ++ [name])
    · subst htarget
      exact Or.inr ⟨(hbelow _).1, (hbelow _).2, by simp⟩
    · rw [if_neg htarget]
      by_cases hk : k = root ++ (above ++ [temporaryName name])
      · subst hk
        exact Or.inr ⟨(hbelow _).1, (hbelow _).2, by simp⟩
      · exact Or.inl (if_neg hk)

end

/-- A table write below a root stays there, with its temporary file. -/
theorem confined_pushdownWrite (path : String) (content : Outcome Bytes) (overwrite : Bool) :
    Confined root d (pushdownWrite root path content overwrite d).2 := by
  rcases pushdownWrite_cases root path content overwrite d with
    ⟨e, hresult⟩ | ⟨above, name, hnames, hresult⟩
  · rw [hresult]
    exact Confined.refl h hd
  · rw [hresult]
    cases overwrite with
    | false => exact confined_createEncoded h hd hnames content
    | true => exact confined_replaceEncoded h hd hnames content

/-- A table write through file storage stays below its root. -/
theorem confined_streamWrite {t : TableStorage} (ht : t.files.root = root) (format : TableFormat)
    (path : String) (content : Outcome Bytes) (overwrite : Bool) :
    Confined root d (t.streamWrite format path content overwrite d).2 := by
  subst ht
  rcases streamWrite_cases t format path content overwrite d with ⟨e, hresult⟩ | ⟨data, -, hresult⟩
  · rw [hresult]
    exact Confined.refl h hd
  · rw [hresult]
    exact FileStorage.confined_writeBytes h hd path data overwrite

/-- A table write is confined to the root of its storage. -/
theorem confined_writeTable {t : TableStorage} (ht : t.HasRoot root) (schema : TableSchema)
    (b : Batch) (path format : String) (options : FormatOptions) (overwrite : Bool) :
    Confined root d (t.writeTable schema b path format options overwrite d).2 := by
  obtain ⟨hfiles, hdirect⟩ := ht
  unfold writeTable
  cases hformat : t.formats.get format with
  | error e => exact Confined.refl h hd
  | ok f =>
    cases hpushdown : t.pushdownRoot with
    | none => exact confined_streamWrite h hd hfiles f path _ overwrite
    | some direct =>
      obtain rfl := hdirect direct hpushdown
      exact confined_pushdownWrite h hd path _ overwrite

end TableStorage

/-! ## Sessions -/

/-- What the stream writes to. -/
def Handle.writer? : Handle → Option Writer
  | .writer w => some w
  | .textWriter w => some w
  | .reader _ => none
  | .textReader _ => none

/-- The storage that the request asks for, if there is one, has the root. -/
def Request.BoundTo (m : StorageManager) (root : Location) : Request → Prop
  | .file key _ => ∀ files, m.fileStorage key = .ok files → files.root = root
  | .table key _ => ∀ tables, m.tableStorage key = .ok tables → tables.HasRoot root
  | _ => True

/-- The manager of one storage, which reads and writes below the root with pushdown. -/
def StorageManager.single (key : String) (root : Location) : StorageManager where
  files := .ofList [(key, ⟨root⟩)]
  tables := .ofList [(key, ⟨⟨root⟩, .builtin, some root⟩)]

/-- Every request to the only storage of a manager is bound to its root. -/
theorem boundTo_single {key : String} {root : Location} (request : Request) :
    request.BoundTo (.single key root) root := by
  have hget : ∀ {α : Type} (x : α) (k : String) (y : α),
      (Dictionary.ofList [(key, x)]).get? k = some y → y = x := by
    intro α x k y hy
    rw [Dictionary.ofList, List.foldl_cons, List.foldl_nil, Dictionary.get?_put] at hy
    split at hy
    · exact (Option.some.inj hy).symm
    · cases hy
  cases request with
  | file k request =>
    intro files hfiles
    unfold StorageManager.fileStorage at hfiles
    split at hfiles
    · next s hs =>
      obtain rfl := Except.ok.inj hfiles
      rw [hget _ _ _ hs]
    · cases hfiles
  | table k request =>
    intro tables htables
    unfold StorageManager.tableStorage at htables
    split at htables
    · next t ht =>
      obtain rfl := Except.ok.inj htables
      rw [hget _ _ _ ht]
      exact ⟨rfl, fun direct hdirect => (Option.some.inj hdirect).symm⟩
    · cases htables
  | _ => trivial

namespace Session

/-- A session without streams over one storage. -/
def single (key : String) (root : Location) (d : Disk) : Session where
  manager := .single key root
  registry := .builtin
  disk := d

variable {s s' s'' : Session} {root : Location}

/-- There are no links below the root, and every open writer writes to a file below it. -/
structure Below (root : Location) (s : Session) : Prop extends s.disk.LinkFreeBelow root where
  wellFormed : s.disk.WellFormed
  writer : ∀ name h w, s.handle? name = some h → h.writer? = some w →
    s.disk.FileBelow root w.stamp

/-- The session went on below the root. -/
structure Continues (root : Location) (s s' : Session) : Prop where
  manager : s'.manager = s.manager
  confined : Confined root s.disk s'.disk
  below : s'.Below root

/-- A session below the root continues as itself. -/
theorem Below.refl (h : s.Below root) : Continues root s s :=
  ⟨rfl, Confined.refl h.toLinkFreeBelow h.wellFormed, h⟩

/-- Continuations follow one another. -/
theorem Continues.trans (h : Continues root s s') (h' : Continues root s' s'') :
    Continues root s s'' :=
  ⟨h'.manager.trans h.manager, h.confined.trans h'.confined, h'.below⟩

/-- A session without streams that starts on a well-formed disk. -/
theorem below_of_no_handles (hd : s.disk.WellFormed) (hroot : s.disk.LinkFreeBelow root)
    (hhandles : s.handles = .empty) : s.Below root where
  toLinkFreeBelow := hroot
  wellFormed := hd
  writer := by
    intro name h w hname
    rw [handle?, hhandles] at hname
    cases hname

/-- Keeping a stream under one name leaves the streams under the others. -/
theorem handle?_keep (s : Session) (name k : String) (h : Option Handle) :
    (s.keep name h).handle? k = if k = name then h else s.handle? k := by
  unfold handle? keep
  rw [Dictionary.get?_put]
  by_cases hk : k = name <;> simp [hk]

section
variable (h : s.Below root)
include h

/-- A confined change of the disk is a continuation: the writers' files are still below the root. -/
theorem Below.setDisk {d : Disk} (hconfined : Confined root s.disk d) :
    Continues root s { s with disk := d } where
  manager := rfl
  confined := hconfined
  below :=
    { toLinkFreeBelow := hconfined.toLinkFreeBelow
      wellFormed := hconfined.wellFormed
      writer := fun name x w hname hw => (h.writer name x w hname hw).of_confined hconfined }

/-- Keeping a stream is a continuation if its file is below the root. -/
theorem Below.keep (name : String) (handle : Option Handle)
    (hwriter : ∀ x w, handle = some x → x.writer? = some w → s.disk.FileBelow root w.stamp) :
    Continues root s (s.keep name handle) where
  manager := rfl
  confined := Confined.refl h.toLinkFreeBelow h.wellFormed
  below :=
    { toLinkFreeBelow := h.toLinkFreeBelow
      wellFormed := h.wellFormed
      writer := by
        intro k x w hk hw
        rw [handle?_keep] at hk
        split at hk
        · exact hwriter x w hk hw
        · exact h.writer k x w hk hw }

/-- A request with a confined effect is a continuation. -/
theorem Below.change {α : Type} {effect : Effect α} (hconfined : Confined root s.disk effect.2)
    (answer : α → Answer) : Continues root s (s.change effect answer).2 :=
  h.setDisk hconfined

/-- A request that opens a stream is a continuation if the stream's file is below the root. -/
theorem Below.keepOpened {α : Type} {effect : Effect α}
    (hconfined : Confined root s.disk effect.2) (name : String) (handle : α → Handle)
    (answer : Answer) (hwriter : ∀ stream w, effect.1 = .ok stream →
      (handle stream).writer? = some w → effect.2.FileBelow root w.stamp) :
    Continues root s (s.keepOpened name effect handle answer).2 := by
  have hchanged := h.setDisk hconfined
  obtain ⟨result, d⟩ := effect
  cases result with
  | error e => exact hchanged
  | ok stream =>
    refine hchanged.trans (hchanged.below.keep name _ fun x w hx hw => ?_)
    obtain rfl := Option.some.inj hx
    exact hwriter stream w rfl hw

/-- Writing to a file below the root is a continuation. -/
theorem Below.write {w : Writer} (hw : s.disk.FileBelow root w.stamp) (name : String)
    (data : Bytes) (handle : Writer → Handle) (hhandle : ∀ w, (handle w).writer? = some w) :
    Continues root s ({ s with disk := (w.write data s.disk).2 }.keep name
      (some (handle (w.write data s.disk).1))) := by
  have hconfined : Confined root s.disk (w.write data s.disk).2 :=
    h.toLinkFreeBelow.confined_setContent h.wellFormed hw _
  have hchanged := h.setDisk hconfined
  refine hchanged.trans (hchanged.below.keep name _ fun x v hx hv => ?_)
  obtain rfl := Option.some.inj hx
  rw [hhandle] at hv
  obtain rfl := Option.some.inj hv
  exact hw.of_confined hconfined

/-! ### One request -/

/-- Every request to file storage at the root is a continuation. -/
theorem Below.answerFile {files : FileStorage} (hfiles : files.root = root)
    (request : FileRequest) : Continues root s (s.answerFile files request).2 := by
  subst hfiles
  have hroot := h.toLinkFreeBelow
  have hd := h.wellFormed
  cases request with
  | «exists» path => exact h.refl
  | size path => exact h.refl
  | stat path => exact h.refl
  | list path => exact h.refl
  | readBytes path => exact h.refl
  | readText path => exact h.refl
  | makeDirectory path recursive existsOk =>
    exact h.change (FileStorage.confined_makeDirectory hroot hd path recursive existsOk) _
  | remove path recursive =>
    exact h.change (FileStorage.confined_remove hroot hd path recursive) _
  | writeBytes path data overwrite =>
    exact h.change (FileStorage.confined_writeBytes hroot hd path data overwrite) _
  | writeText path text overwrite =>
    exact h.change (FileStorage.confined_writeBytes hroot hd path (Utf8.encode text) overwrite) _
  | openRead path handle =>
    exact h.keepOpened (Confined.refl hroot hd) handle _ _ fun _ _ _ hw => by cases hw
  | openTextRead path handle =>
    exact h.keepOpened (Confined.refl hroot hd) handle _ _ fun _ _ _ hw => by cases hw
  | openWrite path handle overwrite =>
    refine h.keepOpened (FileStorage.confined_openWrite hroot hd path overwrite) handle _ _ ?_
    intro w w' hopen hw
    obtain rfl := Option.some.inj hw
    exact FileStorage.fileBelow_of_openWrite hroot hd (Prod.ext hopen rfl)
  | openTextWrite path handle overwrite =>
    refine h.keepOpened (FileStorage.confined_openWrite hroot hd path overwrite) handle _ _ ?_
    intro w w' hopen hw
    obtain rfl := Option.some.inj hw
    exact FileStorage.fileBelow_of_openWrite hroot hd (Prod.ext hopen rfl)

/-- Every request to table storage at the root is a continuation. -/
theorem Below.answerTable {tables : TableStorage} (htables : tables.HasRoot root)
    (request : TableRequest) : Continues root s (s.answerTable tables request).2 := by
  cases request with
  | read path format schema options => exact h.refl
  | write path format schema options batch overwrite =>
    exact h.change (TableStorage.confined_writeTable h.toLinkFreeBelow h.wellFormed htables schema
      batch path format options overwrite) _

/-- Every request to an open stream is a continuation. -/
theorem Below.answerStream (name : String) (request : StreamRequest) :
    Continues root s (s.answerStream name request).2 := by
  unfold Session.answerStream
  split
  · exact h.keep name _ fun x w hx hw => by cases hx; cases hw
  · exact h.keep name _ fun x w hx hw => by cases hx; cases hw
  · exact h.keep name _ fun x w hx hw => by cases hx; cases hw
  · exact h.keep name _ fun x w hx hw => by cases hx; cases hw
  · next data _ w hname =>
    exact h.write (h.writer name _ w hname rfl) name data .writer fun _ => rfl
  · next text w hname =>
    exact h.write (h.writer name _ w hname rfl) name (Utf8.encode text) .textWriter fun _ => rfl
  · exact h.keep name none fun x w hx => by cases hx
  · exact h.refl

/-- Whatever a request to the storages below the root asks for, the session goes on below it. -/
theorem Below.answer {request : Request} (hbound : request.BoundTo s.manager root) :
    Continues root s (s.answer request).2 := by
  cases request with
  | overview => exact h.refl
  | has key => exact h.refl
  | hasType type => exact h.refl
  | fileStorage key => exact h.refl
  | tableStorage key => exact h.refl
  | file key request =>
    simp only [Session.answer]
    cases hfiles : s.manager.fileStorage key with
    | error e => exact h.refl
    | ok files => exact h.answerFile (hbound files hfiles) request
  | table key request =>
    simp only [Session.answer]
    cases htables : s.manager.tableStorage key with
    | error e => exact h.refl
    | ok tables => exact h.answerTable (hbound tables htables) request
  | stream handle request => exact h.answerStream handle request

end

/-! ### Runs -/

/-- A run of requests to the storages below the root goes on below it. -/
theorem Below.run (h : s.Below root) (requests : List Request)
    (hbound : ∀ request ∈ requests, request.BoundTo s.manager root) :
    Continues root s (s.run requests).2 := by
  induction requests generalizing s with
  | nil => exact h.refl
  | cons request requests ih =>
    have hfirst := h.answer (hbound request List.mem_cons_self)
    refine hfirst.trans (ih hfirst.below fun r hr => ?_)
    rw [hfirst.manager]
    exact hbound r (List.mem_cons_of_mem _ hr)

/-- After any run of requests to the storages below a root, streams included, every entry elsewhere
is as it was, the root is a directory, and no link stands below it. -/
theorem confined_run (h : s.Below root) (requests : List Request)
    (hbound : ∀ request ∈ requests, request.BoundTo s.manager root) :
    Confined root s.disk (s.run requests).2.disk :=
  (h.run requests hbound).confined

/-- Requests that name the entry beside the root, the root itself and the directory above it. -/
theorem confined_run_escapes :
    Confined ["r"] ((Disk.single "r").putFile ["o"] [1])
      ((single "p" ["r"] ((Disk.single "r").putFile ["o"] [1])).run
        [.file "p" (.writeText "../o" "x" true), .file "p" (.remove "//." true),
          .file "p" (.makeDirectory "/r/../.." true true), .file "p" (.openTextWrite ".//a" "w" true),
          .stream "w" (.write [] "x"),
          .table "p" (.write "./" "csv" {} .empty .empty true)]).2.disk := by
  have hfind : ∀ k, ((Disk.single "r").putFile ["o"] [1]).find? k =
      if k = ["o"] then some (.file 0 [1]) else (Disk.single "r").find? k :=
    fun k => Disk.find?_putFile _ _ k _ (by simp)
  have hsingle : (Disk.single "r").WellFormed := Disk.wellFormed_single (by decide)
  have hd : ((Disk.single "r").putFile ["o"] [1]).WellFormed :=
    hsingle.putFile (Disk.find?_nil _) (by decide) (by simp [Disk.find?_single]) [1]
  have hroot : ((Disk.single "r").putFile ["o"] [1]).LinkFreeBelow ["r"] := by
    refine ⟨by simp [hfind, Disk.find?_single], fun names target => ?_⟩
    rw [hfind, Disk.find?_single]
    split
    · simp
    · split <;> simp
  have hbelow : (single "p" ["r"] ((Disk.single "r").putFile ["o"] [1])).Below ["r"] :=
    below_of_no_handles hd hroot rfl
  exact confined_run hbelow _ fun request _ => boundTo_single request

end Session

end RootedStorage

import RootedStorage.Proofs.Session.Confinement

/-!
# Exclusive writes

A write that must not find an entry at its path creates a file at a free place or fails without a
trace.  `Exclusive` says so, and every way of writing has it: whole content, streams, and tables on
both routes, also when a file is taken away again because there is nothing to put into it.  So
exclusive writes leave every entry as it is, and where an entry stands they fail.

Where no link stands, an entry stays at its location until it or a directory above it is removed, so
two exclusive writes to one path that succeed have such a removal between them
(`Session.exclusive_writes`).
-/

namespace RootedStorage

open Disk

/-! ## One exclusive write -/

/-- Every entry of the disk stands in the other as it was. -/
def Disk.Preserves (d d' : Disk) : Prop := ∀ k e, d.find? k = some e → d'.find? k = some e

/-- What an exclusive write at a path can do: fail and leave every entry, or create a file at a free
place. -/
inductive Exclusive {α : Type} (root : Location) (path : String) (d : Disk) :
    Outcome α → Disk → Prop where
  | failed {d' : Disk} (e : StorageError) :
    (∀ k, d'.find? k = d.find? k) → Exclusive root path d (.error e) d'
  | created {d' : Disk} {names : List String} {place : Location} {stamp : Nat} {data : Bytes} (a : α) :
    Path.segments? path = some names → d.Written false (root ++ names) place stamp data d' →
    Exclusive root path d (.ok a) d'

section
variable {root : Location} {path : String} {d d' : Disk} {names : List String}

/-- An exclusive write finds its place free. -/
theorem Disk.Written.find?_eq_none {l place : Location} {stamp : Nat} {data : Bytes}
    (h : d.Written false l place stamp data d') : d.find? place = none :=
  h.before.resolve_right (by simp)

/-- An exclusive write leaves all that stood before. -/
theorem Disk.Written.preserves {l place : Location} {stamp : Nat} {data : Bytes}
    (h : d.Written false l place stamp data d') : d.Preserves d' := by
  intro k e hk
  have hne : k ≠ place := by
    rintro rfl
    rw [h.find?_eq_none] at hk
    cases hk
  rw [h.find?, if_neg hne, hk]

namespace Exclusive

variable {α β : Type} {result : Outcome α} (h : Exclusive root path d result d')
include h

/-- Exclusiveness does not depend on what the result is made into. -/
theorem map (f : α → β) : Exclusive root path d (result.map f) d' := by
  cases h with
  | failed e hfind => exact .failed e hfind
  | created a hnames hwritten => exact .created (f a) hnames hwritten

/-- An exclusive write leaves all that stood before, also if it fails. -/
theorem preserves : d.Preserves d' := by
  cases h with
  | failed e hfind =>
    intro k x hk
    rw [hfind, hk]
  | created a hnames hwritten => exact hwritten.preserves

/-- Where an entry stands, be it a link that leads nowhere, the write fails. -/
theorem error_of_occupied (hnames : Path.segments? path = some names) {place : Location} {x : Entry}
    (hplace : d.locate false [] (root ++ names) = .ok (place, x)) : ∃ e, result = .error e := by
  cases h with
  | failed e hfind => exact ⟨e, rfl⟩
  | created a hnames' hwritten =>
    obtain rfl := Option.some.inj (hnames.symm.trans hnames')
    rw [locate, hwritten.walk, spotAt_of_free hwritten.find?_eq_none] at hplace
    cases hplace

/-- Where no link stands, a write that succeeds found nothing at its location and leaves a file
there. -/
theorem location_of_ok (hd : d.WellFormed) (hroot : d.LinkFreeBelow root)
    (hnames : Path.segments? path = some names) {a : α} (hok : result = .ok a) :
    d.find? (root ++ names) = none ∧ ∃ e, d'.find? (root ++ names) = some e := by
  cases h with
  | failed e hfind => cases hok
  | created b hnames' hwritten =>
    obtain rfl := Option.some.inj (hnames.symm.trans hnames')
    obtain rfl := hroot.eq_of_written hd (fun _ => Path.isName_of_mem_segments? hnames) hwritten
    exact ⟨hwritten.find?_eq_none, _, hwritten.find?_place⟩

end Exclusive

namespace FileStorage

variable {s : FileStorage} (hd : d.WellFormed) (hroot : d.find? s.root = some .directory)
include hd hroot

/-- Opening a stream without overwriting is exclusive. -/
theorem exclusive_openWrite (path : String) :
    Exclusive s.root path d (s.openWrite path false d).1 (s.openWrite path false d).2 := by
  rcases openWrite_cases hd hroot path false with
    ⟨e, h⟩ | ⟨names, place, stamp, d', hnames, h, hwritten⟩
  · rw [h]
    exact .failed e fun _ => rfl
  · rw [h]
    exact .created _ hnames hwritten

/-- Writing content without overwriting is exclusive. -/
theorem exclusive_writeBytes (path : String) (data : Bytes) :
    Exclusive s.root path d (s.writeBytes path data false d).1 (s.writeBytes path data false d).2 := by
  rcases writeBytes_cases hd hroot path data false with
    ⟨e, h⟩ | ⟨names, place, stamp, d', hnames, h, hwritten⟩
  · rw [h]
    exact .failed e fun _ => rfl
  · rw [h]
    exact .created _ hnames hwritten

end FileStorage

namespace TableStorage

variable (hd : d.WellFormed) (hroot : d.find? root = some .directory)
include hd hroot

/-- A file that is taken away again leaves the entries as they were. -/
theorem exclusive_pushdownWrite (path : String) (content : Outcome Bytes) :
    Exclusive root path d (pushdownWrite root path content false d).1
      (pushdownWrite root path content false d).2 := by
  rcases pushdownWrite_cases root path content false d with ⟨e, h⟩ | ⟨above, name, hnames, h⟩
  · rw [h]
    exact .failed e fun _ => rfl
  · have hl := FileStorage.no_slash_of_segments? hd hroot hnames
    have hname := Path.isName_of_segments?_concat hnames
    rw [← List.append_assoc] at hl
    rw [h, if_neg (by simp), ← List.append_assoc]
    rcases createEncoded_cases hd hl hname path content with
      ⟨fault, e, -, hresult⟩ | ⟨e, e', d', -, hresult, hfind⟩ |
        ⟨data, place, stamp, d', -, hresult, hwritten⟩
    · rw [hresult]
      exact .failed e fun _ => rfl
    · rw [hresult]
      exact .failed e' hfind
    · rw [hresult]
      rw [List.append_assoc] at hwritten
      exact .created _ hnames hwritten

/-- Writing a table without overwriting is exclusive on both routes. -/
theorem exclusive_writeTable {t : TableStorage} (ht : t.HasRoot root) (schema : TableSchema)
    (b : Batch) (path format : String) (options : FormatOptions) :
    Exclusive root path d (t.writeTable schema b path format options false d).1
      (t.writeTable schema b path format options false d).2 := by
  obtain ⟨rfl, hdirect⟩ := ht
  unfold writeTable
  cases hformat : t.formats.get format with
  | error e => exact .failed e fun _ => rfl
  | ok f =>
    cases hpushdown : t.pushdownRoot with
    | some direct =>
      obtain rfl := hdirect direct hpushdown
      exact exclusive_pushdownWrite hd hroot path _
    | none =>
      dsimp only
      rcases streamWrite_cases t f path (f.encode schema b options) false d with
        ⟨e, h⟩ | ⟨data, -, h⟩
      · rw [h]
        exact .failed e fun _ => rfl
      · rw [h]
        exact FileStorage.exclusive_writeBytes hd hroot path data

end TableStorage

end

/-! ## Changes that take no entry away -/

/-- Wherever an entry stands, one stands in the other disk. -/
def Disk.Keeps (d d' : Disk) : Prop := ∀ k, (d.find? k).isSome → (d'.find? k).isSome

section
variable {d d' : Disk}

/-- Where all stays as it was, nothing is taken away. -/
theorem Disk.Preserves.keeps (h : d.Preserves d') : d.Keeps d' := by
  intro k hk
  obtain ⟨e, he⟩ := Option.isSome_iff_exists.1 hk
  rw [h k e he]
  rfl

/-- Writing takes nothing away. -/
theorem Disk.Written.keeps {overwrite : Bool} {l place : Location} {stamp : Nat} {data : Bytes}
    (h : d.Written overwrite l place stamp data d') : d.Keeps d' := by
  intro k hk
  rw [h.find?]
  split
  · rfl
  · exact hk

/-- Making directories takes nothing away. -/
theorem Disk.Grown.keeps (h : d.Grown d') : d.Keeps d' := by
  intro k hk
  obtain ⟨e, he⟩ := Option.isSome_iff_exists.1 hk
  rw [h.find?_of_some he]
  rfl

/-- Changing the content of a file takes nothing away. -/
theorem Disk.keeps_setContent (stamp : Nat) (content : Bytes) :
    d.Keeps (d.setContent stamp content) := by
  intro k hk
  rw [find?_setContent, Option.isSome_map]
  exact hk

namespace FileStorage

variable {s : FileStorage} (hd : d.WellFormed) (hroot : d.find? s.root = some .directory)
include hd hroot

/-- Opening a file to write takes nothing away. -/
theorem keeps_openWrite (path : String) (overwrite : Bool) :
    d.Keeps (s.openWrite path overwrite d).2 := by
  rcases openWrite_cases hd hroot path overwrite with ⟨e, h⟩ | ⟨_, _, _, d', -, h, hwritten⟩
  · rw [h]
    exact fun _ hk => hk
  · rw [h]
    exact hwritten.keeps

/-- Writing content takes nothing away. -/
theorem keeps_writeBytes (path : String) (data : Bytes) (overwrite : Bool) :
    d.Keeps (s.writeBytes path data overwrite d).2 := by
  rcases writeBytes_cases hd hroot path data overwrite with ⟨e, h⟩ | ⟨_, _, _, d', -, h, hwritten⟩
  · rw [h]
    exact fun _ hk => hk
  · rw [h]
    exact hwritten.keeps

end FileStorage

end

/-! ## Requests -/

namespace Request

/-- The path of a write that must not find an entry there. -/
def exclusivePath? : Request → Option String
  | .file _ (.writeBytes path _ false) => some path
  | .file _ (.writeText path _ false) => some path
  | .file _ (.openWrite path _ false) => some path
  | .file _ (.openTextWrite path _ false) => some path
  | .table _ (.write path _ _ _ _ false) => some path
  | _ => none

/-- The request is an exclusive write to a path with the given segments. -/
def Creates (names : List String) (r : Request) : Prop :=
  ∃ path, r.exclusivePath? = some path ∧ Path.segments? path = some names

/-- The request is a removal of the entry with the given segments or of one above it. -/
def Removes (names : List String) : Request → Prop
  | .file _ (.remove path _) => ∃ top, Path.segments? path = some top ∧ top <+: names
  | _ => False

/-- The request puts a table in the place of a file. -/
def ReplacesTable : Request → Prop
  | .table _ (.write _ _ _ _ _ true) => True
  | _ => False

end Request

namespace Session

variable {s : Session} {root : Location} {request : Request}

/-- Keeping an opened stream leaves the disk that opening it left. -/
theorem disk_keepOpened {α : Type} (s : Session) (name : String) (effect : Effect α)
    (handle : α → Handle) (answer : Answer) :
    (s.keepOpened name effect handle answer).2.disk = effect.2 := by
  obtain ⟨result, d⟩ := effect
  cases result <;> rfl

/-- A request that opens a stream is exclusive if opening it is. -/
theorem exclusive_keepOpened {α : Type} {path : String} {effect : Effect α} (name : String)
    (handle : α → Handle) (answer : Answer)
    (h : Exclusive root path s.disk effect.1 effect.2) :
    Exclusive root path s.disk (s.keepOpened name effect handle answer).1
      (s.keepOpened name effect handle answer).2.disk := by
  rw [disk_keepOpened]
  obtain ⟨result, d⟩ := effect
  cases h with
  | failed e hfind => exact .failed e hfind
  | created a hnames hwritten => exact .created answer hnames hwritten

/-- A request for an exclusive write creates a file or fails without a trace. -/
theorem exclusive_answer (hd : s.disk.WellFormed) (hroot : s.disk.find? root = some .directory)
    {path : String} (hpath : request.exclusivePath? = some path)
    (hbound : request.BoundTo s.manager root) :
    Exclusive root path s.disk (s.answer request).1 (s.answer request).2.disk := by
  unfold Request.exclusivePath? at hpath
  split at hpath
  case h_6 => cases hpath
  case h_5 key path format schema options batch =>
    obtain rfl := Option.some.inj hpath
    simp only [answer]
    cases htables : s.manager.tableStorage key with
    | error e => exact .failed e fun _ => rfl
    | ok tables =>
      exact (TableStorage.exclusive_writeTable hd hroot (hbound tables htables) schema batch path
        format options).map _
  all_goals
    obtain rfl := Option.some.inj hpath
    simp only [answer]
    cases hfiles : s.manager.fileStorage _ with
    | error e => exact .failed e fun _ => rfl
    | ok files => ?_
    obtain rfl := hbound files hfiles
  case h_1 data => exact (FileStorage.exclusive_writeBytes hd hroot _ data).map _
  case h_2 text => exact (FileStorage.exclusive_writeBytes hd hroot _ (Utf8.encode text)).map _
  case h_3 handle => exact exclusive_keepOpened handle _ _ (FileStorage.exclusive_openWrite hd hroot _)
  case h_4 handle => exact exclusive_keepOpened handle _ _ (FileStorage.exclusive_openWrite hd hroot _)

/-! ## Entries that stand -/

section
variable (h : s.Below root) {names : List String}
  (hstands : (s.disk.find? (root ++ names)).isSome)
include h hstands

/-- Where no link stands, a removal takes what stands at its path, with everything below. -/
theorem stands_remove {files : FileStorage} (hfiles : files.root = root) (path : String)
    (recursive : Bool) :
    ((files.remove path recursive s.disk).2.find? (root ++ names)).isSome ∨
      (∃ top, Path.segments? path = some top ∧ top <+: names) ∧
        (files.remove path recursive s.disk).1 = .ok () := by
  subst hfiles
  rcases FileStorage.remove_cases_of_linkFree h.wellFormed h.isDirectory h.toLinkFreeBelow path
    recursive with ⟨e, hresult⟩ | ⟨top, d', htop, -, hresult, hfind, -⟩
  · rw [hresult]
    exact Or.inl hstands
  · rw [hresult]
    by_cases habove : top <+: names
    · exact Or.inr ⟨⟨top, htop, habove⟩, rfl⟩
    · left
      rw [hfind, if_neg fun hx => habove ((List.prefix_append_right_inj _).1 hx.1)]
      exact hstands

/-- What stands at a path stands there after a request, unless the request removed it. -/
theorem stands_answerFile {files : FileStorage} (hfiles : files.root = root) (key : String)
    (request : FileRequest) :
    ((s.answerFile files request).2.disk.find? (root ++ names)).isSome ∨
      (Request.file key request).Removes names ∧ ∃ a, (s.answerFile files request).1 = .ok a := by
  have hd := h.wellFormed
  have hroot : s.disk.find? files.root = some .directory := hfiles ▸ h.isDirectory
  cases request with
  | «exists» path => exact Or.inl hstands
  | size path => exact Or.inl hstands
  | stat path => exact Or.inl hstands
  | list path => exact Or.inl hstands
  | readBytes path => exact Or.inl hstands
  | readText path => exact Or.inl hstands
  | makeDirectory path recursive existsOk =>
    exact Or.inl ((FileStorage.grown_makeDirectory hd hroot path recursive existsOk).keeps _ hstands)
  | remove path recursive =>
    refine (stands_remove h hstands hfiles path recursive).imp_right ?_
    rintro ⟨hremoves, hok⟩
    refine ⟨hremoves, .done, ?_⟩
    show (files.remove path recursive s.disk).1.map _ = _
    rw [hok]
    rfl
  | writeBytes path data overwrite =>
    exact Or.inl (FileStorage.keeps_writeBytes hd hroot path data overwrite _ hstands)
  | writeText path text overwrite =>
    exact Or.inl (FileStorage.keeps_writeBytes hd hroot path (Utf8.encode text) overwrite _ hstands)
  | openRead path handle =>
    left
    simp only [answerFile, disk_keepOpened]
    exact hstands
  | openTextRead path handle =>
    left
    simp only [answerFile, disk_keepOpened]
    exact hstands
  | openWrite path handle overwrite =>
    left
    simp only [answerFile, disk_keepOpened]
    exact FileStorage.keeps_openWrite hd hroot path overwrite _ hstands
  | openTextWrite path handle overwrite =>
    left
    simp only [answerFile, disk_keepOpened]
    exact FileStorage.keeps_openWrite hd hroot path overwrite _ hstands

omit h in
/-- A stream changes the content of a file, and no entry goes. -/
theorem stands_answerStream (name : String) (request : StreamRequest) :
    ((s.answerStream name request).2.disk.find? (root ++ names)).isSome := by
  unfold answerStream
  split
  case h_5 => exact keeps_setContent _ _ _ hstands
  case h_6 => exact keeps_setContent _ _ _ hstands
  all_goals exact hstands

/-- An entry below the root goes only by a removal that succeeds, of it or of a directory above it. -/
theorem stands_answer (hbound : request.BoundTo s.manager root) (hkeep : ¬ request.ReplacesTable) :
    ((s.answer request).2.disk.find? (root ++ names)).isSome ∨
      request.Removes names ∧ ∃ a, (s.answer request).1 = .ok a := by
  cases request with
  | overview => exact Or.inl hstands
  | has key => exact Or.inl hstands
  | hasType type => exact Or.inl hstands
  | fileStorage key => exact Or.inl hstands
  | tableStorage key => exact Or.inl hstands
  | file key request =>
    simp only [answer]
    cases hfiles : s.manager.fileStorage key with
    | error e => exact Or.inl hstands
    | ok files => exact stands_answerFile h hstands (hbound files hfiles) key request
  | table key request =>
    left
    simp only [answer]
    cases htables : s.manager.tableStorage key with
    | error e => exact hstands
    | ok tables =>
      cases request with
      | read path format schema options => exact hstands
      | write path format schema options batch overwrite =>
        cases overwrite with
        | true => exact absurd trivial hkeep
        | false =>
          exact (TableStorage.exclusive_writeTable h.wellFormed h.isDirectory
            (hbound tables htables) schema batch path format options).preserves.keeps _ hstands
  | stream handle request => exact Or.inl (stands_answerStream hstands handle request)

end

/-- A request that creates an entry leaves it where its segments say, and found nothing there. -/
theorem Below.location_of_creates (h : s.Below root) (hbound : request.BoundTo s.manager root)
    {names : List String} (hcreates : request.Creates names) {a : Answer}
    (hok : (s.answer request).1 = .ok a) :
    s.disk.find? (root ++ names) = none ∧
      ((s.answer request).2.disk.find? (root ++ names)).isSome := by
  obtain ⟨path, hpath, hnames⟩ := hcreates
  have hexclusive := exclusive_answer h.wellFormed h.isDirectory hpath hbound
  obtain ⟨hfree, e, he⟩ :=
    hexclusive.location_of_ok h.wellFormed h.toLinkFreeBelow hnames hok
  exact ⟨hfree, by rw [he]; rfl⟩

/-! ## Runs -/

/-- The requests of a run with what each of them gave. -/
def history (s : Session) (requests : List Request) : List (Request × Outcome Answer) :=
  requests.zip (s.run requests).1

/-- The history of a run begins with its first request and that request's outcome. -/
theorem history_cons (s : Session) (request : Request) (requests : List Request) :
    s.history (request :: requests) =
      (request, (s.answer request).1) :: (s.answer request).2.history requests := rfl

/-- The request is one to the storages below the root that puts no table in the place of a file. -/
def Admits (s : Session) (root : Location) (request : Request) : Prop :=
  request.BoundTo s.manager root ∧ ¬ request.ReplacesTable

/-- The requests that are left are admitted in the session that the first one leaves. -/
theorem Continues.admits_of_cons {s' : Session} (h : Continues root s s') {requests : List Request}
    (hadmits : ∀ r ∈ request :: requests, s.Admits root r) : ∀ r ∈ requests, s'.Admits root r := by
  intro r hr
  obtain ⟨hbound, hkeep⟩ := hadmits r (List.mem_cons_of_mem _ hr)
  exact ⟨by rw [h.manager]; exact hbound, hkeep⟩

section
variable {requests : List Request} {names : List String} {first second : Request} {a b : Answer}
  {before between after : List (Request × Outcome Answer)} (hsecond : second.Creates names)
include hsecond

/-- Where an entry stands, a removal comes before the next exclusive write that succeeds. -/
theorem Below.exists_removal_of_stands (h : s.Below root)
    (hadmits : ∀ request ∈ requests, s.Admits root request)
    (hstands : (s.disk.find? (root ++ names)).isSome)
    (hhistory : s.history requests = between ++ (second, .ok b) :: after) :
    ∃ x ∈ between, x.1.Removes names ∧ ∃ c, x.2 = .ok c := by
  induction between generalizing s requests with
  | nil =>
    cases requests with
    | nil => cases hhistory
    | cons request requests =>
      rw [history_cons, List.nil_append, List.cons.injEq, Prod.mk.injEq] at hhistory
      obtain ⟨⟨rfl, hok⟩, -⟩ := hhistory
      have hfree := (h.location_of_creates (hadmits _ List.mem_cons_self).1 hsecond hok).1
      rw [hfree] at hstands
      cases hstands
  | cons x between ih =>
    cases requests with
    | nil => cases hhistory
    | cons request requests =>
      rw [history_cons, List.cons_append, List.cons.injEq] at hhistory
      obtain ⟨rfl, hrest⟩ := hhistory
      obtain ⟨hbound, hkeep⟩ := hadmits request List.mem_cons_self
      rcases stands_answer h hstands hbound hkeep with hstill | hremoved
      · have hnext := h.answer hbound
        obtain ⟨y, hy, hremoves⟩ := ih hnext.below (hnext.admits_of_cons hadmits) hstill hrest
        exact ⟨y, List.mem_cons_of_mem _ hy, hremoves⟩
      · exact ⟨_, List.mem_cons_self, hremoved⟩

/-- Between two exclusive writes to one path that succeed comes a removal that succeeds. -/
theorem Below.exists_removal_between (h : s.Below root)
    (hadmits : ∀ request ∈ requests, s.Admits root request) (hfirst : first.Creates names)
    (hhistory : s.history requests =
      before ++ (first, .ok a) :: between ++ (second, .ok b) :: after) :
    ∃ x ∈ between, x.1.Removes names ∧ ∃ c, x.2 = .ok c := by
  induction before generalizing s requests with
  | nil =>
    cases requests with
    | nil => cases hhistory
    | cons request requests =>
      rw [history_cons, List.nil_append, List.cons_append, List.cons.injEq, Prod.mk.injEq] at hhistory
      obtain ⟨⟨rfl, hok⟩, hrest⟩ := hhistory
      have hbound := (hadmits _ List.mem_cons_self).1
      have hstands := (h.location_of_creates hbound hfirst hok).2
      have hnext := h.answer hbound
      exact hnext.below.exists_removal_of_stands hsecond (hnext.admits_of_cons hadmits) hstands hrest
  | cons x before ih =>
    cases requests with
    | nil => cases hhistory
    | cons request requests =>
      rw [history_cons, List.cons_append, List.cons_append, List.cons.injEq] at hhistory
      obtain ⟨-, hrest⟩ := hhistory
      have hnext := h.answer (hadmits request List.mem_cons_self).1
      exact ih hnext.below (hnext.admits_of_cons hadmits) hrest

end

/-- A write that must not find an entry at its path leaves every entry as it is, and fails where one
stands, be it a link that leads nowhere.  Where no link stands, between two such writes to one path
that succeed comes a successful removal of the path or of a directory above it, whatever else is
requested and whichever streams are left open. -/
theorem exclusive_writes (hd : s.disk.WellFormed) (hroot : s.disk.find? root = some .directory) :
    (∀ (request : Request) (path : String), request.exclusivePath? = some path →
      request.BoundTo s.manager root →
      s.disk.Preserves (s.answer request).2.disk ∧
        ∀ names, Path.segments? path = some names →
          (∃ place e, s.disk.locate false [] (root ++ names) = .ok (place, e)) →
          ∃ e, (s.answer request).1 = .error e) ∧
    (s.Below root → ∀ (requests : List Request) (names : List String) (first second : Request)
      (a b : Answer) (before between after : List (Request × Outcome Answer)),
      (∀ request ∈ requests, s.Admits root request) → first.Creates names → second.Creates names →
      s.history requests = before ++ (first, .ok a) :: between ++ (second, .ok b) :: after →
      ∃ x ∈ between, x.1.Removes names ∧ ∃ c, x.2 = .ok c) := by
  constructor
  · intro request path hpath hbound
    have hexclusive := exclusive_answer hd hroot hpath hbound
    refine ⟨hexclusive.preserves, ?_⟩
    rintro names hnames ⟨place, e, hplace⟩
    exact hexclusive.error_of_occupied hnames hplace
  · intro h requests names first second a b before between after hadmits hfirst hsecond hhistory
    exact h.exists_removal_between hsecond hadmits hfirst hhistory

/-- A link that leads nowhere stands in the way of a write.  In a run with a stream left open, the
removal between two writes is found. -/
theorem exclusive_writes_link :
    (∃ e, ((single "p" ["r"] (Disk.linked [] "m")).answer
      (.file "p" (.writeText "./l" "x" false))).1 = .error e) ∧
    ∃ x ∈ ([(.stream "w" (.write [1] ""), .ok .done), (.file "p" (.remove "a/" false), .ok .done)] :
        List (Request × Outcome Answer)), x.1.Removes ["a"] ∧ ∃ c, x.2 = .ok c := by
  constructor
  · have hroot : (Disk.linked [] "m").find? ["r"] = some .directory := by
      simp [Disk.find?_linked, Disk.find?_single]
    have hlaw := exclusive_writes (s := single "p" ["r"] (Disk.linked [] "m"))
      (Disk.wellFormed_linked [] (by decide)) hroot
    obtain ⟨-, hfails⟩ := hlaw.1 (.file "p" (.writeText "./l" "x" false)) "./l" rfl
      (boundTo_single _)
    exact hfails ["l"] (by decide) ⟨["r", "l"], .link "m", rfl⟩
  · have hd : (Disk.single "r").WellFormed := Disk.wellFormed_single (by decide)
    have hroot := linkFreeBelow_single "r"
    have hlaw := exclusive_writes (s := single "p" ["r"] (Disk.single "r")) hd hroot.isDirectory
    have hbelow : (single "p" ["r"] (Disk.single "r")).Below ["r"] :=
      below_of_no_handles hd hroot rfl
    refine hlaw.2 hbelow [.file "p" (.openWrite "a" "w" false), .stream "w" (.write [1] ""),
      .file "p" (.remove "a/" false), .file "p" (.writeBytes "./a" [] false)] ["a"]
      (.file "p" (.openWrite "a" "w" false)) (.file "p" (.writeBytes "./a" [] false))
      (.opened "a") .done [] _ [] ?_ ⟨"a", rfl, by decide⟩ ⟨"./a", rfl, by decide⟩ rfl
    intro request hrequest
    refine ⟨boundTo_single request, ?_⟩
    simp only [List.mem_cons, List.not_mem_nil, or_false] at hrequest
    rcases hrequest with rfl | rfl | rfl | rfl <;> exact fun hx => hx

end Session

end RootedStorage

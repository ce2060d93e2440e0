import RootedStorage.Proofs.Csv.Encoding
import RootedStorage.Proofs.TableStorage.Writing

/-!
# The two routes of a table write

A table is written through file storage or straight below the root.  A write that creates a file has
the same effect on both routes.  One that replaces a file has so exactly if no link stands at the
target and the temporary file of the direct route gets in nobody's way: `Interchangeable` says when.
-/

namespace RootedStorage

namespace Disk

/-- The location can be opened for overwriting. -/
def Opens (d : Disk) (l : Location) : Prop := ∃ stamp d', d.openWrite true l = .ok (stamp, d')

/-- Nothing stands at the end of the path. -/
def IsFree (d : Disk) (l : Location) : Prop :=
  ∃ place slash, d.walk false [] l = .ok (.vacant place slash)

/-- A link stands at the end of the path. -/
def IsLink (d : Disk) (l : Location) : Prop :=
  ∃ place target, d.walk false [] l = .ok (.entry place (.link target))

/-- A path is free exactly if nothing stands at the place that it leads to. -/
theorem isFree_iff {d : Disk} {l place : Location} (h : d.walk false [] l = .ok (d.spotAt place)) :
    d.IsFree l ↔ d.find? place = none := by
  unfold IsFree
  rw [h]
  cases hfind : d.find? place with
  | none => simp [spotAt_of_free hfind]
  | some e => simp [spotAt_of_find? hfind]

/-- A path names a link exactly if one stands at the place that it leads to. -/
theorem isLink_iff {d : Disk} {l place : Location} (h : d.walk false [] l = .ok (d.spotAt place)) :
    d.IsLink l ↔ ∃ target, d.find? place = some (.link target) := by
  unfold IsLink
  rw [h]
  cases hfind : d.find? place with
  | none => simp [spotAt_of_free hfind]
  | some e => simp [spotAt_of_find? hfind]

end Disk

/-- Two effects succeed or fail together and leave the same tree. -/
def Agree (a b : Effect Unit) : Prop := a.1.isOk = b.1.isOk ∧ a.2.tree = b.2.tree

namespace TableStorage

open Disk

/-- Replacing a file by way of a temporary one has the effect of writing over it: either the
temporary file can be opened at a free place, and no link stands at the target that the content
would go to; or neither the temporary file nor the target can be opened.  Content that cannot be
encoded leaves the target alone. -/
def Interchangeable (d : Disk) (l : Location) (content : Outcome Bytes) : Prop :=
  d.Opens (temporarySibling l) ∧ d.IsFree (temporarySibling l) ∧ (content.isOk = true → ¬ d.IsLink l) ∨
    ¬ d.Opens (temporarySibling l) ∧ (content.isOk = true → ¬ d.Opens l)

/-- If the temporary file can be opened, the ways of writing are interchangeable exactly if it is
new and no link is replaced. -/
theorem interchangeable_of_opens {d : Disk} {l : Location} {content : Outcome Bytes}
    (h : d.Opens (temporarySibling l)) : Interchangeable d l content ↔
      d.IsFree (temporarySibling l) ∧ (content.isOk = true → ¬ d.IsLink l) := by
  simp only [Interchangeable, h, true_and, not_true_eq_false, false_and, or_false]

/-- If the temporary file cannot be opened, the ways of writing are interchangeable exactly if the
target cannot be written either. -/
theorem interchangeable_of_not_opens {d : Disk} {l : Location} {content : Outcome Bytes}
    (h : ¬ d.Opens (temporarySibling l)) :
    Interchangeable d l content ↔ (content.isOk = true → ¬ d.Opens l) := by
  simp only [Interchangeable, h, false_and, not_false_eq_true, true_and, false_or]

/-! ## The formats of the library -/

/-- Encoded content suits its format. -/
theorem binary_or_isValid {container : Parquet.Container} {name : String} {f : TableFormat}
    (h : (FormatRegistry.standard container).get name = .ok f) {schema : TableSchema} {b : Batch}
    {options : FormatOptions} {data : Bytes} (hdata : f.encode schema b options = .ok data) :
    f.isBinary = true ∨ Utf8.isValid data = true := by
  rcases FormatRegistry.eq_of_standard_get h with rfl | rfl
  · exact Or.inr (Csv.isValid_of_encode hdata)
  · exact Or.inl rfl

/-! ## The temporary file -/

namespace Staged

variable {d d' d'' : Disk} {parent there place : Location} {name : String} {stamp : Nat}
  {data : Bytes} (h : Staged d parent name there place stamp data d')
include h

/-- A path is free exactly if nothing stands at the place that it leads to. -/
theorem isFree_iff : d.IsFree (parent ++ [temporaryName name]) ↔
    d.find? (there ++ [temporaryName name]) = none :=
  Disk.isFree_iff (h.walk_sibling_of fun _ => id)

/-- A path names a link exactly if one stands at the place that it leads to. -/
theorem isLink_iff (hname : Path.isName name = true) : d.IsLink (parent ++ [name]) ↔
    ∃ target, d.find? (there ++ [name]) = some (.link target) :=
  Disk.isLink_iff (h.walk_target_of hname fun _ => id)

/-- A new temporary file lies where its path leads. -/
theorem place_eq_of_free (hfree : d.find? (there ++ [temporaryName name]) = none) :
    place = there ++ [temporaryName name] := by
  refine h.place_eq_or_link.resolve_right ?_
  rintro ⟨target, hlink⟩
  rw [hfree] at hlink
  cases hlink

/-- Following links makes no difference to a target that is none. -/
theorem walk_target_true (hname : Path.isName name = true)
    (hlink : ∀ target, d.find? (there ++ [name]) ≠ some (.link target)) :
    d.walk true [] (parent ++ [name]) = .ok (d.spotAt (there ++ [name])) := by
  obtain ⟨m, hreach⟩ := h.reaches_there
  exact walk_of_reaches_of_not_link hreach hname h.short_target h.walkable_target hlink

/-- Discarding the temporary file leaves the tree as it was exactly if its place was free. -/
theorem tree_eq_iff_of_discard
    (hdiscard : ∀ k, d''.find? k = if k = there ++ [temporaryName name] then none else d'.find? k) :
    d''.tree = d.tree ↔ d.find? (there ++ [temporaryName name]) = none := by
  constructor
  · intro htree
    have hsibling := congrFun htree (there ++ [temporaryName name])
    rw [tree, hdiscard, if_pos rfl] at hsibling
    exact Option.map_eq_none_iff.1 hsibling.symm
  · intro hfree
    funext k
    rw [tree, tree, hdiscard, h.find?, h.place_eq_of_free hfree]
    by_cases hk : k = there ++ [temporaryName name]
    · rw [if_pos hk, hk, hfree]
    · rw [if_neg hk, if_neg hk]

end Staged

/-! ## Refused paths -/

/-- Writes content, if there is any. -/
def writeContent (root : Location) (path : String) (content : Outcome Bytes) (overwrite : Bool)
    (d : Disk) : Effect Unit :=
  match content with
  | .error e => (.error e, d)
  | .ok data => (FileStorage.mk root).writeBytes path data overwrite d

variable {root : Location} {d : Disk} {path : String}

/-- Two writes that fail and change nothing agree. -/
theorem agree_errors (e e' : StorageError) : Agree (.error e, d) (.error e', d) := ⟨rfl, rfl⟩

section
variable (hd : d.WellFormed) (hroot : d.find? root = some .directory)
include hd hroot

/-- Both ways of writing refuse a path that names no file. -/
theorem agree_of_refused (h : ∀ names, Path.segments? path = some names → names = [])
    (content : Outcome Bytes) (overwrite : Bool) :
    Agree (pushdownWrite root path content overwrite d)
      (writeContent root path content overwrite d) := by
  obtain ⟨e, hdirect⟩ := exists_pushdownWrite_error h root content overwrite d
  rw [hdirect]
  cases content with
  | error e' => exact agree_errors e e'
  | ok data =>
    rcases FileStorage.writeBytes_cases (s := ⟨root⟩) hd hroot path data overwrite with
      ⟨e', hwrite⟩ | ⟨names, place, stamp, d', hnames, -, hwritten⟩
    · rw [writeContent, hwrite]
      exact agree_errors e e'
    · obtain rfl := h names hnames
      rw [List.append_nil] at hwritten
      exact absurd hroot (hwritten.find?_ne_directory hd)

/-! ## Creating -/

variable {above : List String} {name : String}
  (hnames : Path.segments? path = some (above ++ [name]))
include hnames

/-- Without overwriting both ways of writing agree. -/
theorem agree_create (content : Outcome Bytes) :
    Agree (createEncoded (root ++ (above ++ [name])) path content d)
      (writeContent root path content false d) := by
  have hl := FileStorage.no_slash_of_segments? hd hroot hnames
  have hname := Path.isName_of_segments?_concat hnames
  have hwrite := fun data => FileStorage.writeBytes_of_segments? (s := ⟨root⟩) hd hroot hnames data
    false
  rw [← List.append_assoc] at hl ⊢
  simp only [← List.append_assoc] at hwrite
  rcases createEncoded_cases hd hl hname path content with
    ⟨fault, e, hopen, h⟩ | ⟨e, e', d', rfl, h, hfind⟩ | ⟨data, place, stamp, d', rfl, h, hwritten⟩
  · rw [h]
    cases content with
    | error e' => exact agree_errors e e'
    | ok data =>
      rcases hwrite data with ⟨-, e', -, h'⟩ | ⟨place, stamp, d', -, hwritten⟩
      · rw [writeContent, h']
        exact agree_errors e e'
      · exact absurd hopen (hwritten.openWrite_ne_error fault)
  · rw [h]
    refine ⟨rfl, funext fun k => ?_⟩
    exact congrArg (Option.map Entry.unstamped) (hfind k)
  · rw [h]
    rcases hwrite data with ⟨fault, -, hopen, -⟩ | ⟨place', stamp', d'', h', hwritten'⟩
    · exact absurd hopen (hwritten.openWrite_ne_error fault)
    · rw [writeContent, h']
      obtain rfl : place = place' := spotAt_inj (Except.ok.inj (hwritten.walk.symm.trans hwritten'.walk))
      refine ⟨rfl, funext fun k => ?_⟩
      rw [hwritten.tree_eq, hwritten'.tree_eq]

/-! ## Replacing -/

/-- If the temporary file cannot be opened, the routes agree when the target cannot either. -/
theorem agree_refused_iff (e : StorageError) (content : Outcome Bytes) :
    Agree (.error e, d) (writeContent root path content true d) ↔
      (content.isOk = true → ¬ d.Opens (root ++ (above ++ [name]))) := by
  cases content with
  | error e' => exact iff_of_true (agree_errors e e') (by simp [Except.isOk, Except.toBool])
  | ok data =>
    rcases FileStorage.writeBytes_of_segments? (s := ⟨root⟩) hd hroot hnames data true with
      ⟨fault, e', hopen, h⟩ | ⟨place, stamp, d', h, hwritten⟩
    · rw [writeContent, h]
      refine iff_of_true (agree_errors e e') ?_
      rintro - ⟨stamp, d', hopened⟩
      rw [hopened] at hopen
      cases hopen
    · rw [writeContent, h]
      refine iff_of_false (fun hagree => ?_) fun hopens => hopens rfl hwritten.isOk_openWrite
      cases hagree.1

/-- What stops a replacement stops a write over the target. -/
theorem exists_writeContent_error {there place : Location} {stamp : Nat} {data : Bytes} {d' : Disk}
    (hstaged : Staged d (root ++ above) name there place stamp data d') {content : Outcome Bytes}
    (hstop : (∃ e, content = .error e) ∨ d.find? (there ++ [name]) = some .directory) :
    ∃ e, writeContent root path content true d = (.error e, d) := by
  cases content with
  | error e => exact ⟨e, rfl⟩
  | ok data =>
    have hdirectory := hstop.resolve_left (by simp)
    have hname := Path.isName_of_segments?_concat hnames
    rcases FileStorage.writeBytes_of_segments? (s := ⟨root⟩) hd hroot hnames data true with
      ⟨-, e, -, h⟩ | ⟨place', stamp', d'', -, hwritten⟩
    · exact ⟨e, h⟩
    · have hwalk := hwritten.walk
      dsimp only at hwalk
      rw [← List.append_assoc, hstaged.walk_target_true hname (by simp [hdirectory])] at hwalk
      obtain rfl := spotAt_inj (Except.ok.inj hwalk)
      have hbefore := hwritten.before
      simp [hdirectory] at hbefore

/-- Where neither a directory nor a link stands at the target, a write over it puts the content
there. -/
theorem exists_written_target (hpipe : ∀ l, d.find? l ≠ some .pipe) {there place : Location}
    {stamp : Nat} {data : Bytes} {d' : Disk}
    (hstaged : Staged d (root ++ above) name there place stamp data d')
    (htarget : d.find? (there ++ [name]) ≠ some .directory)
    (hlink : ∀ target, d.find? (there ++ [name]) ≠ some (.link target)) :
    ∃ stamp d₂, writeContent root path (.ok data) true d = (.ok (), d₂) ∧
      d.Written true (root ++ (above ++ [name])) (there ++ [name]) stamp data d₂ := by
  have hname := Path.isName_of_segments?_concat hnames
  have hwalk := hstaged.walk_target_true hname hlink
  rw [List.append_assoc] at hwalk
  have hplace : d.find? (there ++ [name]) = none ∨
      true = true ∧ ∃ stamp c, d.find? (there ++ [name]) = some (.file stamp c) := by
    cases hfind : d.find? (there ++ [name]) with
    | none => exact Or.inl rfl
    | some e =>
      cases e with
      | directory => exact absurd hfind htarget
      | file stamp c => exact Or.inr ⟨rfl, stamp, c, rfl⟩
      | pipe => exact absurd hfind (hpipe _)
      | link target => exact absurd hfind (hlink target)
  obtain ⟨_, _, hopened⟩ := openWrite_isOk_of_walk hwalk hplace
  rcases FileStorage.writeBytes_of_segments? (s := ⟨root⟩) hd hroot hnames data true with
    ⟨fault, e, hopen, -⟩ | ⟨place', stamp', d₂, h, hwritten⟩
  · rw [hopened] at hopen
    cases hopen
  · obtain rfl := spotAt_inj (Except.ok.inj (hwritten.walk.symm.trans hwalk))
    exact ⟨stamp', d₂, h, hwritten⟩

/-- A replacement that succeeds has the effect of writing over the target exactly if its temporary
file was new and the target was no link. -/
theorem agree_moved_iff (hpipe : ∀ l, d.find? l ≠ some .pipe) {there place : Location} {stamp : Nat}
    {data : Bytes} {d' d'' : Disk} {e : Entry}
    (hstaged : Staged d (root ++ above) name there place stamp data d')
    (htarget : d.find? (there ++ [name]) ≠ some .directory)
    (hsibling : d'.find? (there ++ [temporaryName name]) = some e)
    (hmoved : ∀ k, d''.find? k = if k = there ++ [name] then some e
      else if k = there ++ [temporaryName name] then none else d'.find? k) :
    Agree (.ok (), d'') (writeContent root path (.ok data) true d) ↔
      d.find? (there ++ [temporaryName name]) = none ∧
        ¬ ∃ target, d.find? (there ++ [name]) = some (.link target) := by
  have hne : there ++ [temporaryName name] ≠ there ++ [name] := by
    simpa using temporaryName_ne name
  have hcontent : d.find? (there ++ [temporaryName name]) = none →
      d''.tree (there ++ [name]) = some (.file 0 data) := by
    intro hfree
    have hplace := hstaged.find?_place
    rw [hstaged.place_eq_of_free hfree, hsibling] at hplace
    rw [tree, hmoved, if_pos rfl, hplace]
    rfl
  constructor
  · intro hagree
    rcases FileStorage.writeBytes_of_segments? (s := ⟨root⟩) hd hroot hnames data true with
      ⟨fault, e', -, h⟩ | ⟨place', stamp', d₂, h, hwritten⟩ <;> rw [writeContent, h] at hagree
    · cases hagree.1
    · have htree := congrFun hagree.2
      have hfree : d.find? (there ++ [temporaryName name]) = none := by
        have hx := htree (there ++ [temporaryName name])
        rw [tree, hmoved, if_neg hne, if_pos rfl, hwritten.tree_eq] at hx
        split at hx
        · cases hx
        · exact Option.map_eq_none_iff.1 hx.symm
      refine ⟨hfree, ?_⟩
      rintro ⟨target, hlink⟩
      have hplace : there ++ [name] ≠ place' := by
        rintro rfl
        have hbefore := hwritten.before
        simp [hlink] at hbefore
      have hx := htree (there ++ [name])
      rw [hcontent hfree, hwritten.tree_eq, if_neg hplace, tree, hlink] at hx
      cases hx
  · rintro ⟨hfree, hlink⟩
    obtain ⟨stamp', d₂, h, hwritten⟩ := exists_written_target hd hroot hnames hpipe hstaged htarget
      (not_exists.1 hlink)
    rw [h]
    refine ⟨rfl, funext fun k => ?_⟩
    rw [hwritten.tree_eq]
    by_cases hk : k = there ++ [name]
    · rw [if_pos hk, hk]
      exact hcontent hfree
    · rw [if_neg hk, tree, hmoved, if_neg hk, hstaged.find?, hstaged.place_eq_of_free hfree, tree]
      by_cases hk' : k = there ++ [temporaryName name]
      · rw [if_pos hk', hk', hfree]
      · rw [if_neg hk', if_neg hk']

/-- The routes of a replacement agree exactly if it is interchangeable with writing over the file. -/
theorem agree_replace_iff (hpipe : ∀ l, d.find? l ≠ some .pipe) (content : Outcome Bytes) :
    Agree (replaceEncoded (root ++ (above ++ [name])) path content d)
      (writeContent root path content true d) ↔
      Interchangeable d (root ++ (above ++ [name])) content := by
  have hl := FileStorage.no_slash_of_segments? hd hroot hnames
  have hname := Path.isName_of_segments?_concat hnames
  rw [← List.append_assoc] at hl
  have hreplaced := replacement_replaceEncoded hd hl hname path content
  have hsibling := temporarySibling_concat (root ++ above) name
  rw [← List.append_assoc]
  generalize replaceEncoded (root ++ above ++ [name]) path content d = result at hreplaced ⊢
  cases hreplaced with
  | refused e hopen =>
    have hcannot : ¬ d.Opens (temporarySibling (root ++ above ++ [name])) := by
      rintro ⟨stamp, d', hopened⟩
      rw [hsibling, hopen] at hopened
      cases hopened
    rw [interchangeable_of_not_opens hcannot, agree_refused_iff hd hroot hnames, List.append_assoc]
  | discarded e hstaged hstop hdiscard =>
    obtain ⟨e', h⟩ := exists_writeContent_error hd hroot hnames hstaged hstop
    have hcan : d.Opens (temporarySibling (root ++ above ++ [name])) :=
      hsibling ▸ hstaged.isOk_openWrite
    have hlink : content.isOk = true → ¬ d.IsLink (root ++ above ++ [name]) := by
      intro hok
      rw [hstaged.isLink_iff hname]
      rintro ⟨target, htarget⟩
      rcases hstop with ⟨e, rfl⟩ | hdirectory
      · cases hok
      · rw [hdirectory] at htarget
        cases htarget
    rw [interchangeable_of_opens hcan, hsibling, hstaged.isFree_iff,
      ← hstaged.tree_eq_iff_of_discard hdiscard, h]
    exact ⟨fun hagree => ⟨hagree.2, hlink⟩, fun htree => ⟨rfl, htree.1⟩⟩
  | moved hstaged hcontent htarget hstanding hmoved =>
    subst hcontent
    have hcan : d.Opens (temporarySibling (root ++ above ++ [name])) :=
      hsibling ▸ hstaged.isOk_openWrite
    rw [interchangeable_of_opens hcan, hsibling, hstaged.isFree_iff, hstaged.isLink_iff hname,
      agree_moved_iff hd hroot hnames hpipe hstaged htarget hstanding hmoved]
    exact and_congr_right fun _ => ⟨fun hlink _ => hlink, fun hlink => hlink rfl⟩

end

/-! ## The law -/

variable {container : Parquet.Container}

/-- Without pushdown, encoded content is written through file storage. -/
theorem writeTable_none {format : String} {f : TableFormat}
    (hformat : (FormatRegistry.standard container).get format = .ok f) (root : Location)
    (schema : TableSchema) (b : Batch) (path : String) (options : FormatOptions) (overwrite : Bool)
    (d : Disk) :
    (TableStorage.mk ⟨root⟩ (.standard container) none).writeTable schema b path format options
        overwrite d =
      writeContent root path (f.encode schema b options) overwrite d := by
  simp only [writeTable, hformat]
  cases hcontent : f.encode schema b options with
  | error e => rfl
  | ok data =>
    rw [streamWrite_ok _ (binary_or_isValid hformat hcontent)]
    rfl

/-- With pushdown, encoded content is written below the root. -/
theorem writeTable_some {format : String} {f : TableFormat}
    (hformat : (FormatRegistry.standard container).get format = .ok f) (root : Location)
    (schema : TableSchema) (b : Batch) (path : String) (options : FormatOptions) (overwrite : Bool)
    (d : Disk) :
    (TableStorage.mk ⟨root⟩ (.standard container) (some root)).writeTable schema b path format options
        overwrite d =
      pushdownWrite root path (f.encode schema b options) overwrite d := by
  simp only [writeTable, hformat]

/-- With any container for columnar files, both routes of a table write succeed or fail together and
leave the same tree, exactly if the write creates a file or is interchangeable with writing over the one
that it replaces. -/
theorem agree_writeTable_iff (container : Parquet.Container) (hd : d.WellFormed)
    (hroot : d.find? root = some .directory)
    (hpipe : ∀ l, d.find? l ≠ some .pipe) (schema : TableSchema) (b : Batch)
    (path format : String) (options : FormatOptions) (overwrite : Bool) :
    Agree
      ((TableStorage.mk ⟨root⟩ (.standard container) (some root)).writeTable schema b path format
        options overwrite d)
      ((TableStorage.mk ⟨root⟩ (.standard container) none).writeTable schema b path format options
        overwrite d) ↔
      (overwrite = true → ∀ f names, (FormatRegistry.standard container).get format = .ok f →
        Path.segments? path = some names → names ≠ [] →
          Interchangeable d (root ++ names) (f.encode schema b options)) := by
  cases hformat : (FormatRegistry.standard container).get format with
  | error e =>
    refine iff_of_true ?_ fun _ f names hf => by cases hf
    simp only [writeTable, hformat]
    exact agree_errors e e
  | ok f =>
    rw [writeTable_some hformat, writeTable_none hformat]
    by_cases hrefused : ∀ names, Path.segments? path = some names → names = []
    · exact iff_of_true (agree_of_refused hd hroot hrefused _ overwrite)
        fun _ f names _ hnames hne => absurd (hrefused names hnames) hne
    · obtain ⟨names, hnames, hne⟩ : ∃ names, Path.segments? path = some names ∧ names ≠ [] := by
        simpa using hrefused
      rw [pushdownWrite_eq hnames hne]
      obtain ⟨above, name, rfl⟩ := (List.eq_nil_or_concat' names).resolve_left hne
      cases overwrite with
      | false =>
        rw [if_neg (by simp)]
        exact iff_of_true (agree_create hd hroot hnames _) (by simp)
      | true =>
        rw [if_pos rfl, agree_replace_iff hd hroot hnames hpipe]
        constructor
        · intro h _ f' names' hf' hnames' _
          obtain rfl := Except.ok.inj hf'
          obtain rfl := Option.some.inj (hnames.symm.trans hnames')
          exact h
        · exact fun h => h rfl f _ rfl hnames hne

/-- Where nothing stands but the root, the routes of a replacement agree. -/
theorem agree_writeTable_single :
    Agree
      ((TableStorage.mk ⟨["r"]⟩ .builtin (some ["r"])).writeTable {} .empty "t" "csv" .empty true
        (single "r"))
      ((TableStorage.mk ⟨["r"]⟩ .builtin none).writeTable {} .empty "t" "csv" .empty true
        (single "r")) := by
  have hd : (single "r").WellFormed := wellFormed_single (by decide)
  have hroot : (single "r").find? ["r"] = some .directory := by simp [find?_single]
  refine (agree_writeTable_iff .tagged hd hroot (by simp [find?_single]) {} .empty "t" "csv" .empty
    true).2 ?_
  intro _ f names _ hnames _
  obtain rfl : names = ["t"] := Option.some.inj (hnames.symm.trans (by decide))
  have hsibling : temporarySibling (["r"] ++ ["t"]) = ["r"] ++ [".t.trove-tmp"] := by decide
  have hreach := hd.reaches linkLimit hroot
  have hwalk : ∀ follow, (single "r").walk follow [] (["r"] ++ [".t.trove-tmp"]) =
      .ok ((single "r").spotAt (["r"] ++ [".t.trove-tmp"])) := fun follow =>
    walk_of_reaches_of_not_link hreach (by decide) (by decide) ⟨by decide, by decide⟩
      (by simp [find?_single])
  have htarget : (single "r").walk false [] (["r"] ++ ["t"]) =
      .ok ((single "r").spotAt (["r"] ++ ["t"])) :=
    walk_false_of_reaches hreach (by decide) (by decide) ⟨by decide, by decide⟩
  refine (interchangeable_of_opens ?_).2 ⟨?_, fun _ => ?_⟩
  · rw [hsibling]
    exact openWrite_isOk_of_walk (hwalk true) (Or.inl (by simp [find?_single]))
  · rw [hsibling, isFree_iff (hwalk false)]
    simp [find?_single]
  · rw [isLink_iff htarget]
    simp [find?_single]

/-- A link at the target is replaced on one route and followed on the other. -/
theorem not_agree_writeTable_link :
    ¬ Agree
      ((TableStorage.mk ⟨["r"]⟩ .builtin (some ["r"])).writeTable {} .empty "t" "csv" .empty true
        ((single "r").put ["r", "t"] (.link "f")))
      ((TableStorage.mk ⟨["r"]⟩ .builtin none).writeTable {} .empty "t" "csv" .empty true
        ((single "r").put ["r", "t"] (.link "f"))) := by
  have hfind : ∀ k, ((single "r").put ["r", "t"] (.link "f")).find? k =
      if k = ["r", "t"] then some (.link "f") else (single "r").find? k :=
    fun k => find?_put _ _ k _ (by simp)
  have hsingle : (single "r").WellFormed := wellFormed_single (by decide)
  have hdirectory : (single "r").find? ["r"] = some .directory := by simp [find?_single]
  have hd : ((single "r").put ["r", "t"] (.link "f")).WellFormed :=
    hsingle.put hdirectory (by decide)
      (Or.inr (by simp [find?_single])) (fun _ h => by cases h; decide) fun _ _ h => by cases h
  have hroot : ((single "r").put ["r", "t"] (.link "f")).find? ["r"] = some .directory := by
    simp [hfind, find?_single]
  have hsegments : Path.segments? "t" = some ([] ++ ["t"]) := by decide
  have hformat : (FormatRegistry.standard .tagged).get "csv" = .ok .csv := rfl
  rw [FormatRegistry.builtin, writeTable_some hformat, writeTable_none hformat,
    pushdownWrite_eq hsegments (by simp), if_pos rfl, agree_replace_iff hd hroot hsegments (by
      intro l h
      rw [hfind, find?_single] at h
      split at h
      · cases h
      · split at h <;> cases h)]
  have hsibling : temporarySibling (["r"] ++ ([] ++ ["t"])) = ["r"] ++ [".t.trove-tmp"] := by decide
  have hreach := hd.reaches linkLimit hroot
  have hwalk : ((single "r").put ["r", "t"] (.link "f")).walk true [] (["r"] ++ [".t.trove-tmp"]) =
      .ok (((single "r").put ["r", "t"] (.link "f")).spotAt (["r"] ++ [".t.trove-tmp"])) :=
    walk_of_reaches_of_not_link hreach (by decide) (by decide) ⟨by decide, by decide⟩
      (by simp [hfind, find?_single])
  have htarget : ((single "r").put ["r", "t"] (.link "f")).walk false [] (["r"] ++ ["t"]) =
      .ok (((single "r").put ["r", "t"] (.link "f")).spotAt (["r"] ++ ["t"])) :=
    walk_false_of_reaches hreach (by decide) (by decide) ⟨by decide, by decide⟩
  rw [interchangeable_of_opens (by
    rw [hsibling]
    exact openWrite_isOk_of_walk hwalk (Or.inl (by simp [hfind, find?_single])))]
  rintro ⟨-, hlink⟩
  exact hlink (by decide) ((isLink_iff htarget).2 ⟨"f", by simp [hfind]⟩)

end TableStorage

end RootedStorage

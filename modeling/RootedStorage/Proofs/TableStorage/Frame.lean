import RootedStorage.Proofs.TableStorage.Writing

/-!
# What a table write leaves alone

On a tree of directories and files a table write fails without a trace, or changes nothing but its
target.  There is one exception: a write below a root that replaces a file loses the file that stands
where its temporary file goes.
-/

namespace RootedStorage

/-- A failed write leaves the tree, and one that succeeds changes it at the location of the path and
nowhere else. -/
def TouchesOnlyTarget (root : Location) (path : String) (d : Disk) (result : Effect Unit) : Prop :=
  (∀ e, result.1 = .error e → result.2.tree = d.tree) ∧
    (result.1 = .ok () → ∃ names, Path.segments? path = some names ∧
      ∀ k, k ≠ root ++ names → result.2.tree k = d.tree k)

namespace TableStorage

/-- A file stands where the temporary file beside the location goes. -/
def TemporaryTaken (d : Disk) (l : Location) : Prop :=
  ∃ stamp c, d.lookup (temporarySibling l) = .ok (.file stamp c)

open Disk

variable {root : Location} {d d' : Disk} {path : String} {names : List String}

/-- A write that fails and changes nothing touches nothing else than its target. -/
theorem touchesOnlyTarget_error (e : StorageError) (h : ∀ k, d'.find? k = d.find? k) :
    TouchesOnlyTarget root path d (.error e, d') := by
  refine ⟨fun _ _ => ?_, fun hok => by cases hok⟩
  funext k
  rw [tree, tree, h]

/-- A write that changes its target only touches nothing else. -/
theorem touchesOnlyTarget_ok (hnames : Path.segments? path = some names)
    (h : ∀ k, k ≠ root ++ names → d'.find? k = d.find? k) :
    TouchesOnlyTarget root path d (.ok (), d') := by
  refine ⟨fun _ herror => (by cases herror), fun _ => ⟨names, hnames, fun k hk => ?_⟩⟩
  rw [tree, tree, h k hk]

section
variable (hd : d.WellFormed) (hplain : d.PlainBelow root)
include hd hplain

/-- Writing content touches nothing else than its target. -/
theorem touchesOnlyTarget_writeBytes (path : String) (data : Bytes) (overwrite : Bool) :
    TouchesOnlyTarget root path d ((FileStorage.mk root).writeBytes path data overwrite d) := by
  rcases FileStorage.writeBytes_cases (s := ⟨root⟩) hd hplain.isDirectory path data overwrite with
    ⟨e, h⟩ | ⟨names, place, stamp, d', hnames, h, hwritten⟩
  · rw [h]
    exact touchesOnlyTarget_error e fun _ => rfl
  · rw [h]
    have hstraight := hplain.straight_of_segments? hd hnames
    have hplace : place = root ++ names := spotAt_inj (hstraight.walk_eq hwritten.walk)
    refine touchesOnlyTarget_ok hnames fun k hk => ?_
    rw [hwritten.find?, hplace, if_neg hk]

variable {above : List String} {name : String} (hnames : Path.segments? path = some (above ++ [name]))
include hnames

/-- Creating a file for a table touches nothing else than its target. -/
theorem touchesOnlyTarget_createEncoded (content : Outcome Bytes) :
    TouchesOnlyTarget root path d (createEncoded (root ++ (above ++ [name])) path content d) := by
  have hl := FileStorage.no_slash_of_segments? hd hplain.isDirectory hnames
  have hname := Path.isName_of_segments?_concat hnames
  have hstraight := hplain.straight_of_segments? hd hnames
  rw [← List.append_assoc] at hl hstraight ⊢
  rcases createEncoded_cases hd hl hname path content with
    ⟨fault, e, -, h⟩ | ⟨e, e', d', -, h, hfind⟩ | ⟨data, place, stamp, d', -, h, hwritten⟩
  · rw [h]
    exact touchesOnlyTarget_error e fun _ => rfl
  · rw [h]
    exact touchesOnlyTarget_error e' hfind
  · rw [h]
    have hplace := spotAt_inj (hstraight.walk_eq hwritten.walk)
    refine touchesOnlyTarget_ok hnames fun k hk => ?_
    rw [hwritten.find?, hplace, List.append_assoc, if_neg hk]

/-- Among directories and files the temporary file lies where its path says. -/
theorem Staged.eq_of_plain {there place : Location} {stamp : Nat} {data : Bytes}
    (h : Staged d (root ++ above) name there place stamp data d') :
    there = root ++ above ∧ place = root ++ above ++ [temporaryName name] :=
  h.eq_of_linkFree hd hplain.linkFree hnames

/-- The way to the temporary file is straight. -/
theorem straight_sibling : d.Straight (root ++ (above ++ [temporaryName name])) := by
  refine hplain.straight hd fun part hpart => ?_
  rcases List.mem_append.1 hpart with hpart | hpart
  · exact Path.isName_of_mem_segments? hnames (List.mem_append_left _ hpart)
  · obtain rfl := List.mem_singleton.1 hpart
    exact isName_temporaryName name

/-- The temporary file of a replacement is new, or the place is taken. -/
theorem Staged.free_or_taken {there place : Location} {stamp : Nat} {data : Bytes}
    (h : Staged d (root ++ above) name there place stamp data d') :
    d.find? (root ++ above ++ [temporaryName name]) = none ∨
      TemporaryTaken d (root ++ (above ++ [name])) := by
  obtain ⟨-, hplace⟩ := h.eq_of_plain hd hplain hnames
  rcases h.before with hfree | ⟨-, c, hfind⟩
  · exact Or.inl (hplace ▸ hfree)
  · right
    have hwalkable := h.walkable
    rw [hplace] at hfind
    unfold TemporaryTaken
    rw [← List.append_assoc, temporarySibling_concat]
    rw [List.append_assoc] at hfind hwalkable ⊢
    exact ⟨stamp, c, ((straight_sibling hd hplain hnames).lookup_eq_ok_iff hd).2 ⟨hfind, hwalkable⟩⟩

/-- A replacement keeps to its target if the place of its temporary file is not taken. -/
theorem touchesOnlyTarget_replaceEncoded (content : Outcome Bytes)
    (htaken : ¬ TemporaryTaken d (root ++ (above ++ [name]))) :
    TouchesOnlyTarget root path d (replaceEncoded (root ++ (above ++ [name])) path content d) := by
  have hl := FileStorage.no_slash_of_segments? hd hplain.isDirectory hnames
  have hname := Path.isName_of_segments?_concat hnames
  rw [← List.append_assoc] at hl ⊢
  have hreplaced := replacement_replaceEncoded hd hl hname path content
  generalize replaceEncoded (root ++ above ++ [name]) path content d = result at hreplaced ⊢
  cases hreplaced with
  | refused e hopen => exact touchesOnlyTarget_error e fun _ => rfl
  | discarded e hstaged _ hdiscard =>
    obtain ⟨rfl, rfl⟩ := hstaged.eq_of_plain hd hplain hnames
    have hfree := (hstaged.free_or_taken hd hplain hnames).resolve_right htaken
    refine touchesOnlyTarget_error e fun k => ?_
    rw [hdiscard, hstaged.find?]
    by_cases hk : k = root ++ above ++ [temporaryName name]
    · rw [if_pos hk, hk, hfree]
    · rw [if_neg hk, if_neg hk]
  | moved hstaged _ _ _ hmoved =>
    obtain ⟨rfl, rfl⟩ := hstaged.eq_of_plain hd hplain hnames
    have hfree := (hstaged.free_or_taken hd hplain hnames).resolve_right htaken
    refine touchesOnlyTarget_ok hnames fun k hk => ?_
    rw [← List.append_assoc] at hk
    rw [hmoved, if_neg hk, hstaged.find?]
    by_cases hk : k = root ++ above ++ [temporaryName name]
    · rw [if_pos hk, hk, hfree]
    · rw [if_neg hk, if_neg hk]

/-- A replacement whose temporary place is taken loses the file there. -/
theorem not_touchesOnlyTarget_replaceEncoded (content : Outcome Bytes)
    (htaken : TemporaryTaken d (root ++ (above ++ [name]))) :
    ¬ TouchesOnlyTarget root path d
      (replaceEncoded (root ++ (above ++ [name])) path content d) := by
  have hl := FileStorage.no_slash_of_segments? hd hplain.isDirectory hnames
  have hname := Path.isName_of_segments?_concat hnames
  have hstraight := straight_sibling hd hplain hnames
  obtain ⟨stamp', c, hlookup⟩ := htaken
  rw [← List.append_assoc, temporarySibling_concat] at hlookup
  rw [← List.append_assoc] at hl hstraight ⊢
  obtain ⟨hfind, hwalkable⟩ := (hstraight.lookup_eq_ok_iff hd).1 hlookup
  have hsome : d.tree (root ++ above ++ [temporaryName name]) ≠ none := by
    rw [tree, hfind]
    simp
  rintro ⟨herror, hok⟩
  have hreplaced := replacement_replaceEncoded hd hl hname path content
  generalize replaceEncoded (root ++ above ++ [name]) path content d = result at hreplaced herror hok
  cases hreplaced with
  | refused e hopen =>
    have hwalk : d.walk true [] (root ++ above ++ [temporaryName name]) =
        .ok (d.spotAt (root ++ above ++ [temporaryName name])) := by
      rw [hstraight.walk_of_find? hd hfind hwalkable, spotAt_of_find? hfind]
    obtain ⟨stamp, d', hopened⟩ := openWrite_isOk_of_walk hwalk
      (Or.inr ⟨rfl, stamp', c, hfind⟩)
    rw [hopened] at hopen
    cases hopen
  | discarded e hstaged _ hdiscard =>
    obtain ⟨rfl, rfl⟩ := hstaged.eq_of_plain hd hplain hnames
    refine hsome ?_
    rw [← herror e rfl, tree, hdiscard, if_pos rfl]
    rfl
  | moved hstaged _ _ _ hmoved =>
    obtain ⟨rfl, rfl⟩ := hstaged.eq_of_plain hd hplain hnames
    obtain ⟨names, hnames', hkeep⟩ := hok rfl
    obtain rfl := Option.some.inj (hnames.symm.trans hnames')
    have hne : root ++ above ++ [temporaryName name] ≠ root ++ above ++ [name] := by
      simpa using temporaryName_ne name
    refine hsome ?_
    rw [← hkeep _ (by rw [← List.append_assoc]; exact hne), tree, hmoved, if_neg hne, if_pos rfl]
    rfl

omit hnames

/-- A write through file storage keeps to its target. -/
theorem touchesOnlyTarget_streamWrite {t : TableStorage} (ht : t.files.root = root)
    (f : TableFormat) (path : String) (content : Outcome Bytes) (overwrite : Bool) :
    TouchesOnlyTarget root path d (t.streamWrite f path content overwrite d) := by
  subst ht
  rcases streamWrite_cases t f path content overwrite d with ⟨e, h⟩ | ⟨data, -, h⟩
  · rw [h]
    exact touchesOnlyTarget_error e fun _ => rfl
  · rw [h]
    exact touchesOnlyTarget_writeBytes hd hplain path data overwrite

/-- A write below the root keeps to its target, unless it replaces a file by way of a temporary one
whose place is taken. -/
theorem touchesOnlyTarget_pushdownWrite_iff (path : String) (content : Outcome Bytes)
    (overwrite : Bool) :
    TouchesOnlyTarget root path d (pushdownWrite root path content overwrite d) ↔
      ¬ (overwrite = true ∧ ∃ names, Path.segments? path = some names ∧ names ≠ [] ∧
        TemporaryTaken d (root ++ names)) := by
  by_cases hrefused : ∀ names, Path.segments? path = some names → names = []
  · obtain ⟨e, h⟩ := exists_pushdownWrite_error hrefused root content overwrite d
    rw [h]
    refine iff_of_true (touchesOnlyTarget_error e fun _ => rfl) ?_
    rintro ⟨-, names, hnames, hne, -⟩
    exact hne (hrefused names hnames)
  · obtain ⟨names, hnames, hne⟩ : ∃ names, Path.segments? path = some names ∧ names ≠ [] := by
      simpa using hrefused
    rw [pushdownWrite_eq hnames hne]
    obtain ⟨above, name, rfl⟩ := (List.eq_nil_or_concat' names).resolve_left hne
    cases overwrite with
    | false =>
      rw [if_neg (by simp)]
      exact iff_of_true (touchesOnlyTarget_createEncoded hd hplain hnames content) (by simp)
    | true =>
      rw [if_pos rfl]
      constructor
      · rintro htouches ⟨-, names, h, -, htaken⟩
        obtain rfl := Option.some.inj (hnames.symm.trans h)
        exact not_touchesOnlyTarget_replaceEncoded hd hplain hnames content htaken htouches
      · intro hkeeps
        refine touchesOnlyTarget_replaceEncoded hd hplain hnames content fun htaken => hkeeps ?_
        exact ⟨rfl, _, hnames, by simp, htaken⟩

end

/-- The storage reads and writes below one root, through file storage or not. -/
def HasRoot (t : TableStorage) (root : Location) : Prop :=
  t.files.root = root ∧ ∀ direct, t.pushdownRoot = some direct → direct = root

/-- The write replaces a file by way of a temporary one whose place is taken. -/
def LosesTemporary (t : TableStorage) (root : Location) (path format : String) (overwrite : Bool)
    (d : Disk) : Prop :=
  t.pushdownEnabled = true ∧ overwrite = true ∧ (∃ f, t.formats.get format = .ok f) ∧
    ∃ names, Path.segments? path = some names ∧ names ≠ [] ∧ TemporaryTaken d (root ++ names)

/-- On a tree of directories and files a table write fails without a trace or changes nothing but its
target, unless it replaces a file by way of a temporary one and a file stands there already. -/
theorem touchesOnlyTarget_writeTable_iff {t : TableStorage} (ht : t.HasRoot root)
    (hd : d.WellFormed) (hplain : d.PlainBelow root) (schema : TableSchema) (b : Batch)
    (path format : String) (options : FormatOptions) (overwrite : Bool) :
    TouchesOnlyTarget root path d (t.writeTable schema b path format options overwrite d) ↔
      ¬ t.LosesTemporary root path format overwrite d := by
  obtain ⟨hfiles, hdirect⟩ := ht
  unfold writeTable LosesTemporary pushdownEnabled
  cases hformat : t.formats.get format with
  | error e =>
    refine iff_of_true (touchesOnlyTarget_error e fun _ => rfl) ?_
    rintro ⟨-, -, ⟨f, hf⟩, -⟩
    cases hf
  | ok f =>
    cases hpushdown : t.pushdownRoot with
    | none =>
      exact iff_of_true (touchesOnlyTarget_streamWrite hd hplain hfiles f path _ overwrite) (by simp)
    | some direct =>
      obtain rfl := hdirect direct hpushdown
      dsimp only
      rw [touchesOnlyTarget_pushdownWrite_iff hd hplain]
      simp

/-- Where nothing stands but the root, a replacement keeps to its target. -/
theorem touchesOnlyTarget_writeTable_single :
    TouchesOnlyTarget ["r"] "t" (single "r") ((TableStorage.mk ⟨["r"]⟩ .builtin (some ["r"])).writeTable
      {} .empty "t" "csv" .empty true (single "r")) := by
  have hd : (single "r").WellFormed := wellFormed_single (by decide)
  have hplain : (single "r").PlainBelow ["r"] :=
    ⟨by simp [find?_single], fun names e h => by
      rw [find?_single] at h
      split at h
      · exact Or.inl (Option.some.inj h).symm
      · cases h⟩
  refine (touchesOnlyTarget_writeTable_iff (t := ⟨⟨["r"]⟩, .builtin, some ["r"]⟩)
    ⟨rfl, fun _ h => (Option.some.inj h).symm⟩ hd hplain {} .empty "t" "csv" .empty true).2 ?_
  rintro ⟨-, -, -, names, hnames, -, stamp, c, hlookup⟩
  have hsegments : Path.segments? "t" = some ([] ++ ["t"]) := by decide
  obtain rfl := Option.some.inj (hnames.symm.trans hsegments)
  rw [← List.append_assoc, temporarySibling_concat, List.append_assoc] at hlookup
  have hfind := (((straight_sibling hd hplain hsegments).lookup_eq_ok_iff hd).1 hlookup).1
  simp [find?_single] at hfind

/-- A file beside the target is lost when it stands where the temporary file goes. -/
theorem not_touchesOnlyTarget_writeTable_taken :
    ¬ TouchesOnlyTarget ["r"] "t" ((single "r").putFile ["r", ".t.trove-tmp"] [1])
      ((TableStorage.mk ⟨["r"]⟩ .builtin (some ["r"])).writeTable
        { fields := [⟨"n", "string", true⟩] } .empty "t" "csv" .empty true
        ((single "r").putFile ["r", ".t.trove-tmp"] [1])) := by
  have hfind : ∀ k, ((single "r").putFile ["r", ".t.trove-tmp"] [1]).find? k =
      if k = ["r", ".t.trove-tmp"] then some (.file 0 [1]) else (single "r").find? k :=
    fun k => find?_putFile _ _ k _ (by simp)
  have hsingle : (single "r").WellFormed := wellFormed_single (by decide)
  have hroot : (single "r").find? ["r"] = some .directory := by simp [find?_single]
  have hd : ((single "r").putFile ["r", ".t.trove-tmp"] [1]).WellFormed :=
    hsingle.putFile hroot (by decide) (by simp [find?_single]) [1]
  have hplain : ((single "r").putFile ["r", ".t.trove-tmp"] [1]).PlainBelow ["r"] :=
    ⟨by simp [hfind, find?_single], fun names e h => by
      rw [hfind, find?_single] at h
      split at h
      · exact Or.inr ⟨_, _, (Option.some.inj h).symm⟩
      · split at h
        · exact Or.inl (Option.some.inj h).symm
        · cases h⟩
  have hsegments : Path.segments? "t" = some ([] ++ ["t"]) := by decide
  have hsibling : temporaryName "t" = ".t.trove-tmp" := by decide
  have hformat : FormatRegistry.builtin.get "csv" = .ok .csv := rfl
  have hwrite : ∀ schema b options d, (TableStorage.mk ⟨["r"]⟩ .builtin (some ["r"])).writeTable
      schema b "t" "csv" options true d =
        replaceEncoded (["r"] ++ ([] ++ ["t"])) "t" (TableFormat.csv.encode schema b options) d := by
    intro schema b options d
    rw [writeTable, hformat]
    exact pushdownWrite_eq hsegments (by simp) ["r"] _ true d
  rw [hwrite]
  refine not_touchesOnlyTarget_replaceEncoded hd hplain hsegments _ ⟨0, [1], ?_⟩
  have hstraight := straight_sibling hd hplain hsegments
  rw [hsibling] at hstraight
  rw [← List.append_assoc, temporarySibling_concat, hsibling]
  exact (hstraight.lookup_eq_ok_iff hd).2 ⟨by simp [hfind], by decide, by decide⟩

end TableStorage

end RootedStorage

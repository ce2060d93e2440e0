import RootedStorage.Proofs.CommandLine.Arguments
import RootedStorage.Proofs.CommandLine.Configured
import RootedStorage.Proofs.FileStorage.ReadSide
import RootedStorage.Proofs.Stream.Lines

/-!
# What is put is printed

A run that puts a file into storage does what writing the file's content there does (`Puts`), and a
later run on the tree that it leaves prints that content, whatever number of chunks it takes
(`PrintsBack`).  The later run reads the configuration again: it finds the same storage there unless the
file was put over the configuration itself (`put_then_cat`).
-/

namespace RootedStorage.CommandLine

/-! ## Printing in chunks -/

section
variable {d : Disk} {r : ByteReader} {content : Bytes}

/-- A reader that is read chunk by chunk gives all that is ahead of it, however much one read gives. -/
theorem drain_eq {supply : Supply} {fuel : Nat} (h : r.ahead d = .ok content)
    (hfuel : content.length < fuel) : drain supply d fuel r = .ok content := by
  induction fuel generalizing r content with
  | zero => exact absurd hfuel (Nat.not_lt_zero _)
  | succ fuel ih =>
    obtain ⟨chunk, rest, rfl, hread, hahead, -, hend⟩ := ByteReader.exists_read h printChunk supply
    unfold drain
    rw [hread]
    cases chunk with
    | nil =>
      rw [hend (by decide) rfl]
      rfl
    | cons b chunk =>
      have hlength : rest.length < fuel := by
        rw [List.length_append, List.length_cons] at hfuel
        omega
      dsimp only
      rw [ih hahead hlength]
      rfl

/-- The bound on the number of chunks is large enough for every supply. -/
theorem drain_chunkBound (supply : Supply) (h : r.ahead d = .ok content) :
    drain supply d (chunkBound r d) r = .ok content := by
  refine drain_eq h ?_
  unfold chunkBound
  rw [h]
  exact Nat.lt_succ_self _

end

/-! ## Single runs -/

section
variable {arguments : List String} {i : Invocation} {host : Host} {d : Disk}
  (hasked : asked arguments = .run i)
include hasked

/-- An invocation that succeeds exits with zero and prints its output. -/
theorem run_of_ok {output : Bytes} (h : invoke i host = (.ok output, d)) :
    run arguments host = ({ exit := 0, output }, d) := by
  unfold run
  rw [hasked]
  dsimp only
  rw [h]

/-- An invocation that fails exits with one and says why. -/
theorem run_of_error {failure : Failure} (h : invoke i host = (.error failure, d)) :
    run arguments host = ({ exit := 1, failure := some failure }, d) := by
  unfold run
  rw [hasked]
  dsimp only
  rw [h]

end

section
variable {m : StorageManager} {key : String} {files : FileStorage} {host : Host}
  (hm : m.fileStorage key = .ok files)
include hm

/-- Putting a file writes its content into storage. -/
theorem perform_put {source : String} (path : String) (overwrite : Bool) {data : Bytes}
    (hread : readSource source host = .ok data) :
    perform m key (.put source path overwrite) host =
      (stored ((files.writeBytes path data overwrite host.disk).1.map fun _ => []),
        (files.writeBytes path data overwrite host.disk).2) := by
  unfold perform
  simp only [hm, hread]

/-- A file that cannot be read is not put. -/
theorem perform_put_error {source path : String} {overwrite : Bool} {e : Failure}
    (hread : readSource source host = .error e) :
    perform m key (.put source path overwrite) host = (.error e, host.disk) := by
  unfold perform
  simp only [hm, hread]

/-- A file of well-formed storage is printed as a whole. -/
theorem perform_cat {path : String} {names : List String} (hd : host.disk.WellFormed)
    (hnames : Path.segments? path = some names) {place : Location} {stamp : Nat} {data : Bytes}
    (hfile : host.disk.locate true [] (files.root ++ names) = .ok (place, .file stamp data))
    (hfind : host.disk.find? place = some (.file stamp data)) :
    perform m key (.cat path) host = (.ok data, host.disk) := by
  have hentry : files.entryAt path host.disk = .ok (.file stamp data) :=
    (FileStorage.entryAt_eq_ok_iff hnames).2
      (Disk.lookup_eq_ok_iff_walk.2 ⟨place, Disk.locate_eq_ok_iff.1 hfile⟩)
  have hopen : files.openRead path host.disk = .ok { path, source := .file stamp } := by
    unfold FileStorage.openRead
    rw [hentry]
    rfl
  have hahead : ({ path, source := .file stamp } : ByteReader).ahead host.disk = .ok data := by
    show Except.ok (host.disk.content stamp) = .ok data
    rw [hd.content_eq hfind]
  unfold perform
  simp only [hm, hopen]
  show (stored (drain host.supply host.disk (chunkBound _ host.disk) _), host.disk) = _
  rw [drain_chunkBound host.supply hahead]
  rfl

end

/-! ## The two runs -/

/-- The runs can be asked for: no argument begins with a dash, and the configuration serves the key. -/
structure Ready (config key source path : String) (files : FileStorage) (host : Host) : Prop where
  wellFormed : host.disk.WellFormed
  here : host.disk.find? host.here = some .directory
  plain : ∀ argument ∈ [config, key, source, path], IsPlain argument
  served : servedFiles config key host = .ok files

/-- The run that puts a file into storage writes the file's content there, and it fails as the reading
or the writing does. -/
structure Puts (config key source path : String) (overwrite : Bool) (files : FileStorage)
    (host : Host) : Prop where
  exit_iff : (run (putArguments config key source path overwrite) host).1.exit = 0 ↔
    ∃ data, readSource source host = .ok data ∧
      (files.writeBytes path data overwrite host.disk).1 = .ok ()
  leaves : ∀ data, readSource source host = .ok data →
    (run (putArguments config key source path overwrite) host).2 =
      (files.writeBytes path data overwrite host.disk).2
  unchanged : (run (putArguments config key source path overwrite) host).1.exit ≠ 0 →
    (run (putArguments config key source path overwrite) host).2 = host.disk

/-- What a run has put is printed by every later run on the tree that it left, however much one read
gives there. -/
def PrintsBack (config key source path : String) (overwrite : Bool) (host : Host) : Prop :=
  ∀ data, readSource source host = .ok data →
    (run (putArguments config key source path overwrite) host).1.exit = 0 →
    ∀ later : Host, later.here = host.here → later.disk.WellFormed →
      later.disk.tree = (run (putArguments config key source path overwrite) host).2.tree →
      run (catArguments config key path) later = ({ exit := 0, output := data }, later.disk)

/-- The path in the storage leads to the file that the configuration is read from. -/
def LeadsToConfig (config path : String) (files : FileStorage) (host : Host) : Prop :=
  ∃ names place e, Path.segments? path = some names ∧
    host.disk.locate true [] (files.root ++ names) = .ok (place, e) ∧
    host.disk.locate true (Disk.start host.here config) (Disk.parts config) = .ok (place, e)

section
variable {config key source path : String} {overwrite : Bool} {files : FileStorage} {host : Host}

section
variable (h : Ready config key source path files host) (hkey : key ∉ commandNames)
include h hkey

/-- The arguments of a put ask for one, unless the file to put has no name. -/
theorem asked_put (overwrite : Bool) : asked (putArguments config key source path overwrite) =
    if source = "" then .misuse else .run ⟨config, key, .put source path overwrite⟩ := by
  have hplain := h.plain
  simp only [List.forall_mem_cons] at hplain
  obtain ⟨hconfig, hplainKey, hsource, hpath, -⟩ := hplain
  exact asked_putArguments (ne_empty_of_servedFiles h.served) hconfig hplainKey hkey hpath overwrite
    hsource

/-- The arguments of a print ask for one. -/
theorem asked_cat : asked (catArguments config key path) = .run ⟨config, key, .cat path⟩ := by
  have hplain := h.plain
  simp only [List.forall_mem_cons] at hplain
  obtain ⟨hconfig, hplainKey, -, hpath, -⟩ := hplain
  exact asked_catArguments (ne_empty_of_servedFiles h.served) hconfig hplainKey hkey hpath

/-- A file that cannot be read is not put. -/
theorem run_putArguments_of_unread {e : Failure} (hread : readSource source host = .error e)
    (overwrite : Bool) :
    (run (putArguments config key source path overwrite) host).1.exit ≠ 0 ∧
      (run (putArguments config key source path overwrite) host).2 = host.disk := by
  have hasked := asked_put h hkey overwrite
  by_cases hempty : source = ""
  · rw [if_pos hempty] at hasked
    have hrun : run (putArguments config key source path overwrite) host =
        ({ exit := 2 }, host.disk) := by
      unfold run
      rw [hasked]
    rw [hrun]
    exact ⟨by simp, rfl⟩
  · rw [if_neg hempty] at hasked
    obtain ⟨m, hm, hinvoke⟩ := exists_manager_of_servedFiles h.served
    rw [run_of_error hasked ((hinvoke _).trans (perform_put_error hm hread))]
    exact ⟨by simp, rfl⟩

/-- A put writes the content that it has read, or it fails and changes nothing. -/
theorem run_putArguments_cases (overwrite : Bool) :
    (∃ data names place stamp d', readSource source host = .ok data ∧
      Path.segments? path = some names ∧
      files.writeBytes path data overwrite host.disk = (.ok (), d') ∧
      host.disk.Written overwrite (files.root ++ names) place stamp data d' ∧
      run (putArguments config key source path overwrite) host = ({ exit := 0 }, d')) ∨
    ((run (putArguments config key source path overwrite) host).1.exit ≠ 0 ∧
      (run (putArguments config key source path overwrite) host).2 = host.disk ∧
      ∀ data, readSource source host = .ok data →
        ∃ e, files.writeBytes path data overwrite host.disk = (.error e, host.disk)) := by
  cases hread : readSource source host with
  | error e =>
    obtain ⟨hexit, hsame⟩ := run_putArguments_of_unread h hkey hread overwrite
    refine Or.inr ⟨hexit, hsame, fun data hdata => ?_⟩
    cases hdata
  | ok data =>
    have hasked := asked_put h hkey overwrite
    rw [if_neg (readSource_eq_ok_iff.1 hread).1] at hasked
    obtain ⟨m, hm, hinvoke⟩ := exists_manager_of_servedFiles h.served
    have hput := (hinvoke _).trans (perform_put hm path overwrite hread)
    have hroot := find?_root_of_servedFiles h.served h.wellFormed h.here
    rcases FileStorage.writeBytes_cases h.wellFormed hroot path data overwrite with
      ⟨e, hwrite⟩ | ⟨names, place, stamp, d', hnames, hwrite, hwritten⟩
    · right
      rw [hwrite] at hput
      rw [run_of_error hasked hput]
      refine ⟨by simp, rfl, fun data' hdata' => ?_⟩
      obtain rfl := Except.ok.inj hdata'
      exact ⟨e, hwrite⟩
    · left
      rw [hwrite] at hput
      exact ⟨data, names, place, stamp, d', rfl, hnames, hwrite, hwritten, run_of_ok hasked hput⟩

/-- A put leaves a well-formed disk. -/
theorem wellFormed_run_putArguments (overwrite : Bool) :
    (run (putArguments config key source path overwrite) host).2.WellFormed := by
  rcases run_putArguments_cases h hkey overwrite with
    ⟨data, names, place, stamp, d', -, -, -, hwritten, hrun⟩ | ⟨-, hsame, -⟩
  · rw [hrun]
    exact hwritten.wellFormed
  · rw [hsame]
    exact h.wellFormed

/-- A run that is ready to put puts. -/
theorem puts_of_ready (overwrite : Bool) :
    Puts config key source path overwrite files host := by
  rcases run_putArguments_cases h hkey overwrite with
    ⟨data, names, place, stamp, d', hread, -, hwrite, -, hrun⟩ | ⟨hexit, hsame, hfails⟩
  · constructor
    case exit_iff =>
      rw [hrun]
      exact iff_of_true rfl ⟨data, hread, by rw [hwrite]⟩
    case leaves =>
      intro data' hdata'
      obtain rfl := Except.ok.inj (hread.symm.trans hdata')
      rw [hrun, hwrite]
    case unchanged =>
      rw [hrun]
      intro hexit
      exact absurd rfl hexit
  · constructor
    case exit_iff =>
      refine iff_of_false hexit ?_
      rintro ⟨data, hread, hok⟩
      obtain ⟨e, hwrite⟩ := hfails data hread
      rw [hwrite] at hok
      cases hok
    case leaves =>
      intro data hread
      obtain ⟨e, hwrite⟩ := hfails data hread
      rw [hsame, hwrite]
    case unchanged => exact fun _ => hsame

/-- A put that does not write over the configuration leaves it what it was. -/
theorem served_after_put (overwrite : Bool) (hclear : ¬ LeadsToConfig config path files host) :
    servedFiles config key
      { host with disk := (run (putArguments config key source path overwrite) host).2 } =
      .ok files := by
  rcases run_putArguments_cases h hkey overwrite with
    ⟨data, names, place, stamp, d', -, hnames, -, hwritten, hrun⟩ | ⟨-, hsame, -⟩
  · rw [hrun]
    refine servedFiles_lasts hwritten.lasting ?_ key files h.served
    refine readSource_lasts h.wellFormed h.here hwritten.lasting fun other stamp' content hlocate => ?_
    have hother : host.disk.find? other = some (.file stamp' content) :=
      Disk.find?_of_locate_text h.wellFormed h.here hlocate
    have hne : other ≠ place := by
      rintro rfl
      rcases hwritten.before with hfree | ⟨rfl, -⟩
      · rw [hother] at hfree
        cases hfree
      · have hwalk := hwritten.walk
        rw [Disk.spotAt_of_find? hother] at hwalk
        exact hclear ⟨names, other, _, hnames, Disk.locate_eq_ok_iff.2 hwalk, hlocate⟩
    rw [hwritten.find? other, if_neg hne]
    exact ⟨stamp', hother⟩
  · rw [hsame]
    exact h.served

/-- What was put is printed if the configuration serves the storage still. -/
theorem printsBack_of_served (overwrite : Bool)
    (hafter : servedFiles config key
      { host with disk := (run (putArguments config key source path overwrite) host).2 } = .ok files) :
    PrintsBack config key source path overwrite host := by
  rintro data hread hexit ⟨later, here, supply⟩ rfl hlater htree
  rcases run_putArguments_cases h hkey overwrite with
    ⟨data', names, place, stamp, d', hread', hnames, -, hwritten, hrun⟩ | ⟨hfails, -⟩
  swap
  · exact absurd hexit hfails
  obtain rfl := Except.ok.inj (hread'.symm.trans hread)
  rw [hrun] at hafter htree
  dsimp only at hlater hafter htree ⊢
  have hserved : servedFiles config key ⟨later, host.here, supply⟩ = .ok files :=
    servedFiles_of_tree hwritten.wellFormed (hwritten.lasting.directory _ h.here) htree key files hafter
  obtain ⟨stamp', hfile⟩ := Disk.exists_file_of_tree htree hwritten.find?_place
  have hlasting := hwritten.lasting.trans (Disk.lasting_of_tree htree)
  have hlocate := hlasting.locate_file hwritten.holdsFile hfile hwritten.walk
  obtain ⟨m, hm, hinvoke⟩ := exists_manager_of_servedFiles hserved
  exact run_of_ok (asked_cat h hkey) ((hinvoke _).trans (perform_cat hm hlater hnames hlocate hfile))

end

/-- A put does what writing the file's content does.  The content is printed by every later run on the
tree that the put left, if the configuration serves the storage there still, and so it does unless the
path leads to the configuration itself. -/
theorem put_then_cat (h : Ready config key source path files host) (hkey : key ∉ commandNames)
    (overwrite : Bool) :
    Puts config key source path overwrite files host ∧
    (¬ LeadsToConfig config path files host →
      servedFiles config key
        { host with disk := (run (putArguments config key source path overwrite) host).2 } = .ok files) ∧
    (servedFiles config key
        { host with disk := (run (putArguments config key source path overwrite) host).2 } = .ok files →
      PrintsBack config key source path overwrite host) :=
  ⟨puts_of_ready h hkey overwrite, served_after_put h hkey overwrite,
    printsBack_of_served h hkey overwrite⟩

end

/-! ## A host -/

/-- The text of a configuration that gives the root directory to a key. -/
def configText (key : String) : String :=
  "\x7b\"storage\":\x7b\"" ++ key ++ "\":\x7b\"storage_type\":\"LOCAL_STORAGE\"," ++
    "\"storage_config\":\x7b\"root_path\":\".\"\x7d\x7d\x7d\x7d"

/-- A host with a configuration for a key and with one file to put. -/
def keyedHost (key : String) (content : Bytes) : Host where
  disk := (({} : Disk).putFile ["trove.json"] (Utf8.encode (configText key))).putFile ["new"] content

/-- Content that is printed in two chunks. -/
def longContent : Bytes := List.replicate (printChunk + 1) 120

section
variable (key : String) (content : Bytes)

/-- The host's disk is well-formed. -/
theorem wellFormed_keyedHost : (keyedHost key content).disk.WellFormed := by
  have hconfig : (({} : Disk).putFile ["trove.json"] (Utf8.encode (configText key))).WellFormed :=
    Disk.wellFormed_empty.putFile (Disk.find?_nil _) (by decide) rfl _
  have hfind := Disk.find?_putFile {} ["trove.json"] ["new"] (Utf8.encode (configText key)) (by simp)
  exact hconfig.putFile (Disk.find?_nil _) (show EntryName "new" by decide)
    (hfind.trans (if_neg (by decide))) _

/-- The host's file can be read. -/
theorem readSource_keyedHost : readSource "new" (keyedHost key content) = .ok content := by
  have hfind : (keyedHost key content).disk.find? ([] ++ ["new"]) = some (.file 1 content) :=
    (Disk.find?_putFile _ ["new"] ["new"] content (by simp)).trans (if_pos rfl)
  have hparts : Disk.parts "new" = ["new"] := by decide +kernel
  have hstart : Disk.start (keyedHost key content).here "new" = [] := ite_self _
  have hwalkable : Disk.Walkable ["new"] := ⟨by decide, by decide⟩
  refine readSource_eq_ok_iff.2 ⟨by decide, ["new"], 1, ?_⟩
  rw [hparts, hstart, Disk.locate_eq_ok_iff, Disk.walk_of_walkable hwalkable,
    Disk.walkWithin_leaf (by decide) (by decide) hfind (by simp) (by simp), if_pos rfl]
  rfl

end

/-- A new file is put, and the next run prints it, also where one read gives a hundred octets at most. -/
theorem put_then_cat_new :
    Puts "trove.json" "p" "new" "a" false ⟨[]⟩ (keyedHost "p" longContent) ∧
      (run (putArguments "trove.json" "p" "new" "a" false) (keyedHost "p" longContent)).1.exit = 0 ∧
      (run (catArguments "trove.json" "p" "a")
        { disk := (run (putArguments "trove.json" "p" "new" "a" false)
            (keyedHost "p" longContent)).2
          supply := .upTo 100 (by decide) }).1 =
        { exit := 0, output := longContent } := by
  have hready : Ready "trove.json" "p" "new" "a" ⟨[]⟩ (keyedHost "p" longContent) :=
    ⟨wellFormed_keyedHost "p" longContent, rfl, by decide, by decide +kernel⟩
  have hexit : (run (putArguments "trove.json" "p" "new" "a" false)
      (keyedHost "p" longContent)).1.exit = 0 := by decide +kernel
  have hmissing : (keyedHost "p" longContent).disk.locate true [] ["a"] = .error .missing := by
    decide +kernel
  have hclear : ¬ LeadsToConfig "trove.json" "a" ⟨[]⟩ (keyedHost "p" longContent) := by
    rintro ⟨names, place, e, hnames, hlocate, -⟩
    have hsegments : Path.segments? "a" = some ["a"] := by decide
    obtain rfl := Option.some.inj (hsegments.symm.trans hnames)
    cases hmissing.symm.trans hlocate
  obtain ⟨hputs, hserves, hprints⟩ := put_then_cat hready (by decide) false
  have hcat := hprints (hserves hclear) longContent (readSource_keyedHost "p" longContent) hexit
    { disk := (run (putArguments "trove.json" "p" "new" "a" false) (keyedHost "p" longContent)).2
      supply := .upTo 100 (by decide) }
    rfl (wellFormed_run_putArguments hready (by decide) false) rfl
  exact ⟨hputs, hexit, congrArg Prod.fst hcat⟩

/-- Under a key that is a command's name nothing is put, and what is put over the configuration is
not printed back. -/
theorem not_put_then_cat :
    (∃ config key source path overwrite files host, Ready config key source path files host ∧
      ¬ Puts config key source path overwrite files host) ∧
    ∃ config key source path overwrite files host, Ready config key source path files host ∧
      ¬ PrintsBack config key source path overwrite host := by
  constructor
  · refine ⟨"trove.json", "cat", "new", "a", false, ⟨[]⟩, keyedHost "cat" [120],
      ⟨wellFormed_keyedHost "cat" [120], rfl, by decide, by decide +kernel⟩, fun hputs => ?_⟩
    have hexit : (run (putArguments "trove.json" "cat" "new" "a" false)
        (keyedHost "cat" [120])).1.exit = 2 := by decide +kernel
    have hzero := hputs.exit_iff.2 ⟨[120], readSource_keyedHost "cat" [120], by decide +kernel⟩
    rw [hexit] at hzero
    cases hzero
  · have hready : Ready "trove.json" "p" "new" "trove.json" ⟨[]⟩ (keyedHost "p" [120]) :=
      ⟨wellFormed_keyedHost "p" [120], rfl, by decide, by decide +kernel⟩
    refine ⟨"trove.json", "p", "new", "trove.json", true, ⟨[]⟩, keyedHost "p" [120], hready,
      fun hprints => ?_⟩
    have hcat := hprints [120] (readSource_keyedHost "p" [120]) (by decide +kernel)
      { disk := (run (putArguments "trove.json" "p" "new" "trove.json" true)
          (keyedHost "p" [120])).2 }
      rfl (wellFormed_run_putArguments hready (by decide) true) rfl
    have hexit : (run (catArguments "trove.json" "p" "trove.json")
        { disk := (run (putArguments "trove.json" "p" "new" "trove.json" true)
          (keyedHost "p" [120])).2 }).1.exit = 1 := by decide +kernel
    rw [hcat] at hexit
    cases hexit

end RootedStorage.CommandLine

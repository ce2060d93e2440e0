import RootedStorage.Proofs.Disk.Directories
import RootedStorage.Proofs.Session.Confinement

/-!
# Failures leave everything

A request to file storage that fails leaves the disk and the open streams as they were.  The one
operation that takes several steps is the creation of a chain of directories, and it is refused before
its first step or not at all (`Disk.makeDirectories_cases`).
-/

namespace RootedStorage

/-- The effect leaves the disk as it was if it fails. -/
def Effect.FailsClean {α : Type} (d : Disk) (effect : Effect α) : Prop :=
  ∀ e, effect.1 = .error e → effect.2 = d

/-- What fails without a change or succeeds fails clean. -/
theorem Effect.failsClean_of_cases {α : Type} {d : Disk} {effect : Effect α}
    (h : (∃ e, effect = (.error e, d)) ∨ ∃ a, effect.1 = .ok a) : effect.FailsClean d := by
  intro e herror
  rcases h with ⟨e', rfl⟩ | ⟨a, hok⟩
  · rfl
  · rw [hok] at herror
    cases herror

/-! ## File storage -/

namespace FileStorage

variable {s : FileStorage} {d : Disk} (hd : d.WellFormed)
  (hroot : d.find? s.root = some .directory)
include hd hroot

/-- Opening a file to write changes nothing if it fails. -/
theorem failsClean_openWrite (path : String) (overwrite : Bool) :
    (s.openWrite path overwrite d).FailsClean d := by
  apply Effect.failsClean_of_cases
  rcases openWrite_cases hd hroot path overwrite with h | ⟨_, _, _, _, -, h, -⟩
  · exact Or.inl h
  · exact Or.inr ⟨_, congrArg Prod.fst h⟩

/-- Writing content changes nothing if it fails. -/
theorem failsClean_writeBytes (path : String) (data : Bytes) (overwrite : Bool) :
    (s.writeBytes path data overwrite d).FailsClean d := by
  apply Effect.failsClean_of_cases
  rcases writeBytes_cases hd hroot path data overwrite with h | ⟨_, _, _, _, -, h, -⟩
  · exact Or.inl h
  · exact Or.inr ⟨_, congrArg Prod.fst h⟩

/-- Removing changes nothing if it fails. -/
theorem failsClean_remove (path : String) (recursive : Bool) :
    (s.remove path recursive d).FailsClean d := by
  apply Effect.failsClean_of_cases
  rcases remove_cases hd hroot path recursive with h | ⟨_, _, _, _, -, -, h, -⟩
  · exact Or.inl h
  · exact Or.inr ⟨_, congrArg Prod.fst h⟩

omit hd hroot in
/-- The outcome of a step is an error only if the step is refused. -/
theorem failsClean_created (path : String) (existsOk : Bool) {step : Except DiskFault Unit × Disk}
    (h : step.1 = .ok () ∨ step.2 = d) :
    Effect.FailsClean d (created path existsOk step.1, step.2) := by
  intro e herror
  rcases h with hok | hkept
  · rw [hok] at herror
    cases herror
  · exact hkept

/-- A chain of directories is made as a whole, if no name on the way is too long, so a failure leaves
none of it behind. -/
theorem failsClean_makeDirectory (path : String) (recursive existsOk : Bool)
    (hshort : ∀ names, Path.segments? path = some names →
      ∀ name ∈ names, name.utf8ByteSize ≤ Disk.nameLimit) :
    (s.makeDirectory path recursive existsOk d).FailsClean d := by
  unfold makeDirectory
  cases hlocation : s.location path with
  | error e => exact fun _ _ => rfl
  | ok l =>
    obtain ⟨names, hnames, rfl⟩ := location_eq_ok_iff.1 hlocation
    have hslash := no_slash_of_segments? hd hroot hnames
    have hway : ∀ part ∈ s.root ++ names,
        Path.isName part = true ∧ part.utf8ByteSize ≤ Disk.nameLimit := by
      intro part hpart
      rcases List.mem_append.1 hpart with hpart | hpart
      · have hentry := hd.entryName_of_mem hroot part hpart
        exact ⟨hentry.isName, hentry.short⟩
      · exact ⟨Path.isName_of_mem_segments? hnames hpart, hshort names hnames part hpart⟩
    dsimp only
    cases d.lookup (s.root ++ names) with
    | ok e => exact fun _ _ => rfl
    | error fault =>
      cases recursive with
      | true =>
        refine failsClean_created path existsOk ?_
        rcases Disk.makeDirectories_cases hd (s.root ++ names).reverse
          (fun part hpart => hslash part (List.mem_reverse.1 hpart))
          (fun part hpart => (hway part (List.mem_reverse.1 hpart)).1)
          (fun part hpart => (hway part (List.mem_reverse.1 hpart)).2) with
          ⟨fault, h⟩ | ⟨h, -⟩ | ⟨d', h, -⟩
        · exact Or.inr (congrArg Prod.snd h)
        · exact Or.inl (congrArg Prod.fst h)
        · exact Or.inl (congrArg Prod.fst h)
      | false =>
        refine failsClean_created path existsOk ?_
        show (createOne (s.root ++ names) d).1 = .ok () ∨ (createOne (s.root ++ names) d).2 = d
        unfold createOne
        cases d.makeDirectory (s.root ++ names) with
        | ok d' => exact Or.inl rfl
        | error fault => exact Or.inr rfl

end FileStorage

/-! ## Requests -/

/-- The path that a request to file storage names. -/
def FileRequest.path : FileRequest → String
  | .exists path => path
  | .size path => path
  | .stat path => path
  | .list path => path
  | .makeDirectory path _ _ => path
  | .remove path _ => path
  | .readBytes path => path
  | .readText path => path
  | .writeBytes path _ _ => path
  | .writeText path _ _ => path
  | .openRead path _ => path
  | .openTextRead path _ => path
  | .openWrite path _ _ => path
  | .openTextWrite path _ _ => path

namespace Session

variable {s : Session} {e : StorageError}

/-- A request whose effect fails clean leaves the session if it fails. -/
theorem eq_of_change_error {α : Type} {effect : Effect α} {answer : α → Answer}
    (hclean : effect.FailsClean s.disk) (h : (s.change effect answer).1 = .error e) :
    (s.change effect answer).2 = s := by
  obtain ⟨result, d⟩ := effect
  cases result with
  | ok a => cases h
  | error e' =>
    obtain rfl : d = s.disk := hclean e' rfl
    rfl

/-- A request to open a stream leaves the session if it fails. -/
theorem eq_of_keepOpened_error {α : Type} {effect : Effect α} {name : String} {handle : α → Handle}
    {answer : Answer} (hclean : effect.FailsClean s.disk)
    (h : (s.keepOpened name effect handle answer).1 = .error e) :
    (s.keepOpened name effect handle answer).2 = s := by
  obtain ⟨result, d⟩ := effect
  cases result with
  | ok a => cases h
  | error e' =>
    obtain rfl : d = s.disk := hclean e' rfl
    rfl

/-- A request to file storage that fails leaves the session as it was, the disk and the open streams,
if the names in its path are not too long. -/
theorem eq_of_answerFile_error {files : FileStorage} (hd : s.disk.WellFormed)
    (hroot : s.disk.find? files.root = some .directory) (request : FileRequest)
    (hshort : ∀ names, Path.segments? request.path = some names →
      ∀ name ∈ names, name.utf8ByteSize ≤ Disk.nameLimit)
    (h : (s.answerFile files request).1 = .error e) : (s.answerFile files request).2 = s := by
  cases request with
  | «exists» path => rfl
  | size path => rfl
  | stat path => rfl
  | list path => rfl
  | readBytes path => rfl
  | readText path => rfl
  | makeDirectory path recursive existsOk =>
    exact eq_of_change_error
      (FileStorage.failsClean_makeDirectory hd hroot path recursive existsOk hshort) h
  | remove path recursive =>
    exact eq_of_change_error (FileStorage.failsClean_remove hd hroot path recursive) h
  | writeBytes path data overwrite =>
    exact eq_of_change_error (FileStorage.failsClean_writeBytes hd hroot path data overwrite) h
  | writeText path text overwrite =>
    exact eq_of_change_error (FileStorage.failsClean_writeBytes hd hroot path _ overwrite) h
  | openRead path handle => exact eq_of_keepOpened_error (fun _ _ => rfl) h
  | openTextRead path handle => exact eq_of_keepOpened_error (fun _ _ => rfl) h
  | openWrite path handle overwrite =>
    exact eq_of_keepOpened_error (FileStorage.failsClean_openWrite hd hroot path overwrite) h
  | openTextWrite path handle overwrite =>
    exact eq_of_keepOpened_error (FileStorage.failsClean_openWrite hd hroot path overwrite) h

/-- Below a file a chain of directories is refused, and no part of it is made. -/
theorem eq_of_answerFile_error_chain :
    ((single "p" ["r"] (Disk.linked [] "m")).answerFile ⟨["r"]⟩
      (.makeDirectory "t/a/b" true false)).2 = single "p" ["r"] (Disk.linked [] "m") := by
  have hroot : (Disk.linked [] "m").find? ["r"] = some .directory := by
    simp [Disk.find?_linked, Disk.find?_single]
  have herror : ((single "p" ["r"] (Disk.linked [] "m")).answerFile ⟨["r"]⟩
      (.makeDirectory "t/a/b" true false)).1 = .error (.access (.io "t/a/b")) := rfl
  refine eq_of_answerFile_error (Disk.wellFormed_linked [] (by decide)) hroot
    (.makeDirectory "t/a/b" true false) ?_ herror
  intro names hnames
  have hsegments : Path.segments? "t/a/b" = some ["t", "a", "b"] := by decide
  obtain rfl := Option.some.inj (hsegments.symm.trans hnames)
  decide

end Session

end RootedStorage

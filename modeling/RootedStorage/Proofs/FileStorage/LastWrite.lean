import RootedStorage.Proofs.FileStorage.Effects

/-!
# The last write wins

A run of edits starts with an empty root directory.  What is read at a path afterwards is decided by
the history alone, that is by the edits with their outcomes: it is what the last successful write to
the path's segments wrote, unless a later successful removal named the path or a directory above
it.  The tree enters through one invariant, `Mirrors`, which every edit keeps.
-/

namespace RootedStorage

/-- A request that may change what is stored. -/
inductive Edit where
  | writeBytes (path : String) (data : Bytes) (overwrite : Bool)
  | writeText (path text : String) (overwrite : Bool)
  | makeDirectory (path : String) (recursive existsOk : Bool)
  | remove (path : String) (recursive : Bool)

/-- Edits with their outcomes, the first one first. -/
abbrev History := List (Edit × Outcome Unit)

namespace Edit

/-- Carries the edit out. -/
def apply (s : FileStorage) : Edit → Disk → Effect Unit
  | writeBytes path data overwrite => s.writeBytes path data overwrite
  | writeText path text overwrite => s.writeText path text overwrite
  | makeDirectory path recursive existsOk => s.makeDirectory path recursive existsOk
  | remove path recursive => s.remove path recursive

/-- The edit is a write of `data` to a path with the given segments. -/
def Writes (names : List String) (data : Bytes) : Edit → Prop
  | writeBytes path written _ => Path.segments? path = some names ∧ written = data
  | writeText path text _ => Path.segments? path = some names ∧ Utf8.encode text = data
  | makeDirectory _ _ _ => False
  | remove _ _ => False

/-- The edit is a removal of the entry with the given segments or of one above it. -/
def Removes (names : List String) : Edit → Prop
  | remove path _ => ∃ top, Path.segments? path = some top ∧ top <+: names
  | writeBytes _ _ _ => False
  | writeText _ _ _ => False
  | makeDirectory _ _ _ => False

/-- The edit decides what stands at the given segments, if it succeeds. -/
def Touches (names : List String) (e : Edit) : Prop := (∃ data, e.Writes names data) ∨ e.Removes names

end Edit

/-- Carries edits out one after the other. -/
def FileStorage.runEdits (s : FileStorage) : List Edit → Disk → History × Disk
  | [], d => ([], d)
  | e :: edits, d =>
    let (result, d) := e.apply s d
    let (history, d) := s.runEdits edits d
    ((e, result) :: history, d)

/-- The history has a successful write of `data` to the segments, and after it nothing succeeded that
touches them. -/
def LastWritten (history : History) (names : List String) (data : Bytes) : Prop :=
  ∃ before e after, history = before ++ (e, .ok ()) :: after ∧ e.Writes names data ∧
    ∀ x ∈ after, x.2 = .ok () → ¬ x.1.Touches names

namespace LastWritten

variable {history : History} {names : List String} {data : Bytes} {e : Edit}

/-- Without a history nothing was written. -/
@[simp] theorem nil_iff : LastWritten [] names data ↔ False := by
  simp [LastWritten]

/-- A successful write is the last one. -/
theorem concat_of_writes (h : e.Writes names data) :
    LastWritten (history ++ [(e, .ok ())]) names data :=
  ⟨history, e, [], rfl, h, by simp⟩

/-- An edit that does not touch the segments, or fails, leaves the last write to them. -/
theorem concat_of_not_touches {result : Outcome Unit}
    (hkeep : result = .ok () → ¬ e.Touches names) :
    LastWritten (history ++ [(e, result)]) names data ↔ LastWritten history names data := by
  constructor
  · rintro ⟨before, e', after, hsplit, hwrites, hafter⟩
    rcases List.eq_nil_or_concat' after with rfl | ⟨after, last, rfl⟩
    · obtain ⟨-, heq⟩ := List.append_inj' hsplit rfl
      obtain ⟨rfl, rfl⟩ := Prod.mk.inj (List.singleton_inj.1 heq)
      exact absurd (Or.inl ⟨data, hwrites⟩) (hkeep rfl)
    · rw [← List.cons_append, ← List.append_assoc] at hsplit
      obtain ⟨rfl, -⟩ := List.append_inj' hsplit rfl
      exact ⟨before, e', after, rfl, hwrites,
        fun x hx => hafter x (List.mem_append_left _ hx)⟩
  · rintro ⟨before, e', after, rfl, hwrites, hafter⟩
    refine ⟨before, e', after ++ [(e, result)], by simp, hwrites, fun x hx hok => ?_⟩
    rcases List.mem_append.1 hx with hx | hx
    · exact hafter x hx hok
    · obtain rfl := List.mem_singleton.1 hx
      exact hkeep hok

/-- Behind a successful edit that touches the segments only that edit counts. -/
theorem concat_of_touches (h : e.Touches names) :
    LastWritten (history ++ [(e, .ok ())]) names data ↔ e.Writes names data := by
  refine ⟨?_, concat_of_writes⟩
  rintro ⟨before, e', after, hsplit, hwrites, hafter⟩
  rcases List.eq_nil_or_concat' after with rfl | ⟨after, last, rfl⟩
  · obtain ⟨-, heq⟩ := List.append_inj' hsplit rfl
    obtain ⟨rfl, -⟩ := Prod.mk.inj (List.singleton_inj.1 heq)
    exact hwrites
  · rw [← List.cons_append, ← List.append_assoc] at hsplit
    obtain ⟨-, heq⟩ := List.append_inj' hsplit rfl
    obtain rfl := List.singleton_inj.1 heq
    exact absurd h (hafter _ (List.mem_append_right _ List.mem_cons_self) rfl)

end LastWritten

/-! ## The invariant -/

/-- The tree below the root shows the history: it has directories and files only, and the files are
those that were written last. -/
structure Mirrors (root : Location) (d : Disk) (history : History) : Prop
    extends d.PlainBelow root where
  wellFormed : d.WellFormed
  file : ∀ names data, (∃ stamp, d.find? (root ++ names) = some (.file stamp data)) ↔
    LastWritten history names data
  walkable : ∀ names stamp c, d.find? (root ++ names) = some (.file stamp c) →
    Disk.Walkable (root ++ names)

namespace Mirrors

variable {root : Location} {d d' : Disk} {history : History} {e : Edit}

/-- At the start nothing stands below the root. -/
theorem start (hd : d.WellFormed) (hroot : d.find? root = some .directory)
    (hempty : ∀ names, names ≠ [] → d.find? (root ++ names) = none) : Mirrors root d [] := by
  have honly : ∀ names x, d.find? (root ++ names) = some x → x = .directory := by
    intro names x h
    by_cases hnames : names = []
    · subst hnames
      rw [List.append_nil, hroot] at h
      exact (Option.some.inj h).symm
    · rw [hempty names hnames] at h
      cases h
  have hno_file : ∀ names stamp c, d.find? (root ++ names) ≠ some (.file stamp c) := by
    intro names stamp c h
    cases honly names _ h
  exact
    { isDirectory := hroot
      plain := fun names x h => Or.inl (honly names x h)
      wellFormed := hd
      file := fun names data => by simp [hno_file]
      walkable := fun names stamp c h => absurd h (hno_file names stamp c) }

/-- An edit that fails without a change, or that makes directories only, shows in no file. -/
theorem grown (h : Mirrors root d history) {result : Outcome Unit} (hgrown : d.Grown d')
    (hkeep : ∀ names, result = .ok () → ¬ e.Touches names) :
    Mirrors root d' (history ++ [(e, result)]) where
  wellFormed := hgrown.wellFormed
  isDirectory := by
    rcases hgrown.find? root with hsame | ⟨hfree, -⟩
    · rw [hsame, h.isDirectory]
    · rw [h.isDirectory] at hfree
      cases hfree
  plain := by
    intro names x hx
    rcases hgrown.find? (root ++ names) with hsame | ⟨-, hmade⟩
    · exact h.plain names x (hsame ▸ hx)
    · rw [hmade] at hx
      exact Or.inl (Option.some.inj hx).symm
  file := by
    intro names data
    rw [LastWritten.concat_of_not_touches (hkeep names), ← h.file]
    rcases hgrown.find? (root ++ names) with hsame | ⟨hfree, hmade⟩
    · rw [hsame]
    · simp [hfree, hmade]
  walkable := by
    intro names stamp c hx
    rcases hgrown.find? (root ++ names) with hsame | ⟨-, hmade⟩
    · exact h.walkable names stamp c (hsame ▸ hx)
    · rw [hmade] at hx
      cases hx

/-- A successful write shows in the file that it names. -/
theorem written (h : Mirrors root d history) {path : String} {names : List String}
    (hnames : Path.segments? path = some names) {overwrite : Bool} {place : Location} {stamp : Nat}
    {data : Bytes} (hwritten : d.Written overwrite (root ++ names) place stamp data d')
    (hwrites : ∀ names' data', e.Writes names' data' ↔ names' = names ∧ data' = data)
    (hremoves : ∀ names', ¬ e.Removes names') : Mirrors root d' (history ++ [(e, .ok ())]) := by
  have hstraight := h.straight_of_segments? h.wellFormed hnames
  obtain rfl : place = root ++ names := Disk.spotAt_inj (hstraight.walk_eq hwritten.walk)
  have hnot : d.find? (root ++ names) ≠ some .directory := by
    rcases hwritten.before with hfree | ⟨-, c, hfile⟩
    · rw [hfree]
      simp
    · rw [hfile]
      simp
  have hne : root ≠ root ++ names := fun heq => hnot (heq ▸ h.isDirectory)
  refine
    { wellFormed := hwritten.wellFormed
      isDirectory := by rw [hwritten.find?, if_neg hne, h.isDirectory]
      plain := fun names' x hx => ?_
      file := fun names' data' => ?_
      walkable := fun names' stamp' c hx => ?_ }
  · rw [hwritten.find?] at hx
    split at hx
    · exact Or.inr ⟨stamp, data, (Option.some.inj hx).symm⟩
    · exact h.plain names' x hx
  · simp only [hwritten.find?, List.append_cancel_left_eq]
    by_cases hsame : names' = names
    · have htouches : e.Touches names' := Or.inl ⟨data, (hwrites _ _).2 ⟨hsame, rfl⟩⟩
      rw [if_pos hsame, LastWritten.concat_of_touches htouches, hwrites]
      constructor
      · rintro ⟨stamp', heq⟩
        exact ⟨hsame, ((Entry.file.inj (Option.some.inj heq)).2).symm⟩
      · rintro ⟨-, rfl⟩
        exact ⟨stamp, rfl⟩
    · have hkeep : ¬ e.Touches names' := by
        rintro (⟨data'', hw⟩ | hr)
        · exact hsame ((hwrites _ _).1 hw).1
        · exact hremoves names' hr
      rw [if_neg hsame, LastWritten.concat_of_not_touches fun _ => hkeep, h.file]
  · rw [hwritten.find?] at hx
    split at hx
    · next heq =>
      rw [heq]
      exact Disk.walkable_of_walk hwritten.walk
    · exact h.walkable names' stamp' c hx

/-- A successful removal takes its entry away with everything below it. -/
theorem removed (h : Mirrors root d history) {top : List String} (hne : top ≠ [])
    (hfind : ∀ k, d'.find? k = if root ++ top <+: k ∧ k ≠ [] then none else d.find? k)
    (hd' : d'.WellFormed) (hremoves : ∀ names, e.Removes names ↔ top <+: names)
    (hwrites : ∀ names data, ¬ e.Writes names data) :
    Mirrors root d' (history ++ [(e, .ok ())]) := by
  have hbelow : ∀ names, d'.find? (root ++ names) =
      if top <+: names then none else d.find? (root ++ names) := by
    intro names
    simp only [hfind, List.prefix_append_right_inj]
    by_cases habove : top <+: names
    · have hnames : root ++ names ≠ [] := by
        intro hnil
        obtain rfl := List.append_eq_nil_iff.1 hnil |>.2
        exact hne (List.prefix_nil.1 habove)
      rw [if_pos ⟨habove, hnames⟩, if_pos habove]
    · rw [if_neg fun hx => habove hx.1, if_neg habove]
  refine
    { wellFormed := hd'
      isDirectory := ?_
      plain := fun names y hy => ?_
      file := fun names data => ?_
      walkable := fun names stamp c hy => ?_ }
  · have hroot := hbelow []
    rw [List.append_nil, if_neg fun hx => hne (List.prefix_nil.1 hx)] at hroot
    rw [hroot, h.isDirectory]
  · rw [hbelow] at hy
    split at hy
    · cases hy
    · exact h.plain names y hy
  · rw [hbelow]
    by_cases habove : top <+: names
    · have htouches : e.Touches names := Or.inr ((hremoves names).2 habove)
      rw [if_pos habove, LastWritten.concat_of_touches htouches]
      simp [hwrites]
    · have hkeep : ¬ e.Touches names := by
        rintro (⟨data', hw⟩ | hr)
        · exact hwrites _ _ hw
        · exact habove ((hremoves names).1 hr)
      rw [if_neg habove, LastWritten.concat_of_not_touches fun _ => hkeep, h.file]
  · rw [hbelow] at hy
    split at hy
    · cases hy
    · exact h.walkable names stamp c hy

/-- An edit that fails and changes nothing shows nowhere. -/
theorem failed (h : Mirrors root d history) (error : StorageError) :
    Mirrors root d (history ++ [(e, .error error)]) :=
  h.grown (Disk.Grown.refl h.wellFormed) fun _ hok => by cases hok

end Mirrors

/-! ## Edits keep the invariant -/

section
variable {s : FileStorage} {d : Disk} {history : History}

/-- A write keeps the invariant, whatever its outcome. -/
theorem Mirrors.write (h : Mirrors s.root d history) {e : Edit} {path : String} (data : Bytes)
    {overwrite : Bool} (happly : e.apply s d = s.writeBytes path data overwrite d)
    (hwrites : ∀ names data', e.Writes names data' ↔
      Path.segments? path = some names ∧ data = data')
    (hremoves : ∀ names, ¬ e.Removes names) :
    Mirrors s.root (e.apply s d).2 (history ++ [(e, (e.apply s d).1)]) := by
  rw [happly]
  rcases FileStorage.writeBytes_cases h.wellFormed h.isDirectory path data overwrite with
    ⟨error, hresult⟩ | ⟨names, place, stamp, d', hnames, hresult, hwritten⟩
  · rw [hresult]
    exact h.failed error
  · rw [hresult]
    refine h.written hnames hwritten (fun names' data' => ?_) hremoves
    rw [hwrites, hnames, Option.some_inj]
    exact ⟨fun hx => ⟨hx.1.symm, hx.2.symm⟩, fun hx => ⟨hx.1.symm, hx.2.symm⟩⟩

/-- One edit keeps the invariant, whatever its outcome. -/
theorem Mirrors.apply (h : Mirrors s.root d history) (e : Edit) :
    Mirrors s.root (e.apply s d).2 (history ++ [(e, (e.apply s d).1)]) := by
  cases e with
  | writeBytes path data overwrite =>
    exact h.write data rfl (fun _ _ => Iff.rfl) fun _ hx => hx
  | writeText path text overwrite =>
    exact h.write (Utf8.encode text) rfl (fun _ _ => Iff.rfl) fun _ hx => hx
  | makeDirectory path recursive existsOk =>
    refine h.grown (FileStorage.grown_makeDirectory h.wellFormed h.isDirectory _ _ _) ?_
    rintro names - (⟨data, hw⟩ | hr)
    · exact hw
    · exact hr
  | remove path recursive =>
    rcases FileStorage.remove_cases_of_linkFree h.wellFormed h.isDirectory h.linkFree path
      recursive with ⟨error, hresult⟩ | ⟨top, d', htop, hne, hresult, hfind, hd'⟩
    · rw [Edit.apply, hresult]
      exact h.failed error
    · rw [Edit.apply, hresult]
      refine h.removed hne hfind hd' (fun names => ?_) fun _ _ hx => hx
      show (∃ t, Path.segments? path = some t ∧ t <+: names) ↔ _
      rw [htop]
      constructor
      · rintro ⟨t, ht, habove⟩
        obtain rfl := Option.some.inj ht
        exact habove
      · exact fun habove => ⟨top, rfl, habove⟩

/-- A run of edits keeps the invariant. -/
theorem Mirrors.runEdits (h : Mirrors s.root d history) (edits : List Edit) :
    Mirrors s.root (s.runEdits edits d).2 (history ++ (s.runEdits edits d).1) := by
  induction edits generalizing d history with
  | nil => simpa [FileStorage.runEdits] using h
  | cons e edits ih =>
    have hrest := ih (h.apply e)
    rw [List.append_assoc] at hrest
    exact hrest

/-- Reading gives the content of the last written file, and fails where there is none. -/
theorem Mirrors.readBytes_eq_ok_iff (h : Mirrors s.root d history) {path : String}
    {names : List String} (hnames : Path.segments? path = some names) (data : Bytes) :
    s.readBytes path d = .ok data ↔ LastWritten history names data := by
  have hstraight := h.straight_of_segments? h.wellFormed hnames
  have hlookup := fun x => hstraight.lookup_eq_ok_iff h.wellFormed (e := x)
  rw [← h.file]
  by_cases hfile : ∃ stamp c, d.find? (s.root ++ names) = some (.file stamp c)
  · obtain ⟨stamp, c, hfind⟩ := hfile
    rw [FileStorage.readBytes_of_find? h.wellFormed hnames hstraight
      (h.walkable names stamp c hfind) hfind, hfind]
    simp
  · obtain ⟨error, herror⟩ := FileStorage.readBytes_error_of_lookup (s := s) hnames (d := d) (by
      intro x hx
      have hfind := ((hlookup x).1 hx).1
      rcases h.plain names x hfind with hdirectory | ⟨stamp, c, rfl⟩
      · exact hdirectory
      · exact absurd ⟨stamp, c, hfind⟩ hfile)
    rw [herror]
    constructor
    · intro hx
      cases hx
    · rintro ⟨stamp, hfind⟩
      exact absurd ⟨stamp, data, hfind⟩ hfile

end

/-! ## The law -/

/-- After any run of edits that starts with an empty root directory, reading an accepted path gives
exactly what the last successful write to its segments wrote, if no later successful removal named
them or a directory above them, and fails if there is no such write. -/
theorem readBytes_runEdits (s : FileStorage) {d : Disk} (hd : d.WellFormed)
    (hroot : d.find? s.root = some .directory)
    (hempty : ∀ names, names ≠ [] → d.find? (s.root ++ names) = none) (edits : List Edit)
    {path : String} {names : List String} (hpath : Path.segments? path = some names) :
    (∀ data, s.readBytes path (s.runEdits edits d).2 = .ok data ↔
      LastWritten (s.runEdits edits d).1 names data) ∧
    ((¬ ∃ data, LastWritten (s.runEdits edits d).1 names data) →
      ∃ e, s.readBytes path (s.runEdits edits d).2 = .error e) := by
  have hmirrors := (Mirrors.start hd hroot hempty).runEdits edits
  rw [List.nil_append] at hmirrors
  have hread := fun data => hmirrors.readBytes_eq_ok_iff hpath data
  refine ⟨hread, fun hnone => ?_⟩
  cases h : s.readBytes path (s.runEdits edits d).2 with
  | error e => exact ⟨e, rfl⟩
  | ok data => exact absurd ⟨data, (hread data).1 h⟩ hnone

/-- A write under another spelling after a removal is the last one; the exclusive write behind it
fails and does not count. -/
theorem readBytes_runEdits_rewritten :
    (FileStorage.mk ["r"]).readBytes "x" ((FileStorage.mk ["r"]).runEdits
      [.writeBytes "x" [1] false, .remove "x" false, .writeBytes "./x" [2] false,
        .writeBytes "x" [3] false] (Disk.single "r")).2 = .ok [2] := by
  have hhistory : ((FileStorage.mk ["r"]).runEdits
      [.writeBytes "x" [1] false, .remove "x" false, .writeBytes "./x" [2] false,
        .writeBytes "x" [3] false] (Disk.single "r")).1 =
      [(.writeBytes "x" [1] false, .ok ()), (.remove "x" false, .ok ()),
        (.writeBytes "./x" [2] false, .ok ()),
        (.writeBytes "x" [3] false, .error (.alreadyExists "x"))] := rfl
  have hd : (Disk.single "r").WellFormed := Disk.wellFormed_single (by decide)
  have hlaw := readBytes_runEdits (FileStorage.mk ["r"]) hd
    (by simp [Disk.find?_single]) (by intro names h; simp [Disk.find?_single, h])
    [.writeBytes "x" [1] false, .remove "x" false, .writeBytes "./x" [2] false,
      .writeBytes "x" [3] false]
    (show Path.segments? "x" = some ["x"] by decide)
  refine (hlaw.1 [2]).2 ?_
  rw [hhistory]
  refine ⟨[(.writeBytes "x" [1] false, .ok ()), (.remove "x" false, .ok ())],
    .writeBytes "./x" [2] false, [(.writeBytes "x" [3] false, .error (.alreadyExists "x"))],
    rfl, ⟨by decide, by decide⟩, ?_⟩
  intro x hx hok
  obtain rfl := List.mem_singleton.1 hx
  cases hok

end RootedStorage

import RootedStorage.FileStat
import RootedStorage.Proofs.Calendar.Internet
import RootedStorage.Proofs.Json.Numbers
import RootedStorage.Proofs.Json.Yields

/-!
# Metadata as JSON

Metadata that is read from a JSON text is within the bounds of its numbers (`FileStat.bounded_of_ofJson`),
and metadata within these bounds is read back from the text that is written of it, if its times have
years of four digits and lie outside leap seconds.  So whatever spelling a time had, after it is written
once the text does not change any more (`FileStat.ofJson_toJson`).
-/

namespace RootedStorage

open Json

/-! ## Kinds and moments -/

/-- The name of a kind is read back as the kind. -/
theorem FileType.reads_name (t : FileType) : Reads FileType.read (Utf8.encode (writeString t.name)) t := by
  intro rest
  have hbody := reads_stringBody t.name rest
  have hname : FileType.ofName t.name rest = .value t rest := by cases t <;> rfl
  rw [encode_writeString, List.cons_append, FileType.read, skip_of_not_isSpace (by decide)]
  dsimp only
  rw [if_neg (by decide), if_pos rfl, FileType.readName, skip_of_not_isSpace (by decide)]
  dsimp only
  rw [if_pos rfl, hbody]
  simp only [Step.andThen, hname, Step.placed]

/-- The moment lies in a year of four digits and outside a leap second. -/
structure Moment.Ordinary (m : Moment) : Prop where
  plain : m.date.Plain
  nanosecond : m.nanosecond < 1000000000

/-- The text of an ordinary moment is read back as the moment. -/
theorem Moment.Ordinary.reads {m : Moment} (h : m.Ordinary) :
    Reads Moment.readJson (Utf8.encode m.writeJson) m := by
  intro rest
  have htext := reads_stringAs "an RFC 3339 formatted date and time string" m.universalText rest
  have hparse := Moment.Internet.parse_chars h.plain h.nanosecond
  rw [Moment.readJson, Moment.writeJson, htext]
  simp only [Step.andThen, Moment.universalText, String.toList_ofList, hparse, Step.placed]

namespace FileStat

/-! ## Bounds -/

/-- The numbers fit their types. -/
structure Bounded (s : FileStat) : Prop where
  size : s.size < Nat.pow 2 64
  user : ∀ n ∈ s.user, n < Nat.pow 2 32
  group : ∀ n ∈ s.group, n < Nat.pow 2 32
  mode : ∀ n ∈ s.mode, n < Nat.pow 2 32

/-- The numbers that are read so far fit their types. -/
structure Draft.Bounded (d : Draft) : Prop where
  size : ∀ n ∈ d.size, n < Nat.pow 2 64
  user : ∀ n ∈ d.user.join, n < Nat.pow 2 32
  group : ∀ n ∈ d.group.join, n < Nat.pow 2 32
  mode : ∀ n ∈ d.mode.join, n < Nat.pow 2 32

theorem yields_optional_readWord : Yields (fun a => ∀ n ∈ a, n < Nat.pow 2 32) (optional readWord) :=
  yields_optional (yields_natural _ _)

/-- Every member keeps the bounds. -/
theorem yields_member {d : Draft} (h : d.Bounded) (key : String) :
    Yields Draft.Bounded (member d key) := by
  have hany : ∀ {α : Type} (read : Reader α), Yields (fun _ => True) read :=
    fun read s => Step.within_any (read s)
  unfold member
  split
  · exact yields_once _ _ (hany _) fun v _ => ⟨h.size, h.user, h.group, h.mode⟩
  · refine yields_once _ _ (yields_natural _ _) fun v hv => ⟨?_, h.user, h.group, h.mode⟩
    rintro n hn
    obtain rfl := Option.some.inj hn
    exact hv
  · exact yields_once _ _ (hany _) fun v _ => ⟨h.size, h.user, h.group, h.mode⟩
  · exact yields_once _ _ (hany _) fun v _ => ⟨h.size, h.user, h.group, h.mode⟩
  · exact yields_once _ _ (hany _) fun v _ => ⟨h.size, h.user, h.group, h.mode⟩
  · exact yields_once _ _ yields_optional_readWord fun v hv => ⟨h.size, hv, h.group, h.mode⟩
  · exact yields_once _ _ yields_optional_readWord fun v hv => ⟨h.size, h.user, hv, h.mode⟩
  · exact yields_once _ _ yields_optional_readWord fun v hv => ⟨h.size, h.user, h.group, hv⟩
  · exact yields_ignored h

theorem yields_ofDraft {d : Draft} (h : d.Bounded) : Yields Bounded (ofDraft d) := by
  intro s
  exact (yields_required "size" h.size s).map fun size hsize => ⟨hsize, h.user, h.group, h.mode⟩

theorem yields_ofList : Yields Bounded ofList := by
  intro s
  have hword := yields_optional_readWord
  have hnone : ∀ {α : Type} {P : α → Prop}, ∀ a ∈ (none : Option α), P a := fun a ha => by cases ha
  refine (Step.within_any _).andThen fun fileType _ s => ?_
  refine (yields_fieldAt 1 _ hnone (yields_natural _ _) s).andThen fun size hsize s => ?_
  refine (Step.within_any _).andThen fun changed _ s => ?_
  refine (Step.within_any _).andThen fun modified _ s => ?_
  refine (Step.within_any _).andThen fun accessed _ s => ?_
  refine (yields_fieldAt 5 _ hnone hword s).andThen fun user huser s => ?_
  refine (yields_fieldAt 6 _ hnone hword s).andThen fun group hgroup s => ?_
  exact (yields_fieldAt 7 _ hnone hword s).map fun mode hmode => ⟨hsize, huser, hgroup, hmode⟩

/-- Metadata that is read fits its types. -/
theorem bounded_of_ofJson {text : String} {s : FileStat} (h : ofJson text = .ok s) : s.Bounded := by
  have hempty : Draft.Bounded {} := by constructor <;> simp
  refine of_decode (yields_record _ (fun rest => ?_) yields_ofList) h
  exact (yields_allMembers (fun d key hd => yields_member hd key) hempty rest).andThen
    fun d hd => yields_ofDraft hd

/-! ## The text that is written -/

/-- The times of the metadata are ordinary moments. -/
structure Ordinary (s : FileStat) : Prop where
  changed : ∀ m ∈ s.changed, m.Ordinary
  modified : ∀ m ∈ s.modified, m.Ordinary
  accessed : ∀ m ∈ s.accessed, m.Ordinary

theorem readsMember_word {a : Option Nat} (h : ∀ n ∈ a, n < Nat.pow 2 32) :
    ReadsMember (optional readWord) (Utf8.encode (writeOption toString a)) a :=
  readsMember_optional beginsValue_toString fun n hn => readsMember_natural (by decide) (h n hn) _

theorem readsMember_moment {a : Option Moment} (h : ∀ m ∈ a, m.Ordinary) :
    ReadsMember (optional Moment.readJson) (Utf8.encode (writeOption Moment.writeJson a)) a :=
  readsMember_optional (fun m => beginsValue_writeString m.universalText)
    fun m hm => (h m hm).reads.member

/-- The members that metadata is written as. -/
def written (s : FileStat) : List (String × String) :=
  [("file_type", writeOption (fun t => writeString t.name) s.fileType),
    ("size", toString s.size),
    ("ctime", writeOption Moment.writeJson s.changed),
    ("mtime", writeOption Moment.writeJson s.modified),
    ("atime", writeOption Moment.writeJson s.accessed),
    ("uid", writeOption toString s.user),
    ("gid", writeOption toString s.group),
    ("mode", writeOption toString s.mode)]

/-- The members of metadata are collected one by one. -/
theorem collects_written {s : FileStat} (hs : s.Bounded) (ht : s.Ordinary) :
    Collects member {} s.written
      { fileType := some s.fileType
        size := some s.size
        changed := some s.changed
        modified := some s.modified
        accessed := some s.accessed
        user := some s.user
        group := some s.group
        mode := some s.mode } := by
  have htype : ReadsMember (optional FileType.read)
      (Utf8.encode (writeOption (fun t => writeString t.name) s.fileType)) s.fileType :=
    readsMember_optional (fun t => beginsValue_writeString t.name) fun t _ => t.reads_name.member
  have hsize : ReadsMember readSize (Utf8.encode (toString s.size)) s.size :=
    readsMember_natural (Nat.le_refl _) hs.size _
  apply Collects.cons (readsMember_once htype _)
  apply Collects.cons (readsMember_once hsize _)
  apply Collects.cons (readsMember_once (readsMember_moment ht.changed) _)
  apply Collects.cons (readsMember_once (readsMember_moment ht.modified) _)
  apply Collects.cons (readsMember_once (readsMember_moment ht.accessed) _)
  apply Collects.cons (readsMember_once (readsMember_word hs.user) _)
  apply Collects.cons (readsMember_once (readsMember_word hs.group) _)
  apply Collects.cons (readsMember_once (readsMember_word hs.mode) _)
  exact Collects.nil _

/-- Metadata within the bounds is read back from its text. -/
theorem ofJson_toJson_of_bounded {s : FileStat} (hs : s.Bounded) (ht : s.Ordinary) :
    ofJson s.toJson = .ok s := by
  have hwritten : s.toJson = writeObject s.written := rfl
  rw [ofJson, hwritten]
  refine decode_of_reads (reads_record fun rest => ?_)
  rw [allMembers_of_collects (collects_written hs ht)]
  rfl

/-- Whatever JSON text it was accepted from, metadata whose times are ordinary moments is written as a
text that is read as the same metadata. -/
theorem ofJson_toJson {text : String} {s : FileStat} (h : ofJson text = .ok s) (ht : s.Ordinary) :
    ofJson s.toJson = .ok s :=
  ofJson_toJson_of_bounded (bounded_of_ofJson h) ht

/-- Metadata of a leap day, with the greatest numbers. -/
def leapDay : FileStat where
  fileType := none
  size := 18446744073709551615
  modified := some ⟨1583024400, 123456789⟩
  mode := some 4294967295

/-- A time west of universal time, on a leap day and with more digits than nanoseconds, comes to lie in
the next month.  The text that is written for it is read as the same moment. -/
theorem ofJson_toJson_leap_day :
    ofJson ("\x7b\"mtime\":\"2020-02-29T23:30:00.123456789012-01:30\",\"uid\":null," ++
        "\"size\":18446744073709551615,\"mode\":4294967295\x7d") = .ok leapDay ∧
      ofJson ("\x7b\"file_type\":null,\"size\":18446744073709551615,\"ctime\":null," ++
        "\"mtime\":\"2020-03-01T01:00:00.123456789Z\",\"atime\":null,\"uid\":null,\"gid\":null," ++
        "\"mode\":4294967295\x7d") = .ok leapDay := by
  have hread : ofJson ("\x7b\"mtime\":\"2020-02-29T23:30:00.123456789012-01:30\",\"uid\":null," ++
      "\"size\":18446744073709551615,\"mode\":4294967295\x7d") = .ok leapDay := by decide +kernel
  have hwritten : leapDay.toJson =
      "\x7b\"file_type\":null,\"size\":18446744073709551615,\"ctime\":null," ++
        "\"mtime\":\"2020-03-01T01:00:00.123456789Z\",\"atime\":null,\"uid\":null,\"gid\":null," ++
        "\"mode\":4294967295\x7d" := by decide +kernel
  have hordinary : leapDay.Ordinary := by
    constructor
    · intro m hm
      cases hm
    · intro m hm
      obtain rfl := Option.some.inj hm
      exact ⟨by constructor <;> decide, by decide⟩
    · intro m hm
      cases hm
  have hback := ofJson_toJson hread hordinary
  rw [hwritten] at hback
  exact ⟨hread, hback⟩

end FileStat

end RootedStorage

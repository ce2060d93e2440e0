import Mathlib.Data.List.Permutation
import RootedStorage.Config
import RootedStorage.Proofs.Dictionary
import RootedStorage.Proofs.Json.Objects
import RootedStorage.Proofs.Prelude

/-!
# Configurations as JSON

A configuration that is built step by step is read back from its JSON text, in whatever order the
members of its objects are written (`SystemConfig.ofJson_of_writtenAs`).  Written dictionaries come
back with the same values under the same keys, since no key is written twice
(`Json.reads_dictionary_of_written`).
-/

namespace RootedStorage

/-! ## Objects in any order -/

namespace Json

variable {α β : Type}

/-- The text is an object of the given members, in some order. -/
def Written (members : List (String × String)) (text : String) : Prop :=
  ∃ order : List (String × String), order.Perm members ∧ text = writeObject order

/-- A written object is written with its members in their order. -/
theorem written_writeObject (members : List (String × String)) :
    Written members (writeObject members) :=
  ⟨members, .refl _, rfl⟩

/-- A dictionary with distinct keys that is written in any order is read back with the values that
its own are read as. -/
theorem reads_dictionary_of_written {read : Reader α} {R : α → β → Prop} {d : Dictionary β}
    (hd : d.Distinct) {members : List (String × String)}
    (hmembers : List.Forall₂ (fun m e => m.1 = e.1 ∧ ∃ a, Reads read (Utf8.encode m.2) a ∧ R a e.2)
      members d.entries) {text : String} (h : Written members text) :
    ∃ back : Dictionary α, Reads (dictionary read) (Utf8.encode text) back ∧
      ∀ key, Option.Rel R (back.get? key) (d.get? key) := by
  obtain ⟨order, hperm, rfl⟩ := h
  obtain ⟨entries, hentries, hperm'⟩ := List.perm_comp_forall₂ hperm hmembers
  obtain ⟨backs, hread, hrel⟩ : ∃ backs : List (String × α),
      List.Forall₂ (fun m a => m.1 = a.1 ∧ Reads read (Utf8.encode m.2) a.2) order backs ∧
      List.Forall₂ (fun a e => a.1 = e.1 ∧ R a.2 e.2) backs entries := by
    refine exists_forall₂_between (hentries.imp fun m e hm => ?_)
    obtain ⟨hkey, a, ha, hR⟩ := hm
    exact ⟨(m.1, a), ⟨rfl, ha⟩, hkey, hR⟩
  have hkeys : backs.map (·.1) = entries.map (·.1) := by
    rw [← List.forall₂_eq_eq_eq, List.forall₂_map_left_iff, List.forall₂_map_right_iff]
    exact hrel.imp fun _ _ h => h.1
  have hnodup : (backs.map (·.1)).Nodup := by
    rw [hkeys]
    exact (hperm'.map _).nodup_iff.2 hd
  refine ⟨_, reads_dictionary hread, fun key => ?_⟩
  have hsame : (⟨entries⟩ : Dictionary β).get? key = d.get? key := hd.get?_eq_of_perm hperm' key
  rw [Dictionary.ofList_eq hnodup, ← hsame]
  exact Dictionary.get?_rel hrel key

end Json

open Json

/-! ## Configurations of storages -/

namespace StorageConfig

variable {a b c : StorageConfig}

/-- Configurations of storages that are built option by option. -/
inductive Built : StorageConfig → Prop where
  | new (storageType : String) : Built { storageType }
  | withOption {c : StorageConfig} (h : Built c) (key value : String) :
    Built (c.withOption key value)

/-- A built configuration repeats no option. -/
theorem Built.distinct (h : c.Built) : c.options.Distinct := by
  induction h with
  | new => exact Dictionary.distinct_empty
  | withOption _ key value ih => exact ih.put key value

/-- The configurations give the same type and the same options. -/
def Same (a b : StorageConfig) : Prop :=
  a.storageType = b.storageType ∧ ∀ key, a.option? key = b.option? key

/-- The computed comparison decides whether configurations are the same. -/
theorem same_iff : a.same b = true ↔ a.Same b := by
  unfold same Same
  simp only [Bool.and_eq_true, decide_eq_true_eq, List.all_eq_true, List.mem_append]
  refine and_congr_right fun _ => ⟨fun h key => ?_, fun h key _ => h key⟩
  by_cases hkey : key ∈ a.options.keys ∨ key ∈ b.options.keys
  · exact h key hkey
  · rw [Dictionary.mem_keys_iff, Dictionary.mem_keys_iff, not_or, ← Option.isSome_iff_exists,
      ← Option.isSome_iff_exists, Option.not_isSome_iff_eq_none, Option.not_isSome_iff_eq_none]
      at hkey
    exact hkey.1.trans hkey.2.symm

/-- The text is the configuration as JSON, with the members of its objects in any order. -/
def WrittenAs (c : StorageConfig) (text : String) : Prop :=
  ∃ options, Written (c.options.entries.map fun e => (e.1, writeString e.2)) options ∧
    Written [("storage_type", writeString c.storageType), ("storage_config", options)] text

/-- A configuration's text is one of the texts that it is written as. -/
theorem writtenAs_toJson (c : StorageConfig) : c.WrittenAs c.toJson :=
  ⟨_, written_writeObject _, written_writeObject _⟩

/-- The members of a configuration are taken in either order. -/
theorem takes_members {storageType optionsText : String} {options : Dictionary String}
    (hread : Reads (dictionary string) (Utf8.encode optionsText) options)
    {order : List (String × String)}
    (horder : order.Perm
      [("storage_type", writeString storageType), ("storage_config", optionsText)]) :
    Takes member {} order ⟨some storageType, some options⟩ := by
  have htype : ∀ present, Reads (member ⟨none, present⟩ "storage_type")
      (58 :: Utf8.encode (writeString storageType)) ⟨some storageType, present⟩ :=
    fun _ => reads_once (reads_string storageType) _
  have hoptions : ∀ present, Reads (member ⟨present, none⟩ "storage_config")
      (58 :: Utf8.encode optionsText) ⟨present, some options⟩ :=
    fun _ => reads_once hread _
  rcases List.perm_pair.1 horder with rfl | rfl
  · exact .cons (htype none) (.cons (hoptions _) (.nil _))
  · exact .cons (hoptions none) (.cons (htype _) (.nil _))

/-- A written configuration is read back. -/
theorem reads_of_writtenAs (hc : c.options.Distinct) {text : String} (h : c.WrittenAs text) :
    ∃ back, Reads read (Utf8.encode text) back ∧ back.Same c := by
  obtain ⟨optionsText, hoptions, order, horder, rfl⟩ := h
  have hvalues : List.Forall₂ (fun m e => m.1 = e.1 ∧ ∃ value,
      Reads string (Utf8.encode m.2) value ∧ value = e.2)
        (c.options.entries.map fun e => (e.1, writeString e.2)) c.options.entries := by
    rw [List.forall₂_map_left_iff, List.forall₂_same]
    exact fun e _ => ⟨rfl, e.2, reads_string e.2, rfl⟩
  obtain ⟨options, hread, hsame⟩ := reads_dictionary_of_written hc hvalues hoptions
  refine ⟨⟨c.storageType, options⟩, reads_record fun rest => ?_, rfl, fun key => ?_⟩
  · rw [allMembers_objectOctets (takes_members hread horder)]
    rfl
  · exact eq_of_rel_eq (hsame key)

end StorageConfig

/-! ## Configurations of systems -/

namespace SystemConfig

variable {a b c : SystemConfig}

/-- Configurations of systems that are built storage by storage. -/
inductive Built : SystemConfig → Prop where
  | new : Built {}
  | withStorage {c : SystemConfig} {storage : StorageConfig} (h : Built c) (hs : storage.Built)
    (key : String) : Built (c.withStorage key storage)

/-- A built configuration repeats no option. -/
theorem Built.distinct (h : c.Built) : c.storage.Distinct := by
  induction h with
  | new => exact Dictionary.distinct_empty
  | withStorage _ _ key ih => exact ih.put key _

/-- No storage of a built configuration repeats an option. -/
theorem Built.distinct_options (h : c.Built) :
    ∀ e ∈ c.storage.entries, e.2.options.Distinct := by
  have hvalues : ∀ key storage, c.storage.get? key = some storage → storage.options.Distinct := by
    induction h with
    | new =>
      intro key storage hstorage
      cases hstorage
    | withStorage _ hs name ih =>
      intro key storage hstorage
      rw [SystemConfig.withStorage, Dictionary.get?_put] at hstorage
      split at hstorage
      · obtain rfl := Option.some.inj hstorage
        exact hs.distinct
      · exact ih key storage hstorage
  exact fun e he => hvalues e.1 e.2 (h.distinct.get?_eq_some_iff.2 he)

/-- The configurations give the same storages under the same keys. -/
def Same (a b : SystemConfig) : Prop :=
  ∀ key, Option.Rel StorageConfig.Same (a.storage.get? key) (b.storage.get? key)

/-- The computed comparison decides whether configurations are the same. -/
theorem same_iff : a.same b = true ↔ a.Same b := by
  unfold same Same
  simp only [List.all_eq_true, List.mem_append, Dictionary.mem_keys_iff]
  refine forall_congr' fun key => ?_
  cases a.storage.get? key with
  | none =>
    cases b.storage.get? key with
    | none => simp
    | some y => simp
  | some x =>
    cases b.storage.get? key with
    | none => simp
    | some y => simp [StorageConfig.same_iff]

/-- The text is the configuration as JSON, with the members of its objects in any order. -/
def WrittenAs (c : SystemConfig) (text : String) : Prop :=
  ∃ members storage, List.Forall₂ (fun m e => m.1 = e.1 ∧ e.2.WrittenAs m.2) members
      c.storage.entries ∧
    Written members storage ∧ Written [("storage", storage)] text

/-- A configuration's text is one of the texts that it is written as. -/
theorem writtenAs_toJson (c : SystemConfig) : c.WrittenAs c.toJson := by
  refine ⟨_, _, ?_, written_writeObject _, written_writeObject _⟩
  rw [List.forall₂_map_left_iff, List.forall₂_same]
  exact fun e _ => ⟨rfl, e.2.writtenAs_toJson⟩

/-- A written configuration is read back. -/
theorem reads_of_writtenAs (hc : c.Built) {text : String} (h : c.WrittenAs text) :
    ∃ back, Reads read (Utf8.encode text) back ∧ back.Same c := by
  obtain ⟨members, storageText, hmembers, hstorage, order, horder, rfl⟩ := h
  have hvalues : List.Forall₂ (fun m e => m.1 = e.1 ∧ ∃ storage,
      Reads StorageConfig.read (Utf8.encode m.2) storage ∧ storage.Same e.2)
        members c.storage.entries := by
    have hboth := (List.forall₂_and_left _ _).2 ⟨hc.distinct_options, hmembers.flip⟩
    refine hboth.flip.imp fun m e h => ?_
    obtain ⟨hdistinct, hkey, hwritten⟩ := h
    exact ⟨hkey, StorageConfig.reads_of_writtenAs hdistinct hwritten⟩
  obtain ⟨storage, hread, hsame⟩ := reads_dictionary_of_written hc.distinct hvalues hstorage
  obtain rfl := List.perm_singleton.1 horder
  refine ⟨⟨storage⟩, reads_record fun rest => ?_, hsame⟩
  rw [allMembers_objectOctets (.cons (reads_once hread _) (.nil _))]
  rfl

/-- A configuration that is built step by step is read back from its JSON text, whatever characters
its texts have and in whatever order the members of its objects are written. -/
theorem ofJson_of_writtenAs (hc : c.Built) :
    c.WrittenAs c.toJson ∧ ∀ text, c.WrittenAs text →
      ∃ back, ofJson text = .ok back ∧ back.same c = true := by
  refine ⟨c.writtenAs_toJson, fun text h => ?_⟩
  obtain ⟨back, hread, hsame⟩ := reads_of_writtenAs hc h
  refine ⟨back, ?_, same_iff.2 hsame⟩
  rw [ofJson, decode_of_reads hread]

/-- Quotes, backslashes, controls and characters beyond ASCII, with the type behind the options. -/
theorem ofJson_of_writtenAs_escaped :
    ∃ back,
      ofJson ("\x7b\"storage\":\x7b\"p\\\"\\\\\":\x7b\"storage_config\":" ++
        "\x7b\"\\u0001\":\"é😀\"\x7d,\"storage_type\":\"L\\n\"\x7d\x7d\x7d") = .ok back ∧
      back.same (({} : SystemConfig).withStorage "p\"\\"
        (({ storageType := "L\n" } : StorageConfig).withOption "\x01" "é😀")) = true := by
  have hbuilt : (({} : SystemConfig).withStorage "p\"\\"
      (({ storageType := "L\n" } : StorageConfig).withOption "\x01" "é😀")).Built :=
    .withStorage .new (.withOption (.new "L\n") "\x01" "é😀") "p\"\\"
  refine (ofJson_of_writtenAs hbuilt).2 _ ⟨[("p\"\\", _)], _, .cons ⟨rfl, _, written_writeObject _,
    [("storage_config", _), ("storage_type", _)], .swap .., rfl⟩ .nil, written_writeObject _,
    [("storage", _)], .refl _, ?_⟩
  decide

end SystemConfig

end RootedStorage

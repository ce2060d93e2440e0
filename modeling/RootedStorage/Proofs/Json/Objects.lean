import RootedStorage.Proofs.Json.Strings

/-!
# Written objects are read back

An object is read member by member, and what its members come to is the state that the reader of
members has at the closing brace (`Takes`).  A dictionary puts its members one after the other, and
a record collects them, so written dictionaries and records are read back if their values are.
-/

namespace RootedStorage.Json

variable {α σ : Type}

/-! ## What is written -/

/-- The octets of a member. -/
def memberOctets (m : String × String) : Bytes :=
  Utf8.encode (writeString m.1) ++ 58 :: Utf8.encode m.2

/-- The octets of members behind the first one. -/
def tailOctets (ms : List (String × String)) : Bytes := ms.flatMap fun m => 44 :: memberOctets m

/-- The octets of members. -/
def objectOctets : List (String × String) → Bytes
  | [] => []
  | m :: ms => memberOctets m ++ tailOctets ms

/-- An object is written as its members between braces. -/
theorem encode_writeObject (ms : List (String × String)) :
    Utf8.encode (writeObject ms) = 123 :: (objectOctets ms ++ [125]) := by
  have hmember : ∀ m : String × String,
      Utf8.encode (writeString m.1 ++ ":" ++ m.2) = memberOctets m := by
    intro m
    rw [Utf8.encode_append, Utf8.encode_append, List.append_assoc]
    rfl
  have hmembers : Utf8.encode (String.intercalate "," (ms.map fun m =>
      writeString m.1 ++ ":" ++ m.2)) = objectOctets ms := by
    induction ms with
    | nil => rfl
    | cons m ms ih =>
      cases ms with
      | nil =>
        rw [List.map_singleton, String.intercalate_singleton, hmember]
        exact (List.append_nil _).symm
      | cons next ms =>
        rw [List.map_cons] at ih ⊢
        rw [List.map_cons, String.intercalate_cons_cons, Utf8.encode_append, Utf8.encode_append,
          hmember, ih, List.append_assoc]
        rfl
  rw [writeObject, Utf8.encode_append, Utf8.encode_append, hmembers]
  rfl

/-- Every member takes an octet at least. -/
theorem length_le_length_tailOctets (ms : List (String × String)) :
    ms.length ≤ (tailOctets ms).length := by
  induction ms with
  | nil => exact Nat.le_refl _
  | cons m ms ih =>
    simp only [tailOctets, List.flatMap_cons, List.length_append, List.length_cons] at ih ⊢
    omega

/-! ## Members -/

/-- The reader takes the octets off the front of a text in which an object goes on or ends behind them,
and gives the value.  Some values, such as numbers, end only where something else begins. -/
def ReadsMember (read : Reader α) (octets : Bytes) (a : α) : Prop :=
  ∀ b rest, b = 44 ∨ b = 125 → read (octets ++ b :: rest) = .value a (b :: rest)

/-- What reads a value wherever it stands reads it in an object. -/
theorem Reads.member {read : Reader α} {octets : Bytes} {a : α} (h : Reads read octets a) :
    ReadsMember read octets a :=
  fun b rest _ => h (b :: rest)

/-- From one state to the other the reader of members takes the given members, each of them in front of
the next one or of the closing brace. -/
inductive Collects (member : σ → String → Reader σ) : σ → List (String × String) → σ → Prop where
  | nil (state : σ) : Collects member state [] state
  | cons {state next last : σ} {m : String × String} {ms : List (String × String)} :
    ReadsMember (member state m.1) (58 :: Utf8.encode m.2) next → Collects member next ms last →
      Collects member state (m :: ms) last

/-- From one state to the other the reader of members takes the given members. -/
inductive Takes (member : σ → String → Reader σ) : σ → List (String × String) → σ → Prop where
  | nil (state : σ) : Takes member state [] state
  | cons {state next last : σ} {m : String × String} {ms : List (String × String)} :
    Reads (member state m.1) (58 :: Utf8.encode m.2) next → Takes member next ms last →
      Takes member state (m :: ms) last

variable {member : σ → String → Reader σ} {state next last : σ} {m : String × String}
  {ms : List (String × String)}

/-- Members that are taken one by one are collected. -/
theorem Takes.collects (h : Takes member state ms last) : Collects member state ms last := by
  induction h with
  | nil state => exact .nil state
  | cons hvalue _ ih => exact .cons hvalue.member ih

/-- One member is taken behind its key. -/
theorem members_of_key {first : Bool} {fuel : Nat} {s : Bytes} {rest : Bytes}
    (hkey : nextKey first s = .value true (memberOctets m ++ rest))
    (hvalue : member state m.1 (58 :: Utf8.encode m.2 ++ rest) = .value next rest) :
    members member (fuel + 1) first state s = members member fuel false next rest := by
  have hoctets : (memberOctets m ++ rest).drop 1 =
      bodyOctets m.1 ++ [34] ++ (58 :: Utf8.encode m.2 ++ rest) := by
    simp [memberOctets, encode_writeString]
  rw [members, hkey]
  simp only [Step.andThen, Bool.not_true, Bool.false_eq_true, if_false]
  rw [hoctets, reads_stringBody m.1]
  simp only [hvalue]

/-- Behind a member stands a comma or the brace. -/
theorem exists_tailOctets_eq_cons (ms : List (String × String)) (rest : Bytes) :
    ∃ b left, tailOctets ms ++ 125 :: rest = b :: left ∧ (b = 44 ∨ b = 125) := by
  cases ms with
  | nil => exact ⟨125, rest, rfl, Or.inr rfl⟩
  | cons m ms => exact ⟨44, _, rfl, Or.inl rfl⟩

/-- A member's value is read in front of the members behind it. -/
theorem ReadsMember.before_tail {read : Reader α} {octets : Bytes} {a : α}
    (h : ReadsMember read octets a) (ms : List (String × String)) (rest : Bytes) :
    read (octets ++ (tailOctets ms ++ 125 :: rest)) = .value a (tailOctets ms ++ 125 :: rest) := by
  obtain ⟨b, left, htail, hb⟩ := exists_tailOctets_eq_cons ms rest
  rw [htail]
  exact h b left hb

/-- The members behind the first one are taken up to the brace. -/
theorem members_tailOctets (h : Collects member state ms last) {fuel : Nat}
    (hfuel : ms.length < fuel) (rest : Bytes) :
    members member fuel false state (tailOctets ms ++ 125 :: rest) = .value last (125 :: rest) := by
  induction h generalizing fuel with
  | nil state =>
    obtain ⟨left, rfl⟩ : ∃ left, fuel = left + 1 := ⟨fuel - 1, by omega⟩
    rfl
  | @cons state next last m ms hvalue _ ih =>
    obtain ⟨left, rfl⟩ : ∃ left, fuel = left + 1 := ⟨fuel - 1, by omega⟩
    rw [List.length_cons] at hfuel
    have hkey : nextKey false (tailOctets (m :: ms) ++ 125 :: rest) =
        .value true (memberOctets m ++ (tailOctets ms ++ 125 :: rest)) := by
      have htail : tailOctets (m :: ms) = 44 :: memberOctets m ++ tailOctets ms := rfl
      rw [htail, List.append_assoc, memberOctets, encode_writeString]
      rfl
    rw [members_of_key hkey (hvalue.before_tail ms rest), ih (by omega)]

/-- All members of an object are collected up to the brace. -/
theorem allMembers_of_collects (h : Collects member state ms last) (rest : Bytes) :
    allMembers member state (objectOctets ms ++ 125 :: rest) = .value last (125 :: rest) := by
  cases h with
  | nil => rfl
  | @cons _ next _ m ms hvalue htail =>
    have hkey : nextKey true (objectOctets (m :: ms) ++ 125 :: rest) =
        .value true (memberOctets m ++ (tailOctets ms ++ 125 :: rest)) := by
      rw [objectOctets, List.append_assoc, memberOctets, encode_writeString]
      rfl
    have hlength := length_le_length_tailOctets ms
    rw [allMembers, members_of_key hkey (hvalue.before_tail ms rest), members_tailOctets htail]
    simp only [objectOctets, List.length_append, List.length_cons]
    omega

/-- All members of an object are taken up to the brace. -/
theorem allMembers_objectOctets (h : Takes member state ms last) (rest : Bytes) :
    allMembers member state (objectOctets ms ++ 125 :: rest) = .value last (125 :: rest) :=
  allMembers_of_collects h.collects rest

/-! ## Values -/

/-- A member's value stands behind a colon. -/
theorem reads_memberValue {read : Reader α} {octets : Bytes} {a : α} (h : Reads read octets a) :
    Reads (memberValue read) (58 :: octets) a := h

/-- A value that is read may be put in other words. -/
theorem Reads.map {β : Type} {read : Reader α} {octets : Bytes} {a : α} (h : Reads read octets a)
    (f : α → β) : Reads (fun s => (read s).map f) octets (f a) := by
  intro rest
  simp only [h rest, Step.map, Step.andThen]

/-- A member that has not stood yet is read. -/
theorem reads_once {name : String} {read : Reader α} {octets : Bytes} {a : α}
    (h : Reads read octets a) (set : α → σ) :
    Reads (once name none read set) (58 :: octets) (set a) :=
  (reads_memberValue h).map set

/-- A member's value that is read may be put in other words. -/
theorem ReadsMember.map {β : Type} {read : Reader α} {octets : Bytes} {a : α}
    (h : ReadsMember read octets a) (f : α → β) :
    ReadsMember (fun s => (read s).map f) octets (f a) := by
  intro b rest hb
  simp only [h b rest hb, Step.map, Step.andThen]

/-- A member that was not there before is read and set. -/
theorem readsMember_once {name : String} {read : Reader α} {octets : Bytes} {a : α}
    (h : ReadsMember read octets a) (set : α → σ) :
    ReadsMember (once name none read set) (58 :: octets) (set a) := by
  have hvalue : ReadsMember (memberValue read) (58 :: octets) a := h
  exact hvalue.map set

/-- A written dictionary is read back if its values are. -/
theorem reads_dictionary {read : Reader α} {entries : List (String × α)}
    (h : List.Forall₂ (fun m e => m.1 = e.1 ∧ Reads read (Utf8.encode m.2) e.2) ms entries) :
    Reads (dictionary read) (Utf8.encode (writeObject ms)) (Dictionary.ofList entries) := by
  have htakes : ∀ d : Dictionary α,
      Takes (fun (d : Dictionary α) key s => (memberValue read s).map fun value => d.put key value)
        d ms (entries.foldl (fun d e => d.put e.1 e.2) d) := by
    intro d
    induction h generalizing d with
    | nil => exact .nil d
    | @cons m e _ _ hm _ ih =>
      obtain ⟨hkey, hread⟩ := hm
      refine .cons ?_ (ih (d.put e.1 e.2))
      rw [hkey]
      exact (reads_memberValue hread).map _
  intro rest
  have hmembers := allMembers_objectOctets (htakes .empty) rest
  rw [encode_writeObject, List.cons_append, List.append_assoc, dictionary,
    skip_of_not_isSpace (by decide)]
  simp only [if_true, List.singleton_append, hmembers]
  rfl

/-- A record is read from an object if its members give it. -/
theorem reads_record {wanted : String} {ofObject ofList : Reader α} {a : α}
    (h : ∀ rest, ofObject (objectOctets ms ++ 125 :: rest) = .value a (125 :: rest)) :
    Reads (record wanted ofObject ofList) (Utf8.encode (writeObject ms)) a := by
  intro rest
  rw [encode_writeObject, List.cons_append, List.append_assoc, record,
    skip_of_not_isSpace (by decide)]
  simp only [if_neg (by decide : ¬ (123 : UInt8) = 91), if_true, List.singleton_append, h rest]
  rfl

/-- A text with nothing behind the value is decoded as it. -/
theorem decode_of_reads {read : Reader α} {text : String} {a : α}
    (h : Reads read (Utf8.encode text) a) : decode read text = .ok a := by
  have hread := h []
  rw [List.append_nil] at hread
  simp [decode, hread, Step.andThen, skip]

end RootedStorage.Json

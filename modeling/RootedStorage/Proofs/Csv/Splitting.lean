import RootedStorage.Proofs.Csv.Encoding

/-!
# Quotes inside characters

The reader takes quotes and escapes off before the fields are decoded.  A quote between two octets of
one character is therefore never noticed: the fields are texts, though the content is none.
`Dialect.Splits` is that pattern, and content without it is a text if its fields are
(`isValid_of_decode`).  The proof follows the reader octet by octet: whatever completes the field that
it holds to a text completes what it has seen to one (`Scan.Follows`).
-/

namespace RootedStorage

namespace Csv

/-! ## Octets that leave the fields -/

/-- The octet quotes or escapes. -/
def Dialect.Guards (d : Dialect) (b : UInt8) : Prop := b = d.quote ∨ d.escape = some b

/-- A quote or an escape stands right before an octet that continues a character. -/
def Dialect.Splits (d : Dialect) (bytes : Bytes) : Prop :=
  ∃ before a b after, bytes = before ++ a :: b :: after ∧ d.Guards a ∧ Utf8.isContinuation b = true

/-- Content splits a character if a part of it does. -/
theorem Dialect.Splits.append {d : Dialect} {bytes : Bytes} (h : d.Splits bytes)
    (front back : Bytes) : d.Splits (front ++ bytes ++ back) := by
  obtain ⟨before, a, b, after, rfl, ha, hb⟩ := h
  exact ⟨front ++ before, a, b, after ++ back, by simp, ha, hb⟩

/-- An octet that guards in a dialect read from options is ASCII. -/
theorem lt_of_guards {options : FormatOptions} {o : Options}
    (h : Options.ofFormatOptions options = .ok o) {b : UInt8} (hb : o.dialect.Guards b) :
    b.toNat < 128 := by
  rcases hb with rfl | hescape
  · exact (ascii_of_ofFormatOptions h).quote
  · simp only [Options.ofFormatOptions, bind_eq_ok_iff] at h
    obtain ⟨delimiter, -, header, -, quote, -, escape, hread, batchSize, -, inferRows, -, ho⟩ := h
    cases ho
    obtain rfl : escape = some b := hescape
    exact OptionValue.lt_of_readByte hread

/-! ## One octet -/

namespace Scan

/-- What an octet can do to the reader. -/
inductive Move (d : Dialect) (s : Scan) (b : UInt8) : Scan → Prop where
  | skip : s.position = .recordStart → isTerminator b = true → Move d s b s
  | openQuote : s.position = .recordStart ∨ s.position = .fieldStart → b = d.quote →
    Move d s b { s with position := .quoted }
  | take (position : Position) : position = .bare ∨ position = .quoted →
    Move d s b (s.take position b)
  | endField : b = d.delimiter → Move d s b s.endField
  | endRecord : isTerminator b = true → Move d s b s.endRecord
  | closeQuote : s.position = .quoted → b = d.quote → Move d s b { s with position := .quoteSeen }
  | escape : s.position = .quoted → d.escape = some b → Move d s b { s with position := .escaped }

variable {d : Dialect} {s s' : Scan} {b : UInt8}

/-- A step outside quotes is a move. -/
theorem move_stepBare (d : Dialect) (s : Scan) (b : UInt8) : Move d s b (s.stepBare d b) := by
  unfold stepBare
  split
  · next hb => exact .endField hb
  · split
    · next hb => exact .endRecord hb
    · exact .take .bare (Or.inl rfl)

/-- A step at the start of a field is a move. -/
theorem move_stepFieldStart (b : UInt8)
    (hs : s.position = .recordStart ∨ s.position = .fieldStart) :
    Move d s b (s.stepFieldStart d b) := by
  unfold stepFieldStart
  split
  · next hb => exact .openQuote hs hb
  · exact move_stepBare d s b

/-- Every step is a move. -/
theorem move_step (d : Dialect) (s : Scan) (b : UInt8) : Move d s b (s.step d b) := by
  unfold step
  split
  · next hs =>
    split
    · next hb => exact .skip hs hb
    · exact move_stepFieldStart b (Or.inl hs)
  · next hs => exact move_stepFieldStart b (Or.inr hs)
  · exact move_stepBare d s b
  · next hs =>
    split
    · next hb => exact .closeQuote hs hb
    · split
      · next hb => exact .escape hs hb
      · exact .take .quoted (Or.inr rfl)
  · exact .take .quoted (Or.inr rfl)
  · split
    · exact .take .quoted (Or.inr rfl)
    · exact move_stepBare d s b

/-! ## Fields that are complete -/

/-- The fields that the reader has completed. -/
def fields (s : Scan) : List FieldText := s.record ++ s.records.flatten

/-- In front of a record no field is held back. -/
def Clean (s : Scan) : Prop := s.position = .recordStart → s.record = []

/-- A move keeps a scan clean. -/
theorem Move.clean (h : Move d s b s') (hs : s.Clean) : s'.Clean := by
  cases h with
  | skip => exact hs
  | endRecord => exact fun _ => rfl
  | take position hp =>
    rintro rfl
    rcases hp with hp | hp <;> cases hp
  | openQuote | endField | closeQuote | escape => exact fun hp => by cases hp

/-- The fields at the end of a record are those before and the one that was open. -/
theorem mem_fields_endRecord {f : FieldText} :
    f ∈ s.endRecord.fields ↔ f = s.field.reverse ∨ f ∈ s.fields := by
  simp [fields, endRecord]
  tauto

/-- A move gives up no field. -/
theorem Move.fields_subset (h : Move d s b s') : s.fields ⊆ s'.fields := by
  cases h with
  | skip | openQuote | take | closeQuote | escape => exact fun _ => id
  | endField => exact fun f hf => List.mem_cons_of_mem _ hf
  | endRecord => exact fun f hf => mem_fields_endRecord.2 (Or.inr hf)

/-- The field that the reader holds is complete when no octet is left. -/
theorem mem_finish_iff (hs : s.position ≠ .recordStart) {f : FieldText} :
    f ∈ s.finish.flatten ↔ f = s.field.reverse ∨ f ∈ s.fields := by
  rw [finish, if_neg hs]
  simp [fields, endRecord, or_comm]
  rw [or_assoc]

/-- Every field of a clean scan is among those at its end. -/
theorem mem_finish_of_mem_fields (hs : s.Clean) {f : FieldText} (hf : f ∈ s.fields) :
    f ∈ s.finish.flatten := by
  by_cases hstart : s.position = .recordStart
  · rw [fields, hs hstart] at hf
    rw [finish, if_pos hstart]
    simpa using hf
  · exact (mem_finish_iff hstart).2 (Or.inr hf)

/-- A completed field is among the fields of the text. -/
theorem mem_finish_foldl (bytes : Bytes) (hs : s.Clean) {f : FieldText} (hf : f ∈ s.fields) :
    f ∈ (bytes.foldl (step d) s).finish.flatten := by
  induction bytes generalizing s with
  | nil => exact mem_finish_of_mem_fields hs hf
  | cons b bytes ih =>
    have hmove := move_step d s b
    exact ih (hmove.clean hs) (hmove.fields_subset hf)

/-! ## Following the text -/

/-- The octet that comes next is taken into the field or closes it. -/
def Pending (s : Scan) : Prop := s.position = .quoteSeen ∨ s.position = .escaped

/-- The reader has seen the octets.  What completes the field to a text completes them to one, unless
it begins inside a character right behind a quote or an escape. -/
structure Follows (d : Dialect) (s : Scan) (seen : Bytes) : Prop where
  field_nil : s.position = .recordStart ∨ s.position = .fieldStart → s.field = []
  complete : ∀ rest, (s.Pending → Utf8.AtBoundary rest) →
    Utf8.isValid (s.field.reverse ++ rest) = true → Utf8.isValid (seen ++ rest) = true
  guard : s.Pending → ∃ before a, seen = before ++ [a] ∧ d.Guards a

/-- At the start a scan follows the empty content. -/
theorem follows_nil (d : Dialect) : Follows d {} [] where
  field_nil := fun _ => rfl
  complete := fun _ _ => id
  guard := by
    rintro (hs | hs) <;> cases hs

section
variable {seen : Bytes} (h : Follows d s seen) (hsplit : ¬ d.Splits (seen ++ [b]))
include h hsplit

/-- The field may be completed by what begins with the next octet. -/
theorem Follows.complete_cons {rest : Bytes}
    (hvalid : Utf8.isValid (s.field.reverse ++ b :: rest) = true) :
    Utf8.isValid (seen ++ [b] ++ rest) = true := by
  rw [List.append_assoc]
  refine h.complete (b :: rest) (fun hpending => ?_) hvalid
  obtain ⟨before, a, rfl, ha⟩ := h.guard hpending
  rw [Utf8.atBoundary_cons]
  cases hb : Utf8.isContinuation b with
  | false => rfl
  | true => exact absurd ⟨before, a, b, [], by simp, ha, hb⟩ hsplit

/-- An octet of ASCII behind a complete field may be followed by a text. -/
theorem Follows.complete_ascii (hb : b.toNat < 128)
    (hfield : Utf8.isValid s.field.reverse = true) {rest : Bytes}
    (hrest : Utf8.isValid rest = true) : Utf8.isValid (seen ++ [b] ++ rest) = true := by
  refine h.complete_cons hsplit ?_
  exact Utf8.isValid_append hfield (Utf8.isValid_append (Utf8.isValid_singleton hb) hrest)

/-- A quote or an escape that is left out of the field. -/
theorem Follows.guarded (hascii : ∀ a, d.Guards a → a.toNat < 128) (hb : d.Guards b)
    {position : Position} (hp : position = .quoteSeen ∨ position = .escaped) :
    Follows d { s with position } (seen ++ [b]) where
  field_nil := by
    rcases hp with rfl | rfl <;> rintro (hs | hs) <;> cases hs
  complete := by
    intro rest hboundary hvalid
    obtain ⟨hfield, hrest⟩ := Utf8.isValid_of_append hvalid (hboundary hp)
    exact h.complete_ascii hsplit (hascii b hb) hfield hrest
  guard := fun _ => ⟨seen, b, rfl, hb⟩

/-- Behind an octet of ASCII a new field begins. -/
theorem Follows.restart (hb : b.toNat < 128) (hfield : Utf8.isValid s.field.reverse = true)
    (hnil : s'.field = []) (hs' : ¬ s'.Pending) : Follows d s' (seen ++ [b]) where
  field_nil := fun _ => hnil
  complete := by
    intro rest _ hvalid
    rw [hnil] at hvalid
    exact h.complete_ascii hsplit hb hfield hvalid
  guard := fun hpending => absurd hpending hs'

end

variable (hascii : ∀ a, a = d.delimiter ∨ d.Guards a → a.toNat < 128)
include hascii

/-- One octet keeps the reader behind the text, if every field that it completes is a text. -/
theorem Follows.move {seen : Bytes} (h : Follows d s seen) (hsplit : ¬ d.Splits (seen ++ [b]))
    (hmove : Move d s b s') (hfields : ∀ f ∈ s'.fields, Utf8.isValid f = true) :
    Follows d s' (seen ++ [b]) := by
  have hempty : s.position = .recordStart ∨ s.position = .fieldStart →
      Utf8.isValid s.field.reverse = true := by
    intro hs
    rw [h.field_nil hs]
    exact Utf8.isValid_nil
  cases hmove with
  | skip hs hb =>
    refine h.restart hsplit (lt_of_isTerminator hb) (hempty (Or.inl hs)) (h.field_nil (Or.inl hs)) ?_
    rintro (hp | hp) <;> rw [hs] at hp <;> cases hp
  | openQuote hs hb =>
    refine h.restart hsplit (hascii b (Or.inr (Or.inl hb))) (hempty hs) (h.field_nil hs) ?_
    rintro (hp | hp) <;> cases hp
  | take position hp =>
    exact
      { field_nil := by
          rcases hp with rfl | rfl <;> rintro (hs | hs) <;> cases hs
        complete := by
          intro rest _ hvalid
          refine h.complete_cons hsplit ?_
          simpa [Scan.take] using hvalid
        guard := by
          rcases hp with rfl | rfl <;> rintro (hs | hs) <;> cases hs }
  | endField hb =>
    have hfield := hfields _ List.mem_cons_self
    refine h.restart hsplit (hascii b (Or.inl hb)) hfield rfl ?_
    rintro (hp | hp) <;> cases hp
  | endRecord hb =>
    have hfield := hfields _ (mem_fields_endRecord.2 (Or.inl rfl))
    refine h.restart hsplit (lt_of_isTerminator hb) hfield rfl ?_
    rintro (hp | hp) <;> cases hp
  | closeQuote hs hb =>
    exact h.guarded hsplit (fun a ha => hascii a (Or.inr ha)) (Or.inl hb) (Or.inl rfl)
  | escape hs hb =>
    exact h.guarded hsplit (fun a ha => hascii a (Or.inr ha)) (Or.inr hb) (Or.inr rfl)

/-- The reader follows a whole text whose fields are texts. -/
theorem Follows.foldl (bytes : Bytes) {seen : Bytes} (h : Follows d s seen) (hs : s.Clean)
    (hsplit : ¬ d.Splits (seen ++ bytes))
    (hfields : ∀ f ∈ (bytes.foldl (step d) s).finish.flatten, Utf8.isValid f = true) :
    Follows d (bytes.foldl (step d) s) (seen ++ bytes) := by
  induction bytes generalizing s seen with
  | nil => simpa using h
  | cons b bytes ih =>
    have hmove := move_step d s b
    have hfirst : ¬ d.Splits (seen ++ [b]) := by
      intro hx
      have hwhole := hx.append [] bytes
      simp only [List.nil_append, List.append_assoc, List.cons_append] at hwhole
      exact hsplit hwhole
    have hnext := h.move hascii hfirst hmove fun f hf =>
      hfields f (mem_finish_foldl bytes (hmove.clean hs) hf)
    have hrest := ih hnext (hmove.clean hs) (by simpa using hsplit) hfields
    simpa using hrest

omit hascii

/-- Content that a scan follows is valid if all its fields are. -/
theorem Follows.isValid {seen : Bytes} (h : Follows d s seen)
    (hfields : ∀ f ∈ s.finish.flatten, Utf8.isValid f = true) : Utf8.isValid seen = true := by
  have hfield : Utf8.isValid s.field.reverse = true := by
    by_cases hs : s.position = .recordStart
    · rw [h.field_nil (Or.inl hs)]
      exact Utf8.isValid_nil
    · exact hfields _ ((mem_finish_iff hs).2 (Or.inl rfl))
  have hseen := h.complete [] (fun _ => Utf8.atBoundary_nil) (by simpa using hfield)
  simpa using hseen

end Scan

/-! ## Whole content -/

/-- The mark that may be dropped is a text. -/
theorem exists_mark (bytes : Bytes) :
    ∃ mark, bytes = mark ++ dropByteOrderMark bytes ∧ Utf8.isValid mark = true := by
  unfold dropByteOrderMark
  split
  · exact ⟨[0xEF, 0xBB, 0xBF], rfl, Utf8.isValid_iff.2 ⟨"\uFEFF", by decide⟩⟩
  · exact ⟨[], rfl, Utf8.isValid_nil⟩

/-- Content is a text if its fields are and no character has a quote or an escape inside. -/
theorem isValid_of_records {d : Dialect} (hascii : ∀ a, a = d.delimiter ∨ d.Guards a → a.toNat < 128)
    {bytes : Bytes} (hsplit : ¬ d.Splits bytes)
    (hfields : ∀ f ∈ (records d bytes).flatten, Utf8.isValid f = true) :
    Utf8.isValid bytes = true := by
  obtain ⟨mark, hbytes, hmark⟩ := exists_mark bytes
  rw [hbytes] at hsplit ⊢
  refine Utf8.isValid_append hmark ?_
  have hrest : ¬ d.Splits ([] ++ dropByteOrderMark bytes) := by
    intro hx
    have hwhole := hx.append mark []
    simp only [List.nil_append, List.append_nil] at hwhole
    exact hsplit hwhole
  have hfollows := (Scan.follows_nil d).foldl hascii _ (fun _ => rfl) hrest hfields
  exact hfollows.isValid hfields

/-- The types of the columns are inferred from all records only if every field is a text. -/
theorem isValid_of_inferFields {o : Options} {all : List Record} {inferred : List Field}
    (hrows : o.inferRows = none) (h : inferFields o all = some inferred) :
    ∀ f ∈ all.flatten, Utf8.isValid f = true := by
  have hrecord : ∀ {r : Record} {texts : List String}, recordTexts r = some texts →
      ∀ f ∈ r, Utf8.isValid f = true := by
    intro r texts hr f hf
    obtain ⟨text, -, htext⟩ := exists_of_mem_left (forall₂_of_mapM_eq_some hr) f hf
    rw [Utf8.isValid, htext]
    rfl
  have hfirst : ∀ r ∈ all, r = all.headD [] ∨ r ∈ if o.header then all.drop 1 else all := by
    intro r hr
    cases all with
    | nil => cases hr
    | cons first rest =>
      split
      · exact List.mem_cons.1 hr
      · exact Or.inr hr
  unfold inferFields at h
  simp only [sampled, hrows] at h
  generalize (if o.header = true then all.drop 1 else all) = rows at h hfirst
  obtain ⟨head, hhead, h⟩ := Option.bind_eq_some_iff.1 h
  split at h
  · obtain ⟨texts, htexts, -⟩ := Option.bind_eq_some_iff.1 h
    intro f hf
    obtain ⟨r, hr, hfr⟩ := List.mem_flatten.1 hf
    rcases hfirst r hr with rfl | hmem
    · exact hrecord hhead f hfr
    · obtain ⟨text, -, htext⟩ := exists_of_mem_left (forall₂_of_mapM_eq_some htexts) r hmem
      exact hrecord htext f hfr
  · cases h

/-- Content that is read as a table, with the types inferred from all of it, is a text unless a quote
or an escape stands inside a character. -/
theorem isValid_of_decode {bytes : Bytes} {schema : TableSchema} {options : FormatOptions}
    {o : Options} (ho : Options.ofFormatOptions options = .ok o) (hrows : o.inferRows = none)
    (hsplit : ¬ o.dialect.Splits bytes) {t : Batch} (h : decode bytes schema options = .ok t) :
    Utf8.isValid bytes = true := by
  have hascii : ∀ a, a = o.dialect.delimiter ∨ o.dialect.Guards a → a.toNat < 128 := by
    rintro a (rfl | ha)
    · exact (ascii_of_ofFormatOptions ho).delimiter
    · exact lt_of_guards ho ha
  by_cases hempty : bytes = []
  · rw [hempty]
    exact Utf8.isValid_nil
  · simp only [decode, ho, bind_eq_ok_iff] at h
    obtain ⟨o', ho', h⟩ := h
    obtain rfl := Except.ok.inj ho'
    rw [if_neg (by simpa using hempty)] at h
    cases hinfer : inferFields o (records o.dialect bytes) with
    | none =>
      simp [decodeWith, hinfer] at h
    | some inferred =>
      exact isValid_of_records hascii hsplit (isValid_of_inferFields hrows hinfer)

end Csv

end RootedStorage

import Mathlib.Algebra.Group.Nat.Defs
import Mathlib.Tactic.Common
import RootedStorage.Format.OptionValue
import RootedStorage.Proofs.Text.Trimmed
import RootedStorage.Proofs.Text.Utf8

/-!
# The grammars of option values

What the texts of options stand for is said here without the functions that read them: single octets
(`DenotesOctet`), truth values (`DenotesFlag`) and whole numbers of 64 bits (`DenotesSize`).  Reading an
option follows its rule (`Reads`): it gives what the text under the key stands for, nothing if the key is
absent, and the rule's error if the text stands for nothing.
-/

namespace RootedStorage.OptionValue

/-! ## What texts stand for -/

/-- A tab is spelled in two ways, and every other octet is the one character of ASCII that the text
consists of. -/
inductive DenotesOctet : String → UInt8 → Prop where
  | escapedTab : DenotesOctet "\\t" 9
  | namedTab : DenotesOctet "tab" 9
  | character (c : Char) : c.toNat < 128 → DenotesOctet (String.singleton c) (UInt8.ofNat c.toNat)

/-- The words for truth values. -/
def flagWords : List (String × Bool) :=
  [("true", true), ("yes", true), ("1", true), ("false", false), ("no", false), ("0", false)]

/-- A truth value is one of six words, in either case and between white space. -/
def DenotesFlag (raw : String) (value : Bool) : Prop :=
  ∃ core, Text.Trims raw.toList core ∧
    ∃ word, (word, value) ∈ flagWords ∧ core.map Char.toLower = word.toList

/-- A run of digits of ASCII and its value, which is below 2 ^ 64. -/
structure IsSize (digits : List Char) (value : Nat) : Prop where
  ne_nil : digits ≠ []
  digit : ∀ c ∈ digits, '0' ≤ c ∧ c ≤ '9'
  value_eq : value = Nat.ofDigitChars 10 digits 0
  lt : value < 2 ^ 64

/-- A whole number is a run of digits, with a plus sign or without one and between white space. -/
def DenotesSize (raw : String) (value : Nat) : Prop :=
  ∃ core, Text.Trims raw.toList core ∧
    ∃ digits, (core = digits ∨ core = '+' :: digits) ∧ IsSize digits value

/-- The octet that is read from an option is the one that its text denotes. -/
theorem byte?_eq_some_iff {raw : String} {b : UInt8} : byte? raw = some b ↔ DenotesOctet raw b := by
  have hsingle : byte? raw = some b ↔
      Utf8.encode (if raw = "\\t" || raw = "tab" then "\t" else raw) = [b] := by
    unfold byte?
    split
    · next a hencode => rw [hencode, Option.some_inj, List.singleton_inj]
    · next hmore =>
      constructor
      · intro hnone
        cases hnone
      · intro hencode
        exact absurd hencode (hmore b)
  have htab : Utf8.encode "\t" = [9] := by decide
  rw [hsingle]
  constructor
  · intro h
    split at h
    · next hname =>
      rw [htab, List.singleton_inj] at h
      subst h
      rw [Bool.or_eq_true, decide_eq_true_iff, decide_eq_true_iff] at hname
      rcases hname with rfl | rfl
      · exact .escapedTab
      · exact .namedTab
    · obtain ⟨c, hascii, rfl, rfl⟩ := Utf8.encode_eq_singleton_iff.1 h
      exact .character c hascii
  · intro h
    cases h with
    | escapedTab => exact htab
    | namedTab => exact htab
    | character c hascii =>
      have hlength : ∀ name : String, name.length ≠ 1 → String.singleton c ≠ name := by
        rintro name hname rfl
        exact hname String.length_singleton
      rw [if_neg (by simp [hlength "\\t" (by decide), hlength "tab" (by decide)])]
      exact Utf8.encode_eq_singleton_iff.2 ⟨c, hascii, rfl, rfl⟩

/-- The flag that is read from a word is the one in the table of words. -/
theorem boolean?_eq_some_iff {word : String} {value : Bool} :
    boolean? word = some value ↔ (word, value) ∈ flagWords := by
  unfold boolean?
  by_cases htrue : word = "true" ∨ word = "yes" ∨ word = "1"
  · rw [if_pos (by simpa [or_assoc] using htrue)]
    rcases htrue with rfl | rfl | rfl <;> cases value <;> decide
  · rw [if_neg (by simpa [or_assoc] using htrue)]
    by_cases hfalse : word = "false" ∨ word = "no" ∨ word = "0"
    · rw [if_pos (by simpa [or_assoc] using hfalse)]
      rcases hfalse with rfl | rfl | rfl <;> cases value <;> decide
    · rw [if_neg (by simpa [or_assoc] using hfalse)]
      simp only [not_or] at htrue hfalse
      simp [flagWords, htrue, hfalse]

/-- A run of digits is a size if it is not empty and fits 64 bits. -/
theorem isSize_iff {digits : List Char} {value : Nat} :
    (if digits ≠ [] && digits.all Char.isDigit && digitsValue digits < Nat.pow 2 64 then
      some (digitsValue digits) else none) = some value ↔ IsSize digits value := by
  have hdigit : digits.all Char.isDigit = true ↔ ∀ c ∈ digits, '0' ≤ c ∧ c ≤ '9' := by
    rw [List.all_eq_true]
    exact forall₂_congr fun c _ => by
      rw [Char.isDigit, Bool.and_eq_true, decide_eq_true_iff, decide_eq_true_iff]
      rfl
  rw [Option.ite_none_right_eq_some, Bool.and_eq_true, Bool.and_eq_true, hdigit, Option.some_inj,
    decide_eq_true_iff, decide_eq_true_iff]
  constructor
  · rintro ⟨⟨⟨hsome, hall⟩, hlt⟩, rfl⟩
    exact ⟨hsome, hall, rfl, hlt⟩
  · rintro ⟨hsome, hall, rfl, hlt⟩
    exact ⟨⟨⟨hsome, hall⟩, hlt⟩, rfl⟩

/-- A size is read from digits with an optional plus sign. -/
theorem size?_eq_some_iff {core : List Char} {value : Nat} : size? core = some value ↔
    ∃ digits, (core = digits ∨ core = '+' :: digits) ∧ IsSize digits value := by
  unfold size?
  dsimp only
  rw [isSize_iff]
  split
  · next rest =>
    -- a plus sign is no digit
    constructor
    · intro h
      exact ⟨rest, .inr rfl, h⟩
    · rintro ⟨digits, rfl | hcore, h⟩
      · exact absurd (h.digit '+' List.mem_cons_self) (by decide)
      · obtain rfl := (List.cons.inj hcore).2
        exact h
  · next hunsigned =>
    constructor
    · intro h
      exact ⟨core, .inl rfl, h⟩
    · rintro ⟨digits, rfl | hcore, h⟩
      · exact h
      · exact absurd hcore (hunsigned digits)

/-- The size that is read from an option is the one that its text denotes. -/
theorem size?_trim_eq_some_iff {raw : String} {value : Nat} :
    size? (Text.trim raw.toList) = some value ↔ DenotesSize raw value := by
  simp only [DenotesSize, Text.trims_iff, exists_eq_left, size?_eq_some_iff]

/-- The word that a text is compared as. -/
def flagWord (raw : String) : String := String.ofList (Text.asciiLower (Text.trim raw.toList))

/-- The flag that is read from an option is the one that its text denotes. -/
theorem boolean?_flagWord_eq_some_iff {raw : String} {value : Bool} :
    boolean? (flagWord raw) = some value ↔ DenotesFlag raw value := by
  simp only [DenotesFlag, Text.trims_iff, exists_eq_left, boolean?_eq_some_iff]
  constructor
  · intro h
    exact ⟨_, h, (String.toList_ofList ..).symm⟩
  · rintro ⟨word, hword, hsame⟩
    rwa [flagWord, Text.asciiLower, hsame, String.ofList_toList]

/-! ## Reading an option -/

/-- What is asked of the text under a key, and how the error for a refused text is made. -/
structure Check where
  format : String
  key : String
  Admits : String → Prop
  shown : String → String
  asked : OptionRule

namespace Check

variable (c : Check) (options : FormatOptions)

/-- The error for a refused text.  It names the key. -/
def refusal (raw : String) : StorageError :=
  .config (.invalidOption (c.shown raw) c.format c.key c.asked)

/-- The key is absent, or its text is admitted. -/
def Passes : Prop := ∀ raw, options.get? c.key = some raw → c.Admits raw

/-- The key has this text, which is not admitted. -/
def Refuses (raw : String) : Prop := options.get? c.key = some raw ∧ ¬ c.Admits raw

/-- The error is that of the first check, in the order of the list, that refuses its text. -/
def FirstRefused (checks : List Check) (e : StorageError) : Prop :=
  ∃ before c after raw, checks = before ++ c :: after ∧ (∀ b ∈ before, b.Passes options) ∧
    c.Refuses options raw ∧ e = c.refusal raw

variable {c options}

/-- Options fail a check exactly if the check refuses a text among them. -/
theorem not_passes_iff : ¬ c.Passes options ↔ ∃ raw, c.Refuses options raw := by
  simp only [Passes, Refuses, not_forall, exists_prop]

/-- Without checks nothing is refused. -/
theorem firstRefused_nil {e : StorageError} : ¬ FirstRefused options [] e := by
  rintro ⟨before, c, after, raw, hnil, -⟩
  exact List.append_ne_nil_of_right_ne_nil before (List.cons_ne_nil c after) hnil.symm

/-- The first refusal is the first check's, or that of the others if the first check is passed. -/
theorem firstRefused_cons_iff {checks : List Check} {e : StorageError} :
    FirstRefused options (c :: checks) e ↔
      (∃ raw, c.Refuses options raw ∧ e = c.refusal raw) ∨
        (c.Passes options ∧ FirstRefused options checks e) := by
  constructor
  · rintro ⟨before, c', after, raw, hchecks, hbefore, hrefuses, he⟩
    cases before with
    | nil =>
      obtain ⟨rfl, rfl⟩ := List.cons.inj hchecks
      exact .inl ⟨raw, hrefuses, he⟩
    | cons b before =>
      obtain ⟨rfl, rfl⟩ := List.cons.inj hchecks
      obtain ⟨hfirst, hrest⟩ := List.forall_mem_cons.1 hbefore
      exact .inr ⟨hfirst, before, c', after, raw, rfl, hrest, hrefuses, he⟩
  · rintro (⟨raw, hrefuses, he⟩ | ⟨hpasses, before, c', after, raw, rfl, hbefore, hrefuses, he⟩)
    · exact ⟨[], c, checks, raw, rfl, by simp, hrefuses, he⟩
    · exact ⟨c :: before, c', after, raw, rfl, List.forall_mem_cons.2 ⟨hpasses, hbefore⟩,
        hrefuses, he⟩

/-- There is a first refused text unless every check is passed. -/
theorem exists_firstRefused_iff {checks : List Check} :
    (∃ e, FirstRefused options checks e) ↔ ¬ ∀ c ∈ checks, c.Passes options := by
  induction checks with
  | nil => simp [firstRefused_nil]
  | cons c checks ih =>
    simp only [firstRefused_cons_iff, exists_or, exists_and_left, ih, List.forall_mem_cons]
    by_cases hpasses : c.Passes options
    · have hnone : ¬ ∃ raw, c.Refuses options raw := fun h => not_passes_iff.2 h hpasses
      simp only [hpasses, true_and]
      refine or_iff_right ?_
      rintro ⟨e, raw, hraw, -⟩
      exact hnone ⟨raw, hraw⟩
    · obtain ⟨raw, hraw⟩ := not_passes_iff.1 hpasses
      simp only [hpasses, false_and, or_false, not_false_eq_true, iff_true]
      exact ⟨_, raw, hraw, rfl⟩

end Check

/-- How an option is read: a check, and what the admitted texts stand for. -/
structure Rule (α : Type) extends Check where
  Denotes : String → α → Prop
  admits_iff : ∀ raw, Admits raw ↔ ∃ a, Denotes raw a

namespace Rule

/-- The rule that admits the texts that stand for something. -/
def ofDenotes {α : Type} (format key : String) (Denotes : String → α → Prop)
    (shown : String → String) (asked : OptionRule) : Rule α where
  format := format
  key := key
  Admits raw := ∃ a, Denotes raw a
  shown := shown
  asked := asked
  Denotes := Denotes
  admits_iff _ := Iff.rfl

/-- A single octet. -/
def octet (format key : String) : Rule UInt8 := .ofDenotes format key DenotesOctet id .singleCharacter

/-- A truth value; a refused text is shown as it was compared. -/
def flag (format key : String) : Rule Bool := .ofDenotes format key DenotesFlag flagWord .boolean

/-- A whole number. -/
def size (format key : String) : Rule Nat := .ofDenotes format key DenotesSize id .value

variable {α : Type} (r : Rule α) (options : FormatOptions)

/-- The options give the value that the text under the key stands for, or none if the key is absent. -/
def Gives : Option α → Prop
  | none => options.get? r.key = none
  | some a => ∃ raw, options.get? r.key = some raw ∧ r.Denotes raw a

/-- The value is the one that the options give, or the default if they give none. -/
def Settles (default value : α) : Prop :=
  ∃ given, r.Gives options given ∧ value = given.getD default

/-- The result is the value that the options give, or the error for the refused text. -/
structure Reads (result : Outcome (Option α)) : Prop where
  ok_iff : ∀ value, result = .ok value ↔ r.Gives options value
  error_iff : ∀ e, result = .error e ↔ ∃ raw, r.Refuses options raw ∧ e = r.refusal raw

variable {r options}

/-- An option is absent, or its text is read, or it is refused. -/
theorem reads_of_cases {result : Outcome (Option α)}
    (habsent : options.get? r.key = none → result = .ok none)
    (hread : ∀ raw a, options.get? r.key = some raw → r.Denotes raw a → result = .ok (some a))
    (hrefused : ∀ raw, r.Refuses options raw → result = .error (r.refusal raw)) :
    r.Reads options result := by
  cases hkey : options.get? r.key with
  | none =>
    rw [habsent hkey]
    refine ⟨fun value => ?_, fun e => ?_⟩
    · cases value <;> simp [Gives, hkey]
    · simp [Check.Refuses, hkey]
  | some raw =>
    by_cases hadmits : r.Admits raw
    · obtain ⟨a, ha⟩ := (r.admits_iff raw).1 hadmits
      have hresult := hread raw a hkey ha
      refine ⟨fun value => ?_, fun e => ?_⟩
      · cases value with
        | none => simp [Gives, hkey, hresult]
        | some b =>
          constructor
          · intro hb
            rw [hresult, Except.ok.injEq, Option.some_inj] at hb
            exact ⟨raw, hkey, hb ▸ ha⟩
          · rintro ⟨raw', hraw', hb⟩
            exact hread raw' b hraw' hb
      · simp [Check.Refuses, hkey, hresult, hadmits]
    · have hresult := hrefused raw ⟨hkey, hadmits⟩
      have hnone : ∀ a, ¬ r.Denotes raw a := not_exists.1 (mt (r.admits_iff raw).2 hadmits)
      refine ⟨fun value => ?_, fun e => ?_⟩
      · cases value <;> simp [Gives, hkey, hresult, hnone]
      · simp [Check.Refuses, hkey, hresult, hadmits, eq_comm]

/-- What a check refuses is not read. -/
theorem Reads.passes_iff {result : Outcome (Option α)} (h : r.Reads options result) :
    r.Passes options ↔ ∃ value, result = .ok value := by
  cases result with
  | ok value =>
    refine iff_of_true ?_ ⟨value, rfl⟩
    by_contra hnot
    obtain ⟨raw, hraw⟩ := Check.not_passes_iff.1 hnot
    cases (h.error_iff _).2 ⟨raw, hraw, rfl⟩
  | error e =>
    obtain ⟨raw, hraw, -⟩ := (h.error_iff e).1 rfl
    refine iff_of_false (Check.not_passes_iff.2 ⟨raw, hraw⟩) ?_
    rintro ⟨value, hvalue⟩
    cases hvalue

/-- Reading goes on after an option that passes its check, and ends with the error of the first one
that does not. -/
theorem Reads.bind_error_iff {β : Type} {result : Outcome (Option α)}
    {rest : Option α → Outcome β} {checks : List Check} {e : StorageError}
    (h : r.Reads options result)
    (hrest : ∀ value, rest value = .error e ↔ Check.FirstRefused options checks e) :
    result >>= rest = .error e ↔ Check.FirstRefused options (r.toCheck :: checks) e := by
  rw [Check.firstRefused_cons_iff, h.passes_iff, ← h.error_iff e]
  cases result with
  | ok value => simpa [bind, Except.bind] using hrest value
  | error e' => simp [bind, Except.bind]

end Rule

variable {options options' : FormatOptions} {format key : String}

/-- An option is read by a grammar that says what its rule says. -/
theorem reads_read {α : Type} {r : Rule α} {grammar : String → Option α}
    (hgrammar : ∀ raw a, grammar raw = some a ↔ r.Denotes raw a) (hshown : r.shown = id) :
    r.Reads options (read options r.format r.key r.asked grammar) := by
  refine Rule.reads_of_cases (fun hkey => ?_) (fun raw a hkey ha => ?_) fun raw hraw => ?_
  · simp only [read, hkey]
  · simp only [read, hkey, (hgrammar raw a).2 ha]
  · have hnone : grammar raw = none := by
      refine Option.eq_none_iff_forall_ne_some.2 fun a ha => ?_
      exact hraw.2 ((r.admits_iff raw).2 ⟨a, (hgrammar raw a).1 ha⟩)
    simp only [read, hraw.1, hnone, Check.refusal, hshown, id_eq]

/-- Reading an octet keeps to its rule. -/
theorem reads_readByte : (Rule.octet format key).Reads options (readByte options format key) :=
  reads_read (r := .octet format key) (fun _ _ => byte?_eq_some_iff) rfl

/-- Reading a size keeps to its rule. -/
theorem reads_readSize : (Rule.size format key).Reads options (readSize options format key) :=
  reads_read (r := .size format key) (fun _ _ => size?_trim_eq_some_iff) rfl

/-- A truth value is compared as a word, and shown as that word if it is refused. -/
theorem reads_readBoolean :
    (Rule.flag format key).Reads options (readBoolean options format key) := by
  refine Rule.reads_of_cases (fun hkey => ?_) (fun raw a hkey ha => ?_) fun raw hraw => ?_
  · simp only [readBoolean, show options.get? key = none from hkey]
  · have hflag : boolean? (flagWord raw) = some a := boolean?_flagWord_eq_some_iff.2 ha
    unfold flagWord at hflag
    simp only [readBoolean, show options.get? key = some raw from hkey, hflag]
  · have hnone : boolean? (flagWord raw) = none := by
      refine Option.eq_none_iff_forall_ne_some.2 fun a ha => ?_
      exact hraw.2 ⟨a, boolean?_flagWord_eq_some_iff.1 ha⟩
    unfold flagWord at hnone
    simp only [readBoolean, show options.get? key = some raw from hraw.1, hnone]
    rfl

/-! ## What an option depends on -/

/-- A size depends on the value of its key only. -/
theorem readSize_congr (h : options.get? key = options'.get? key) :
    readSize options format key = readSize options' format key := by
  simp only [readSize, read, h]

/-- An octet depends on the value of its key only. -/
theorem readByte_congr (h : options.get? key = options'.get? key) :
    readByte options format key = readByte options' format key := by
  simp only [readByte, read, h]

/-- A flag depends on the value of its key only. -/
theorem readBoolean_congr (h : options.get? key = options'.get? key) :
    readBoolean options format key = readBoolean options' format key := by
  simp only [readBoolean, h]

end RootedStorage.OptionValue

import RootedStorage.Csv.Options
import RootedStorage.Proofs.Dictionary
import RootedStorage.Proofs.Format.OptionValue
import RootedStorage.Proofs.Prelude

/-!
# What the options of the CSV format say

Six keys are read, each by its rule.  Options are accepted if every check is passed
(`Options.Parsed.succeeds_iff`), and then every field has the value that the text under its key stands
for, or the default (`Options.Denoted`).  Otherwise the error is that of the first key, in the order of
the rules, whose text is refused.  Other keys and the order of the entries make no difference.
-/

namespace RootedStorage.Csv

open OptionValue

/-! ## The rules -/

/-- The rule of the octet between fields. -/
def delimiterRule : Rule UInt8 := .octet formatName "delimiter"

/-- The rule of the flag that says whether there is a header. -/
def headerRule : Rule Bool := .flag formatName "header"

/-- The rule of the octet around fields. -/
def quoteRule : Rule UInt8 := .octet formatName "quote"

/-- The rule of the octet in front of a quote. -/
def escapeRule : Rule UInt8 := .octet formatName "escape"

/-- The rule of the number of rows that are read at a time. -/
def batchSizeRule : Rule Nat := .size formatName "batch_size"

/-- The rule of the number of rows that types are inferred from. -/
def inferRowsRule : Rule Nat := .size formatName "infer_rows"

namespace Options

/-- The checks in the order in which they are made. -/
def checks : List Check :=
  [delimiterRule.toCheck, headerRule.toCheck, quoteRule.toCheck, escapeRule.toCheck,
    batchSizeRule.toCheck, inferRowsRule.toCheck]

/-- Every field has what the text under its key stands for.  Without the key it has the default: a
comma, a header, a double quote, no escape, 8192 rows at a time, and all rows looked at. -/
structure Denoted (options : FormatOptions) (o : Options) : Prop where
  delimiter : delimiterRule.Settles options 44 o.dialect.delimiter
  header : headerRule.Settles options true o.header
  quote : quoteRule.Settles options 34 o.dialect.quote
  escape : escapeRule.Gives options o.dialect.escape
  batchSize : batchSizeRule.Settles options 8192 o.batchSize
  inferRows : inferRowsRule.Gives options o.inferRows

variable {options other : FormatOptions}

/-- The options that are read are those that the texts denote. -/
theorem ofFormatOptions_eq_ok_iff {o : Options} :
    ofFormatOptions options = .ok o ↔ Denoted options o := by
  simp only [ofFormatOptions, bind_eq_ok_iff]
  constructor
  · rintro ⟨delimiter, hdelimiter, header, hheader, quote, hquote, escape, hescape, size, hsize,
      rows, hrows, ho⟩
    obtain rfl := Except.ok.inj ho
    exact {
      delimiter := ⟨delimiter, (reads_readByte.ok_iff _).1 hdelimiter, rfl⟩
      header := ⟨header, (reads_readBoolean.ok_iff _).1 hheader, rfl⟩
      quote := ⟨quote, (reads_readByte.ok_iff _).1 hquote, rfl⟩
      escape := (reads_readByte.ok_iff _).1 hescape
      batchSize := ⟨size, (reads_readSize.ok_iff _).1 hsize, rfl⟩
      inferRows := (reads_readSize.ok_iff _).1 hrows }
  · intro h
    obtain ⟨delimiter, hdelimiter, hdelimiter'⟩ := h.delimiter
    obtain ⟨header, hheader, hheader'⟩ := h.header
    obtain ⟨quote, hquote, hquote'⟩ := h.quote
    obtain ⟨size, hsize, hsize'⟩ := h.batchSize
    refine ⟨delimiter, (reads_readByte.ok_iff _).2 hdelimiter, header,
      (reads_readBoolean.ok_iff _).2 hheader, quote, (reads_readByte.ok_iff _).2 hquote,
      o.dialect.escape, (reads_readByte.ok_iff _).2 h.escape, size,
      (reads_readSize.ok_iff _).2 hsize, o.inferRows, (reads_readSize.ok_iff _).2 h.inferRows, ?_⟩
    rw [← hdelimiter', ← hheader', ← hquote', ← hsize']
    rfl

/-- The keys are read one after the other, so an error is that of the first that is refused. -/
theorem ofFormatOptions_eq_error_iff {e : StorageError} :
    ofFormatOptions options = .error e ↔ Check.FirstRefused options checks e := by
  unfold ofFormatOptions
  apply reads_readByte.bind_error_iff
  intro delimiter
  apply reads_readBoolean.bind_error_iff
  intro header
  apply reads_readByte.bind_error_iff
  intro quote
  apply reads_readByte.bind_error_iff
  intro escape
  apply reads_readSize.bind_error_iff
  intro size
  apply reads_readSize.bind_error_iff
  intro rows
  refine iff_of_false ?_ Check.firstRefused_nil
  intro hpure
  cases hpure

/-- Options are read exactly if they pass every check. -/
theorem exists_ofFormatOptions_iff :
    (∃ o, ofFormatOptions options = .ok o) ↔ ∀ c ∈ checks, c.Passes options := by
  have herror : (∃ e, ofFormatOptions options = .error e) ↔ ¬ ∀ c ∈ checks, c.Passes options := by
    simp only [ofFormatOptions_eq_error_iff]
    exact Check.exists_firstRefused_iff
  rw [← not_iff_not, ← herror]
  cases ofFormatOptions options <;> simp

/-- Options that agree on the keys of the rules give the same. -/
theorem ofFormatOptions_congr (h : ∀ c ∈ checks, other.get? c.key = options.get? c.key) :
    ofFormatOptions other = ofFormatOptions options := by
  simp only [checks, List.forall_mem_cons, List.not_mem_nil, false_imp_iff, implies_true, and_true,
    delimiterRule, headerRule, quoteRule, escapeRule, batchSizeRule, inferRowsRule, Rule.octet,
    Rule.flag, Rule.size, Rule.ofDenotes] at h
  obtain ⟨hdelimiter, hheader, hquote, hescape, hsize, hrows⟩ := h
  unfold ofFormatOptions
  simp only [readByte_congr hdelimiter, readBoolean_congr hheader, readByte_congr hquote,
    readByte_congr hescape, readSize_congr hsize, readSize_congr hrows]

/-- What is read from a dictionary of options. -/
structure Parsed (options : FormatOptions) : Prop where
  succeeds_iff : (∃ o, ofFormatOptions options = .ok o) ↔ ∀ c ∈ checks, c.Passes options
  ok_iff : ∀ o, ofFormatOptions options = .ok o ↔ Denoted options o
  error_iff : ∀ e, ofFormatOptions options = .error e ↔ Check.FirstRefused options checks e
  other_keys : ∀ other : FormatOptions, (∀ c ∈ checks, other.get? c.key = options.get? c.key) →
    ofFormatOptions other = ofFormatOptions options
  any_order : options.Distinct → ∀ other : FormatOptions, other.entries.Perm options.entries →
    ofFormatOptions other = ofFormatOptions options

/-- Options are parsed by one grammar: each key by its rule, the rules in a fixed order, and nothing
else is looked at. -/
theorem parsed (options : FormatOptions) : Parsed options where
  succeeds_iff := exists_ofFormatOptions_iff
  ok_iff _ := ofFormatOptions_eq_ok_iff
  error_iff _ := ofFormatOptions_eq_error_iff
  other_keys _ h := ofFormatOptions_congr h
  any_order hdistinct _ hperm :=
    ofFormatOptions_congr fun c _ => hdistinct.get?_eq_of_perm hperm c.key

/-- Of two texts that are refused the one under the earlier rule is reported, whichever key stands
first. -/
example : ofFormatOptions ⟨[("batch_size", "-1"), ("x", "y"), ("header", " Maybe ")]⟩ =
    .error (.config (.invalidOption "maybe" "csv" "header" .boolean)) := rfl

end Options

end RootedStorage.Csv

import RootedStorage.Proofs.Csv.CellText
import RootedStorage.Proofs.Csv.Shape
import RootedStorage.Proofs.Prelude

/-!
# Guessed types

The type of a column is guessed from the shapes of its texts, and then every text is read as a value
of that type.  A column is `Deceptive` if one of its texts only looks like a value of the type that is
guessed for the column; it is exactly such a column that cannot be read
(`isSome_parseCell_inferType_iff`).  Truth values and whole numbers never deceive
(`not_deceptive_of_isExact`).
-/

namespace RootedStorage.Csv

open Text (IsAscii)

/-! ## What a guess says -/

namespace Shape

/-- The finer of two units has the greater fineness. -/
theorem fineness_finer (a b : Option TimeUnit) :
    fineness (finer a b) = max (fineness a) (fineness b) := by
  unfold finer
  split
  · omega
  · omega

/-- The finest of all is as fine as each. -/
theorem fineness_le_foldl (units : List (Option TimeUnit)) (a : Option TimeUnit) :
    fineness a ≤ fineness (units.foldl finer a) ∧
      ∀ unit ∈ units, fineness unit ≤ fineness (units.foldl finer a) := by
  induction units generalizing a with
  | nil => simp
  | cons b units ih =>
    obtain ⟨hfirst, hrest⟩ := ih (finer a b)
    rw [fineness_finer] at hfirst
    rw [List.foldl_cons, List.forall_mem_cons]
    exact ⟨by omega, by omega, hrest⟩

/-- If the finest unit is none, there is no unit at all. -/
theorem eq_none_of_foldl {units : List (Option TimeUnit)} (h : units.foldl finer none = none) :
    ∀ unit ∈ units, unit = none := by
  intro unit hunit
  have hle := (fineness_le_foldl units none).2 unit hunit
  rw [h] at hle
  match unit with
  | none => rfl
  | some .second | some .millisecond | some .microsecond | some .nanosecond =>
    simp [fineness] at hle

end Shape

/-- What the shapes of a column's texts have in common if the given type is guessed from them. -/
inductive Guessed (shapes : List Shape) : ColumnType → Prop
  | null : shapes = [] → Guessed shapes .null
  | boolean : (∀ s ∈ shapes, s = .boolean) → Guessed shapes .boolean
  | whole : (∀ s ∈ shapes, s = .whole) → Guessed shapes (.integer .int64)
  | decimal : (∀ s ∈ shapes, s = .whole ∨ s = .decimal) → Guessed shapes (.float .float64)
  | date : (∀ s ∈ shapes, s = .date) → Guessed shapes .date32
  | timestamp (unit : TimeUnit) : (∀ s ∈ shapes, s.calendar?.isSome = true) →
    Guessed shapes (.timestamp unit none)
  | text : Guessed shapes .text

/-- The type that shapes combine to is the one that is guessed from them. -/
theorem guessed_combine (shapes : List Shape) : Guessed shapes (Shape.combine shapes) := by
  unfold Shape.combine
  split
  · next hnil => exact .null (List.isEmpty_iff.1 hnil)
  split
  · next hall => exact .boolean (by simpa using hall)
  split
  · next hall => exact .whole (by simpa using hall)
  split
  · next hall => exact .decimal (by simpa using hall)
  split
  · next units hunits =>
    have hcalendar := forall₂_of_mapM_eq_some hunits
    split
    · next hnone =>
      refine .date fun s hs => ?_
      obtain ⟨unit, hunit, hs⟩ := exists_of_mem_left hcalendar s hs
      obtain rfl := Shape.eq_none_of_foldl hnone unit hunit
      unfold Shape.calendar? at hs
      split at hs
      · rfl
      · cases hs
      · cases hs
    · next unit _ =>
      refine .timestamp unit fun s hs => ?_
      obtain ⟨unit, -, hs⟩ := exists_of_mem_left hcalendar s hs
      exact Option.isSome_of_eq_some hs
  · exact .text

/-- The shapes of a column. -/
def shapesOf (texts : List String) : List Shape := (texts.filter (· ≠ "")).map Shape.ofText

/-- The type that is inferred from texts is the one that is guessed from their shapes. -/
theorem guessed_inferType (texts : List String) : Guessed (shapesOf texts) (inferType texts) :=
  guessed_combine _

/-- The shape of a text that is not empty is among those of its column. -/
theorem ofText_mem_shapesOf {texts : List String} {text : String} (h : text ∈ texts)
    (hsome : text ≠ "") : Shape.ofText text ∈ shapesOf texts :=
  List.mem_map_of_mem (List.mem_filter.2 ⟨h, by simpa using hsome⟩)

/-! ## Texts that deceive -/

/-- A text that looks like a value of the type is one. -/
def IsValue : ColumnType → String → Prop
  | .boolean, text | .integer _, text | .float _, text => IsAscii text.toList
  | .date32, text => (CellText.parseMoment text.toList).isSome = true
  | .timestamp unit _, text => ∃ moment ∈ CellText.parseMoment text.toList,
      unit = .nanosecond → IntegerType.int64.holds (moment.toTicks unit.perSecond) = true
  | _, _ => True

instance (type : ColumnType) (text : String) : Decidable (IsValue type text) :=
  match type with
  | .boolean | .integer _ | .float _ => inferInstanceAs (Decidable (IsAscii text.toList))
  | .date32 => inferInstanceAs (Decidable (_ = true))
  | .timestamp _ _ => inferInstanceAs (Decidable (∃ moment ∈ CellText.parseMoment text.toList, _))
  | .null | .text | .largeText | .date64 | .other _ => inferInstanceAs (Decidable True)

/-- A moment is parsed as ticks unless its nanoseconds do not fit 64 bits. -/
theorem isSome_parseTicks_iff {unit : TimeUnit} {s : List Char} :
    (CellText.parseTicks unit s).isSome = true ↔ ∃ moment ∈ CellText.parseMoment s,
      unit = .nanosecond → IntegerType.int64.holds (moment.toTicks unit.perSecond) = true := by
  unfold CellText.parseTicks
  cases CellText.parseMoment s with
  | none => simp
  | some moment => simp

/-- A text of a column is read under the guessed type exactly if it is a value of that type. -/
theorem isSome_parseCell_inferType_iff {texts : List String} {text : String} (h : text ∈ texts)
    (hsome : text ≠ "") :
    (parseCell (inferType texts) text).isSome = true ↔ IsValue (inferType texts) text := by
  have hmem := ofText_mem_shapesOf h hsome
  have hlooks := looks_ofText text
  have hguessed := guessed_inferType texts
  generalize inferType texts = type at hguessed ⊢
  unfold parseCell
  rw [if_neg hsome]
  cases hguessed with
  | null hnil =>
    rw [hnil] at hmem
    cases hmem
  | boolean hall =>
    rw [hall _ hmem] at hlooks
    show (Option.map _ _).isSome = true ↔ _
    rw [Option.isSome_map]
    exact isSome_parseBoolean_iff hlooks
  | whole hall =>
    rw [hall _ hmem] at hlooks
    show (Option.map _ _).isSome = true ↔ _
    rw [Option.isSome_map]
    exact isSome_parseInteger_iff_isAscii hlooks
  | decimal hall =>
    show (Option.map _ _).isSome = true ↔ _
    rw [Option.isSome_map]
    apply isSome_parseFloat_iff_isAscii
    rcases hall _ hmem with hshape | hshape
    · rw [hshape] at hlooks
      exact .inl hlooks.1
    · rw [hshape] at hlooks
      exact .inr hlooks
  | date hall =>
    rw [hall _ hmem] at hlooks
    show (Option.map _ _).isSome = true ↔ _
    rw [Option.isSome_map]
    exact isSome_parseDay_iff hlooks
  | timestamp unit hall =>
    show (Option.map _ _).isSome = true ↔ _
    rw [Option.isSome_map]
    exact isSome_parseTicks_iff
  | text => simp [IsValue]

/-- Some text of the column only looks like a value of the type that is guessed for the column. -/
def Deceptive (texts : List String) : Prop :=
  ∃ text ∈ texts, text ≠ "" ∧ ¬ IsValue (inferType texts) text

instance (texts : List String) : Decidable (Deceptive texts) :=
  inferInstanceAs (Decidable (∃ text ∈ texts, _))

/-- A column is read under the type that is guessed for it unless one of its texts deceives. -/
theorem exists_cells_iff {texts : List String} :
    (∃ cells, texts.mapM (parseCell (inferType texts)) = some cells) ↔ ¬ Deceptive texts := by
  simp only [mapM_eq_some_iff, exists_forall₂_iff, ← Option.isSome_iff_exists]
  unfold Deceptive
  push Not
  refine forall₂_congr fun text htext => ?_
  by_cases hsome : text = ""
  · simp [hsome, parseCell]
  · rw [isSome_parseCell_inferType_iff htext hsome]
    simp [hsome]

/-! ## Texts of exact cells -/

/-- A text in ASCII that does not look like a date or a timestamp does not deceive. -/
theorem isValue_of_isAscii {texts : List String} {text : String} (h : text ∈ texts)
    (hsome : text ≠ "") (hascii : IsAscii text.toList)
    (hcalendar : (Shape.ofText text).calendar? = none) : IsValue (inferType texts) text := by
  have hmem := ofText_mem_shapesOf h hsome
  have hguessed := guessed_inferType texts
  generalize inferType texts = type at hguessed ⊢
  cases hguessed with
  | null | text => trivial
  | boolean | whole | decimal => exact hascii
  | date hall =>
    rw [hall _ hmem] at hcalendar
    cases hcalendar
  | timestamp unit hall =>
    have hdate := hall _ hmem
    rw [hcalendar] at hdate
    cases hdate

/-- The text of a whole number looks like one. -/
theorem isWhole_toString (n : Int) : Shape.isWhole (toString n).toList = true ∧
    IsAscii (toString n).toList := by
  have hdigits : ∀ m : Nat, ∀ c ∈ Nat.toDigits 10 m, c.isDigit = true := fun m c hc =>
    Nat.isDigit_of_mem_toDigits (by decide) (by decide) hc
  have hwhole : ∀ m : Nat, Nat.toDigits 10 m ≠ [] ∧
      ∀ c ∈ Nat.toDigits 10 m, Text.isDecimalDigit c = true := fun m =>
    ⟨Nat.toDigits_ne_nil, fun c hc => (Text.isDigit_iff.1 (hdigits m c hc)).1⟩
  obtain ⟨m, ⟨-, htext⟩ | ⟨-, htext⟩⟩ := CellText.toList_toString n
  · have hdrop : Shape.dropMinus (Nat.toDigits 10 m) = Nat.toDigits 10 m := by
      obtain ⟨c, ds, hcons, hminus, -⟩ := CellText.toDigits_eq_cons m
      rw [hcons]
      unfold Shape.dropMinus
      split
      · next hc => exact absurd (List.cons.inj hc).1 hminus
      · rfl
    rw [htext, isWhole_iff, hdrop]
    exact ⟨hwhole m, isAscii_digits (hdigits m)⟩
  · rw [htext, isWhole_iff]
    exact ⟨hwhole m, Text.isAscii_cons.2 ⟨by decide, isAscii_digits (hdigits m)⟩⟩

/-- Truth values and whole numbers are written in ASCII, and not like dates. -/
theorem exactText_plain {t : ColumnType} (ht : t.IsExact) (htext : t ≠ .text) {x : Cell}
    (hx : x.Fits t) : IsAscii (exactText x).toList ∧
      (exactText x ≠ "" → (Shape.ofText (exactText x)).calendar? = none) := by
  rcases hx.exact_cases ht with rfl | ⟨b, rfl, rfl⟩ | ⟨t, n, rfl, rfl, -⟩ | ⟨s, rfl, rfl⟩
  · exact ⟨by decide, fun hsome => absurd rfl hsome⟩
  · cases b <;> decide
  · obtain ⟨hwhole, hascii⟩ := isWhole_toString n
    exact ⟨hascii, fun _ => calendar?_of_isWhole hwhole⟩
  · exact absurd rfl htext

end RootedStorage.Csv

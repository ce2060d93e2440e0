import RootedStorage.Parquet.Container
import RootedStorage.Text.Utf8

/-!
# A container of tagged values

The container of the program keeps the fields of a table and the cells of every column, one after the
other, between two marks.  `Tagged.read?` accepts what `Tagged.write` produces and refuses content that
is no container; `Container.tagged` is the container that they make.
-/

namespace RootedStorage.Parquet.Tagged

/-- A reader takes a value off the front of the content. -/
abbrev Reader (α : Type) := Bytes → Option (α × Bytes)

/-! ## Numbers and texts -/

/-- A number in groups of seven bits, the lowest group first; all but the last are marked. -/
def putNat (n : Nat) : Bytes :=
  if n < 128 then [n.toUInt8] else (n % 128 + 128).toUInt8 :: putNat (n / 128)

/-- Reads a number. -/
def getNat : Reader Nat
  | [] => none
  | b :: rest =>
    if b < 128 then some (b.toNat, rest)
    else (getNat rest).map fun x => (x.1 * 128 + (b.toNat - 128), x.2)

/-- A whole number with its sign in the lowest bit. -/
def putInt : Int → Bytes
  | .ofNat n => putNat (2 * n)
  | .negSucc n => putNat (2 * n + 1)

/-- Reads a whole number. -/
def getInt (s : Bytes) : Option (Int × Bytes) :=
  (getNat s).map fun x =>
    (if x.1 % 2 = 0 then .ofNat (x.1 / 2) else .negSucc (x.1 / 2), x.2)

/-- A text after its length. -/
def putText (s : String) : Bytes :=
  let octets := Utf8.encode s
  putNat octets.length ++ octets

/-- Reads a text. -/
def getText (s : Bytes) : Option (String × Bytes) := do
  let (count, rest) ← getNat s
  let octets := rest.take count
  if octets.length < count then none
  else
    let text ← Utf8.decode? octets
    some (text, rest.drop count)

/-- Items after their number. -/
def putList {α : Type} (put : α → Bytes) (items : List α) : Bytes :=
  putNat items.length ++ items.flatMap put

/-- Reads a given number of items. -/
def getItems {α : Type} (get : Reader α) : Nat → Reader (List α)
  | 0, s => some ([], s)
  | n + 1, s => do
    let (a, rest) ← get s
    let (items, rest) ← getItems get n rest
    some (a :: items, rest)

/-- Reads items. -/
def getList {α : Type} (get : Reader α) (s : Bytes) : Option (List α × Bytes) := do
  let (count, rest) ← getNat s
  getItems get count rest

/-! ## Tables -/

/-- The index of an integer type. -/
def integerIndex : IntegerType → Nat
  | .int8 => 0
  | .int16 => 1
  | .int32 => 2
  | .int64 => 3
  | .uint8 => 4
  | .uint16 => 5
  | .uint32 => 6
  | .uint64 => 7

/-- The index of a unit. -/
def unitIndex : TimeUnit → Nat
  | .second => 0
  | .millisecond => 1
  | .microsecond => 2
  | .nanosecond => 3

/-- A column type. -/
def putType : ColumnType → Bytes
  | .null => [0]
  | .boolean => [1]
  | .integer t => 2 :: putNat (integerIndex t)
  | .float .float32 => [3]
  | .float .float64 => [4]
  | .text => [5]
  | .largeText => [6]
  | .date32 => [7]
  | .date64 => [8]
  | .timestamp unit none => 9 :: putNat (unitIndex unit)
  | .timestamp unit (some zone) => 10 :: putNat (unitIndex unit) ++ putText zone
  | .other name => 11 :: putText name

/-- Reads a column type. -/
def getType : Reader ColumnType
  | 0 :: s => some (.null, s)
  | 1 :: s => some (.boolean, s)
  | 2 :: s => do
    let (i, s) ← getNat s
    let t ← IntegerType.all[i]?
    some (.integer t, s)
  | 3 :: s => some (.float .float32, s)
  | 4 :: s => some (.float .float64, s)
  | 5 :: s => some (.text, s)
  | 6 :: s => some (.largeText, s)
  | 7 :: s => some (.date32, s)
  | 8 :: s => some (.date64, s)
  | 9 :: s => do
    let (i, s) ← getNat s
    let unit ← TimeUnit.all[i]?
    some (.timestamp unit none, s)
  | 10 :: s => do
    let (i, s) ← getNat s
    let unit ← TimeUnit.all[i]?
    let (zone, s) ← getText s
    some (.timestamp unit (some zone), s)
  | 11 :: s => do
    let (name, s) ← getText s
    some (.other name, s)
  | _ => none

/-- A truth value. -/
def putBoolean (b : Bool) : Bytes := [if b then 1 else 0]

/-- Reads a truth value. -/
def getBoolean : Reader Bool
  | 0 :: s => some (false, s)
  | 1 :: s => some (true, s)
  | _ => none

/-- A cell. -/
def putCell : Cell → Bytes
  | .null => [0]
  | .boolean b => 1 :: putBoolean b
  | .integer n => 2 :: putInt n
  | .float bits => 3 :: putNat bits
  | .text s => 4 :: putText s

/-- Reads a cell. -/
def getCell : Reader Cell
  | 0 :: s => some (.null, s)
  | 1 :: s => (getBoolean s).map fun x => (.boolean x.1, x.2)
  | 2 :: s => (getInt s).map fun x => (.integer x.1, x.2)
  | 3 :: s => (getNat s).map fun x => (.float x.1, x.2)
  | 4 :: s => (getText s).map fun x => (.text x.1, x.2)
  | _ => none

/-- A column. -/
def putColumn (c : Column) : Bytes :=
  putText c.field.name ++ putType c.field.type ++ putBoolean c.field.nullable
    ++ putList putCell c.cells

/-- Reads a column. -/
def getColumn (s : Bytes) : Option (Column × Bytes) := do
  let (name, s) ← getText s
  let (type, s) ← getType s
  let (nullable, s) ← getBoolean s
  let (cells, s) ← getList getCell s
  some (⟨⟨name, type, nullable⟩, cells⟩, s)

/-- The mark at both ends of a container.  It is not UTF-8. -/
def mark : Bytes := [0x50, 0x41, 0x52, 0x31, 0xFF]

/-- The container of a table. -/
def write (b : Batch) : Bytes := mark ++ putList putColumn b.columns ++ mark

/-- The table of a container.  A container without columns is not accepted. -/
def read? (content : Bytes) : Option Batch :=
  if content.take mark.length = mark then
    match getList getColumn (content.drop mark.length) with
    | some (columns, rest) => if rest = mark && !columns.isEmpty then some ⟨columns⟩ else none
    | none => none
  else none

/-! ## Types that are not written -/

/-- What the names of types hold that no stored column has, nor a part of it. -/
def unstorable : List String := ["Duration(", "Union(", "RunEndEncoded(", "ListView("]

/-- Whether a text holds another one. -/
def mentions (text part : String) : Bool := 1 < (text.splitOn part).length

/-- The refusal of a column type. -/
def refusal? : ColumnType → Option Refusal
  | .other name =>
    if unstorable.any (mentions name) then some .fields
    else if mentions name "Interval(MonthDayNano)" then some .cells
    else none
  | _ => none

/-! ## Reading what is written

Every reader takes what its writer has put off the front of the content and leaves the rest, so a
container is read as its table.
-/

theorem getNat_putNat (n : Nat) (rest : Bytes) : getNat (putNat n ++ rest) = some (n, rest) := by
  induction n using putNat.induct with
  | case1 n h =>
    have hb : n.toUInt8 < 128 := by
      rw [UInt8.lt_iff_toNat_lt, Nat.toUInt8, UInt8.toNat_ofNat']
      exact Nat.lt_of_le_of_lt (Nat.mod_le ..) h
    have hn : n.toUInt8.toNat = n := by
      rw [Nat.toUInt8, UInt8.toNat_ofNat']
      omega
    rw [putNat, if_pos h, List.cons_append, getNat, if_pos hb, hn, List.nil_append]
  | case2 n h ih =>
    have hn : (n % 128 + 128).toUInt8.toNat = n % 128 + 128 := by
      rw [Nat.toUInt8, UInt8.toNat_ofNat']
      omega
    have hb : ¬ (n % 128 + 128).toUInt8 < 128 := by
      rw [UInt8.lt_iff_toNat_lt, hn]
      simp
    rw [putNat, if_neg h, List.cons_append, getNat, if_neg hb, ih, hn]
    simp only [Option.map_some, Option.some.injEq, Prod.mk.injEq, and_true]
    omega

theorem getInt_putInt (i : Int) (rest : Bytes) : getInt (putInt i ++ rest) = some (i, rest) := by
  cases i with
  | ofNat n =>
    simp only [putInt, getInt, getNat_putNat, Option.map_some]
    rw [if_pos (by omega), show 2 * n / 2 = n by omega]
  | negSucc n =>
    simp only [putInt, getInt, getNat_putNat, Option.map_some]
    rw [if_neg (by omega), show (2 * n + 1) / 2 = n by omega]

theorem getText_putText (s : String) (rest : Bytes) :
    getText (putText s ++ rest) = some (s, rest) := by
  simp [getText, putText, getNat_putNat]

theorem getItems_flatMap {α : Type} {put : α → Bytes} {get : Reader α}
    (h : ∀ a rest, get (put a ++ rest) = some (a, rest)) (items : List α) (rest : Bytes) :
    getItems get items.length (items.flatMap put ++ rest) = some (items, rest) := by
  induction items with
  | nil => rfl
  | cons a items ih => simp [getItems, h, ih]

theorem getList_putList {α : Type} {put : α → Bytes} {get : Reader α}
    (h : ∀ a rest, get (put a ++ rest) = some (a, rest)) (items : List α) (rest : Bytes) :
    getList get (putList put items ++ rest) = some (items, rest) := by
  simp [getList, putList, getNat_putNat, getItems_flatMap h]

theorem getType_putType (t : ColumnType) (rest : Bytes) :
    getType (putType t ++ rest) = some (t, rest) := by
  cases t with
  | integer t => cases t <;> simp [putType, getType, getNat_putNat, integerIndex, IntegerType.all]
  | float t => cases t <;> rfl
  | timestamp unit zone =>
    cases unit <;> cases zone <;>
      simp [putType, getType, getNat_putNat, getText_putText, unitIndex, TimeUnit.all]
  | other name => simp [putType, getType, getText_putText]
  | _ => rfl

theorem getBoolean_putBoolean (b : Bool) (rest : Bytes) :
    getBoolean (putBoolean b ++ rest) = some (b, rest) := by
  cases b <;> rfl

theorem getCell_putCell (c : Cell) (rest : Bytes) : getCell (putCell c ++ rest) = some (c, rest) := by
  cases c <;>
    simp [putCell, getCell, getBoolean_putBoolean, getInt_putInt, getNat_putNat, getText_putText]

theorem getColumn_putColumn (c : Column) (rest : Bytes) :
    getColumn (putColumn c ++ rest) = some (c, rest) := by
  simp [putColumn, getColumn, getText_putText, getType_putType, getBoolean_putBoolean,
    getList_putList getCell_putCell]

/-- A container is read as the table that it was written for. -/
theorem read?_write {b : Batch} (h : b.columns ≠ []) : read? (write b) = some b := by
  simp [read?, write, getList_putList getColumn_putColumn, h]

end Tagged

/-- The container of tagged values.  It is not compressed, whatever the options ask for. -/
def Container.tagged : Container where
  refusal? := Tagged.refusal?
  write _ := Tagged.write
  read? := Tagged.read?
  read?_write _ _ hcolumns _ := Tagged.read?_write hcolumns

end RootedStorage.Parquet

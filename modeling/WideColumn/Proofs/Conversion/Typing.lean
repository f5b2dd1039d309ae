import WideColumn.TargetType
import WideColumn.Proofs.Conversion.Structure
import WideColumn.Proofs.Json.Numeral

/-!
# Converters and declared types agree

A field of a model is declared with the target of its column type, and holds what the converter of
the column type makes of the driver's value. Both are computed from the column type, by recursions
that do not look at each other.

Design points:

* `ColumnType.Holds` says which values the driver hands out for a column type, and
  `TargetType.Admits` which values a declared type has. Neither mentions converters.
* The keys of a map are names of properties in both. The keys of numbers are texts of numbers
  before and after, since no converter touches them.
* The elements of a vector are never converted, so they have to be plain numbers already.

Main definitions: `ColumnType.Holds`, `TargetType.Admits`, `ColumnType.vectorsHoldNumbers`.
Main result: `ColumnType.conversion_admitted`.
-/

namespace WideColumn

open Script

/-! ## Names of properties that are numbers -/

/-- The text is one that a number is written as. -/
def IsNumberText (name : String) : Prop :=
  (Json.Numeral.read? name.toList).isSome ∨ name ∈ ["NaN", "Infinity", "-Infinity"]

theorem isNumberText_of_ofInt {name : String} {n : Int} (h : name.toList = Text.ofInt n) :
    IsNumberText name := by
  obtain ⟨numeral, hread, -⟩ := Json.Numeral.exists_read?_ofInt n
  left
  rw [h, hread]
  rfl

/-! ## Values of the driver -/

namespace NativeType

/-- The driver hands out plain numbers for the type. -/
def isPlainNumber : NativeType → Bool
  | int | smallint | tinyint | float | double => true
  | _ => false

/-- The driver can hand out the value for a column of the type. -/
def Holds : NativeType → Value → Prop
  | ascii, v | text, v | varchar, v => ∃ s, v = .string s
  | boolean, v => ∃ b, v = .boolean b
  | blob, v => ∃ bytes, v = .buffer bytes
  | int, v | smallint, v | tinyint, v | float, v | double, v => ∃ n, v = .number n
  | bigint, v | counter, v | varint, v | decimal, v =>
    ∃ n, v.method? "toNumber" = some (.number n)
  | uuid, v | timeuuid, v | inet, v | date, v | time, v | duration, v =>
    ∃ s, v.method? "toString" = some (.string s)
  | timestamp, v => ∃ time, v = .date time

/-- A key of the type can have the name as a property. -/
def NamesKey : NativeType → String → Prop
  | int, name | smallint, name | tinyint, name | bigint, name | counter, name | varint, name =>
    ∃ n : Int, name.toList = Text.ofInt n
  | float, name | double, name | decimal, name => IsNumberText name
  | _, _ => True

end NativeType

namespace ColumnType

/-- A key of the type can have the name as a property. -/
def NamesKey : ColumnType → String → Prop
  | native type, name => type.NamesKey name
  | _, _ => True

mutual

/-- The driver can hand out the value for a column of the type. There is no `null` in it, except
where the type is unknown. -/
def Holds : ColumnType → Value → Prop
  | native type, v => type.Holds v
  | list element, v | set element, v => ∃ vs, v = .array vs ∧ ∀ w ∈ vs, element.Holds w
  | map key value, v =>
    ∃ properties, v = .record properties ∧ IsOwnOrder (properties.map Prod.fst) ∧
      ∀ p ∈ properties, key.NamesKey p.1 ∧ value.Holds p.2
  | tuple components, v => ∃ vs, v.method? "values" = some (.array vs) ∧ AllHold components vs
  | vector element _, v => ∃ vs, v.iterated? = some vs ∧ ∀ w ∈ vs, element.Holds w
  | unknown, _ => True

/-- The driver can hand out the values for the components of a tuple. -/
def AllHold : List ColumnType → List Value → Prop
  | [], vs => vs = []
  | t :: r, vs => ∃ v rest, vs = v :: rest ∧ t.Holds v ∧ AllHold r rest

end

mutual

/-- The elements of every vector are plain numbers. A vector that is a key is not looked at, as it
stays a name. -/
def vectorsHoldNumbers : ColumnType → Bool
  | native _ | unknown => true
  | list element | set element => element.vectorsHoldNumbers
  | map _ value => value.vectorsHoldNumbers
  | tuple components => allVectorsHoldNumbers components
  | vector (native type) _ => type.isPlainNumber
  | vector _ _ => false

/-- The elements of every vector in the components are plain numbers. -/
def allVectorsHoldNumbers : List ColumnType → Bool
  | [] => true
  | t :: r => t.vectorsHoldNumbers && allVectorsHoldNumbers r

end

end ColumnType

/-! ## Values of declared types -/

namespace TargetType

/-- A property of a record with the key can have the name. -/
def AdmitsName : TargetType → String → Prop
  | number, name => IsNumberText name
  | string, _ => True
  | _, _ => False

mutual

/-- The declared type has the value. -/
def Admits : TargetType → Value → Prop
  | string, v => ∃ s, v = .string s
  | number, v => ∃ n, v = .number n
  | boolean, v => ∃ b, v = .boolean b
  | buffer, v => ∃ bytes, v = .buffer bytes
  | date, v => ∃ time, v = .date time
  | array element, v => ∃ vs, v = .array vs ∧ ∀ w ∈ vs, element.Admits w
  | record key value, v =>
    ∃ properties, v = .record properties ∧ ∀ p ∈ properties, key.AdmitsName p.1 ∧ value.Admits p.2
  | tuple components, v => ∃ vs, v = .array vs ∧ AllAdmit components vs
  | unknown, _ => True

/-- The declared types have the values, one each. -/
def AllAdmit : List TargetType → List Value → Prop
  | [], vs => vs = []
  | t :: r, vs => ∃ v rest, vs = v :: rest ∧ t.Admits v ∧ AllAdmit r rest

end

end TargetType

/-! ## Agreement -/

/-- A step that is defined on every element is defined on the list. -/
theorem exists_mapM {α β : Type} {f : α → Option β} {P : β → Prop} {l : List α}
    (h : ∀ x ∈ l, ∃ y, f x = some y ∧ P y) : ∃ ys, l.mapM f = some ys ∧ ∀ y ∈ ys, P y := by
  induction l with
  | nil => exact ⟨[], by simp, by simp⟩
  | cons x l ih =>
    obtain ⟨y, hy, hP⟩ := h x List.mem_cons_self
    obtain ⟨ys, hys, hPs⟩ := ih fun z hz => h z (List.mem_cons_of_mem x hz)
    refine ⟨y :: ys, by simp [hy, hys], ?_⟩
    intro z hz
    rcases List.mem_cons.mp hz with rfl | hmem
    · exact hP
    · exact hPs z hmem

theorem NativeType.admits_of_holds {type : NativeType} {v : Value} (h : type.Holds v) :
    ∃ w, Conversion.resultOrSame? type.conversion v = some w ∧ type.target.Admits w := by
  cases type with
  | ascii | text | varchar | boolean | blob | int | smallint | tinyint | float | double =>
    obtain ⟨x, rfl⟩ := h
    exact ⟨_, rfl, x, rfl⟩
  | bigint | counter | varint | decimal =>
    obtain ⟨n, hn⟩ := h
    exact ⟨.number n, hn, n, rfl⟩
  | uuid | timeuuid | inet | date | time | duration =>
    obtain ⟨s, hs⟩ := h
    exact ⟨.string s, hs, s, rfl⟩
  | timestamp =>
    obtain ⟨time, rfl⟩ := h
    exact ⟨.date time, rfl, time, rfl⟩

theorem NativeType.number_of_isPlainNumber {type : NativeType} {v : Value}
    (hplain : type.isPlainNumber = true) (h : type.Holds v) : ∃ n, v = .number n := by
  cases type with
  | int | smallint | tinyint | float | double => exact h
  | _ => exact absurd hplain (by decide)

namespace ColumnType

/-- The names of keys are names of properties of the record. -/
theorem admitsName_of_namesKey {key : ColumnType} {name : String} (h : key.NamesKey name) :
    key.target.keyDomain.AdmitsName name := by
  cases key with
  | native type =>
    cases type with
    | int | smallint | tinyint | bigint | counter | varint =>
      obtain ⟨n, hn⟩ := h
      exact isNumberText_of_ofInt hn
    | float | double | decimal => exact h
    | _ => trivial
  | _ => trivial

mutual

/-- The induction goes over the type, and over the components where it is a tuple. -/
theorem exists_admitted (t : ColumnType) (v : Value) (hvectors : t.vectorsHoldNumbers = true)
    (h : t.Holds v) :
    ∃ w, Conversion.resultOrSame? t.conversion v = some w ∧ t.target.Admits w := by
  cases t with
  | native type => exact NativeType.admits_of_holds h
  | list element | set element =>
    obtain ⟨vs, rfl, hvs⟩ := h
    obtain ⟨ws, hws, hadmits⟩ := exists_mapM fun w hw =>
      exists_admitted element w hvectors (hvs w hw)
    refine ⟨.array ws, ?_, ws, rfl, hadmits⟩
    rw [conversion, Conversion.resultOrSame?_each, hws]
    rfl
  | map key value =>
    obtain ⟨properties, rfl, horder, hproperties⟩ := h
    -- A property keeps its name, and its value becomes one of the declared value type.
    have hstep : ∀ p ∈ properties, ∃ q : String × Value,
        (Conversion.resultOrSame? value.conversion p.2).map (Prod.mk p.1) = some q ∧
          key.target.keyDomain.AdmitsName q.1 ∧ value.target.Admits q.2 := by
      intro p hp
      obtain ⟨hname, hvalue⟩ := hproperties p hp
      obtain ⟨w, hw, hadmits⟩ := exists_admitted value p.2 hvectors hvalue
      exact ⟨(p.1, w), by rw [hw]; rfl, admitsName_of_namesKey hname, hadmits⟩
    obtain ⟨converted, hconverted, hadmits⟩ := exists_mapM hstep
    refine ⟨.record converted, ?_, converted, rfl, hadmits⟩
    rw [conversion, Conversion.resultOrSame?_values _ horder, hconverted]
    rfl
  | tuple components =>
    obtain ⟨vs, hvs, hall⟩ := h
    obtain ⟨ws, hws, hadmits⟩ := exists_allAdmitted components vs hvectors hall
    refine ⟨.array ws, ?_, ws, rfl, hadmits⟩
    rw [conversion, Conversion.resultOrSame?_some, Conversion.result?, hvs]
    simp [hws]
  | vector element dimension =>
    obtain ⟨vs, hvs, hall⟩ := h
    -- The elements stay as they are, so this is where they have to be numbers already.
    refine ⟨.array vs, ?_, vs, rfl, ?_⟩
    · rw [conversion, Conversion.resultOrSame?_some, Conversion.result?, hvs]
      rfl
    · intro w hw
      cases element with
      | native type => exact NativeType.number_of_isPlainNumber hvectors (hall w hw)
      | _ => exact absurd hvectors Bool.false_ne_true
  | unknown => exact ⟨v, rfl, trivial⟩

/-- The components of a tuple are converted each by its own converter. -/
theorem exists_allAdmitted (ts : List ColumnType) (vs : List Value)
    (hvectors : allVectorsHoldNumbers ts = true) (h : AllHold ts vs) :
    ∃ ws, Conversion.results? (conversions ts) vs = some ws ∧
      TargetType.AllAdmit (targets ts) ws := by
  cases ts with
  | nil =>
    obtain rfl := h
    exact ⟨[], rfl, rfl⟩
  | cons t r =>
    obtain ⟨v, rest, rfl, hv, hrest⟩ := h
    rw [allVectorsHoldNumbers, Bool.and_eq_true] at hvectors
    obtain ⟨w, hw, hadmits⟩ := exists_admitted t v hvectors.1 hv
    obtain ⟨ws, hws, hall⟩ := exists_allAdmitted r rest hvectors.2 hrest
    refine ⟨w :: ws, ?_, w, ws, rfl, hadmits, hall⟩
    rw [conversions, Conversion.results?_cons, hw, hws]
    rfl

end

/-- The converter of a column type is defined on every value that the driver hands out for it, and
makes a value of the declared type. Where there is no converter, the value has that type already. -/
theorem conversion_admitted {t : ColumnType} {v : Value} (hvectors : t.vectorsHoldNumbers = true)
    (h : t.Holds v) :
    ∃ w, Conversion.resultOrSame? t.conversion v = some w ∧ t.target.Admits w :=
  exists_admitted t v hvectors h

theorem conversion_admitted_nested :
    ∃ w, Conversion.resultOrSame?
        (map (native .int)
          (list (tuple [native .uuid, vector (native .float) 2, unknown]))).conversion
        (.record [("7", .array []),
          ("12", .array [.object [("values", .array
            [.object [("toString", .string "c0ffee")],
              .iterable [.number ⟨0⟩, .number ⟨1⟩], .null])]])]) = some w ∧
      (map (native .int)
        (list (tuple [native .uuid, vector (native .float) 2, unknown]))).target.Admits w := by
  refine conversion_admitted (by decide) ⟨_, rfl, by decide, ?_⟩
  intro p hp
  rcases List.mem_cons.mp hp with rfl | hp
  · exact ⟨⟨7, by decide⟩, [], rfl, by simp⟩
  obtain rfl := List.mem_singleton.mp hp
  refine ⟨⟨12, by decide⟩, _, rfl, ?_⟩
  intro v hv
  obtain rfl := List.mem_singleton.mp hv
  refine ⟨_, rfl, _, _, rfl, ⟨"c0ffee", rfl⟩, _, _, rfl, ⟨_, rfl, ?_⟩, _, _, rfl, trivial, rfl⟩
  intro w hw
  rcases List.mem_cons.mp hw with rfl | hw
  · exact ⟨_, rfl⟩
  · obtain rfl := List.mem_singleton.mp hw
    exact ⟨_, rfl⟩

end ColumnType

end WideColumn

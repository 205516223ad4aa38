import Idefix.Input.CommandLine
import Mathlib.Logic.Relation

/-!
# `IdefixInputContainer` and the accessors of `Input`

`inputParameters` is a `std::map` from block names to `std::map`s from parameter names to
`std::vector<std::string>`. `operator[]` creates an absent entry empty; in `ParseCommandLine` and
in the line loop of `Input::Input`, the only code that writes the container, it is followed by a
`push_back`. `GetString`, `GetReal` and `GetInt` find the block, then the parameter, then the
value at index `num`, and stop with `IDEFIX_ERROR` at the first that is missing; `CheckEntry`
returns the number of values, or `-1`.

A `std::map` is the list of its entries; the order of the entries, which only `PrintParameters`
sees, is left out. `InputContainer.toParameters` reads a container as the `Parameters` function
of the other modules, and a `push_back` on the container is `pushBack` on that function. A
container filled by `push_back`s alone holds no empty vector and no empty block, so an accessor
stops on a missing block exactly when no parameter of the block has a value.
-/

namespace Idefix.Input

set_option autoImplicit false

abbrev StdMap (V : Type) := List (List Char × V)

namespace StdMap

variable {V : Type}

/-- `m.find(key)`: the value of the entry with this key, if there is one. -/
def find : StdMap V → List Char → Option V
  | [], _ => none
  | (k, v) :: rest, key => if k = key then some v else find rest key

/-- `m[key]` then a change `f` of the entry: an absent key is first given the value `empty`. -/
def modify : StdMap V → List Char → V → (V → V) → StdMap V
  | [], key, empty, f => [(key, f empty)]
  | (k, v) :: rest, key, empty, f =>
    if k = key then (k, f v) :: rest else (k, v) :: modify rest key empty f

theorem mem_modify {m : StdMap V} {key : List Char} {empty : V} {f : V → V}
    {entry : List Char × V} (mem : entry ∈ m.modify key empty f) :
    entry ∈ m ∨ entry = (key, f ((m.find key).getD empty)) := by
  induction m with
  | nil => exact .inr (List.mem_singleton.mp mem)
  | cons first rest ih =>
    obtain ⟨k, v⟩ := first
    unfold modify at mem
    unfold find
    split_ifs at mem ⊢ with here
    · rcases List.mem_cons.mp mem with rfl | later
      · exact .inr (by rw [here]; rfl)
      · exact .inl (List.mem_cons_of_mem _ later)
    · rcases List.mem_cons.mp mem with rfl | later
      · exact .inl (List.mem_cons_self _ _)
      · exact (ih later).imp_left (List.mem_cons_of_mem _)

theorem modify_ne_nil (m : StdMap V) (key : List Char) (empty : V) (f : V → V) :
    m.modify key empty f ≠ [] := by
  cases m with
  | nil => exact List.cons_ne_nil _ _
  | cons entry rest => unfold modify; split_ifs <;> exact List.cons_ne_nil _ _

theorem mem_of_find {m : StdMap V} {key : List Char} {v : V} (found : m.find key = some v) :
    (key, v) ∈ m := by
  induction m with
  | nil => cases found
  | cons entry rest ih =>
    obtain ⟨k, w⟩ := entry
    unfold find at found
    split_ifs at found with here
    · cases found
      rw [here]
      exact List.mem_cons_self _ _
    · exact List.mem_cons_of_mem _ (ih found)

theorem find_isSome {m : StdMap V} {key : List Char} {v : V} (mem : (key, v) ∈ m) :
    (m.find key).isSome := by
  induction m with
  | nil => cases mem
  | cons entry rest ih =>
    obtain ⟨k, w⟩ := entry
    unfold find
    split_ifs with here
    · rfl
    · rcases List.mem_cons.mp mem with same | later
      · exact absurd (Prod.mk.inj same).1.symm here
      · exact ih later

end StdMap

/-- `IdefixInputContainer`: block name, then parameter name, then the values. -/
abbrev InputContainer := StdMap (StdMap (List (List Char)))

namespace InputContainer

variable (m : InputContainer)

/-- `inputParameters[blockName][paramName].push_back(paramValue)` on the container. -/
def pushBack (blockName paramName paramValue : List Char) : InputContainer :=
  m.modify blockName [] fun block => block.modify paramName [] fun values => values ++ [paramValue]

def toParameters : Parameters := fun blockName paramName =>
  ((m.find blockName).bind fun block => block.find paramName).getD []

/-- Every block of the container has a parameter, and every parameter a value. -/
def Filled : Prop := ∀ block ∈ m, block.2 ≠ [] ∧ ∀ param ∈ block.2, param.2 ≠ []

/-- `push_back` keeps the container filled. -/
theorem Filled.pushBack {m : InputContainer} (filled : m.Filled)
    (blockName paramName paramValue : List Char) :
    (m.pushBack blockName paramName paramValue).Filled := fun block mem => by
  rcases StdMap.mem_modify mem with old | rfl
  · exact filled block old
  · refine ⟨StdMap.modify_ne_nil _ _ _ _, fun param inBlock => ?_⟩
    rcases StdMap.mem_modify inBlock with oldParam | rfl
    · cases found : m.find blockName with
      | none => rw [found] at oldParam; cases oldParam
      | some values =>
        rw [found] at oldParam
        exact (filled _ (StdMap.mem_of_find found)).2 param oldParam
    · exact List.append_ne_nil_of_right_ne_nil _ (List.cons_ne_nil _ _)

theorem Filled.find_isSome {m : InputContainer} (filled : m.Filled) (blockName : List Char) :
    (m.find blockName).isSome ↔ ∃ paramName, m.toParameters blockName paramName ≠ [] := by
  constructor
  · intro found
    obtain ⟨block, found⟩ := Option.isSome_iff_exists.mp found
    obtain ⟨nonempty, params⟩ := filled _ (StdMap.mem_of_find found)
    obtain ⟨⟨paramName, values⟩, rest, rfl⟩ := List.exists_cons_of_ne_nil nonempty
    have first := params _ (List.mem_cons_self _ _)
    exact ⟨paramName, by simpa [toParameters, found, StdMap.find] using first⟩
  · rintro ⟨paramName, nonempty⟩
    cases found : m.find blockName
    · simp [toParameters, found] at nonempty
    · rfl

theorem Filled.values_ne_nil {m : InputContainer} (filled : m.Filled) {blockName paramName : List Char}
    {block : StdMap (List (List Char))} {values : List (List Char)}
    (foundBlock : m.find blockName = some block) (foundParam : block.find paramName = some values) :
    values ≠ [] :=
  (filled _ (StdMap.mem_of_find foundBlock)).2 _ (StdMap.mem_of_find foundParam)

end InputContainer

def blockNotFound (blockName : List Char) : String :=
  "BlockName " ++ String.mk blockName ++ " cannot be found"

def paramNotFound (blockName paramName : List Char) : String :=
  "Parameter " ++ String.mk paramName ++ " cannot be found in block [" ++ String.mk blockName ++ "]"

def indexNotFound (blockName paramName : List Char) (num : ℤ) : String :=
  "Index " ++ toString num ++ " cannot be found in block:parameter" ++ String.mk blockName ++ ":" ++
    String.mk paramName

def sizeT (num : ℤ) : ℕ := (num % 2 ^ 64).toNat

/-- The lookup `GetString`, `GetReal` and `GetInt` share: value `num` of `paramName` in
`blockName`, read by `convert`. -/
def getParam {α : Type} (convert : List Char → Except Abort α) (inputParameters : InputContainer)
    (blockName paramName : List Char) (num : ℤ) : Except Abort α :=
  match inputParameters.find blockName with
  | none => throw (.idefixError (blockNotFound blockName))
  | some block =>
    match block.find paramName with
    | none => throw (.idefixError (paramNotFound blockName paramName))
    | some values =>
      match values.get? (sizeT num) with
      | some value => convert value
      | none => throw (.idefixError (indexNotFound blockName paramName num))

/-- `Input::GetString(blockName, paramName, num)`. -/
def getString (inputParameters : InputContainer) (blockName paramName : List Char) (num : ℤ) :
    Except Abort (List Char) :=
  getParam .ok inputParameters blockName paramName num

/-- `Input::GetReal(blockName, paramName, num)`: `std::stod`, or `std::stof` in single
precision, of the value; the conversion is the parameter `stod`. -/
def getReal (stod : List Char → Except Abort ℝ) (inputParameters : InputContainer)
    (blockName paramName : List Char) (num : ℤ) : Except Abort ℝ :=
  getParam stod inputParameters blockName paramName num

/-- `Input::GetInt(blockName, paramName, num)`: `std::stoi` of the value. -/
def getInt (inputParameters : InputContainer) (blockName paramName : List Char) (num : ℤ) :
    Except Abort ℤ :=
  getParam stoi inputParameters blockName paramName num

/-- `Input::CheckEntry(blockName, paramName)`: the number of values, or `-1`. -/
def checkEntry (inputParameters : InputContainer) (blockName paramName : List Char) : ℤ :=
  match inputParameters.find blockName with
  | none => -1
  | some block =>
    match block.find paramName with
    | none => -1
    | some values => values.length

section Accessors

variable {m : InputContainer} (blockName paramName : List Char)

/-- On a filled container the accessors answer from the values stored under the pair: the
value at index `num` when there is one; otherwise `Index` when the parameter has values,
`Parameter` when only other parameters of the block have some, and `BlockName` when none
has. -/
theorem getParam_filled (filled : m.Filled) {α : Type} (convert : List Char → Except Abort α)
    (num : ℤ) :
    (∀ value, (m.toParameters blockName paramName).get? (sizeT num) = some value →
        getParam convert m blockName paramName num = convert value) ∧
      (m.toParameters blockName paramName ≠ [] →
        (m.toParameters blockName paramName).length ≤ sizeT num →
          getParam convert m blockName paramName num =
            throw (.idefixError (indexNotFound blockName paramName num))) ∧
      (m.toParameters blockName paramName = [] →
        (∃ paramName', m.toParameters blockName paramName' ≠ []) →
          getParam convert m blockName paramName num =
            throw (.idefixError (paramNotFound blockName paramName))) ∧
      ((∀ paramName', m.toParameters blockName paramName' = []) →
        getParam convert m blockName paramName num = throw (.idefixError (blockNotFound blockName))) := by
  cases foundBlock : m.find blockName with
  | none =>
    have absent (paramName' : List Char) : m.toParameters blockName paramName' = [] := by
      simp [InputContainer.toParameters, foundBlock]
    simp only [getParam, foundBlock, absent, List.get?_nil, ne_eq, not_true_eq_false,
      exists_const, false_imp_iff, true_imp_iff, implies_true, and_true, true_and]
    exact fun _ none => by cases none
  | some block =>
    have present := (filled.find_isSome blockName).mp (by rw [foundBlock]; rfl)
    cases foundParam : block.find paramName with
    | none =>
      have absent : m.toParameters blockName paramName = [] := by
        simp [InputContainer.toParameters, foundBlock, foundParam]
      simp only [getParam, foundBlock, foundParam, absent, List.get?_nil, ne_eq,
        not_true_eq_false, false_imp_iff, true_imp_iff, implies_true, true_and]
      exact ⟨fun _ none => (by cases none), fun none => absurd none (not_forall.mpr present)⟩
    | some values =>
      have stored : m.toParameters blockName paramName = values := by
        simp [InputContainer.toParameters, foundBlock, foundParam]
      have nonempty := filled.values_ne_nil foundBlock foundParam
      simp only [getParam, foundBlock, foundParam, stored]
      refine ⟨fun value found => (by rw [found]), fun _ beyond => ?_,
        fun empty => absurd empty nonempty, fun none => absurd (stored ▸ none paramName) nonempty⟩
      rw [List.get?_eq_none.mpr beyond]

theorem getParam_filled_grid :
    let m : InputContainer :=
      [("Grid".toList, [("X1-grid".toList, ["1".toList, "0.0".toList, "64".toList])])]
    m.Filled ∧
    ((∀ value, (m.toParameters "Grid".toList "X1-grid".toList).get? (sizeT 2) = some value →
        getParam stoi m "Grid".toList "X1-grid".toList 2 = stoi value) ∧
      (m.toParameters "Grid".toList "X1-grid".toList ≠ [] →
        (m.toParameters "Grid".toList "X1-grid".toList).length ≤ sizeT 2 →
          getParam stoi m "Grid".toList "X1-grid".toList 2 =
            throw (.idefixError (indexNotFound "Grid".toList "X1-grid".toList 2))) ∧
      (m.toParameters "Grid".toList "X1-grid".toList = [] →
        (∃ paramName', m.toParameters "Grid".toList paramName' ≠ []) →
          getParam stoi m "Grid".toList "X1-grid".toList 2 =
            throw (.idefixError (paramNotFound "Grid".toList "X1-grid".toList))) ∧
      ((∀ paramName', m.toParameters "Grid".toList paramName' = []) →
        getParam stoi m "Grid".toList "X1-grid".toList 2 =
          throw (.idefixError (blockNotFound "Grid".toList)))) := by
  intro m
  have filled : m.Filled := by unfold InputContainer.Filled; decide
  exact ⟨filled, getParam_filled "Grid".toList "X1-grid".toList filled stoi 2⟩

theorem checkEntry_filled (filled : m.Filled) :
    checkEntry m blockName paramName =
      if m.toParameters blockName paramName = [] then (-1 : ℤ)
      else ((m.toParameters blockName paramName).length : ℤ) := by
  unfold checkEntry
  cases foundBlock : m.find blockName with
  | none => simp [InputContainer.toParameters, foundBlock]
  | some block =>
    cases foundParam : block.find paramName with
    | none => simp [InputContainer.toParameters, foundBlock, foundParam]
    | some values =>
      simp [InputContainer.toParameters, foundBlock, foundParam,
        filled.values_ne_nil foundBlock foundParam]

theorem checkEntry_filled_grid :
    let m : InputContainer :=
      [("Grid".toList, [("X1-grid".toList, ["1".toList, "0.0".toList, "64".toList])])]
    m.Filled ∧
    checkEntry m "Grid".toList "X2-grid".toList =
      if m.toParameters "Grid".toList "X2-grid".toList = [] then (-1 : ℤ)
      else ((m.toParameters "Grid".toList "X2-grid".toList).length : ℤ) := by
  intro m
  have filled : m.Filled := by unfold InputContainer.Filled; decide
  exact ⟨filled, checkEntry_filled "Grid".toList "X2-grid".toList filled⟩

end Accessors

section CommandLine

variable {cfg : Config} {withMPI : Bool} {files : List (List Char)} {st st' : CommandLine}
  {current current' : List Char} {rest rest' : List (List Char)}

end CommandLine

end Idefix.Input

import Mathlib.Logic.Function.Basic
import Mathlib.Data.List.Basic

/-!
# `Input::Input`: the line loop of the input-file reader

The constructor reads the file with `std::getline`, cuts each line at its first `#`, skips a
line that is empty or made of spaces, opens a block at a line whose first non-space character
is `[`, and otherwise splits the line into words with `operator>>` and pushes every word after
the first to `inputParameters[blockName][paramName]`. `IDEFIX_ERROR` stops the program, so
the loop is a function into `Except String`. Text is a list of characters; `inputParameters` is
a function of the block and parameter names, an absent pair being the empty vector, as only
`push_back` ever creates one.

`blockName.assign(line, firstChar, lastChar-1)` takes `lastChar - 1` characters from the
character after `[`: the length of the name when `[` is in the first column, but `firstChar - 1`
more characters, up to the end of the line, when the header is indented. The spec's grammar,
`grammarMeaning`, names the block by the characters between the brackets wherever the header
starts.
-/

namespace Idefix.Input

set_option autoImplicit false

def isSpace (c : Char) : Bool :=
  c == ' ' || c == '\t' || c == '\n' || c == '\x0B' || c == '\x0C' || c == '\r'

/-- Repeated `std::getline(file, lineWithComments)`, `current` being the line read so far: a
line ends at `\n`, and the text after the last `\n` is a line unless it is empty. -/
def getlines : List Char → List Char → List (List Char)
  | [], [] => []
  | [], current => [current]
  | c :: rest, current =>
    if c = '\n' then current :: getlines rest [] else getlines rest (current ++ [c])

/-- The words repeated `operator>>` reads from a `std::stringstream`: maximal runs of
characters that are not `isspace`. -/
def words : List Char → List Char → List (List Char)
  | [], [] => []
  | [], current => [current]
  | c :: rest, current =>
    if isSpace c then
      if current = [] then words rest [] else current :: words rest []
    else words rest (current ++ [c])

abbrev Parameters := List Char → List Char → List (List Char)

/-- `inputParameters[blockName][paramName].push_back(paramValue)`. -/
def pushBack (params : Parameters) (blockName paramName paramValue : List Char) : Parameters :=
  Function.update params blockName
    (Function.update (params blockName) paramName (params blockName paramName ++ [paramValue]))

/-- The variables the line loop carries from one line to the next. -/
structure LoopState where
  haveBlock : Bool
  blockName : List Char
  paramName : List Char
  inputParameters : Parameters

/-- One iteration of the `while(std::getline(...))` loop. -/
def readLine (inputFileName : String) (st : LoopState) (lineWithComments : List Char) :
    Except String LoopState :=
  let line := lineWithComments.takeWhile (· ≠ '#')
  if line = [] then .ok st
  else
    match line.findIdx? (· ≠ ' ') with
    | none => .ok st
    | some firstChar =>
      if line.get? firstChar = some '[' then
        let firstChar := firstChar + 1
        match (line.drop firstChar).findIdx? (· = ']') with
        | none =>
          .error ("Block name '" ++ String.mk st.blockName ++ "' in file '" ++ inputFileName ++
            "' not properly ended")
        | some offset =>
          let lastChar := firstChar + offset
          .ok { st with blockName := (line.drop firstChar).take (lastChar - 1), haveBlock := true }
      else if !st.haveBlock then
        .error ("Input file '" ++ inputFileName ++
          "' must specify a block name before the first parameter")
      else
        match words line [] with
        | [] => .ok st
        | paramName :: values =>
          .ok { st with
            paramName := paramName
            inputParameters := values.foldl (fun params paramValue =>
              pushBack params st.blockName paramName paramValue) st.inputParameters }

/-- The `while(std::getline(...))` loop over the lines of the file. -/
def readLines (inputFileName : String) : LoopState → List (List Char) → Except String LoopState
  | st, [] => .ok st
  | st, lineWithComments :: rest => do
    let st ← readLine inputFileName st lineWithComments
    readLines inputFileName st rest

/-- The line loop of `Input::Input(argc, argv)` on the text of file `inputFileName`, from the
parameters `ParseCommandLine` stored. -/
def input (inputFileName : String) (params : Parameters) (text : List Char) :
    Except String Parameters :=
  (readLines inputFileName ⟨false, [], [], params⟩ (getlines text [])).map (·.inputParameters)

/-- The block open so far, and the parameters read. -/
structure GrammarState where
  block : Option (List Char)
  params : Parameters

def grammarLine (st : GrammarState) (lineWithComments : List Char) : Option GrammarState :=
  let line := lineWithComments.takeWhile (· ≠ '#')
  match line.dropWhile isSpace with
  | [] => some st
  | c :: rest =>
    if c = '[' then
      if ']' ∈ rest then some { st with block := some (rest.takeWhile (· ≠ ']')) } else none
    else
    match st.block, words line [] with
    | none, _ => none
    | some _, [] => some st
    | some block, name :: values =>
      some { st with
        params := values.foldl (fun params value => pushBack params block name value) st.params }

def grammarLines : GrammarState → List (List Char) → Option GrammarState
  | st, [] => some st
  | st, line :: rest => (grammarLine st line).bind (grammarLines · rest)

/-- The meaning of a file under the spec's grammar, or `none` for a malformed file. -/
def grammarMeaning (text : List Char) : Option Parameters :=
  (grammarLines ⟨none, fun _ _ => []⟩ (getlines text [])).map (·.params)

/-- Two files the code reads otherwise than the grammar: an indented header, whose values the
code stores under `Grid]`, and a tab-only line before the first block, which the code rejects. -/
theorem input_diverges_from_grammar :
    (input "idefix.ini" (fun _ _ => []) "  [Grid]\nX 1\n".toList).map (fun params =>
        (params "Grid]".toList "X".toList, params "Grid".toList "X".toList)) =
      .ok (["1".toList], []) ∧
    (grammarMeaning "  [Grid]\nX 1\n".toList).map (fun params =>
        (params "Grid]".toList "X".toList, params "Grid".toList "X".toList)) =
      some ([], ["1".toList]) ∧
    input "idefix.ini" (fun _ _ => []) "\t\n[Grid]\nX 1\n".toList =
      .error "Input file 'idefix.ini' must specify a block name before the first parameter" ∧
    (grammarMeaning "\t\n[Grid]\nX 1\n".toList).map (fun params => params "Grid".toList "X".toList) =
      some ["1".toList] :=
  ⟨rfl, rfl, rfl, rfl⟩

/-- A line on which the code reads what the grammar reads: once cut at `#` and stripped of its
leading spaces, it is empty, or it starts with a character that is not whitespace, and a block
header has no leading space. -/
def Aligned (lineWithComments : List Char) : Prop :=
  let line := lineWithComments.takeWhile (· ≠ '#')
  match line.dropWhile (· = ' ') with
  | [] => True
  | c :: rest => isSpace c = false ∧ (c = '[' → line = c :: rest)

/-- The loop's variables hold what the grammar has read. -/
def Simulates (st : LoopState) (gst : GrammarState) : Prop :=
  st.inputParameters = gst.params ∧
    match gst.block with
    | none => st.haveBlock = false
    | some block => st.haveBlock = true ∧ st.blockName = block

theorem replicate_append_dropWhile (line : List Char) :
    List.replicate (line.takeWhile (· = ' ')).length ' ' ++ line.dropWhile (· = ' ') = line := by
  conv_rhs => rw [← List.takeWhile_append_dropWhile (· = ' ') line]
  congr 1
  exact (List.eq_replicate_iff.mpr ⟨rfl, fun _ lead => by simpa using List.mem_takeWhile_imp lead⟩).symm

theorem findIdx?_spaces_append (n : ℕ) {c : Char} (other : c ≠ ' ') (rest : List Char) :
    (List.replicate n ' ' ++ c :: rest).findIdx? (· ≠ ' ') = some n := by
  simp [List.findIdx?_append, List.findIdx?_replicate, List.findIdx?_cons, other]

theorem get?_spaces_append (n : ℕ) (c : Char) (rest : List Char) :
    (List.replicate n ' ' ++ c :: rest).get? n = some c := by
  induction n with
  | zero => simp
  | succ n ih => simpa [List.replicate_succ] using ih

theorem dropWhile_isSpace_spaces_append (n : ℕ) {c : Char} (visible : isSpace c = false)
    (rest : List Char) : (List.replicate n ' ' ++ c :: rest).dropWhile isSpace = c :: rest := by
  induction n with
  | zero => simp [List.dropWhile_cons, visible]
  | succ n ih => simp [List.replicate_succ, List.dropWhile_cons, isSpace, ih]

theorem dropWhile_isSpace_spaces (n : ℕ) : (List.replicate n ' ').dropWhile isSpace = [] := by
  induction n with
  | zero => rfl
  | succ n ih => simp [List.replicate_succ, List.dropWhile_cons, isSpace, ih]

theorem take_findIdx?_closing {rest : List Char} {offset : ℕ}
    (closing : rest.findIdx? (· = ']') = some offset) :
    rest.take offset = rest.takeWhile (· ≠ ']') := by
  induction rest generalizing offset with
  | nil => simp at closing
  | cons c rest ih =>
    by_cases bracket : c = ']'
    · simp_all [List.findIdx?_cons]
    · obtain ⟨offset, found, rfl⟩ : ∃ k, rest.findIdx? (· = ']') = some k ∧ k + 1 = offset := by
        simpa [List.findIdx?_cons, bracket] using closing
      simpa [bracket] using ih found

theorem readLine_simulates (inputFileName : String) {st : LoopState} {gst : GrammarState}
    {lineWithComments : List Char} (aligned : Aligned lineWithComments) (sim : Simulates st gst) :
    match readLine inputFileName st lineWithComments, grammarLine gst lineWithComments with
    | .ok st, some gst => Simulates st gst
    | .error _, none => True
    | _, _ => False := by
  unfold Aligned at aligned
  simp only [readLine, grammarLine]
  generalize lineWithComments.takeWhile (· ≠ '#') = line at aligned ⊢
  have shape := replicate_append_dropWhile line
  cases stripped : line.dropWhile (· = ' ') with
  | nil =>
    rw [stripped, List.append_nil] at shape
    rw [← shape, dropWhile_isSpace_spaces]
    simp only [List.findIdx?_replicate]
    split_ifs <;> simp_all
  | cons c rest =>
    simp only [stripped] at aligned
    obtain ⟨visible, header⟩ := aligned
    have notSpace : c ≠ ' ' := by
      rintro rfl
      simp [isSpace] at visible
    by_cases bracket : c = '['
    · subst bracket
      rw [header rfl]
      simp only [List.findIdx?_cons, List.dropWhile_cons, visible]
      simp
      cases closing : rest.findIdx? (· = ']') with
      | none =>
        have absent : ']' ∉ rest := fun mem => by
          simpa using List.findIdx?_eq_none_iff.mp closing _ mem
        simp [absent]
      | some offset =>
        have present : ']' ∈ rest := by
          by_contra absent
          rw [List.findIdx?_eq_none_iff.mpr (fun x mem => by simpa using ne_of_mem_of_not_mem mem absent)] at closing
          cases closing
        simp only [present, if_true]
        exact ⟨sim.1, rfl, by simpa using take_findIdx?_closing closing⟩
    · rw [stripped] at shape
      have nonempty : List.replicate (List.takeWhile (· = ' ') line).length ' ' ++ c :: rest ≠ [] := by
        simp
      rw [← shape, findIdx?_spaces_append _ notSpace, dropWhile_isSpace_spaces_append _ visible]
      simp only [nonempty, get?_spaces_append, bracket, Option.some.injEq, if_false]
      obtain ⟨params, blockSim⟩ := sim
      cases current : gst.block with
      | none =>
        rw [current] at blockSim
        simp [blockSim]
      | some block =>
        rw [current] at blockSim
        obtain ⟨opened, named⟩ := blockSim
        cases words (List.replicate (List.takeWhile (· = ' ') line).length ' ' ++ c :: rest) [] with
        | nil =>
          simp only [opened, Bool.not_true]
          exact ⟨params, by rw [current]; exact ⟨opened, named⟩⟩
        | cons paramName values =>
          simp only [opened, Bool.not_true]
          exact ⟨by rw [params, named], rfl, named⟩

theorem readLines_simulates (inputFileName : String) (lines : List (List Char))
    (aligned : ∀ line ∈ lines, Aligned line) {st : LoopState} {gst : GrammarState}
    (sim : Simulates st gst) :
    match readLines inputFileName st lines, grammarLines gst lines with
    | .ok st, some gst => Simulates st gst
    | .error _, none => True
    | _, _ => False := by
  induction lines generalizing st gst with
  | nil => exact sim
  | cons line rest ih =>
    have step := readLine_simulates inputFileName (aligned line (.head _)) sim
    simp only [readLines, grammarLines]
    revert step
    cases readLine inputFileName st line <;> cases grammarLine gst line <;> intro step
    · trivial
    · exact step.elim
    · exact step.elim
    · exact ih (fun line later => aligned line (.tail _ later)) step

/-- On a file whose lines are aligned, the line loop stops with `IDEFIX_ERROR` exactly when
the grammar rejects the file, and otherwise leaves the grammar's meaning in `inputParameters`. -/
theorem input_eq_grammarMeaning (inputFileName : String) (text : List Char)
    (aligned : ∀ line ∈ getlines text [], Aligned line) :
    (input inputFileName (fun _ _ => []) text).toOption = grammarMeaning text := by
  have run := readLines_simulates inputFileName (getlines text []) aligned
    (show Simulates ⟨false, [], [], fun _ _ => []⟩ ⟨none, fun _ _ => []⟩ from ⟨rfl, rfl⟩)
  unfold input grammarMeaning
  revert run
  cases readLines inputFileName ⟨false, [], [], fun _ _ => []⟩ (getlines text []) <;>
    cases grammarLines ⟨none, fun _ _ => []⟩ (getlines text []) <;> intro run
  · rfl
  · exact run.elim
  · exact run.elim
  · exact congrArg some run.1

theorem input_eq_grammarMeaning_gridBlock :
    (∀ line ∈ getlines "[Grid]\nX1-grid 1 0.0 64 u 1.0 # uniform\n".toList [], Aligned line) ∧
      (input "idefix.ini" (fun _ _ => []) "[Grid]\nX1-grid 1 0.0 64 u 1.0 # uniform\n".toList).toOption =
        grammarMeaning "[Grid]\nX1-grid 1 0.0 64 u 1.0 # uniform\n".toList := by
  have aligned : ∀ line ∈ getlines "[Grid]\nX1-grid 1 0.0 64 u 1.0 # uniform\n".toList [], Aligned line := by
    have split : getlines "[Grid]\nX1-grid 1 0.0 64 u 1.0 # uniform\n".toList [] =
        ["[Grid]".toList, "X1-grid 1 0.0 64 u 1.0 # uniform".toList] := by decide
    rw [split]
    simp +decide [Aligned]
  exact ⟨aligned, input_eq_grammarMeaning _ _ aligned⟩

end Idefix.Input

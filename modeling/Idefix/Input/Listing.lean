import Idefix.Input.Parameters

/-!
# `PrintParameters`: the listing of the parameters, read back

`PrintParameters` writes the container between two rules of dashes: a title line, then for
each block a line `[blockName]`, and for each of its parameters a line of the name and the
values, each after a tab. The lines of the blocks are an input file: the line loop of
`Input::Input` reads them back to the parameters of the container, whenever its names can be
read back at all (block names without `#`, `]` or a line break, parameter names and values that
are words). The listing as it is printed is not one: its first line, a rule of dashes, comes
before any block, and the line loop stops at it.
-/

namespace Idefix.Input

set_option autoImplicit false

/-- The rule of 77 dashes `PrintParameters` writes before and after the listing. -/
def rule : List Char := List.replicate 77 '-'

/-- `"\t" << paramName << "\t"`, then `"\t" << paramValue` for each value. -/
def paramLine (param : List Char × List (List Char)) : List Char :=
  '\t' :: param.1 ++ '\t' :: param.2.flatMap fun paramValue => '\t' :: paramValue

/-- The lines of the blocks: `"[" << blockName << "]"`, then one line per parameter. -/
def blockLines (m : InputContainer) : List (List Char) :=
  m.flatMap fun block => ('[' :: block.1 ++ [']']) :: block.2.map paramLine

/-- Lines, each ended by `std::endl`. -/
def endLines (lines : List (List Char)) : List Char := lines.flatMap fun line => line ++ ['\n']

/-- `PrintParameters`: what it writes to `idfx::cout`. -/
def printParameters (inputFileName : List Char) (m : InputContainer) : List Char :=
  endLines (rule :: ("Input Parameters using input file ".toList ++ inputFileName ++ [':']) ::
    rule :: blockLines m ++ [rule, rule])

def Word (w : List Char) : Prop := w ≠ [] ∧ ∀ c ∈ w, isSpace c = false ∧ c ≠ '#'

instance (w : List Char) : Decidable (Word w) := inferInstanceAs (Decidable (_ ∧ _))

theorem Word.newline_not_mem {w : List Char} (word : Word w) : '\n' ∉ w := fun mem => by
  simpa [isSpace] using (word.2 _ mem).1

namespace InputContainer

/-- The keys of the `std::map`s are distinct: the block names, and the parameter names of each
block. -/
def Keyed (m : InputContainer) : Prop :=
  (m.map Prod.fst).Nodup ∧ ∀ block ∈ m, (block.2.map Prod.fst).Nodup

/-- Names the line loop reads back: block names without `#`, `]` or a line break, and parameter
names and values that are words. -/
def Printable (m : InputContainer) : Prop :=
  ∀ block ∈ m, (∀ c ∈ block.1, c ≠ '#' ∧ c ≠ ']' ∧ c ≠ '\n') ∧
    ∀ param ∈ block.2, Word param.1 ∧ ∀ paramValue ∈ param.2, Word paramValue

instance (m : InputContainer) : Decidable m.Keyed := inferInstanceAs (Decidable (_ ∧ _))

instance (m : InputContainer) : Decidable m.Printable :=
  inferInstanceAs (Decidable (∀ block ∈ m, _))

end InputContainer

namespace StdMap

variable {V : Type}

theorem map_fst_modify (m : StdMap V) (key : List Char) (empty : V) (f : V → V) :
    (m.modify key empty f).map Prod.fst =
      if key ∈ m.map Prod.fst then m.map Prod.fst else m.map Prod.fst ++ [key] := by
  induction m with
  | nil => rfl
  | cons entry rest ih =>
    obtain ⟨k, v⟩ := entry
    by_cases here : k = key
    · subst here
      rw [modify, if_pos rfl, List.map_cons, List.map_cons, if_pos (List.mem_cons_self _ _)]
    · rw [modify, if_neg here, List.map_cons, List.map_cons, ih]
      by_cases later : key ∈ rest.map Prod.fst
      · rw [if_pos later, if_pos (List.mem_cons_of_mem _ later)]
      · rw [if_neg later, if_neg fun mem => (List.mem_cons.mp mem).elim (fun same => here same.symm)
          later, List.cons_append]

theorem nodup_modify {m : StdMap V} (nodup : (m.map Prod.fst).Nodup) (key : List Char)
    (empty : V) (f : V → V) : ((m.modify key empty f).map Prod.fst).Nodup := by
  rw [map_fst_modify]
  split_ifs with present
  · exact nodup
  · exact nodup.append (List.nodup_singleton key) (List.disjoint_singleton.mpr present)

end StdMap

theorem InputContainer.keyed_nil : InputContainer.Keyed [] :=
  ⟨List.nodup_nil, fun _ mem => absurd mem (List.not_mem_nil _)⟩

/-- `push_back` keeps the keys distinct. -/
theorem InputContainer.Keyed.pushBack {m : InputContainer} (keyed : m.Keyed)
    (blockName paramName paramValue : List Char) :
    (m.pushBack blockName paramName paramValue).Keyed := by
  refine ⟨StdMap.nodup_modify keyed.1 _ _ _, fun block mem => ?_⟩
  rcases StdMap.mem_modify mem with old | rfl
  · exact keyed.2 block old
  · refine StdMap.nodup_modify ?_ _ _ _
    cases found : m.find blockName with
    | none => exact List.nodup_nil
    | some params => exact keyed.2 _ (StdMap.mem_of_find found)

theorem getlines_line {line : List Char} (single : '\n' ∉ line) (rest current : List Char) :
    getlines (line ++ '\n' :: rest) current = (current ++ line) :: getlines rest [] := by
  induction line generalizing current with
  | nil => simp [getlines]
  | cons c line ih =>
    have other : c ≠ '\n' := fun same => single (same ▸ List.mem_cons_self _ _)
    rw [List.cons_append, getlines, if_neg other, ih (fun mem => single (List.mem_cons_of_mem _ mem)),
      List.append_assoc, List.singleton_append]

theorem getlines_endLines {lines : List (List Char)} (single : ∀ line ∈ lines, '\n' ∉ line) :
    getlines (endLines lines) [] = lines := by
  induction lines with
  | nil => rfl
  | cons line rest ih =>
    rw [endLines, List.flatMap_cons, List.append_assoc, List.singleton_append,
      getlines_line (single line (List.mem_cons_self _ _)), ← endLines,
      ih fun l mem => single l (List.mem_cons_of_mem _ mem), List.nil_append]

theorem words_append {w : List Char} (visible : ∀ c ∈ w, isSpace c = false) (rest current : List Char) :
    words (w ++ rest) current = words rest (current ++ w) := by
  induction w generalizing current with
  | nil => simp
  | cons c w ih =>
    rw [List.cons_append, words, if_neg (by simp [visible c (List.mem_cons_self _ _)]),
      ih fun c mem => visible c (List.mem_cons_of_mem _ mem), List.append_assoc, List.singleton_append]

theorem words_tab (rest current : List Char) :
    words ('\t' :: rest) current = if current = [] then words rest [] else current :: words rest [] := by
  simp [words, isSpace]

theorem words_values {values : List (List Char)} (plain : ∀ v ∈ values, Word v)
    {current : List Char} (word : current = [] ∨ Word current) :
    words (values.flatMap fun paramValue => '\t' :: paramValue) current =
      (if current = [] then [] else [current]) ++ values := by
  induction values generalizing current with
  | nil => rcases word with rfl | ⟨nonempty, _⟩ <;> simp [words, *]
  | cons v values ih =>
    have head := plain v (List.mem_cons_self _ _)
    rw [List.flatMap_cons, List.cons_append, words_tab, words_append (fun c mem => (head.2 c mem).1),
      List.nil_append,
      ih (fun w mem => plain w (List.mem_cons_of_mem _ mem)) (.inr head), if_neg head.1]
    split_ifs <;> simp

theorem words_paramLine {param : List Char × List (List Char)} (name : Word param.1)
    (plain : ∀ v ∈ param.2, Word v) : words (paramLine param) [] = param.1 :: param.2 := by
  rw [paramLine, List.cons_append, words_tab, if_pos rfl, words_append (fun c mem => (name.2 c mem).1),
    List.nil_append, words_tab, if_neg name.1, words_values plain (.inl rfl)]
  simp

theorem takeWhile_comment {line : List Char} (plain : ∀ c ∈ line, c ≠ '#') :
    line.takeWhile (· ≠ '#') = line :=
  List.takeWhile_eq_self_iff.mpr fun c mem => by simpa using plain c mem

theorem readLine_header (inputFileName : String) (st : LoopState) {blockName : List Char}
    (plain : ∀ c ∈ blockName, c ≠ '#' ∧ c ≠ ']' ∧ c ≠ '\n') :
    readLine inputFileName st ('[' :: blockName ++ [']']) =
      .ok { st with blockName := blockName, haveBlock := true } := by
  have noComment : ∀ c ∈ '[' :: blockName ++ [']'], c ≠ '#' := by
    intro c mem
    rcases List.mem_append.mp mem with inHead | inTail
    · rcases List.mem_cons.mp inHead with rfl | inName
      · decide
      · exact (plain c inName).1
    · rw [List.mem_singleton.mp inTail]
      decide
  have unclosed : blockName.findIdx? (· = ']') = none :=
    List.findIdx?_eq_none_iff.mpr fun c mem => by simpa using (plain c mem).2.1
  rw [readLine, takeWhile_comment noComment]
  simp [List.findIdx?_append, unclosed]

theorem readLine_paramLine (inputFileName : String) {st : LoopState} (opened : st.haveBlock = true)
    {param : List Char × List (List Char)} (name : Word param.1) (plain : ∀ v ∈ param.2, Word v) :
    readLine inputFileName st (paramLine param) =
      .ok { st with
        paramName := param.1
        inputParameters := param.2.foldl (fun params paramValue =>
          pushBack params st.blockName param.1 paramValue) st.inputParameters } := by
  have noComment : ∀ c ∈ paramLine param, c ≠ '#' := by
    simp only [paramLine, List.mem_cons, List.mem_append, List.mem_flatMap]
    rintro c ((rfl | inName) | rfl | ⟨v, mem, rfl | inValue⟩)
    · decide
    · exact (name.2 c inName).2
    · decide
    · decide
    · exact ((plain v mem).2 c inValue).2
  rw [readLine, takeWhile_comment noComment, words_paramLine name plain]
  simp [paramLine, opened]

def pushParam (blockName : List Char) (params : Parameters) (param : List Char × List (List Char)) :
    Parameters :=
  param.2.foldl (fun params paramValue => pushBack params blockName param.1 paramValue) params

def pushAll (m : InputContainer) (params : Parameters) : Parameters :=
  m.foldl (fun params block => block.2.foldl (pushParam block.1) params) params

theorem readLines_append (inputFileName : String) (st : LoopState) (lines rest : List (List Char)) :
    readLines inputFileName st (lines ++ rest) =
      (readLines inputFileName st lines).bind (readLines inputFileName · rest) := by
  induction lines generalizing st with
  | nil => rfl
  | cons line lines ih =>
    simp only [List.cons_append, readLines]
    cases readLine inputFileName st line with
    | error _ => rfl
    | ok st => exact ih st

theorem readLines_params (inputFileName : String) (params : StdMap (List (List Char))) :
    ∀ st : LoopState, st.haveBlock = true →
      (∀ param ∈ params, Word param.1 ∧ ∀ v ∈ param.2, Word v) →
      ∃ paramName, readLines inputFileName st (params.map paramLine) =
        .ok { st with
          paramName := paramName
          inputParameters := params.foldl (pushParam st.blockName) st.inputParameters } := by
  induction params with
  | nil => exact fun _ _ _ => ⟨_, rfl⟩
  | cons param rest ih =>
    intro st opened plain
    obtain ⟨name, values⟩ := plain param (List.mem_cons_self _ _)
    obtain ⟨paramName, read⟩ := ih { st with
        paramName := param.1
        inputParameters := pushParam st.blockName st.inputParameters param }
      opened fun p mem => plain p (List.mem_cons_of_mem _ mem)
    refine ⟨paramName, ?_⟩
    rw [List.map_cons, readLines, readLine_paramLine inputFileName opened name values]
    exact read

theorem readLines_blockLines (inputFileName : String) :
    ∀ (m : InputContainer) (st : LoopState), m.Printable →
      ∃ st', readLines inputFileName st (blockLines m) = .ok st' ∧
        st'.inputParameters = pushAll m st.inputParameters
  | [], st, _ => ⟨st, rfl, rfl⟩
  | block :: rest, st, printable => by
    obtain ⟨header, plain⟩ := printable block (List.mem_cons_self _ _)
    let opened : LoopState := { st with blockName := block.1, haveBlock := true }
    obtain ⟨paramName, read⟩ := readLines_params inputFileName block.2 opened rfl plain
    obtain ⟨st', readRest, params⟩ := readLines_blockLines inputFileName rest
      { opened with
        paramName := paramName
        inputParameters := block.2.foldl (pushParam block.1) st.inputParameters }
      fun b mem => printable b (List.mem_cons_of_mem _ mem)
    refine ⟨st', ?_, params⟩
    rw [blockLines, List.flatMap_cons, ← blockLines, List.cons_append, readLines,
      readLine_header inputFileName st header]
    show readLines inputFileName opened (block.2.map paramLine ++ blockLines rest) = _
    rw [readLines_append, read]
    exact readRest

theorem pushBack_apply (params : Parameters) (blockName paramName paramValue b p : List Char) :
    pushBack params blockName paramName paramValue b p =
      params b p ++ if b = blockName ∧ p = paramName then [paramValue] else [] := by
  by_cases block : b = blockName
  · subst block
    by_cases param : p = paramName <;> simp [pushBack, param]
  · simp [pushBack, block]

theorem pushParam_apply (blockName : List Char) (param : List Char × List (List Char))
    (params : Parameters) (b p : List Char) :
    pushParam blockName params param b p =
      params b p ++ if b = blockName ∧ p = param.1 then param.2 else [] := by
  obtain ⟨paramName, values⟩ := param
  induction values generalizing params with
  | nil => simp [pushParam]
  | cons v values ih =>
    simp only [pushParam] at ih ⊢
    rw [List.foldl_cons, ih, pushBack_apply]
    split_ifs <;> simp

theorem find_eq_none {V : Type} {m : StdMap V} {key : List Char} (absent : key ∉ m.map Prod.fst) :
    m.find key = none := by
  induction m with
  | nil => rfl
  | cons entry rest ih =>
    simp only [List.map_cons, List.mem_cons, not_or] at absent
    simp [StdMap.find, Ne.symm absent.1, ih absent.2]

theorem foldl_pushParam (blockName : List Char) (params : StdMap (List (List Char)))
    (nodup : (params.map Prod.fst).Nodup) (start : Parameters) (b p : List Char) :
    params.foldl (pushParam blockName) start b p =
      start b p ++ if b = blockName then (params.find p).getD [] else [] := by
  induction params generalizing start with
  | nil => simp [StdMap.find]
  | cons param rest ih =>
    rw [List.map_cons, List.nodup_cons] at nodup
    rw [List.foldl_cons, ih nodup.2, pushParam_apply]
    by_cases block : b = blockName
    · by_cases here : param.1 = p
      · subst here
        simp [block, StdMap.find, find_eq_none nodup.1]
      · simp [block, StdMap.find, here, Ne.symm here]
    · simp [block]

theorem pushAll_apply {m : InputContainer} (keyed : m.Keyed) (start : Parameters) (b p : List Char) :
    pushAll m start b p = start b p ++ m.toParameters b p := by
  induction m generalizing start with
  | nil => simp [pushAll, InputContainer.toParameters, StdMap.find]
  | cons block rest ih =>
    obtain ⟨nodup, blocks⟩ := keyed
    rw [List.map_cons, List.nodup_cons] at nodup
    have restKeyed : InputContainer.Keyed rest :=
      ⟨nodup.2, fun b mem => blocks b (List.mem_cons_of_mem _ mem)⟩
    simp only [pushAll, List.foldl_cons] at ih ⊢
    rw [ih restKeyed, foldl_pushParam _ _ (blocks block (List.mem_cons_self _ _))]
    by_cases here : block.1 = b
    · subst here
      simp [InputContainer.toParameters, StdMap.find, find_eq_none nodup.1]
    · simp [InputContainer.toParameters, StdMap.find, here, Ne.symm here]

theorem newline_not_mem_blockLines {m : InputContainer} (printable : m.Printable) :
    ∀ line ∈ blockLines m, '\n' ∉ line := by
  simp only [blockLines, List.mem_flatMap, List.mem_cons, List.mem_map]
  rintro line ⟨block, mem, rfl | ⟨param, inBlock, rfl⟩⟩ newline
  · simp only [List.cons_append, List.mem_cons, List.mem_append, List.mem_singleton] at newline
    rcases newline with bad | inName | bad
    · exact absurd bad (by decide)
    · exact ((printable block mem).1 _ inName).2.2 rfl
    · exact absurd bad (by decide)
  · obtain ⟨name, values⟩ := (printable block mem).2 param inBlock
    simp only [paramLine, List.cons_append, List.mem_cons, List.mem_append, List.mem_flatMap]
      at newline
    rcases newline with bad | inName | bad | ⟨v, inValues, bad | inValue⟩
    · exact absurd bad (by decide)
    · exact name.newline_not_mem inName
    · exact absurd bad (by decide)
    · exact absurd bad (by decide)
    · exact (values v inValues).newline_not_mem inValue

/-- The lines `PrintParameters` writes for the blocks of a container with printable names are
an input file that the line loop of `Input::Input` reads back to the parameters of the container;
the listing as printed is rejected at its first line, whatever the container. -/
theorem input_printParameters (inputFileName : String) (m : InputContainer) (keyed : m.Keyed)
    (printable : m.Printable) :
    input inputFileName (fun _ _ => []) (endLines (blockLines m)) = .ok m.toParameters ∧
      ∀ (params : Parameters) (name : List Char),
        input inputFileName params (printParameters name m) = .error ("Input file '" ++
          inputFileName ++ "' must specify a block name before the first parameter") := by
  refine ⟨?_, fun params name => ?_⟩
  · obtain ⟨st', read, pushed⟩ := readLines_blockLines inputFileName m ⟨false, [], [], fun _ _ => []⟩
      printable
    rw [input, getlines_endLines (newline_not_mem_blockLines printable), read]
    exact congrArg Except.ok (pushed.trans (funext₂ fun b p => pushAll_apply keyed _ b p))
  · rw [input, printParameters, endLines, List.cons_append, List.flatMap_cons, List.append_assoc,
      List.singleton_append, getlines_line (by simp [rule]), List.nil_append, readLines]
    rfl

theorem input_printParameters_setup :
    let m : InputContainer := [("Setup".toList, [("Rtorus".toList, ["1.0".toList])])]
    m.Keyed ∧ m.Printable ∧
      (input "idefix.ini" (fun _ _ => []) (endLines (blockLines m)) = .ok m.toParameters ∧
        ∀ (params : Parameters) (name : List Char),
          input "idefix.ini" params (printParameters name m) = .error ("Input file '" ++
            "idefix.ini" ++ "' must specify a block name before the first parameter")) :=
  ⟨by decide, by decide, input_printParameters "idefix.ini" _ (by decide) (by decide)⟩

end Idefix.Input

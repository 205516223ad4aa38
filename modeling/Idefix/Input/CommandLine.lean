import Idefix.Input
import Idefix.DataBlock
import Mathlib.Data.Nat.Digits

/-!
# `Input::ParseCommandLine`

The loop over `argv[1..argc)`: `-dec` reads one number per direction (an error without MPI),
`-restart` reads the dump number that follows it or, as the last argument, takes the largest
number among the dump files of the working directory, and `-i` reads the input file name.
Every argument that is not `-i` appends `Unknown option` to the local stream `msg`, which
later `IDEFIX_ERROR(msg)` calls print. `IDEFIX_ERROR` and the exceptions `std::stoi` and
`std::string::substr` throw, which nothing catches, stop the program: the loop is a function
into `Except Abort`. `getDirectoryFiles` is the parameter `files`, the listing of the working
directory in the order `readdir` returns it (empty when the directory cannot be opened).

`explicitDump` is never read; the unbalanced parenthesis of its `if` is read as the evident
condition `i + 1 >= argc`, which selects nothing else.
-/

namespace Idefix.Input

set_option autoImplicit false

/-- How the program stops inside `ParseCommandLine`: `IDEFIX_ERROR`, or an uncaught exception
of the standard library. -/
inductive Abort
  | idefixError (msg : String)
  | invalidArgument
  | outOfRange
  deriving DecidableEq, Repr

@[simp] theorem ok_bind {α β : Type} (a : α) (f : α → Except Abort β) :
    (Except.ok a >>= f) = f a := rfl

@[simp] theorem throw_bind {α β : Type} (e : Abort) (f : α → Except Abort β) :
    (throw e >>= f) = throw e := rfl

theorem bind_eq_ok {α β : Type} {x : Except Abort α} {f : α → Except Abort β} {b : β} :
    x >>= f = .ok b ↔ ∃ a, x = .ok a ∧ f a = .ok b := by
  cases x <;> simp [bind, Except.bind]

/-- `s.substr(pos, count)`, which throws `std::out_of_range` when `pos > s.size()`. -/
def substr (s : List Char) (pos count : ℕ) : Except Abort (List Char) :=
  if pos ≤ s.length then .ok ((s.drop pos).take count) else .error .outOfRange

def findLastDot (fileName : List Char) : ℤ :=
  match fileName.reverse.findIdx? (· = '.') with
  | some k => fileName.length - 1 - k
  | none => -1

/-- `Input::getFileExtension`: `file_name.substr(position + 1)`, everything after the last
`.`, or the whole name when it has none; `position + 1 ≤ size()`, so `substr` does not
throw. -/
def getFileExtension (fileName : List Char) : List Char :=
  fileName.drop (findLastDot fileName + 1).toNat

def decimalValue (digits : List Char) : ℕ :=
  digits.foldl (fun n c => 10 * n + (c.toNat - '0'.toNat)) 0

def readSign : List Char → Bool × List Char
  | '-' :: rest => (true, rest)
  | '+' :: rest => (false, rest)
  | other => (false, other)

theorem readSign_unsigned {c : Char} {cs : List Char} (minus : c ≠ '-') (plus : c ≠ '+') :
    readSign (c :: cs) = (false, c :: cs) := by
  unfold readSign
  split
  · exact absurd (List.head_eq_of_cons_eq ‹_›) minus
  · exact absurd (List.head_eq_of_cons_eq ‹_›) plus
  · rfl

/-- `std::stoi(s)` in base 10, as `strtol` reads it: leading `isspace` characters, an optional
sign, then the longest run of decimal digits. No digit is `std::invalid_argument`; a value
outside `int` is `std::out_of_range`. -/
def stoi (s : List Char) : Except Abort ℤ :=
  let unsigned := readSign (s.dropWhile isSpace)
  let digits := unsigned.2.takeWhile Char.isDigit
  if digits = [] then .error .invalidArgument
  else
    let value : ℤ := if unsigned.1 then -(decimalValue digits : ℤ) else decimalValue digits
    if -2 ^ 31 ≤ value ∧ value < 2 ^ 31 then .ok value else .error .outOfRange

theorem isDigit_bounds {c : Char} (digit : c.isDigit) : 48 ≤ c.toNat ∧ c.toNat ≤ 57 := by
  simp only [Char.isDigit, Bool.and_eq_true, decide_eq_true_eq] at digit
  exact ⟨digit.1, digit.2⟩

theorem isDigit_isSpace {c : Char} (digit : c.isDigit) :
    isSpace c = false ∧ c ≠ '-' ∧ c ≠ '+' := by
  have bounds := isDigit_bounds digit
  refine ⟨?_, ?_, ?_⟩
  · simp only [isSpace, Bool.or_eq_false_iff, beq_eq_false_iff_ne, ne_eq]
    refine ⟨⟨⟨⟨⟨?_, ?_⟩, ?_⟩, ?_⟩, ?_⟩, ?_⟩ <;> rintro rfl <;> simp at bounds
  all_goals rintro rfl; simp at bounds

theorem digitChar_value : ∀ d < 10,
    (Nat.digitChar d).isDigit ∧ (Nat.digitChar d).toNat - '0'.toNat = d := by
  decide

theorem foldl_decimal (a : ℕ) (m : List Char) :
    m.foldl (fun n c => 10 * n + (c.toNat - '0'.toNat)) a =
      a * 10 ^ m.length + decimalValue m := by
  induction m generalizing a with
  | nil => simp [decimalValue]
  | cons c m ih =>
    simp only [decimalValue, List.foldl_cons, List.length_cons] at ih ⊢
    rw [ih, ih (10 * 0 + _)]
    ring

theorem decimalValue_append (l m : List Char) :
    decimalValue (l ++ m) = decimalValue l * 10 ^ m.length + decimalValue m := by
  rw [decimalValue, List.foldl_append, foldl_decimal]
  rfl

theorem decimalValue_lt {ds : List Char} (digits : ∀ c ∈ ds, c.isDigit) :
    decimalValue ds < 10 ^ ds.length := by
  induction ds with
  | nil => decide
  | cons c cs ih =>
    have bounds := isDigit_bounds (digits c (List.mem_cons_self _ _))
    have first :
        decimalValue (c :: cs) = (c.toNat - '0'.toNat) * 10 ^ cs.length + decimalValue cs := by
      rw [decimalValue, List.foldl_cons, foldl_decimal, Nat.mul_zero, Nat.zero_add]
    have rest := ih fun c' mem => digits c' (List.mem_cons_of_mem _ mem)
    have scaled : (c.toNat - '0'.toNat) * 10 ^ cs.length ≤ 9 * 10 ^ cs.length :=
      Nat.mul_le_mul_right _ (by simp at bounds ⊢; omega)
    rw [first, List.length_cons, pow_succ]
    omega

theorem toDigitsCore_digits : ∀ (fuel n : ℕ) (ds : List Char), n < fuel →
    ∃ l, Nat.toDigitsCore 10 fuel n ds = l ++ ds ∧ l ≠ [] ∧ (∀ c ∈ l, c.isDigit) ∧
      decimalValue l = n
  | 0, _, _, enough => absurd enough (Nat.not_lt_zero _)
  | fuel + 1, n, ds, enough => by
    have last := digitChar_value (n % 10) (Nat.mod_lt _ (by decide))
    simp only [Nat.toDigitsCore]
    split_ifs with done
    · refine ⟨[Nat.digitChar (n % 10)], rfl, List.cons_ne_nil _ _, by simpa using last.1, ?_⟩
      simp only [decimalValue, List.foldl_cons, List.foldl_nil, last.2]
      omega
    · obtain ⟨l, digits, -, isDigit, value⟩ :=
        toDigitsCore_digits fuel (n / 10) (Nat.digitChar (n % 10) :: ds) (by omega)
      refine ⟨l ++ [Nat.digitChar (n % 10)], by simp [digits], by simp, ?_, ?_⟩
      · simpa [or_imp, forall_and] using ⟨isDigit, last.1⟩
      · simp only [decimalValue_append, value, List.length_singleton, pow_one]
        simp only [decimalValue, List.foldl_cons, List.foldl_nil, last.2]
        omega

theorem stoi_digits {ds : List Char} (nonempty : ds ≠ []) (digits : ∀ c ∈ ds, c.isDigit)
    (small : decimalValue ds < 2 ^ 31) : stoi ds = .ok (decimalValue ds) := by
  obtain _ | ⟨c, cs⟩ := ds
  · exact absurd rfl nonempty
  obtain ⟨space, minus, plus⟩ := isDigit_isSpace (digits c (List.mem_cons_self _ _))
  have whole : (c :: cs).takeWhile Char.isDigit = c :: cs := List.takeWhile_eq_self_iff.mpr digits
  have fits :
      -2 ^ 31 ≤ (decimalValue (c :: cs) : ℤ) ∧ (decimalValue (c :: cs) : ℤ) < 2 ^ 31 :=
    ⟨by omega, by exact_mod_cast small⟩
  simp only [stoi, List.dropWhile_cons, space, Bool.false_eq_true, if_false,
    readSign_unsigned minus plus, whole,
    List.cons_ne_nil, fits, and_self, if_true]

theorem stoi_toString {n : ℕ} (small : n < 2 ^ 31) :
    stoi (toString (n : ℤ)).toList = .ok n := by
  obtain ⟨l, digits, nonempty, isDigit, value⟩ := toDigitsCore_digits (n + 1) n [] (by omega)
  change stoi (Nat.toDigitsCore 10 (n + 1) n []) = _
  rw [digits, List.append_nil, stoi_digits nonempty isDigit (value ▸ small), value]

/-- The members of `Input` that `ParseCommandLine` sets, and its local stream `msg`. -/
structure CommandLine where
  inputParameters : Parameters
  restartRequested : Bool
  restartFileNumber : ℤ
  inputFileName : List Char
  msg : String

def decUsage (dimensions : ℕ) : String :=
  match dimensions with
  | 1 => "You must specify -dec n1"
  | 2 => "You must specify -dec n1 n2"
  | _ => "You must specify -dec n1 n2 n3"

/-- The loop over the directions after `-dec`: `n` more arguments, each pushed to
`inputParameters["CommandLine"]["dec"]`. Returns the state, the new `argv[i]` and the
arguments after it. -/
def readDec (cfg : Config) (st : CommandLine) :
    ℕ → List Char → List (List Char) → Except Abort (CommandLine × List Char × List (List Char))
  | 0, current, rest => .ok (st, current, rest)
  | _ + 1, _, [] => .error (.idefixError (st.msg ++ decUsage cfg.dimensions))
  | n + 1, _, arg :: rest =>
    readDec cfg
      { st with inputParameters := pushBack st.inputParameters "CommandLine".toList "dec".toList arg }
      n arg rest

/-- One iteration of the loop over the dump files: an entry whose extension is `dmp` is read
as `std::stoi(file.substr(5, 4))` and kept if larger. -/
def dumpStep (irestart : ℤ) (file : List Char) : Except Abort ℤ :=
  if getFileExtension file = "dmp".toList then do
    let ifile ← stoi (← substr file 5 4)
    pure (max irestart ifile)
  else pure irestart

/-- The loop over the dump files in the branch of `-restart` without a number: the largest
`std::stoi(file.substr(5, 4))` over the entries whose extension is `dmp`, from `-1`. -/
def latestDump (files : List (List Char)) : Except Abort ℤ :=
  files.foldlM dumpStep (-1)

/-- The dump number of `-restart`: the next argument, or as the last argument the latest dump
of the directory, as `sirestart`; with the new `argv[i]` and the arguments after it. -/
def restartNumber (files : List (List Char)) (current : List Char) :
    List (List Char) → Except Abort (List Char × List Char × List (List Char))
  | [] => do
    let irestart ← latestDump files
    if irestart < 0 then throw (.idefixError "Cannot restart: no dumpfile found.")
    pure ((toString irestart).toList, current, [])
  | arg :: rest => pure (arg, arg, rest)

/-- The `-dec` test of an iteration at `argv[i] = current`: the state, the new `argv[i]` and
the arguments after it. -/
def decOption (cfg : Config) (withMPI : Bool) (st : CommandLine) (current : List Char)
    (rest : List (List Char)) : Except Abort (CommandLine × List Char × List (List Char)) :=
  if current = "-dec".toList then
    if withMPI then readDec cfg st cfg.dimensions current rest
    else throw (.idefixError
      "Domain decomposition option '-dec' only makes sense when MPI is enabled")
  else pure (st, current, rest)

/-- The `-restart` test of an iteration. -/
def restartOption (files : List (List Char)) (st : CommandLine) (current : List Char)
    (rest : List (List Char)) : Except Abort (CommandLine × List Char × List (List Char)) :=
  if current = "-restart".toList then do
    let (sirestart, current, rest) ← restartNumber files current rest
    let restartFileNumber ← stoi sirestart
    pure ({ st with
      inputParameters := pushBack st.inputParameters "CommandLine".toList "restart".toList sirestart
      restartRequested := true
      restartFileNumber := restartFileNumber }, current, rest)
  else pure (st, current, rest)

/-- The `-i` test of an iteration, which appends `Unknown option` to `msg` for every other
argument: the state and the arguments after the last one the iteration read. -/
def inputOption (st : CommandLine) (current : List Char) (rest : List (List Char)) :
    Except Abort (CommandLine × List (List Char)) :=
  if current = "-i".toList then
    match rest with
    | [] => throw (.idefixError
        "You must specify -i filename where filename is the name of the input file.")
    | arg :: rest => pure ({ st with inputFileName := arg }, rest)
  else pure ({ st with msg := st.msg ++ "Unknown option " ++ String.mk current }, rest)

/-- One iteration of the loop at `argv[i] = current`, `rest` being `argv[i+1..argc)`: the three
tests in turn, each on the `argv[i]` the one before leaves. -/
def parseArg (cfg : Config) (withMPI : Bool) (files : List (List Char)) (st : CommandLine)
    (current : List Char) (rest : List (List Char)) :
    Except Abort (CommandLine × List (List Char)) := do
  let (st, current, rest) ← decOption cfg withMPI st current rest
  let (st, current, rest) ← restartOption files st current rest
  inputOption st current rest

/-- The `for` loop, at most `fuel` iterations. -/
def parseArgs (cfg : Config) (withMPI : Bool) (files : List (List Char)) :
    ℕ → CommandLine → List (List Char) → Except Abort CommandLine
  | _, st, [] => .ok st
  | 0, st, _ :: _ => .ok st
  | fuel + 1, st, current :: rest => do
    let (st, rest) ← parseArg cfg withMPI files st current rest
    parseArgs cfg withMPI files fuel st rest

/-- `Input::ParseCommandLine(argc, argv)` with `args = argv[1..argc)`. Every iteration reads at
least its own argument, so `args.length` iterations reach the end of the loop. -/
def parseCommandLine (cfg : Config) (withMPI : Bool) (files : List (List Char))
    (st : CommandLine) (args : List (List Char)) : Except Abort CommandLine :=
  parseArgs cfg withMPI files args.length st args

section Progress

variable {cfg : Config} {withMPI : Bool} {files : List (List Char)} {st st' : CommandLine}
  {current current' : List Char} {rest rest' : List (List Char)}

theorem readDec_rest : ∀ {n st current rest},
    readDec cfg st n current rest = .ok (st', current', rest') → rest'.length ≤ rest.length
  | 0, _, _, _, h => by cases h; rfl
  | _ + 1, _, _, [], h => by cases h
  | _ + 1, _, _, _ :: _, h => Nat.le_succ_of_le (readDec_rest h)

theorem decOption_rest (h : decOption cfg withMPI st current rest = .ok (st', current', rest')) :
    rest'.length ≤ rest.length := by
  unfold decOption at h
  split_ifs at h
  · exact readDec_rest h
  · cases h; rfl

theorem restartNumber_rest {sirestart : List Char}
    (h : restartNumber files current rest = .ok (sirestart, current', rest')) :
    rest'.length ≤ rest.length := by
  cases rest with
  | nil =>
    simp only [restartNumber, bind_eq_ok] at h
    obtain ⟨_, -, h⟩ := h
    split at h <;> cases h
    rfl
  | cons arg rest => cases h; exact Nat.le_succ _

theorem restartOption_rest
    (h : restartOption files st current rest = .ok (st', current', rest')) :
    rest'.length ≤ rest.length := by
  unfold restartOption at h
  split_ifs at h
  · simp only [bind_eq_ok] at h
    obtain ⟨⟨sirestart, current, rest⟩, number, _, -, h⟩ := h
    cases h
    exact restartNumber_rest number
  · cases h; rfl

theorem parseArg_rest (h : parseArg cfg withMPI files st current rest = .ok (st', rest')) :
    rest'.length ≤ rest.length := by
  simp only [parseArg, bind_eq_ok] at h
  obtain ⟨⟨st₁, current₁, rest₁⟩, dec, ⟨st₂, current₂, rest₂⟩, restart, input⟩ :=
    h
  have consumed := (restartOption_rest restart).trans (decOption_rest dec)
  unfold inputOption at input
  split_ifs at input
  · cases rest₂ with
    | nil => cases input
    | cons arg rest₂ =>
      cases input
      exact Nat.le_of_succ_le consumed
  · cases input; exact consumed

theorem parseArgs_fuel_irrelevant :
    ∀ {fuel fuel' : ℕ} {st : CommandLine} {args : List (List Char)}, args.length ≤ fuel →
      args.length ≤ fuel' →
        parseArgs cfg withMPI files fuel st args = parseArgs cfg withMPI files fuel' st args
  | _, _, _, [], _, _ => by simp only [parseArgs]
  | 0, _, _, _ :: _, enough, _ => absurd enough (Nat.not_succ_le_zero _)
  | _ + 1, 0, _, _ :: _, _, enough' => absurd enough' (Nat.not_succ_le_zero _)
  | fuel + 1, fuel' + 1, st, current :: rest, enough, enough' => by
    simp only [parseArgs]
    cases iteration : parseArg cfg withMPI files st current rest with
    | error _ => rfl
    | ok next =>
      have consumed := parseArg_rest iteration
      simp only [List.length_cons, Nat.add_le_add_iff_right] at enough enough'
      exact parseArgs_fuel_irrelevant (consumed.trans enough) (consumed.trans enough')

theorem parseArgs_eq_parseCommandLine {fuel : ℕ} {args : List (List Char)}
    (enough : args.length ≤ fuel) :
    parseArgs cfg withMPI files fuel st args = parseCommandLine cfg withMPI files st args :=
  parseArgs_fuel_irrelevant enough le_rfl

end Progress

def dumpName (digits : List Char) : List Char := "dump.".toList ++ digits ++ ".dmp".toList

theorem getFileExtension_dumpName (digits : List Char) :
    getFileExtension (dumpName digits) = "dmp".toList := by
  have last : findLastDot (dumpName digits) = digits.length + 5 := by
    simp only [findLastDot, dumpName, List.reverse_append, List.length_append]
    simp [List.findIdx?]
    omega
  have split : dumpName digits = ("dump.".toList ++ digits ++ ['.']) ++ "dmp".toList := by
    simp [dumpName]
  rw [getFileExtension, last, split]
  exact List.drop_left' (by simp; omega)

theorem dumpName_injective : Function.Injective dumpName := fun a b same => by
  simpa [dumpName] using same

theorem dumpStep_dumpName (irestart : ℤ) {ds : List Char} (four : ds.length = 4)
    (digits : ∀ c ∈ ds, c.isDigit) :
    dumpStep irestart (dumpName ds) = .ok (max irestart (decimalValue ds)) := by
  have number : substr (dumpName ds) 5 4 = .ok ds := by
    rw [substr, if_pos (by simp [dumpName]), dumpName, List.append_assoc]
    exact congrArg Except.ok (List.take_left' four)
  have small : decimalValue ds < 2 ^ 31 :=
    (decimalValue_lt digits).trans (by rw [four]; decide)
  have nonempty : ds ≠ [] := List.ne_nil_of_length_pos (by omega)
  rw [dumpStep, if_pos (getFileExtension_dumpName ds)]
  simp only [number, ok_bind, stoi_digits nonempty digits small]
  rfl

theorem dumpStep_other (irestart : ℤ) {file : List Char}
    (other : getFileExtension file ≠ "dmp".toList) : dumpStep irestart file = .ok irestart := by
  rw [dumpStep, if_neg other]
  rfl

def DumpNames (files : List (List Char)) : Prop :=
  ∀ file ∈ files, getFileExtension file = "dmp".toList →
    ∃ ds, file = dumpName ds ∧ ds.length = 4 ∧ ∀ c ∈ ds, c.isDigit

theorem foldlM_dumpStep {files : List (List Char)} (named : DumpNames files) :
    ∀ irestart : ℤ, ∃ m, files.foldlM dumpStep irestart = .ok m ∧ irestart ≤ m ∧
      (∀ ds, dumpName ds ∈ files → (decimalValue ds : ℤ) ≤ m) ∧
      (m = irestart ∨ ∃ ds, dumpName ds ∈ files ∧ m = decimalValue ds) := by
  induction files with
  | nil => exact fun irestart => ⟨irestart, rfl, le_rfl, by simp, .inl rfl⟩
  | cons file rest ih =>
    intro irestart
    have tail : DumpNames rest := fun f mem => named f (List.mem_cons_of_mem _ mem)
    by_cases dmp : getFileExtension file = "dmp".toList
    · obtain ⟨ds, rfl, four, digits⟩ := named _ (List.mem_cons_self _ _) dmp
      obtain ⟨m, run, above, largest, reached⟩ := ih tail (max irestart (decimalValue ds))
      refine ⟨m, by simp [dumpStep_dumpName _ four digits, run], (le_max_left _ _).trans above,
        fun ds' mem => ?_, ?_⟩
      · rcases List.mem_cons.mp mem with same | mem
        · rw [dumpName_injective same]
          exact (le_max_right _ _).trans above
        · exact largest ds' mem
      · rcases reached with rfl | ⟨ds', mem, rfl⟩
        · rcases max_choice irestart (decimalValue ds : ℤ) with kept | read
          · exact .inl kept
          · exact .inr ⟨ds, List.mem_cons_self _ _, read⟩
        · exact .inr ⟨ds', List.mem_cons_of_mem _ mem, rfl⟩
    · obtain ⟨m, run, above, largest, reached⟩ := ih tail irestart
      refine ⟨m, by simp [dumpStep_other _ dmp, run], above, fun ds mem => ?_, ?_⟩
      · rcases List.mem_cons.mp mem with same | mem
        · exact absurd (same ▸ getFileExtension_dumpName ds) dmp
        · exact largest ds mem
      · rcases reached with rfl | ⟨ds, mem, rfl⟩
        · exact .inl rfl
        · exact .inr ⟨ds, List.mem_cons_of_mem _ mem, rfl⟩

/-- `-restart` as the last argument, over a listing whose dump files are all named
`dump.????.dmp` with four digits: with no dump file the program stops with
`Cannot restart: no dumpfile found.`, and otherwise it restarts from the largest dump number
of the directory. -/
theorem parseCommandLine_restart_latest (cfg : Config) (withMPI : Bool) (st : CommandLine)
    {files : List (List Char)} (named : DumpNames files) :
    ((∀ ds, dumpName ds ∉ files) → parseCommandLine cfg withMPI files st ["-restart".toList] =
        .error (.idefixError "Cannot restart: no dumpfile found.")) ∧
      ∀ ds, dumpName ds ∈ files → ∃ st',
        parseCommandLine cfg withMPI files st ["-restart".toList] = .ok st' ∧
        st'.restartRequested = true ∧
        (∃ latest, dumpName latest ∈ files ∧ st'.restartFileNumber = decimalValue latest) ∧
        ∀ ds', dumpName ds' ∈ files → (decimalValue ds' : ℤ) ≤ st'.restartFileNumber := by
  obtain ⟨m, run, -, largest, reached⟩ := foldlM_dumpStep named (-1)
  have scan : latestDump files = .ok m := run
  have notDec : "-restart".toList ≠ "-dec".toList := by decide
  have notInput : "-restart".toList ≠ "-i".toList := by decide
  constructor
  · intro none
    obtain rfl : m = -1 := reached.resolve_right fun ⟨ds, mem, _⟩ => none ds mem
    simp [parseCommandLine, parseArgs, parseArg, decOption, restartOption, restartNumber,
      if_neg notDec, scan]
    rfl
  · intro ds mem
    obtain ⟨latest, mem', rfl⟩ := reached.resolve_left fun none =>
      absurd ((Int.natCast_nonneg _).trans (largest ds mem)) (by omega)
    obtain ⟨ds', same, four, digits⟩ := named _ mem' (getFileExtension_dumpName latest)
    obtain rfl := dumpName_injective same
    have small : decimalValue latest < 2 ^ 31 :=
      (decimalValue_lt digits).trans (by rw [four]; decide)
    refine ⟨{ st with
        inputParameters := pushBack st.inputParameters "CommandLine".toList "restart".toList
          (toString (decimalValue latest : ℤ)).toList
        restartRequested := true
        restartFileNumber := decimalValue latest
        msg := st.msg ++ "Unknown option " ++ String.mk "-restart".toList },
      ?_, rfl, ⟨latest, mem', rfl⟩, largest⟩
    have nonneg : ¬ (decimalValue latest : ℤ) < 0 := by omega
    have back : stoi (toString (decimalValue latest : ℤ)).data = .ok (decimalValue latest) :=
      stoi_toString small
    simp [parseCommandLine, parseArgs, parseArg, decOption, restartOption, restartNumber,
      if_neg notDec, scan, nonneg, back, inputOption, notInput]

theorem parseCommandLine_restart_latest_twoDumps :
    let files := ["idefix.ini".toList, dumpName "0002".toList, dumpName "0007".toList]
    let st : CommandLine := ⟨fun _ _ => [], false, 0, "idefix.ini".toList, ""⟩
    DumpNames files ∧
    ((∀ ds, dumpName ds ∉ files) → parseCommandLine spherical3 false files st ["-restart".toList] =
        .error (.idefixError "Cannot restart: no dumpfile found.")) ∧
      ∀ ds, dumpName ds ∈ files → ∃ st',
        parseCommandLine spherical3 false files st ["-restart".toList] = .ok st' ∧
        st'.restartRequested = true ∧
        (∃ latest, dumpName latest ∈ files ∧ st'.restartFileNumber = decimalValue latest) ∧
        ∀ ds', dumpName ds' ∈ files → (decimalValue ds' : ℤ) ≤ st'.restartFileNumber := by
  intro files st
  have named : DumpNames files := by
    intro file mem extension
    simp only [files, List.mem_cons, List.mem_singleton, List.not_mem_nil, or_false] at mem
    rcases mem with rfl | rfl | rfl
    · exact absurd extension (by decide)
    · exact ⟨_, rfl, rfl, by decide⟩
    · exact ⟨_, rfl, rfl, by decide⟩
  exact ⟨named, parseCommandLine_restart_latest spherical3 false st named⟩

/-- `-restart` as the last argument reads only the four characters after `dump.` of each dump
file: from a directory holding `dump.10000.dmp` it restarts from dump `1000`. A file with the
extension `dmp` that is not named `dump.NNNN.dmp` stops the program: `std::stoi(".dmp")` throws
`std::invalid_argument`, whichever other dump files the directory holds. -/
theorem parseCommandLine_restart_diverges (cfg : Config) (withMPI : Bool) (st : CommandLine) :
    (parseCommandLine cfg withMPI ["dump.10000.dmp".toList] st ["-restart".toList]).map
        (·.restartFileNumber) = .ok 1000 ∧
      parseCommandLine cfg withMPI ["dump.0003.dmp".toList, "notes.dmp".toList] st
        ["-restart".toList] = .error .invalidArgument :=
  ⟨rfl, rfl⟩

end Idefix.Input

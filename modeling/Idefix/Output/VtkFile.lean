import Idefix.Output.Vtk
import Idefix.Input.CommandLine
import Mathlib.Data.Real.Archimedean

/-!
# The file `Vtk::Write` produces

What the serial build writes into `data.NNNN.vtk`: the header of `Vtk::WriteHeader` with the
node coordinates `Vtk::Init` computed, then one block of `Vtk::WriteScalar` per field. A
`float` is its 32-bit pattern; `Vtk::BigEndian` exchanges its bytes on a host that stores
words least significant byte first, which `Init` detects from the first byte of the `int` 1.
The file is a list of items, the characters `fprintf` writes and the floats `fwrite` writes;
`std::endl` is `'\n'`.

`readFile` is a reader of the legacy VTK format for the part of it `Write` uses. It is not
code of this repository: it states what a VTK reader expects, and `readFile_writeFile` says
that it finds every field `Write` was given in the file, under its name. The MPI file views
and the timers play no part in the contents of a serial file and are left out.
-/

namespace Idefix

open Kernel

set_option autoImplicit false

/-- The order in which the host stores the bytes of a 32-bit word. -/
inductive ByteOrder
  | little
  | big
  deriving DecidableEq, Repr

def byteAt (w : BitVec 32) (k : ℕ) : Fin 256 := ⟨w.toNat / 256 ^ k % 256, Nat.mod_lt _ (by decide)⟩

def bytesOf : ByteOrder → BitVec 32 → List (Fin 256)
  | .little, w => [byteAt w 0, byteAt w 1, byteAt w 2, byteAt w 3]
  | .big, w => [byteAt w 3, byteAt w 2, byteAt w 1, byteAt w 0]

def ofBytes : ByteOrder → List (Fin 256) → BitVec 32
  | .little, [b0, b1, b2, b3] => BitVec.ofNat 32 (b0 + 256 * (b1 + 256 * (b2 + 256 * b3)))
  | .big, [b3, b2, b1, b0] => BitVec.ofNat 32 (b0 + 256 * (b1 + 256 * (b2 + 256 * b3)))
  | _, _ => 0

/-- The test of `Vtk::Init`: the first byte in memory of the `int` 1 is not zero. -/
def shouldSwapEndian (order : ByteOrder) : Bool := (bytesOf order 1).head? != some 0

/-- `Vtk::BigEndian(in_number)`: with `shouldSwapEndian`, bytes `0` and `3`, then bytes `1`
and `2`, of the float are exchanged in memory. -/
def bigEndian (order : ByteOrder) (shouldSwapEndian : Bool) (inNumber : BitVec 32) :
    BitVec 32 :=
  if shouldSwapEndian then
    match bytesOf order inNumber with
    | [b0, b1, b2, b3] => ofBytes order [b3, b2, b1, b0]
    | _ => inNumber
  else inNumber

theorem bytesOf_ofBytes (order : ByteOrder) (b0 b1 b2 b3 : Fin 256) :
    bytesOf order (ofBytes order [b0, b1, b2, b3]) = [b0, b1, b2, b3] := by
  have bounds := And.intro b0.isLt (And.intro b1.isLt (And.intro b2.isLt b3.isLt))
  cases order <;>
    simp only [bytesOf, ofBytes, byteAt, BitVec.toNat_ofNat, List.cons.injEq, Fin.ext_iff,
      and_true] <;> norm_num <;> omega

theorem ofBytes_bytesOf (order : ByteOrder) (w : BitVec 32) : ofBytes order (bytesOf order w) = w := by
  have bound := w.isLt
  apply BitVec.eq_of_toNat_eq
  cases order <;> simp only [bytesOf, ofBytes, byteAt, BitVec.toNat_ofNat] <;> norm_num <;> omega

theorem shouldSwapEndian_little : shouldSwapEndian .little = true := by decide

theorem bigEndian_little (w : BitVec 32) :
    bigEndian .little true w = ofBytes .little (bytesOf .big w) := rfl

theorem bigEndian_bytesOf (order : ByteOrder) (w : BitVec 32) :
    bytesOf order (bigEndian order (shouldSwapEndian order) w) = bytesOf .big w ∧
      bigEndian order (shouldSwapEndian order) (bigEndian order (shouldSwapEndian order) w) = w := by
  cases order
  · have big : bytesOf .big w = [byteAt w 3, byteAt w 2, byteAt w 1, byteAt w 0] := rfl
    rw [shouldSwapEndian_little, bigEndian_little, big, bytesOf_ofBytes]
    refine ⟨rfl, ?_⟩
    rw [bigEndian, if_pos rfl, bytesOf_ofBytes]
    exact ofBytes_bytesOf .little w
  · exact ⟨rfl, rfl⟩

theorem toString_digits (n : ℕ) :
    (toString n).toList ≠ [] ∧ (∀ c ∈ (toString n).toList, c.isDigit) ∧
      Input.decimalValue (toString n).toList = n := by
  obtain ⟨l, digits, nonempty, isDigit, value⟩ := Input.toDigitsCore_digits (n + 1) n [] (by omega)
  have printed : (toString n).toList = l := by
    change Nat.toDigitsCore 10 (n + 1) n [] = l
    rw [digits, List.append_nil]
  rw [printed]
  exact ⟨nonempty, isDigit, value⟩

theorem decimalValue_zeros (k : ℕ) : Input.decimalValue (List.replicate k '0') = 0 := by
  induction k with
  | zero => rfl
  | succ k ih =>
    rw [List.replicate_succ, Input.decimalValue, List.foldl_cons, Input.foldl_decimal]
    simpa using ih

def setw4 (n : ℕ) : List Char :=
  List.replicate (4 - (toString n).toList.length) '0' ++ (toString n).toList

def vtkFileName (vtkFileNumber : ℕ) : List Char :=
  "data.".toList ++ setw4 vtkFileNumber ++ ".vtk".toList

theorem decimalValue_setw4 (n : ℕ) : Input.decimalValue (setw4 n) = n := by
  rw [setw4, Input.decimalValue_append, decimalValue_zeros, zero_mul, zero_add, (toString_digits n).2.2]

theorem vtkFileName_injective : Function.Injective vtkFileName := fun a b same => by
  have padded : setw4 a = setw4 b := by simpa [vtkFileName] using same
  simpa only [decimalValue_setw4] using congrArg Input.decimalValue padded

/-- What a call of `Write` is handed: the primitive fields of the data block, and the
user-defined variables of the output. -/
structure Snapshot (nvar : ℕ) where
  vc : Fin nvar → Idx3 → ℝ
  userDefVariablesEnabled : Bool
  userDefVariables : List (String × (Idx3 → ℝ))

/-- The members of `Vtk` one call of `Write` leaves to the next: the extents and the buffer
`vect3D`, and `vtkFileNumber`. -/
structure Writer (α : Type) where
  vtk : Vtk α
  vtkFileNumber : ℕ

namespace Writer

variable {α : Type} {nvar : ℕ} (beg fin : Dir → ℕ) (bigEndian : ℝ → α)
  (vcName : Fin nvar → String)

/-- One call of `Vtk::Write`: the name it opens and what it writes there; then
`vtkFileNumber++`. -/
def write (w : Writer α) (snapshot : Snapshot nvar) : (List Char × Vtk.File α) × Writer α :=
  let written := w.vtk.write beg fin bigEndian vcName snapshot.vc
    snapshot.userDefVariablesEnabled snapshot.userDefVariables
  ((vtkFileName w.vtkFileNumber, written.1), ⟨written.2, w.vtkFileNumber + 1⟩)

def run : Writer α → List (Snapshot nvar) → List (List Char × Vtk.File α) × Writer α
  | w, [] => ([], w)
  | w, snapshot :: rest =>
    let first := w.write beg fin bigEndian vcName snapshot
    let later := run first.2 rest
    (first.1 :: later.1, later.2)

/-- Over a whole run from interior bounds that span the local extents, the `k`-th file is
`data.` with the number `vtkFileNumber + k`, so no two files of the run share a name, and each
file holds the interior values of its own snapshot's fields, whatever an earlier call left in
the buffer. -/
theorem run_files (w : Writer α) (extent : ∀ d, fin d - beg d = w.vtk.nxLoc d)
    (snapshots : List (Snapshot nvar)) :
    let files := (w.run beg fin bigEndian vcName snapshots).1
    files.map (·.1) = (List.range' w.vtkFileNumber snapshots.length).map vtkFileName ∧
      (files.map (·.1)).Nodup ∧
      files.map (·.2.scalars) = snapshots.map fun snapshot =>
        (Vtk.fields vcName snapshot.vc snapshot.userDefVariablesEnabled
          snapshot.userDefVariables).map
          fun field => (field.1, (interior beg fin).map fun p => bigEndian (field.2 p)) := by
  have names : ∀ (w : Writer α) (snapshots : List (Snapshot nvar)),
      (w.run beg fin bigEndian vcName snapshots).1.map (·.1) =
        (List.range' w.vtkFileNumber snapshots.length).map vtkFileName := by
    intro w snapshots
    induction snapshots generalizing w with
    | nil => rfl
    | cons snapshot rest ih => simp only [run, List.map_cons, List.length_cons,
        List.range'_succ, ih]; rfl
  refine ⟨names w snapshots, ?_, ?_⟩
  · rw [names]
    exact (List.nodup_range' _ _).map vtkFileName_injective
  · induction snapshots generalizing w with
    | nil => rfl
    | cons snapshot rest ih =>
      have kept := (Vtk.writeFields_extents beg fin w.vtk
        ((Vtk.fields vcName snapshot.vc snapshot.userDefVariablesEnabled
          snapshot.userDefVariables).map fun field => (field.1, fun p => bigEndian (field.2 p)))).1
      simp only [run, List.map_cons, write]
      rw [ih _ (kept ▸ extent), Vtk.write, Vtk.writeFields_scalars beg fin w.vtk extent,
        List.map_map]
      rfl

theorem run_files_twoSnapshots :
    (∀ d, (fun _ => 3 : Dir → ℕ) d - (fun _ => 2 : Dir → ℕ) d =
      (⟨Vtk.init (fun _ => 1) (fun _ => 1) fun _ => (0 : ℝ), 0⟩ : Writer ℝ).vtk.nxLoc d) ∧
    let files := ((⟨Vtk.init (fun _ => 1) (fun _ => 1) fun _ => (0 : ℝ), 0⟩ : Writer ℝ).run
      (fun _ => 2) (fun _ => 3) id (fun _ : Fin 1 => "RHO")
      [⟨fun _ _ => 1, false, []⟩, ⟨fun _ _ => 2, false, []⟩]).1
    files.map (·.1) = (List.range' 0 2).map vtkFileName ∧ (files.map (·.1)).Nodup ∧
      files.map (·.2.scalars) =
        [⟨fun _ _ => 1, false, []⟩, ⟨fun _ _ => 2, false, []⟩].map fun snapshot : Snapshot 1 =>
          (Vtk.fields (fun _ : Fin 1 => "RHO") snapshot.vc snapshot.userDefVariablesEnabled
            snapshot.userDefVariables).map
            fun field => (field.1, (interior (fun _ => 2) fun _ => 3).map fun p => id (field.2 p)) :=
  ⟨fun _ => rfl, run_files (fun _ => 2) (fun _ => 3) id (fun _ : Fin 1 => "RHO")
    ⟨Vtk.init (fun _ => 1) (fun _ => 1) fun _ => (0 : ℝ), 0⟩ (fun _ => rfl) _⟩

end Writer

section Nodes

variable {α : Type} (cfg : Config) (grid : Grid) (nghost nx : Dir → ℕ) (bigEndian : ℝ → α)

def axisNodes (d : Dir) : List α :=
  (List.range (nx d + offset cfg d)).map fun i => bigEndian (grid.xl d (i + nghost d))

/-- `xnode`. -/
def xnode : List α := axisNodes cfg grid nghost nx bigEndian iDir

/-- `ynode`. -/
def ynode : List α := axisNodes cfg grid nghost nx bigEndian jDir

/-- `znode`: as the other two, except that with `DIMENSIONS == 2` every node is at `0`. -/
def znode : List α :=
  (List.range (nx kDir + offset cfg kDir)).map fun k =>
    if cfg.dimensions = 2 then bigEndian 0 else bigEndian (grid.xl kDir (k + nghost kDir))

theorem Grid.xl_lt_xl {d : Dir} (cells : grid.Cells d) (contiguous : grid.Contiguous d)
    {i j : ℕ} (lt : i < j) (inside : j < grid.npTot d) : grid.xl d i < grid.xl d j := by
  induction j with
  | zero => omega
  | succ j ih =>
    have step : grid.xl d j < grid.xl d (j + 1) :=
      contiguous j inside ▸ cells.xl_lt_xr j (by omega)
    rcases Nat.lt_succ_iff_lt_or_eq.mp lt with below | rfl
    · exact (ih below (by omega)).trans step
    · exact step

theorem axisNodes_comp {β : Type} (f : ℝ → ℝ) (g : ℝ → β) (d : Dir) :
    axisNodes cfg grid nghost nx (fun x => g (f x)) d = (axisNodes cfg grid nghost nx f d).map g := by
  rw [axisNodes, axisNodes, List.map_map]
  rfl

/-- On a grid with a ghost cell past the last node, the nodes of an axis are the left faces of
the interior cells and the right face of the last one. These increase strictly, and after the
narrowing to `float`, which keeps their order, they are sorted as the rectilinear format
requires and `Init` stores their `BigEndian` words; in two dimensions the one `z` node is at `0`. -/
theorem axisNodes_sorted {d : Dir} (cells : grid.Cells d) (contiguous : grid.Contiguous d)
    (ghost : nx d + offset cfg d + nghost d ≤ grid.npTot d) {toFloat : ℝ → ℝ}
    (rounding : Monotone toFloat) (swap : ℝ → α) :
    axisNodes cfg grid nghost nx (fun x => swap (toFloat x)) d =
        (axisNodes cfg grid nghost nx toFloat d).map swap ∧
      (axisNodes cfg grid nghost nx id d).Sorted (· < ·) ∧
      (axisNodes cfg grid nghost nx toFloat d).Sorted (· ≤ ·) ∧
      (cfg.Active d → 0 < nx d → (axisNodes cfg grid nghost nx toFloat d).getLast? =
        some (toFloat (grid.xr d (nx d - 1 + nghost d)))) ∧
      (cfg.dimensions = 2 → znode cfg grid nghost nx (fun x => swap (toFloat x)) =
        List.replicate (nx kDir) (swap (toFloat 0))) := by
  have exact : (axisNodes cfg grid nghost nx id d).Sorted (· < ·) := by
    rw [axisNodes, List.Sorted, List.pairwise_map]
    refine (List.pairwise_lt_range _).imp_of_mem fun {i j} _ mem lt => ?_
    exact Grid.xl_lt_xl grid cells contiguous (by omega) (by simp at mem; omega)
  have narrowed := axisNodes_comp cfg grid nghost nx id toFloat d
  refine ⟨axisNodes_comp cfg grid nghost nx toFloat swap d, exact,
    narrowed ▸ exact.map toFloat fun _ _ lt => rounding lt.le, fun active cells_pos => ?_,
    fun two => ?_⟩
  · have last : nx d + offset cfg d = (nx d - 1 + 1) + 1 := by
      simp only [offset, active, if_true]; omega
    rw [axisNodes, List.getLast?_eq_getLast _ (by simp [offset, active]), Option.some.injEq,
      List.getLast_map, List.getLast_range]
    rw [last, Nat.add_sub_cancel, show nx d - 1 + 1 + nghost d = (nx d - 1 + nghost d) + 1 by
      omega, contiguous _ (by simp only [offset, active, if_true] at ghost; omega)]
  · have inactive : offset cfg kDir = 0 := by simp [offset, Config.Active, two]
    rw [znode, inactive, Nat.add_zero, List.map_congr_left (fun _ _ => if_pos two),
      List.map_const', List.length_range]

def evenFaces : Grid := ⟨fun _ => 3, fun _ i => 2 * i + 1, fun _ _ => 2, fun _ i => 2 * i,
  fun _ i => 2 * i + 2⟩

theorem axisNodes_sorted_evenFaces :
    let floor : ℝ → ℝ := fun x => ⌊x⌋
    (evenFaces.Cells iDir ∧ evenFaces.Contiguous iDir ∧
      (fun _ => 1 : Dir → ℕ) iDir + offset spherical3 iDir + (fun _ => 1 : Dir → ℕ) iDir ≤
        evenFaces.npTot iDir ∧ Monotone floor) ∧
    axisNodes spherical3 evenFaces (fun _ => 1) (fun _ => 1) (fun x => id (floor x)) iDir =
        (axisNodes spherical3 evenFaces (fun _ => 1) (fun _ => 1) floor iDir).map id ∧
      (axisNodes spherical3 evenFaces (fun _ => 1) (fun _ => 1) id iDir).Sorted (· < ·) ∧
      (axisNodes spherical3 evenFaces (fun _ => 1) (fun _ => 1) floor iDir).Sorted (· ≤ ·) ∧
      (spherical3.Active iDir → 0 < (fun _ => 1 : Dir → ℕ) iDir →
        (axisNodes spherical3 evenFaces (fun _ => 1) (fun _ => 1) floor iDir).getLast? =
          some (floor (evenFaces.xr iDir ((fun _ => 1 : Dir → ℕ) iDir - 1 + (fun _ => 1 : Dir → ℕ) iDir)))) ∧
      (spherical3.dimensions = 2 →
        znode spherical3 evenFaces (fun _ => 1) (fun _ => 1) (fun x => id (floor x)) =
          List.replicate ((fun _ => 1 : Dir → ℕ) kDir) (id (floor 0))) := by
  have cells : evenFaces.Cells iDir :=
    ⟨fun i _ => by simp only [evenFaces]; linarith, fun i _ => by simp only [evenFaces]; ring,
      fun i _ => by simp only [evenFaces]; ring⟩
  have contiguous : evenFaces.Contiguous iDir := fun i _ => by
    simp only [evenFaces]; push_cast; ring
  have ghost : (fun _ => 1 : Dir → ℕ) iDir + offset spherical3 iDir + (fun _ => 1 : Dir → ℕ) iDir ≤
      evenFaces.npTot iDir := by decide
  have rounding : Monotone fun x : ℝ => (⌊x⌋ : ℝ) := fun _ _ le => Int.cast_le.mpr (Int.floor_mono le)
  exact ⟨⟨cells, contiguous, ghost, rounding⟩, axisNodes_sorted spherical3 evenFaces (fun _ => 1)
    (fun _ => 1) cells contiguous ghost rounding id⟩

end Nodes

section Structured

variable {α : Type} (cfg : Config) (data : Grid) (nghost : Dir → ℕ) (cos sin : ℝ → ℝ)
  (bigEndian : ℝ → α)

def corner (x1 x2 x3 : ℝ) : List ℝ :=
  match cfg.geometry with
  | .cartesian | .cylindrical => [x1, x2, x3]
  | .polar => [x1 * cos x2, x1 * sin x2, x3]
  | .spherical =>
    if cfg.dimensions = 2 then [x1 * sin x2, x1 * cos x2, 0]
    else if cfg.dimensions = 3 then [x1 * sin x2 * cos x3, x1 * sin x2 * sin x3, x1 * cos x2]
    else [0, 0, 0]

/-- `node_coord(k, j, i, 0..2)`, from the left faces of the data block; `D_EXPAND` leaves `x2`
and `x3` at `0` along the inactive directions. -/
def nodeCoord : Idx3 → List α
  | (k, j, i) =>
    (corner cfg cos sin (data.xl iDir (i + nghost iDir))
      (if cfg.Active jDir then data.xl jDir (j + nghost jDir) else 0)
      (if cfg.Active kDir then data.xl kDir (k + nghost kDir) else 0)).map bigEndian

/-- `nodesubsize`: the cells of the data block along `d`, and the closing node on the last
process along `d`. -/
def nodeSubsize (dataNpInt : Dir → ℕ) (lastProc : Dir → Bool) (d : Dir) : ℕ :=
  dataNpInt d + if lastProc d then offset cfg d else 0

/-- The entries of `node_coord` in memory order, the one `WriteHeaderNodes` writes: `k`
slowest, then `j`, `i` and the three components. -/
def nodeCoords (dataNpInt : Dir → ℕ) (lastProc : Dir → Bool) : List α :=
  let n := nodeSubsize cfg dataNpInt lastProc
  (range3 0 (n kDir) 0 (n jDir) 0 (n iDir)).flatMap (nodeCoord cfg data nghost cos sin bigEndian)

theorem length_corner (x1 x2 x3 : ℝ) : (corner cfg cos sin x1 x2 x3).length = 3 := by
  unfold corner
  split <;> try split_ifs
  all_goals rfl

theorem length_flatMap_of_length {β γ : Type} (l : List β) (f : β → List γ) (c : ℕ)
    (same : ∀ a ∈ l, (f a).length = c) : (l.flatMap f).length = l.length * c := by
  induction l with
  | nil => simp
  | cons a l ih =>
    rw [List.flatMap_cons, List.length_append, same a (List.mem_cons_self a l),
      ih fun b mem => same b (List.mem_cons_of_mem a mem), List.length_cons, Nat.succ_mul,
      Nat.add_comm]

theorem length_range3 (kb ke jb je ib ie : ℕ) :
    (range3 kb ke jb je ib ie).length = (ke - kb) * ((je - jb) * (ie - ib)) := by
  have row (k j : ℕ) : ((range1 ib ie).map fun i => (k, j, i)).length = ie - ib := by
    rw [List.length_map, range1, List.length_range']
  have plane (k : ℕ) : ((range1 jb je).flatMap fun j =>
      (range1 ib ie).map fun i => (k, j, i)).length = (je - jb) * (ie - ib) := by
    rw [length_flatMap_of_length _ _ _ fun j _ => row k j, range1, List.length_range']
  rw [range3, length_flatMap_of_length _ _ _ fun k _ => plane k, range1, List.length_range']

theorem length_nodeCoords (dataNpInt : Dir → ℕ) (lastProc : Dir → Bool) :
    (nodeCoords cfg data nghost cos sin bigEndian dataNpInt lastProc).length =
      3 * (nodeSubsize cfg dataNpInt lastProc iDir * nodeSubsize cfg dataNpInt lastProc jDir *
        nodeSubsize cfg dataNpInt lastProc kDir) := by
  rw [nodeCoords, length_flatMap_of_length _ _ 3 fun p _ => by
    rw [nodeCoord, List.length_map, length_corner], length_range3]
  simp only [Nat.sub_zero]
  ring

end Structured

/-- The node coordinates `Init` keeps for `WriteHeader`. -/
structure Nodes (α : Type) where
  xnode : List α
  ynode : List α
  znode : List α
  /-- `node_coord`, in memory order. -/
  nodeCoord : List α

/-- `Vtk::Init`'s node coordinates, from the global grid and the grid of the data block, read
at the ghost widths of the global grid. -/
def initNodes {α : Type} (cfg : Config) (grid data : Grid) (nghost gridNpInt dataNpInt : Dir → ℕ)
    (lastProc : Dir → Bool) (cos sin : ℝ → ℝ) (bigEndian : ℝ → α) : Nodes α :=
  ⟨xnode cfg grid nghost gridNpInt bigEndian, ynode cfg grid nghost gridNpInt bigEndian,
    znode cfg grid nghost gridNpInt bigEndian,
    nodeCoords cfg data nghost cos sin bigEndian dataNpInt lastProc⟩

/-- What `fprintf` and `fwrite` put in the file: characters, and floats. -/
inductive Item (α : Type)
  | char (c : Char)
  | float (x : α)
  deriving DecidableEq, Repr

/-- The format of the grid in the file. -/
inductive VtkFormat
  | rectilinearGrid
  | structuredGrid
  deriving DecidableEq, Repr

def vtkFormat : Geometry → VtkFormat
  | .cartesian | .cylindrical => .rectilinearGrid
  | .polar | .spherical => .structuredGrid

def Nodes.coordinates {α : Type} (nodes : Nodes α) : VtkFormat → List (List α)
  | .rectilinearGrid => [nodes.xnode, nodes.ynode, nodes.znode]
  | .structuredGrid => [nodes.nodeCoord]

section Stream

variable {α : Type}

def text (s : List Char) : List (Item α) := s.map .char

/-- Floats, as `fwrite` writes them. -/
def floats (xs : List α) : List (Item α) := xs.map .float

def cStr (s : List Char) : List Char := s.takeWhile (· != '\x00')

/-- `WriteHeaderString(header, fvtk)`: `fprintf(fvtk, "%s", header)`. -/
def writeHeaderString (header : List Char) : List (Item α) := text (cStr header)

def endl : List Char := ['\n']

def lines : List (List Char) → List Char
  | [] => []
  | line :: rest => line ++ endl ++ lines rest

/-- Words separated by single spaces, as the `<< " " <<` chains of `WriteHeader` print them. -/
def words : List (List Char) → List Char
  | [] => []
  | [word] => word
  | word :: next :: rest => word ++ ' ' :: words (next :: rest)

def printed (n : ℕ) : List Char := (toString n).toList

def datasetLine : VtkFormat → List Char
  | .rectilinearGrid => "DATASET RECTILINEAR_GRID".toList
  | .structuredGrid => "DATASET STRUCTURED_GRID".toList

variable (cfg : Config) (v : Vtk α)

def nodeCount (d : Dir) : ℕ := v.nx d + offset cfg d

def headerLines (gitVersion : List Char) : List Char :=
  lines ["# vtk DataFile Version 2.0".toList,
    "Idefix ".toList ++ gitVersion ++ " VTK Data".toList,
    "BINARY".toList,
    datasetLine (vtkFormat cfg.geometry),
    words ["DIMENSIONS".toList, printed (nodeCount cfg v iDir), printed (nodeCount cfg v jDir),
      printed (nodeCount cfg v kDir)]]

/-- The grid section of `WriteHeader`, by `VTK_FORMAT`. -/
def writeGrid (nodes : Nodes α) : VtkFormat → List (Item α)
  | .rectilinearGrid =>
    writeHeaderString (lines [words ["X_COORDINATES".toList, printed (nodeCount cfg v iDir),
        "float".toList]]) ++ floats nodes.xnode ++
      writeHeaderString (lines [[], words ["Y_COORDINATES".toList,
        printed (nodeCount cfg v jDir), "float".toList]]) ++ floats nodes.ynode ++
      writeHeaderString (lines [[], words ["Z_COORDINATES".toList,
        printed (nodeCount cfg v kDir), "float".toList]]) ++ floats nodes.znode
  | .structuredGrid =>
    writeHeaderString (lines [words ["POINTS".toList, printed (nodeCount cfg v iDir *
        nodeCount cfg v jDir * nodeCount cfg v kDir), "float".toList]]) ++
      floats nodes.nodeCoord

/-- `Vtk::WriteHeader`. -/
def writeHeader (gitVersion : List Char) (nodes : Nodes α) : List (Item α) :=
  writeHeaderString (headerLines cfg v gitVersion) ++ writeGrid cfg v nodes (vtkFormat cfg.geometry) ++
    writeHeaderString (lines [[], words ["CELL_DATA".toList, printed v.cellData]])

/-- `Vtk::WriteScalar(fvtk, Vin, var_name)` for a block of the field loop. -/
def writeScalarBlock (block : String × List α) : List (Item α) :=
  writeHeaderString (lines [[], words ["SCALARS".toList, cStr block.1.toList, "float".toList],
    "LOOKUP_TABLE default".toList]) ++ floats block.2

/-- The file `Vtk::Write` leaves: the header, then the blocks of the field loop. -/
def writeFile (gitVersion : List Char) (nodes : Nodes α) (file : Vtk.File α) : List (Item α) :=
  writeHeader cfg v gitVersion nodes ++ file.scalars.flatMap writeScalarBlock

end Stream

section Reader

variable {α : Type}

/-- The characters up to the next `'\n'`, and what follows it. -/
def readLine : List (Item α) → Option (List Char × List (Item α))
  | .char c :: rest =>
    if c = '\n' then some ([], rest) else (readLine rest).map fun line => (c :: line.1, line.2)
  | _ => none

def expectLine (line : List Char) (input : List (Item α)) : Option (List (Item α)) :=
  match readLine input with
  | some (read, rest) => if read = line then some rest else none
  | none => none

def readWords (input : List (Item α)) : Option (List (List Char) × List (Item α)) :=
  (readLine input).map fun line => (line.1.splitOn ' ', line.2)

def readFloats : ℕ → List (Item α) → Option (List α × List (Item α))
  | 0, rest => some ([], rest)
  | n + 1, .float x :: rest => (readFloats n rest).map fun floats => (x :: floats.1, floats.2)
  | _ + 1, _ => none

def readCount (s : List Char) : Option ℕ :=
  if s ≠ [] ∧ s.all Char.isDigit then some (Input.decimalValue s) else none

def readCounts (keyword : List Char) : List (List Char) → Option (List ℕ)
  | word :: counts => if word = keyword then counts.mapM readCount else none
  | [] => none

def readDataset (line : List Char) : Option VtkFormat :=
  [VtkFormat.rectilinearGrid, .structuredGrid].find? (datasetLine · = line)

def readPreamble (input : List (Item α)) : Option ((VtkFormat × List ℕ) × List (Item α)) := do
  let rest ← expectLine "# vtk DataFile Version 2.0".toList input
  let (_, rest) ← readLine rest
  let rest ← expectLine "BINARY".toList rest
  let (dataset, rest) ← readLine rest
  let (dimensions, rest) ← readWords rest
  let format ← readDataset dataset
  let dims ← readCounts "DIMENSIONS".toList dimensions
  if dims.length = 3 then some ((format, dims), rest) else none

def readArrayHeader (keyword : List Char) : List (List Char) → Option ℕ
  | [word, count, type] =>
    if word = keyword ∧ type = "float".toList then readCount count else none
  | _ => none

def readArray (keyword : List Char) (width n : ℕ) (input : List (Item α)) :
    Option (List α × List (Item α)) :=
  match readWords input with
  | some (words, rest) =>
    if readArrayHeader keyword words = some n then readFloats (width * n) rest else none
  | none => none

def readGrid : VtkFormat → List ℕ → List (Item α) → Option (List (List α) × List (Item α))
  | .rectilinearGrid, [n1, n2, n3], input => do
    let (xs, rest) ← readArray "X_COORDINATES".toList 1 n1 input
    let rest ← expectLine [] rest
    let (ys, rest) ← readArray "Y_COORDINATES".toList 1 n2 rest
    let rest ← expectLine [] rest
    let (zs, rest) ← readArray "Z_COORDINATES".toList 1 n3 rest
    some ([xs, ys, zs], rest)
  | .structuredGrid, [n1, n2, n3], input => do
    let (points, rest) ← readArray "POINTS".toList 3 (n1 * n2 * n3) input
    some ([points], rest)
  | _, _, _ => none

def cellsAlong (n : ℕ) : ℕ := if n = 1 then 1 else n - 1

def readCellData (dims : List ℕ) (input : List (Item α)) : Option (ℕ × List (Item α)) := do
  let rest ← expectLine [] input
  let (words, rest) ← readWords rest
  let cells ← readCounts "CELL_DATA".toList words
  if cells = [(dims.map cellsAlong).prod] then some ((dims.map cellsAlong).prod, rest) else none

def scalarName : List (List Char) → Option String
  | [word, name, type] =>
    if word = "SCALARS".toList ∧ type = "float".toList then some (String.mk name) else none
  | _ => none

def readScalarHeader (input : List (Item α)) : Option (String × List (Item α)) := do
  let rest ← expectLine [] input
  let (words, rest) ← readWords rest
  let name ← scalarName words
  let rest ← expectLine "LOOKUP_TABLE default".toList rest
  some (name, rest)

def readScalars (cells : ℕ) : ℕ → List (Item α) → Option (List (String × List α))
  | _, [] => some []
  | 0, _ :: _ => none
  | fuel + 1, input@(_ :: _) => do
    let (name, rest) ← readScalarHeader input
    let (values, rest) ← readFloats cells rest
    let more ← readScalars cells fuel rest
    some ((name, values) :: more)

/-- What a reader finds in a file. -/
structure Contents (α : Type) where
  format : VtkFormat
  dimensions : List ℕ
  coordinates : List (List α)
  cellData : ℕ
  scalars : List (String × List α)

/-- Read a legacy VTK file of scalar cell data. -/
def readFile (input : List (Item α)) : Option (Contents α) := do
  let ((format, dims), rest) ← readPreamble input
  let (coordinates, rest) ← readGrid format dims rest
  let (cells, rest) ← readCellData dims rest
  let scalars ← readScalars cells rest.length rest
  some ⟨format, dims, coordinates, cells, scalars⟩

def Word (w : List Char) : Prop := ' ' ∉ w ∧ '\n' ∉ w ∧ '\x00' ∉ w

instance (w : List Char) : Decidable (Word w) := inferInstanceAs (Decidable (_ ∧ _ ∧ _))

theorem word_printed (n : ℕ) : Word (printed n) := by
  have digit := (toString_digits n).2.1
  exact ⟨fun mem => absurd (digit _ mem) (by decide), fun mem => absurd (digit _ mem) (by decide),
    fun mem => absurd (digit _ mem) (by decide)⟩

theorem not_mem_words {c : Char} (notSpace : c ≠ ' ') :
    ∀ {ws : List (List Char)}, (∀ w ∈ ws, c ∉ w) → c ∉ words ws
  | [], _ => List.not_mem_nil c
  | [w], absent => absent w (List.mem_singleton_self w)
  | w :: next :: rest, absent => by
    rw [words, List.mem_append, List.mem_cons, not_or, not_or]
    exact ⟨absent w (List.mem_cons_self _ _), notSpace,
      not_mem_words notSpace fun x mem => absent x (List.mem_cons_of_mem _ mem)⟩

theorem splitOn_words : ∀ {ws : List (List Char)}, ws ≠ [] → (∀ w ∈ ws, ' ' ∉ w) →
    (words ws).splitOn ' ' = ws
  | [w], _, noSpace => List.splitOnP_eq_single _ w fun c mem same =>
    noSpace w (List.mem_singleton_self w) (by rwa [beq_iff_eq.mp same] at mem)
  | w :: next :: rest, _, noSpace =>
    (List.splitOnP_first (· == ' ') w (fun c mem same => noSpace w (List.mem_cons_self _ _)
        (by rwa [beq_iff_eq.mp same] at mem)) ' ' rfl (words (next :: rest))).trans
      (congrArg (w :: ·)
        (splitOn_words (List.cons_ne_nil _ _) fun x mem => noSpace x (List.mem_cons_of_mem _ mem)))

@[simp] theorem text_append (a b : List Char) : (text (a ++ b) : List (Item α)) = text a ++ text b :=
  List.map_append _ _ _

theorem readFloats_floats (xs : List α) (rest : List (Item α)) :
    readFloats xs.length (floats xs ++ rest) = some (xs, rest) := by
  induction xs with
  | nil => rfl
  | cons x xs ih =>
    change (readFloats xs.length (floats xs ++ rest)).map _ = _
    rw [ih]
    rfl

theorem readLine_text (a : List Char) (noNewline : '\n' ∉ a) (rest : List (Item α)) :
    readLine (text a ++ rest) = (readLine rest).map fun line => (a ++ line.1, line.2) := by
  induction a with
  | nil => simp [text]
  | cons c a ih =>
    rw [List.mem_cons, not_or] at noNewline
    rw [show text (c :: a) ++ rest = Item.char c :: (text a ++ rest) from rfl, readLine,
      if_neg (Ne.symm noNewline.1), ih noNewline.2, Option.map_map]
    rfl

theorem readLine_lines (line : List Char) (noNewline : '\n' ∉ line) (later : List (List Char))
    (rest : List (Item α)) :
    readLine (text (lines (line :: later)) ++ rest) = some (line, text (lines later) ++ rest) := by
  rw [lines, text_append, text_append, List.append_assoc, List.append_assoc,
    readLine_text line noNewline]
  have endOfLine : readLine (text endl ++ (text (lines later) ++ rest)) =
      some ([], text (lines later) ++ rest) := rfl
  rw [endOfLine, Option.map_some', List.append_nil]

theorem expectLine_lines (line : List Char) (noNewline : '\n' ∉ line) (later : List (List Char))
    (rest : List (Item α)) :
    expectLine line (text (lines (line :: later)) ++ rest) = some (text (lines later) ++ rest) := by
  rw [expectLine, readLine_lines line noNewline]
  exact if_pos rfl

theorem readWords_lines {ws : List (List Char)} (nonempty : ws ≠ []) (plain : ∀ w ∈ ws, Word w)
    (later : List (List Char)) (rest : List (Item α)) :
    readWords (text (lines (words ws :: later)) ++ rest) = some (ws, text (lines later) ++ rest) := by
  rw [readWords, readLine_lines _ (not_mem_words (by decide) fun w mem => (plain w mem).2.1),
    Option.map_some', splitOn_words nonempty fun w mem => (plain w mem).1]

theorem nul_not_mem_lines : ∀ {ls : List (List Char)}, (∀ l ∈ ls, '\x00' ∉ l) → '\x00' ∉ lines ls
  | [], _ => List.not_mem_nil _
  | l :: ls, noNul => by
    rw [lines, List.mem_append, List.mem_append, not_or, not_or]
    exact ⟨⟨noNul l (List.mem_cons_self l ls), by decide⟩,
      nul_not_mem_lines fun x mem => noNul x (List.mem_cons_of_mem l mem)⟩

theorem writeHeaderString_lines {ls : List (List Char)} (noNul : ∀ l ∈ ls, '\x00' ∉ l) :
    (writeHeaderString (lines ls) : List (Item α)) = text (lines ls) :=
  congrArg text (List.takeWhile_eq_self_iff.mpr fun c mem => by
    simpa using fun same : c = '\x00' => nul_not_mem_lines noNul (same ▸ mem))

theorem readCount_printed (n : ℕ) : readCount (printed n) = some n := by
  obtain ⟨nonempty, isDigit, value⟩ := toString_digits n
  rw [readCount, if_pos ⟨nonempty, List.all_eq_true.mpr isDigit⟩, printed, value]

theorem newline_not_mem_datasetLine (format : VtkFormat) : '\n' ∉ datasetLine format := by
  cases format <;> decide

theorem readDataset_datasetLine (format : VtkFormat) :
    readDataset (datasetLine format) = some format := by
  cases format <;> rfl

theorem arrayHeader_plain {keyword : List Char} (plain : Word keyword) (n : ℕ) :
    ∀ w ∈ [keyword, printed n, "float".toList], Word w := by
  simp +decide [word_printed, plain]

theorem nul_not_mem_words {ws : List (List Char)} (plain : ∀ w ∈ ws, Word w) :
    '\x00' ∉ words ws :=
  not_mem_words (by decide) fun w mem => (plain w mem).2.2

variable (cfg : Config) (v : Vtk α)

theorem readPreamble_headerLines (gitVersion : List Char) (title : '\n' ∉ gitVersion)
    (noNul : '\x00' ∉ gitVersion) (rest : List (Item α)) :
    readPreamble (writeHeaderString (headerLines cfg v gitVersion) ++ rest) =
      some ((vtkFormat cfg.geometry,
        [nodeCount cfg v iDir, nodeCount cfg v jDir, nodeCount cfg v kDir]), rest) := by
  have titleLine (c : Char) (absent : c ∉ gitVersion)
      (fixed : c ∉ "Idefix ".toList ∧ c ∉ " VTK Data".toList) :
      c ∉ "Idefix ".toList ++ gitVersion ++ " VTK Data".toList := by
    simp only [List.mem_append, not_or]
    exact ⟨⟨fixed.1, absent⟩, fixed.2⟩
  have dimensions : ∀ w ∈ ["DIMENSIONS".toList, printed (nodeCount cfg v iDir),
      printed (nodeCount cfg v jDir), printed (nodeCount cfg v kDir)], Word w := by
    simp +decide [word_printed]
  rw [headerLines, writeHeaderString_lines]
  · simp only [readPreamble,
      expectLine_lines _ (by decide : '\n' ∉ "# vtk DataFile Version 2.0".toList),
      readLine_lines _ (titleLine _ title (by decide)),
      expectLine_lines _ (by decide : '\n' ∉ "BINARY".toList),
      readLine_lines _ (newline_not_mem_datasetLine _),
      readWords_lines (List.cons_ne_nil _ _) dimensions, Option.bind_eq_bind, Option.some_bind,
      readDataset_datasetLine, readCounts, List.mapM_cons, List.mapM_nil, readCount_printed, if_true,
      Option.pure_def]
    rfl
  · intro l mem
    simp only [List.mem_cons, List.mem_singleton, List.not_mem_nil, or_false] at mem
    rcases mem with rfl | rfl | rfl | rfl | rfl
    · decide
    · exact titleLine _ noNul (by decide)
    · decide
    · cases vtkFormat cfg.geometry <;> decide
    · exact nul_not_mem_words dimensions

theorem readArray_lines (keyword : List Char) (plain : Word keyword) (width n : ℕ) (xs : List α)
    (length : xs.length = width * n) (rest : List (Item α)) :
    readArray keyword width n
      (text (lines [words [keyword, printed n, "float".toList]]) ++ (floats xs ++ rest)) =
        some (xs, rest) := by
  rw [readArray, readWords_lines (List.cons_ne_nil _ _) (arrayHeader_plain plain n)]
  simp only [readArrayHeader, readCount_printed, eq_self_iff_true, and_self, if_true]
  rw [← length]
  exact readFloats_floats xs rest

theorem writeHeaderString_words {ws : List (List Char)} (plain : ∀ w ∈ ws, Word w) :
    (writeHeaderString (lines [words ws]) : List (Item α)) = text (lines [words ws]) :=
  writeHeaderString_lines fun _ mem => List.mem_singleton.mp mem ▸ nul_not_mem_words plain

theorem writeHeaderString_blank_words {ws : List (List Char)} (plain : ∀ w ∈ ws, Word w) :
    (writeHeaderString (lines [[], words ws]) : List (Item α)) = text (lines [[], words ws]) :=
  writeHeaderString_lines fun l mem => by
    rcases List.mem_pair.mp mem with rfl | rfl
    · exact List.not_mem_nil _
    · exact nul_not_mem_words plain

theorem readGrid_writeGrid (nodes : Nodes α) (format : VtkFormat)
    (xs : nodes.xnode.length = nodeCount cfg v iDir) (ys : nodes.ynode.length = nodeCount cfg v jDir)
    (zs : nodes.znode.length = nodeCount cfg v kDir)
    (points : nodes.nodeCoord.length =
      3 * (nodeCount cfg v iDir * nodeCount cfg v jDir * nodeCount cfg v kDir))
    (rest : List (Item α)) :
    readGrid format [nodeCount cfg v iDir, nodeCount cfg v jDir, nodeCount cfg v kDir]
      (writeGrid cfg v nodes format ++ rest) = some (nodes.coordinates format, rest) := by
  cases format
  · simp only [writeGrid, List.append_assoc, 
      writeHeaderString_words (arrayHeader_plain (by decide : Word "X_COORDINATES".toList) _),
      writeHeaderString_blank_words (arrayHeader_plain (by decide : Word "Y_COORDINATES".toList) _),
      writeHeaderString_blank_words (arrayHeader_plain (by decide : Word "Z_COORDINATES".toList) _),
      readGrid,
      readArray_lines "X_COORDINATES".toList (by decide) 1 (nodeCount cfg v iDir)
        nodes.xnode (by rw [one_mul, xs]),
      readArray_lines "Y_COORDINATES".toList (by decide) 1 (nodeCount cfg v jDir)
        nodes.ynode (by rw [one_mul, ys]),
      readArray_lines "Z_COORDINATES".toList (by decide) 1 (nodeCount cfg v kDir)
        nodes.znode (by rw [one_mul, zs]),
      Option.bind_eq_bind, Option.some_bind, expectLine_lines [] (List.not_mem_nil _)]
    rfl
  · simp only [writeGrid, List.append_assoc, readGrid, Option.bind_eq_bind, Option.some_bind,
      writeHeaderString_words (arrayHeader_plain (by decide : Word "POINTS".toList) _),
      readArray_lines "POINTS".toList (by decide) 3 _ nodes.nodeCoord points]
    rfl

theorem readCellData_lines (dims : List ℕ) (rest : List (Item α)) :
    readCellData dims (writeHeaderString
      (lines [[], words ["CELL_DATA".toList, printed (dims.map cellsAlong).prod]]) ++ rest) =
        some ((dims.map cellsAlong).prod, rest) := by
  have plain : ∀ w ∈ ["CELL_DATA".toList, printed (dims.map cellsAlong).prod], Word w := by
    simp +decide [word_printed]
  simp only [writeHeaderString_blank_words plain, readCellData, expectLine_lines [] (List.not_mem_nil _),
    readWords_lines (List.cons_ne_nil _ _) plain, Option.bind_eq_bind, Option.some_bind, readCounts,
    List.mapM_cons, List.mapM_nil, readCount_printed, if_true, Option.pure_def]
  rfl

theorem word_cStr {name : List Char} (noSpace : ' ' ∉ name) (noNewline : '\n' ∉ name) :
    Word (cStr name) :=
  ⟨fun mem => noSpace ((List.takeWhile_sublist _).subset mem),
    fun mem => noNewline ((List.takeWhile_sublist _).subset mem),
    fun mem => by simpa using List.mem_takeWhile_imp mem⟩

theorem readScalarHeader_lines {name : List Char} (plain : Word name) (rest : List (Item α)) :
    readScalarHeader (writeHeaderString (lines [[], words ["SCALARS".toList, name, "float".toList],
      "LOOKUP_TABLE default".toList]) ++ rest) = some (String.mk name, rest) := by
  have plainWords : ∀ w ∈ ["SCALARS".toList, name, "float".toList], Word w := by
    simp +decide [plain]
  rw [writeHeaderString_lines]
  · simp only [readScalarHeader, expectLine_lines [] (List.not_mem_nil _),
      readWords_lines (List.cons_ne_nil _ _) plainWords, Option.bind_eq_bind, Option.some_bind,
      scalarName, eq_self_iff_true, and_self, if_true,
      expectLine_lines _ (by decide : '\n' ∉ "LOOKUP_TABLE default".toList)]
    rfl
  · intro l mem
    simp only [List.mem_cons, List.mem_singleton, List.not_mem_nil, or_false] at mem
    rcases mem with rfl | rfl | rfl
    exacts [List.not_mem_nil _, nul_not_mem_words plainWords, by decide]

theorem readScalars_succ (cells fuel : ℕ) {input : List (Item α)} (nonempty : input ≠ []) :
    readScalars cells (fuel + 1) input = (do
      let (name, rest) ← readScalarHeader input
      let (values, rest) ← readFloats cells rest
      let more ← readScalars cells fuel rest
      some ((name, values) :: more)) := by
  cases input
  · exact absurd rfl nonempty
  · rfl

theorem writeScalarBlock_ne_nil (block : String × List α) : writeScalarBlock block ≠ [] := by
  simp [writeScalarBlock, writeHeaderString, cStr, lines, text, endl]

theorem readScalars_blocks (cells : ℕ) : ∀ (blocks : List (String × List α)) (fuel : ℕ),
    blocks.length ≤ fuel →
    (∀ block ∈ blocks, ' ' ∉ block.1.toList ∧ '\n' ∉ block.1.toList ∧ block.2.length = cells) →
      readScalars cells fuel (blocks.flatMap writeScalarBlock) =
        some (blocks.map fun block => (String.mk (cStr block.1.toList), block.2))
  | [], fuel, _, _ => by cases fuel <;> rfl
  | block :: blocks, fuel + 1, enough, plain => by
    obtain ⟨noSpace, noNewline, length⟩ := plain block (List.mem_cons_self _ _)
    rw [List.flatMap_cons, readScalars_succ cells fuel (by simp [writeScalarBlock_ne_nil]),
      writeScalarBlock, List.append_assoc, readScalarHeader_lines (word_cStr noSpace noNewline)]
    have values (rest : List (Item α)) : readFloats cells (floats block.2 ++ rest) =
        some (block.2, rest) := length ▸ readFloats_floats block.2 rest
    simp only [Option.bind_eq_bind, Option.some_bind, values,
      readScalars_blocks cells blocks fuel (Nat.le_of_succ_le_succ enough)
        fun b mem => plain b (List.mem_cons_of_mem _ mem), List.map_cons]

theorem length_le_flatMap_writeScalarBlock :
    ∀ blocks : List (String × List α), blocks.length ≤ (blocks.flatMap writeScalarBlock).length
  | [] => le_refl 0
  | block :: blocks => by
    rw [List.flatMap_cons, List.length_append, List.length_cons]
    have := List.length_pos.mpr (writeScalarBlock_ne_nil block)
    have := length_le_flatMap_writeScalarBlock blocks
    omega

end Reader

section RoundTrip

variable {α : Type}

theorem cellsAlong_nodeCount (cfg : Config) (v : Vtk α)
    (active : ∀ d, cfg.Active d → 0 < v.nx d) (inactive : ∀ d, ¬cfg.Active d → v.nx d = 1)
    (d : Dir) : cellsAlong (nodeCount cfg v d) = v.nx d := by
  by_cases act : cfg.Active d
  · have := active d act
    simp only [cellsAlong, nodeCount, offset, act, if_true]
    split_ifs <;> omega
  · simp [cellsAlong, nodeCount, offset, act, inactive d act]

/-- A serial run of `Write` leaves a file a reader of the legacy VTK format reads in full: the
grid format `GEOMETRY` selects, the node counts, the coordinates `Init` computed, the cell count,
and every field `Write` was given, in order, under its name as `c_str()` cuts it, with the values
of its interior cells in loop order. The title and the field names hold no line break, and the
names no space; the grid has one cell along its inactive directions and at least one along
the others. -/
theorem readFile_writeFile (cfg : Config) (gitVersion : List Char)
    (title : '\n' ∉ gitVersion ∧ '\x00' ∉ gitVersion) (grid : Grid) (nghost nx : Dir → ℕ)
    (active : ∀ d, cfg.Active d → 0 < nx d) (inactive : ∀ d, ¬cfg.Active d → nx d = 1)
    (buffer : ℕ → α) (cos sin : ℝ → ℝ) (bigEndian : ℝ → α) (beg fin : Dir → ℕ)
    (extent : ∀ d, fin d - beg d = nx d) {nvar : ℕ} (vcName : Fin nvar → String)
    (vc : Fin nvar → Idx3 → ℝ) (userDefVariablesEnabled : Bool)
    (userDefVariables : List (String × (Idx3 → ℝ)))
    (names : ∀ field ∈ Vtk.fields vcName vc userDefVariablesEnabled userDefVariables,
      ' ' ∉ field.1.toList ∧ '\n' ∉ field.1.toList) :
    let v := Vtk.init nx nx buffer
    let nodes := initNodes cfg grid grid nghost nx nx (fun _ => true) cos sin bigEndian
    readFile (writeFile cfg v gitVersion nodes
        (v.write beg fin bigEndian vcName vc userDefVariablesEnabled userDefVariables).1) =
      some ⟨vtkFormat cfg.geometry, [nodeCount cfg v iDir, nodeCount cfg v jDir, nodeCount cfg v kDir],
        nodes.coordinates (vtkFormat cfg.geometry), v.cellData,
        (Vtk.fields vcName vc userDefVariablesEnabled userDefVariables).map fun field =>
          (String.mk (cStr field.1.toList), (interior beg fin).map fun p => bigEndian (field.2 p))⟩ := by
  intro v nodes
  have cells : ([nodeCount cfg v iDir, nodeCount cfg v jDir, nodeCount cfg v kDir].map
      cellsAlong).prod = v.cellData := by
    simp only [List.map_cons, List.map_nil, cellsAlong_nodeCount cfg v active inactive,
      List.prod_cons, List.prod_nil, mul_one, Vtk.cellData, mul_assoc]
  have scalars : (v.write beg fin bigEndian vcName vc userDefVariablesEnabled
      userDefVariables).1.scalars = (Vtk.fields vcName vc userDefVariablesEnabled
        userDefVariables).map fun field =>
          (field.1, (interior beg fin).map fun p => bigEndian (field.2 p)) := by
    rw [Vtk.write, Vtk.writeFields_scalars beg fin v extent, List.map_map]
    rfl
  have interiorCells : (interior beg fin).length = v.cellData := by
    rw [interior, length_range3, extent, extent, extent]
    show _ = nx iDir * nx jDir * nx kDir
    ring
  have blocks : ∀ block ∈ (Vtk.fields vcName vc userDefVariablesEnabled userDefVariables).map
      (fun field => (field.1, (interior beg fin).map fun p => bigEndian (field.2 p))),
        ' ' ∉ block.1.toList ∧ '\n' ∉ block.1.toList ∧
        block.2.length = ([nodeCount cfg v iDir, nodeCount cfg v jDir, nodeCount cfg v kDir].map
          cellsAlong).prod := by
    rw [cells]
    intro block mem
    obtain ⟨field, inFields, rfl⟩ := List.mem_map.mp mem
    exact ⟨(names field inFields).1, (names field inFields).2,
      (List.length_map _ _).trans interiorCells⟩
  have points := length_nodeCoords cfg grid nghost cos sin bigEndian nx fun _ => true
  simp only [nodeSubsize, if_true] at points
  simp only [readFile, writeFile, writeHeader, List.append_assoc,
    readPreamble_headerLines cfg v gitVersion title.1 title.2, Option.bind_eq_bind, Option.some_bind,
    readGrid_writeGrid cfg v nodes _ (by simp [nodes, initNodes, xnode, axisNodes, nodeCount, v, Vtk.init])
      (by simp [nodes, initNodes, ynode, axisNodes, nodeCount, v, Vtk.init])
      (by simp [nodes, initNodes, znode, nodeCount, v, Vtk.init]) points, ← cells, readCellData_lines,
    scalars, readScalars_blocks _ _ _ (length_le_flatMap_writeScalarBlock _) blocks, List.map_map]
  rfl

theorem readFile_writeFile_oneCell :
    (('\n' ∉ "v2".toList ∧ '\x00' ∉ "v2".toList) ∧
      (∀ d, spherical3.Active d → 0 < (fun _ => 1 : Dir → ℕ) d) ∧
      (∀ d, ¬spherical3.Active d → (fun _ => 1 : Dir → ℕ) d = 1) ∧
      (∀ d, (fun _ => 3 : Dir → ℕ) d - (fun _ => 2 : Dir → ℕ) d = (fun _ => 1 : Dir → ℕ) d) ∧
      ∀ field ∈ Vtk.fields (fun _ : Fin 1 => "RHO") (fun _ _ => 1) false [],
        ' ' ∉ field.1.toList ∧ '\n' ∉ field.1.toList) ∧
    let v := Vtk.init (fun _ => 1) (fun _ => 1) fun _ => (0 : ℝ)
    let nodes := initNodes spherical3 evenFaces evenFaces (fun _ => 1) (fun _ => 1) (fun _ => 1)
      (fun _ => true) id id id
    readFile (writeFile spherical3 v "v2".toList nodes
        (v.write (fun _ => 2) (fun _ => 3) id (fun _ : Fin 1 => "RHO") (fun _ _ => 1) false []).1) =
      some ⟨vtkFormat spherical3.geometry,
        [nodeCount spherical3 v iDir, nodeCount spherical3 v jDir, nodeCount spherical3 v kDir],
        nodes.coordinates (vtkFormat spherical3.geometry), v.cellData,
        (Vtk.fields (fun _ : Fin 1 => "RHO") (fun _ _ => 1) false []).map fun field =>
          (String.mk (cStr field.1.toList),
            (interior (fun _ => 2) fun _ => 3).map fun p => id (field.2 p))⟩ := by
  have names : ∀ field ∈ Vtk.fields (fun _ : Fin 1 => "RHO") (fun _ _ => 1) false [],
      ' ' ∉ field.1.toList ∧ '\n' ∉ field.1.toList := by
    simp only [Vtk.fields, List.ofFn_succ, List.ofFn_zero, if_false, List.append_nil,
      List.mem_singleton, forall_eq]
    decide
  exact ⟨⟨⟨by decide, by decide⟩, fun _ _ => Nat.one_pos, fun _ _ => rfl, fun _ => rfl, names⟩,
    readFile_writeFile spherical3 "v2".toList ⟨by decide, by decide⟩ evenFaces (fun _ => 1)
      (fun _ => 1) (fun _ _ => Nat.one_pos) (fun _ _ => rfl) (fun _ => 0) id id id (fun _ => 2)
      (fun _ => 3) (fun _ => rfl) (fun _ : Fin 1 => "RHO") (fun _ _ => 1) false [] names⟩

end RoundTrip

end Idefix

import Idefix.DataBlock
import Mathlib.Data.List.Range
import Mathlib.Data.List.OfFn
import Mathlib.Data.Set.Function

/-!
# `Vtk::Write`: packing the interior cells into `vect3D`

`Vtk::Init` stores the global interior extents `nx1, nx2, nx3` (`grid.np_int`) and the local
ones `nx1loc, nx2loc, nx3loc` (`data.np_int`), and allocates the host buffer `vect3D` of
`nx1loc*nx2loc*nx3loc` floats. `Vtk::Write` declares `CELL_DATA nx1*nx2*nx3` in the header,
then, for every `Vc` field and every enabled user-defined variable, stores the value of each
interior cell `(k, j, i)` at slot `(i-beg1) + (j-beg2)*nx1loc + (k-beg3)*nx1loc*nx2loc` of
`vect3D` and hands the buffer to `WriteScalar`, which writes its first `nx1loc*nx2loc*nx3loc`
entries. The buffer is kept from one field to the next and from one file to the next.

`BigEndian(static_cast<float>(·))` is the parameter `bigEndian`; the file handle, the MPI
views and the coordinate headers play no part in which value lands in which slot and are left
out. Index arithmetic is on `ℕ`: in the loops every index is at least its `beg`.
-/

namespace Idefix

open Kernel

set_option autoImplicit false

variable {α : Type}

/-- The members of `Vtk` that `Init` sets and `Write` uses. -/
structure Vtk (α : Type) where
  /-- `nx1, nx2, nx3`: the interior extents of the whole grid. -/
  nx : Dir → ℕ
  /-- `nx1loc, nx2loc, nx3loc`: the interior extents of this data block. -/
  nxLoc : Dir → ℕ
  /-- The host buffer `vect3D`. -/
  vect3D : ℕ → α

namespace Vtk

/-- `Vtk::Init`: `buffer` is whatever the allocation of `vect3D` holds. -/
def init (gridNpInt dataNpInt : Dir → ℕ) (buffer : ℕ → α) : Vtk α :=
  ⟨gridNpInt, dataNpInt, buffer⟩

variable (v : Vtk α)

def bufferSize : ℕ := v.nxLoc iDir * v.nxLoc jDir * v.nxLoc kDir

def cellData : ℕ := v.nx iDir * v.nx jDir * v.nx kDir

def slot (beg : Dir → ℕ) : Idx3 → ℕ
  | (k, j, i) =>
    i - beg iDir + (j - beg jDir) * v.nxLoc iDir + (k - beg kDir) * v.nxLoc iDir * v.nxLoc jDir

end Vtk

def interior (beg fin : Dir → ℕ) : List Idx3 :=
  range3 (beg kDir) (fin kDir) (beg jDir) (fin jDir) (beg iDir) (fin iDir)

theorem map_sub_range' (b n c : ℕ) :
    (List.range' b n).map (fun i => i - b + c) = List.range' c n := by
  rw [List.range'_eq_map_range, List.range'_eq_map_range, List.map_map]
  congr 1
  funext i
  simp only [Function.comp_apply, Nat.add_sub_cancel_left, Nat.add_comm]

theorem flatMap_range'_blocks (b c n : ℕ) : ∀ m : ℕ,
    (List.range' b m).flatMap (fun r => List.range' (c + (r - b) * n) n) = List.range' c (m * n)
  | 0 => by simp
  | m + 1 => by
    have start : c + (b + 1 * m - b) * n = c + 1 * (m * n) := by
      rw [Nat.add_sub_cancel_left, one_mul, one_mul]
    rw [List.range'_concat, List.flatMap_append, flatMap_range'_blocks b c n m,
      List.flatMap_singleton, start, List.range'_append, Nat.succ_mul, Nat.add_comm]

namespace Vtk

variable (v : Vtk α)

theorem slot_interior (beg fin : Dir → ℕ) (extent : ∀ d, fin d - beg d = v.nxLoc d) :
    (interior beg fin).map (v.slot beg) = List.range v.bufferSize := by
  simp only [interior, range3, range1, extent, List.map_flatMap, List.map_map]
  have row (k j : ℕ) :
      (List.range' (beg iDir) (v.nxLoc iDir)).map (v.slot beg ∘ fun i => (k, j, i)) =
        List.range' ((k - beg kDir) * (v.nxLoc jDir * v.nxLoc iDir) + (j - beg jDir) * v.nxLoc iDir)
          (v.nxLoc iDir) := by
    refine Eq.trans ?_ (map_sub_range' (beg iDir) (v.nxLoc iDir) _)
    congr 1
    funext i
    simp only [Function.comp_apply, slot]
    ring
  simp only [row, flatMap_range'_blocks]
  have plane := flatMap_range'_blocks (beg kDir) 0 (v.nxLoc jDir * v.nxLoc iDir) (v.nxLoc kDir)
  simp only [Nat.zero_add] at plane
  rw [plane, ← List.range_eq_range', bufferSize]
  congr 1
  ring

example : (interior (fun _ => 2) (fun _ => 4)).map
    ((init (fun _ => 2) (fun _ => 2) fun _ => (0 : ℕ)).slot fun _ => 2) = List.range 8 := by
  decide

end Vtk

section Updates

variable {ι κ : Type} [DecidableEq κ] (key : ι → κ) (value : ι → α)

theorem foldl_update_of_not_mem (l : List ι) (buffer : κ → α) {s : κ}
    (absent : s ∉ l.map key) :
    l.foldl (fun b q => Function.update b (key q) (value q)) buffer s = buffer s := by
  induction l generalizing buffer with
  | nil => rfl
  | cons q rest ih =>
    simp only [List.map_cons, List.mem_cons, not_or] at absent
    rw [List.foldl_cons, ih _ absent.2, Function.update_noteq absent.1]

theorem foldl_update_apply (l : List ι) (distinct : (l.map key).Nodup) (buffer : κ → α)
    {p : ι} (mem : p ∈ l) :
    l.foldl (fun b q => Function.update b (key q) (value q)) buffer (key p) = value p := by
  induction l generalizing buffer with
  | nil => cases mem
  | cons q rest ih =>
    rw [List.map_cons, List.nodup_cons] at distinct
    rw [List.foldl_cons]
    rcases List.mem_cons.mp mem with rfl | later
    · rw [foldl_update_of_not_mem key value rest _ distinct.1, Function.update_same]
    · exact ih distinct.2 _ later

end Updates

namespace Vtk

variable (v : Vtk α)

/-- The packing loops of one field: `vect3D[slot] = value(k,j,i)` over the interior cells. -/
def pack (beg fin : Dir → ℕ) (value : Idx3 → α) : Vtk α :=
  { v with
    vect3D := (interior beg fin).foldl
      (fun buffer p => Function.update buffer (v.slot beg p) (value p)) v.vect3D }

/-- `WriteScalar(fileHdl, vect3D, varName)`: the name and the first `nx1loc*nx2loc*nx3loc`
entries of the buffer. -/
def writeScalar (varName : String) : String × List α :=
  (varName, (List.range v.bufferSize).map v.vect3D)

/-- The field loop of `Vtk::Write`: pack each field, then write it. -/
def writeFields (beg fin : Dir → ℕ) : Vtk α → List (String × (Idx3 → α)) →
    List (String × List α) × Vtk α
  | v, [] => ([], v)
  | v, (name, value) :: rest =>
    let packed := v.pack beg fin value
    let written := writeFields beg fin packed rest
    (packed.writeScalar name :: written.1, written.2)

/-- What `Vtk::Write` puts in a file: the `CELL_DATA` count and the scalar blocks. -/
structure File (α : Type) where
  cellData : ℕ
  scalars : List (String × List α)

def fields {nvar : ℕ} (vcName : Fin nvar → String) (vc : Fin nvar → Idx3 → ℝ)
    (userDefVariablesEnabled : Bool) (userDefVariables : List (String × (Idx3 → ℝ))) :
    List (String × (Idx3 → ℝ)) :=
  List.ofFn (fun nv => (vcName nv, vc nv)) ++
    if userDefVariablesEnabled then userDefVariables else []

/-- `Vtk::Write(datain, output)`, from the interior bounds `data.beg` and `data.end`. -/
def write {nvar : ℕ} (beg fin : Dir → ℕ) (bigEndian : ℝ → α) (vcName : Fin nvar → String)
    (vc : Fin nvar → Idx3 → ℝ) (userDefVariablesEnabled : Bool)
    (userDefVariables : List (String × (Idx3 → ℝ))) : File α × Vtk α :=
  let written := v.writeFields beg fin
    ((fields vcName vc userDefVariablesEnabled userDefVariables).map
      fun field => (field.1, fun p => bigEndian (field.2 p)))
  (⟨v.cellData, written.1⟩, written.2)

@[simp] theorem pack_nx (beg fin : Dir → ℕ) (value : Idx3 → α) :
    (v.pack beg fin value).nx = v.nx := rfl

@[simp] theorem pack_nxLoc (beg fin : Dir → ℕ) (value : Idx3 → α) :
    (v.pack beg fin value).nxLoc = v.nxLoc := rfl

theorem writeScalar_pack (beg fin : Dir → ℕ) (extent : ∀ d, fin d - beg d = v.nxLoc d)
    (value : Idx3 → α) (name : String) :
    (v.pack beg fin value).writeScalar name = (name, (interior beg fin).map value) := by
  have slots := v.slot_interior beg fin extent
  have distinct : ((interior beg fin).map (v.slot beg)).Nodup := slots ▸ List.nodup_range _
  simp only [writeScalar, bufferSize, pack_nxLoc]
  rw [← bufferSize, ← slots, List.map_map, Prod.mk.injEq]
  refine ⟨rfl, List.map_congr_left fun p mem => ?_⟩
  exact foldl_update_apply (v.slot beg) value _ distinct _ mem

theorem writeFields_extents (beg fin : Dir → ℕ) :
    ∀ (v : Vtk α) (fields : List (String × (Idx3 → α))),
      (writeFields beg fin v fields).2.nxLoc = v.nxLoc ∧
        (writeFields beg fin v fields).2.nx = v.nx
  | _, [] => ⟨rfl, rfl⟩
  | v, (_, value) :: rest => writeFields_extents beg fin (v.pack beg fin value) rest

theorem writeFields_scalars (beg fin : Dir → ℕ) : ∀ (v : Vtk α),
    (∀ d, fin d - beg d = v.nxLoc d) → ∀ fields : List (String × (Idx3 → α)),
      (writeFields beg fin v fields).1 =
        fields.map fun field => (field.1, (interior beg fin).map field.2)
  | _, _, [] => rfl
  | v, extent, (name, value) :: rest => by
    simp only [writeFields, List.map_cons, writeScalar_pack v beg fin extent]
    rw [writeFields_scalars beg fin (v.pack beg fin value) extent rest]

/-- `Vtk::Write` on interior bounds that span the local extents `Init` stored. The packing
loops send the interior cells one-to-one onto the slots of the buffer, so no store falls
outside it and none is lost to another; every block holds the interior values of its field
in loop order, whatever the buffer held before; and in a serial run every block has the
`CELL_DATA` count of the header. -/
theorem write_scalars_interior {nvar : ℕ} (beg fin : Dir → ℕ)
    (extent : ∀ d, fin d - beg d = v.nxLoc d) (bigEndian : ℝ → α) (vcName : Fin nvar → String)
    (vc : Fin nvar → Idx3 → ℝ) (userDefVariablesEnabled : Bool)
    (userDefVariables : List (String × (Idx3 → ℝ))) :
    let file := (v.write beg fin bigEndian vcName vc userDefVariablesEnabled userDefVariables).1
    Set.BijOn (v.slot beg) {p | p ∈ interior beg fin} (Set.Iio v.bufferSize) ∧
      file.scalars = (fields vcName vc userDefVariablesEnabled userDefVariables).map
        (fun field => (field.1, (interior beg fin).map fun p => bigEndian (field.2 p))) ∧
      (v.nx = v.nxLoc → ∀ block ∈ file.scalars, block.2.length = file.cellData) := by
  have slots := v.slot_interior beg fin extent
  have onto (s : ℕ) : s ∈ (interior beg fin).map (v.slot beg) ↔ s < v.bufferSize := by
    rw [slots, List.mem_range]
  have scalars := v.writeFields_scalars beg fin extent
    ((fields vcName vc userDefVariablesEnabled userDefVariables).map
      fun field => (field.1, fun p => bigEndian (field.2 p)))
  simp only [List.map_map, Function.comp_def] at scalars
  refine ⟨⟨fun p mem => (onto _).mp (List.mem_map_of_mem _ mem),
    List.inj_on_of_nodup_map (slots ▸ List.nodup_range _),
    fun s below => List.mem_map.mp ((onto s).mpr below)⟩,
    scalars, fun serial block written => ?_⟩
  simp only [write, scalars, List.mem_map] at written ⊢
  obtain ⟨field, -, rfl⟩ := written
  rw [List.length_map, ← List.length_map _ (v.slot beg), slots, List.length_range, bufferSize,
    cellData, serial]

theorem write_scalars_interior_twoFields :
    let v := init ![2, 2, 1] ![2, 2, 1] fun _ => (0 : ℝ)
    let beg : Dir → ℕ := fun _ => 2
    let fin : Dir → ℕ := ![4, 4, 3]
    let vcName : Fin 2 → String := !["RHO", "PRS"]
    let vc : Fin 2 → Idx3 → ℝ := ![fun p => p.2.2, fun p => p.1 + p.2.1]
    let file := (v.write beg fin id vcName vc false []).1
    (∀ d, fin d - beg d = v.nxLoc d) ∧
      Set.BijOn (v.slot beg) {p | p ∈ interior beg fin} (Set.Iio v.bufferSize) ∧
      file.scalars = (fields vcName vc false []).map
        (fun field => (field.1, (interior beg fin).map fun p => id (field.2 p))) ∧
      (v.nx = v.nxLoc → ∀ block ∈ file.scalars, block.2.length = file.cellData) :=
  have extent : ∀ d, ![4, 4, 3] d - 2 = ![2, 2, 1] d := by decide
  ⟨extent, write_scalars_interior (init ![2, 2, 1] ![2, 2, 1] fun _ => (0 : ℝ)) _ _ extent id
    !["RHO", "PRS"] ![fun p => p.2.2, fun p => p.1 + p.2.1] false []⟩

end Vtk

end Idefix

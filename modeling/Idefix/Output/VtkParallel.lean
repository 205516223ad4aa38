import Idefix.Output.VtkFile
import Idefix.Geometry.Decomposition

/-!
# `Vtk::Write` with MPI

With `WITH_MPI` every process runs `Vtk::Write` on its own data block, and all of them write
one file. `WriteHeaderString` and `WriteHeaderFloat` write from the process of rank 0 alone;
`WriteHeaderNodes` and `WriteScalar` set a view of the file, the subarray of the global array
that `Init` builds with `MPI_Type_create_subarray`, and every process writes its block through
it with `MPI_File_write_all`. Every call moves `this->offset` by the size of what the whole run
writes, so the processes keep one offset without exchanging it. The elementary writes of all
processes reach the file in any order.

The serial build of the same code writes the stream `writeFile`. `Process.write_serial` says
that when the data blocks tile the grid, every order of the elementary writes of all processes
leaves at the byte offset of each item of the serial file of the global fields that item: the
parallel writer refines the serial one.
-/

namespace Idefix

open Kernel

set_option autoImplicit false

/-- The typemap of `MPI_Type_create_subarray(ndims, sizes, subsizes, starts, MPI_ORDER_C,
etype)`: the positions, counted in `etype`, of the elements of the subarray in the order of its
memory, the last dimension fastest. The size of the first dimension only bounds the subarray. -/
def subarray : List ℕ → List ℕ → List ℕ → List ℕ
  | _ :: sizes, subsize :: subsizes, start :: starts =>
    (List.range' start subsize).flatMap fun x =>
      (subarray sizes subsizes starts).map fun q => x * sizes.prod + q
  | _, _, _ => [0]

def subarrayPosition (size start : Dir → ℕ) : Idx3 → ℕ
  | (k, j, i) => ((start kDir + k) * size jDir + (start jDir + j)) * size iDir + (start iDir + i)

theorem subarrayPosition_shift (size start : Dir → ℕ) (p : Idx3) :
    subarrayPosition size start p = subarrayPosition size (fun _ => 0) (shift start p) := by
  simp only [subarrayPosition, shift, Nat.zero_add]

theorem subarray_three (size subsize start : Dir → ℕ) :
    subarray [size kDir, size jDir, size iDir] [subsize kDir, subsize jDir, subsize iDir]
        [start kDir, start jDir, start iDir] =
      (interior (fun _ => 0) subsize).map (subarrayPosition size start) := by
  simp only [subarray, interior, range3, range1, List.range'_eq_map_range, List.flatMap_map,
    List.map_flatMap, List.map_map, Function.comp_def, List.prod_cons, List.prod_nil,
    Nat.sub_zero, List.map_cons, List.map_nil, ← List.map_eq_flatMap]
  exact List.flatMap_congr fun _ _ => List.flatMap_congr fun _ _ =>
    List.map_congr_left fun _ _ => by simp only [subarrayPosition]; ring

theorem subarray_four (size subsize start : Dir → ℕ) (width : ℕ) :
    subarray [size kDir, size jDir, size iDir, width]
        [subsize kDir, subsize jDir, subsize iDir, width] [start kDir, start jDir, start iDir, 0] =
      (interior (fun _ => 0) subsize).flatMap fun p =>
        (List.range width).map (subarrayPosition size start p * width + ·) := by
  simp only [subarray, interior, range3, range1, List.range'_eq_map_range, List.flatMap_map,
    List.map_flatMap, List.map_map, Function.comp_def, List.prod_cons, List.prod_nil,
    Nat.sub_zero, List.map_cons, List.map_nil, ← List.map_eq_flatMap, List.flatMap_assoc]
  exact List.flatMap_congr fun _ _ => List.flatMap_congr fun _ _ =>
    List.flatMap_congr fun _ _ => List.map_congr_left fun _ _ => by
      simp only [subarrayPosition]; ring

theorem interior_eq_map (beg fin : Dir → ℕ) :
    interior beg fin = (interior (fun _ => 0) fun d => fin d - beg d).map (shift beg) := by
  simp only [interior, range3, range1, Nat.sub_zero, List.range'_eq_map_range, List.map_flatMap,
    List.flatMap_map, List.map_map, Function.comp_def, Nat.zero_add, shift]

theorem subarrayPosition_interior (nx : Dir → ℕ) :
    (interior (fun _ => 0) nx).map (subarrayPosition nx fun _ => 0) =
      List.range (nx iDir * nx jDir * nx kDir) := by
  have slots := (Vtk.init nx nx fun _ => (0 : ℕ)).slot_interior (fun _ => 0) nx fun _ => rfl
  refine Eq.trans (List.map_congr_left fun p _ => ?_) slots
  obtain ⟨k, j, i⟩ := p
  simp only [subarrayPosition, Vtk.slot, Vtk.init, Nat.sub_zero, Nat.zero_add]
  ring

theorem flatMap_range_blocks (width : ℕ) : ∀ n : ℕ,
    (List.range n).flatMap (fun m => (List.range width).map (m * width + ·)) =
      List.range (n * width)
  | 0 => by rw [Nat.zero_mul]; rfl
  | n + 1 => by
    rw [List.range_succ, List.flatMap_append, flatMap_range_blocks width n,
      List.flatMap_singleton, Nat.succ_mul, List.range_add]

theorem zip_flatMap {β γ δ : Type} (l : List β) (f : β → List γ) (g : β → List δ)
    (same : ∀ b ∈ l, (f b).length = (g b).length) :
    (l.flatMap f).zip (l.flatMap g) = l.flatMap fun b => (f b).zip (g b) := by
  induction l with
  | nil => rfl
  | cons b rest ih =>
    rw [List.flatMap_cons, List.flatMap_cons, List.flatMap_cons,
      List.zip_append (same b (List.mem_cons_self b rest)),
      ih fun c mem => same c (List.mem_cons_of_mem b mem)]

section Offsets

variable {α : Type}

def Item.size : Item α → ℕ
  | .char _ => 1
  | .float _ => 4

def bytes (items : List (Item α)) : ℕ := (items.map Item.size).sum

def place : ℕ → List (Item α) → List (ℕ × Item α)
  | _, [] => []
  | offset, item :: rest => (offset, item) :: place (offset + item.size) rest

theorem Item.size_pos (item : Item α) : 0 < item.size := by
  cases item <;> exact Nat.succ_pos _

theorem place_append (front back : List (Item α)) : ∀ offset,
    place offset (front ++ back) = place offset front ++ place (offset + bytes front) back := by
  induction front with
  | nil => simp [place, bytes]
  | cons item rest ih =>
    intro offset
    rw [List.cons_append, place, place, ih, List.cons_append]
    simp only [bytes, List.map_cons, List.sum_cons, Nat.add_assoc]

@[simp] theorem map_snd_place (items : List (Item α)) : ∀ offset,
    (place offset items).map Prod.snd = items := by
  induction items with
  | nil => intro; rfl
  | cons item rest ih => intro offset; simp only [place, List.map_cons, ih]

theorem le_of_mem_place {items : List (Item α)} : ∀ {offset : ℕ} {w : ℕ × Item α},
    w ∈ place offset items → offset ≤ w.1 := by
  induction items with
  | nil => intro _ _ mem; cases mem
  | cons item rest ih =>
    intro offset w mem
    rcases List.mem_cons.mp mem with rfl | later
    · exact le_rfl
    · exact Nat.le_of_add_right_le (ih later)

theorem nodup_place (items : List (Item α)) : ∀ offset,
    ((place offset items).map Prod.fst).Nodup := by
  induction items with
  | nil => intro; exact List.nodup_nil
  | cons item rest ih =>
    intro offset
    refine List.nodup_cons.mpr ⟨fun mem => ?_, ih _⟩
    obtain ⟨w, later, rfl⟩ := List.mem_map.mp mem
    have := le_of_mem_place later
    have := item.size_pos
    omega

theorem bytes_text (s : List Char) : bytes (text s : List (Item α)) = s.length := by
  induction s with
  | nil => rfl
  | cons c rest ih =>
    simp only [bytes, text, List.map_cons, List.sum_cons, List.length_cons] at ih ⊢
    rw [ih, Item.size, Nat.add_comm]

theorem bytes_floats (xs : List α) : bytes (floats xs) = xs.length * 4 := by
  induction xs with
  | nil => rfl
  | cons x rest ih =>
    simp only [bytes, floats, List.map_cons, List.sum_cons, List.length_cons] at ih ⊢
    rw [ih, Item.size, Nat.succ_mul, Nat.add_comm]

theorem place_floats (xs : List α) : ∀ offset,
    place offset (floats xs) =
      ((List.range xs.length).zip xs).map fun w => (offset + 4 * w.1, .float w.2) := by
  induction xs with
  | nil => intro; rfl
  | cons x rest ih =>
    intro offset
    simp only [floats, List.map_cons, place, Item.size] at ih ⊢
    rw [ih, List.length_cons, List.range_succ_eq_map, List.zip_cons_cons, List.map_cons,
      List.zip_map_left, List.map_map]
    refine congrArg₂ _ (by rw [Nat.mul_zero, Nat.add_zero]) (List.map_congr_left fun w _ => ?_)
    simp only [Function.comp_apply, Prod.map_fst, Prod.map_snd, id, Nat.succ_eq_add_one]
    congr 1
    ring

end Offsets

/-- An I/O call of `Vtk::Write` on one process. -/
inductive Call (α : Type)
  /-- `WriteHeaderString(header, fvtk)`. -/
  | headerString (header : List Char)
  /-- `WriteHeaderFloat(buffer, nelem, fvtk)`, with the `nelem` floats it writes. -/
  | headerFloat (buffer : List α)
  /-- `MPI_File_set_view` at the offset with a view of floats, `MPI_File_write_all` of the
  buffer, and the offset moved by `extent` floats: `WriteHeaderNodes`, and `WriteScalar` after
  its header. -/
  | writeAll (view : List ℕ) (buffer : List α) (extent : ℕ)

namespace Call

variable {α : Type}

def items : Call α → List (Item α)
  | headerString header => writeHeaderString header
  | headerFloat buffer => floats buffer
  | writeAll _ buffer _ => floats buffer

/-- The elementary writes of the call on the process of rank `prank`, the file offset at
`offset`: the process of rank 0 alone writes the header, and `MPI_File_write_all` puts float
`n` of the buffer at position `n` of the view. -/
def writes (prank offset : ℕ) : Call α → List (ℕ × Item α)
  | headerString header => if prank = 0 then place offset (writeHeaderString header) else []
  | headerFloat buffer => if prank = 0 then place offset (floats buffer) else []
  | writeAll view buffer _ => (view.zip buffer).map fun w => (offset + 4 * w.1, .float w.2)

/-- How far the call moves `this->offset`: `strlen(header)`, `nelem*sizeof(float)`, and
`sizeof(float)` times the extent. -/
def advance : Call α → ℕ
  | headerString header => (cStr header).length
  | headerFloat buffer => buffer.length * 4
  | writeAll _ _ extent => 4 * extent

end Call

variable {α : Type}

/-- The elementary writes of a sequence of calls on one process, from `this->offset` on. -/
def runCalls (prank : ℕ) : ℕ → List (Call α) → List (ℕ × Item α)
  | _, [] => []
  | offset, call :: rest => call.writes prank offset ++ runCalls prank (offset + call.advance) rest

theorem runCalls_append (prank : ℕ) (front back : List (Call α)) : ∀ offset,
    runCalls prank offset (front ++ back) =
      runCalls prank offset front ++
        runCalls prank (offset + (front.map Call.advance).sum) back := by
  induction front with
  | nil => intro; rfl
  | cons call rest ih =>
    intro offset
    rw [List.cons_append, runCalls, runCalls, ih, List.append_assoc]
    simp only [List.map_cons, List.sum_cons, Nat.add_assoc]

def applyWrites (writes : List (ℕ × Item α)) (file : ℕ → Item α) : ℕ → Item α :=
  writes.foldl (fun file w => Function.update file w.1 w.2) file

section Collective

variable {π : Type} (prank : π → ℕ) (processes : List π)

def Collective (calls : π → List (Call α)) (segment : List (Item α)) : Prop :=
  (∀ r ∈ processes, ((calls r).map Call.advance).sum = bytes segment) ∧
    ∀ offset, (processes.flatMap fun r => runCalls (prank r) offset (calls r)).Perm
      (place offset segment)

variable {prank processes}

theorem Collective.congr {calls calls' : π → List (Call α)} {segment : List (Item α)}
    (same : ∀ r ∈ processes, calls r = calls' r) (collective : Collective prank processes calls segment) :
    Collective prank processes calls' segment := by
  refine ⟨fun r mem => same r mem ▸ collective.1 r mem, fun offset => ?_⟩
  rw [← List.flatMap_congr fun r mem => congrArg (runCalls (prank r) offset) (same r mem)]
  exact collective.2 offset

theorem Collective.append {front back : π → List (Call α)} {first second : List (Item α)}
    (hfront : Collective prank processes front first)
    (hback : Collective prank processes back second) :
    Collective prank processes (fun r => front r ++ back r) (first ++ second) := by
  refine ⟨fun r mem => ?_, fun offset => ?_⟩
  · simp only [List.map_append, List.sum_append, hfront.1 r mem, hback.1 r mem, bytes]
  · have split : (processes.flatMap fun r => runCalls (prank r) offset (front r ++ back r)) =
        processes.flatMap fun r => runCalls (prank r) offset (front r) ++
          runCalls (prank r) (offset + bytes first) (back r) :=
      List.flatMap_congr fun r mem => by rw [runCalls_append, hfront.1 r mem]
    rw [split, place_append]
    exact (List.flatMap_append_perm _ _ _).symm.trans
      ((hfront.2 offset).append (hback.2 (offset + bytes first)))

theorem Collective.flatMap {β : Type} (l : List β) (calls : β → π → List (Call α))
    (segment : β → List (Item α)) (each : ∀ b ∈ l, Collective prank processes (calls b) (segment b)) :
    Collective prank processes (fun r => l.flatMap fun b => calls b r) (l.flatMap segment) := by
  induction l with
  | nil =>
    refine ⟨fun _ _ => rfl, fun offset => ?_⟩
    simp only [List.flatMap_nil, runCalls, place]
    rw [List.flatMap_eq_nil_iff.mpr fun _ _ => rfl]
  | cons b rest ih =>
    simp only [List.flatMap_cons]
    exact (each b (List.mem_cons_self b rest)).append
      (ih fun c mem => each c (List.mem_cons_of_mem b mem))

section Root

variable (ranks : processes.map prank = List.range processes.length) (nonempty : processes ≠ [])
include ranks nonempty

theorem flatMap_root {β : Type} (writes : List β) :
    (processes.flatMap fun r => if prank r = 0 then writes else []) = writes := by
  obtain _ | ⟨first, rest⟩ := processes
  · exact absurd rfl nonempty
  rw [List.map_cons, List.length_cons, List.range_succ_eq_map, List.cons.injEq] at ranks
  have later : ∀ r ∈ rest, prank r ≠ 0 := fun r mem zero => by
    have := ranks.2 ▸ List.mem_map_of_mem prank mem
    rw [zero, List.mem_map] at this
    obtain ⟨_, _, succ⟩ := this
    exact Nat.succ_ne_zero _ succ
  rw [List.flatMap_cons, if_pos ranks.1, List.flatMap_eq_nil_iff.mpr fun r mem => if_neg (later r mem),
    List.append_nil]

theorem collective_headerString (header : List Char) :
    Collective prank processes (fun _ => [Call.headerString header])
      (writeHeaderString header : List (Item α)) := by
  refine ⟨fun _ _ => ?_, fun offset => ?_⟩
  · rw [List.map_singleton, List.sum_singleton, Call.advance, writeHeaderString, bytes_text]
  · simp only [runCalls, Call.writes, List.append_nil]
    rw [flatMap_root ranks nonempty]

theorem collective_headerFloat (buffer : List α) :
    Collective prank processes (fun _ => [Call.headerFloat buffer]) (floats buffer) := by
  refine ⟨fun _ _ => ?_, fun offset => ?_⟩
  · rw [List.map_singleton, List.sum_singleton, Call.advance, bytes_floats]
  · simp only [runCalls, Call.writes, List.append_nil]
    rw [flatMap_root ranks nonempty]

end Root

theorem collective_writeAll {β : Type} (view : π → List ℕ) (buffer : π → List α)
    (cells : π → List β) (box : List β) (cellWrites : β → List (ℕ × α)) (values : List α)
    (extent : ℕ) (length : extent = values.length)
    (blocks : ∀ r ∈ processes, (view r).zip (buffer r) = (cells r).flatMap cellWrites)
    (tiling : (processes.flatMap cells).Perm box)
    (layout : box.flatMap cellWrites = (List.range values.length).zip values) :
    Collective prank processes (fun r => [Call.writeAll (view r) (buffer r) extent])
      (floats values) := by
  refine ⟨fun _ _ => ?_, fun offset => ?_⟩
  · rw [List.map_singleton, List.sum_singleton, Call.advance, bytes_floats, length, Nat.mul_comm]
  · have writes : (processes.flatMap fun r =>
          runCalls (prank r) offset [Call.writeAll (view r) (buffer r) extent]) =
        ((processes.flatMap cells).flatMap cellWrites).map
          fun w => (offset + 4 * w.1, Item.float w.2) := by
      rw [List.flatMap_assoc, List.map_flatMap]
      exact List.flatMap_congr fun r mem => by
        rw [runCalls, runCalls, List.append_nil, Call.writes, blocks r mem]
    rw [writes, place_floats, ← layout]
    exact ((tiling.flatMap_right cellWrites).map _)

end Collective

theorem flatMap_eq_of_forall₂ {β γ δ : Type} {R : β → γ → Prop} {f : β → List δ}
    {g : γ → List δ} (same : ∀ a b, R a b → f a = g b) :
    ∀ {l₁ : List β} {l₂ : List γ}, List.Forall₂ R l₁ l₂ → l₁.flatMap f = l₂.flatMap g
  | _, _, .nil => rfl
  | _, _, .cons head tail => by
    rw [List.flatMap_cons, List.flatMap_cons, same _ _ head, flatMap_eq_of_forall₂ same tail]

section Program

variable (cfg : Config) (v : Vtk α)

/-- The grid section of `WriteHeader`, by `VTK_FORMAT`. -/
def gridCalls (nodes : Nodes α) (nodeView : List ℕ) : VtkFormat → List (Call α)
  | .rectilinearGrid =>
    [.headerString (lines [words ["X_COORDINATES".toList, printed (nodeCount cfg v iDir),
        "float".toList]]), .headerFloat nodes.xnode,
      .headerString (lines [[], words ["Y_COORDINATES".toList, printed (nodeCount cfg v jDir),
        "float".toList]]), .headerFloat nodes.ynode,
      .headerString (lines [[], words ["Z_COORDINATES".toList, printed (nodeCount cfg v kDir),
        "float".toList]]), .headerFloat nodes.znode]
  | .structuredGrid =>
    [.headerString (lines [words ["POINTS".toList, printed (nodeCount cfg v iDir *
        nodeCount cfg v jDir * nodeCount cfg v kDir), "float".toList]]),
      .writeAll nodeView nodes.nodeCoord
        (nodeCount cfg v iDir * nodeCount cfg v jDir * nodeCount cfg v kDir * 3)]

/-- `Vtk::WriteHeader`. -/
def headerCalls (gitVersion : List Char) (nodes : Nodes α) (nodeView : List ℕ) : List (Call α) :=
  .headerString (headerLines cfg v gitVersion) ::
    (gridCalls cfg v nodes nodeView (vtkFormat cfg.geometry) ++
      [.headerString (lines [[], words ["CELL_DATA".toList, printed v.cellData]])])

/-- `Vtk::WriteScalar(fvtk, Vin, var_name)`. -/
def scalarCalls (view : List ℕ) (block : String × List α) : List (Call α) :=
  [.headerString (lines [[], words ["SCALARS".toList, cStr block.1.toList, "float".toList],
      "LOOKUP_TABLE default".toList]),
    .writeAll view block.2 v.cellData]

/-- `Vtk::Write`: the header, then a scalar for every block of the field loop. -/
def writeCalls (gitVersion : List Char) (nodes : Nodes α) (nodeView view : List ℕ)
    (file : Vtk.File α) : List (Call α) :=
  headerCalls cfg v gitVersion nodes nodeView ++ file.scalars.flatMap (scalarCalls v view)

theorem flatMap_items_writeCalls (gitVersion : List Char) (nodes : Nodes α)
    (nodeView view : List ℕ) (file : Vtk.File α) :
    (writeCalls cfg v gitVersion nodes nodeView view file).flatMap Call.items =
      writeFile cfg v gitVersion nodes file := by
  have grid : (gridCalls cfg v nodes nodeView (vtkFormat cfg.geometry)).flatMap Call.items =
      writeGrid cfg v nodes (vtkFormat cfg.geometry) := by
    cases vtkFormat cfg.geometry <;> simp [gridCalls, writeGrid, Call.items]
  have block (b : String × List α) : (scalarCalls v view b).flatMap Call.items = writeScalarBlock b := by
    simp only [scalarCalls, List.flatMap_cons, List.flatMap_nil, List.append_nil, Call.items]
    rfl
  simp only [writeCalls, headerCalls, writeFile, writeHeader, List.flatMap_append,
    List.flatMap_cons, List.flatMap_nil, List.append_nil, List.append_assoc, Call.items, grid,
    List.flatMap_assoc, block]

variable {cfg v}

theorem headerCalls_congr {w : Vtk α} (same : v.nx = w.nx) :
    headerCalls cfg v = headerCalls cfg w := by
  obtain ⟨nx, _, _⟩ := v
  obtain ⟨_, _, _⟩ := w
  cases same
  rfl

theorem scalarCalls_congr {w : Vtk α} (same : v.nx = w.nx) : scalarCalls v = scalarCalls w := by
  obtain ⟨nx, _, _⟩ := v
  obtain ⟨_, _, _⟩ := w
  cases same
  rfl

end Program

theorem Vtk.scalars_write {nvar : ℕ} (v : Vtk α) (beg fin : Dir → ℕ)
    (extent : ∀ d, fin d - beg d = v.nxLoc d) (bigEndian : ℝ → α) (vcName : Fin nvar → String)
    (vc : Fin nvar → Idx3 → ℝ) (userDefVariablesEnabled : Bool)
    (userDefVariables : List (String × (Idx3 → ℝ))) :
    (v.write beg fin bigEndian vcName vc userDefVariablesEnabled userDefVariables).1.scalars =
      (fields vcName vc userDefVariablesEnabled userDefVariables).map fun field =>
        (field.1, (interior beg fin).map fun p => bigEndian (field.2 p)) := by
  rw [Vtk.write, v.writeFields_scalars beg fin extent, List.map_map]
  rfl

/-- A process of an MPI run of `Vtk::Write`, with what `Init` and `Write` read of it. -/
structure Process (α : Type) (nvar : ℕ) where
  /-- `idfx::prank`. -/
  prank : ℕ
  /-- `nx1..nx3` from `grid.np_int`, `nx1loc..nx3loc` from `datain.np_int`, and `vect3D`. -/
  vtk : Vtk α
  /-- `data.beg`. -/
  beg : Dir → ℕ
  /-- `data.end`. -/
  fin : Dir → ℕ
  /-- `datain.gbeg`: the global index of the first interior cell of the data block. -/
  gbeg : Dir → ℕ
  /-- `datain.nghost`. -/
  dataNghost : Dir → ℕ
  /-- `mygrid->xproc[dir] == mygrid->nproc[dir]-1`: the data block is the last along `dir`. -/
  lastProc : Dir → Bool
  /-- The grid of the data block. -/
  data : Grid
  /-- `data.Vc`. -/
  vc : Fin nvar → Idx3 → ℝ
  /-- `output.userDefVariables`, as this process computes them. -/
  userDefVariables : List (String × (Idx3 → ℝ))

namespace Process

variable {nvar : ℕ} (cfg : Config) (grid : Grid) (nghost : Dir → ℕ) (cos sin : ℝ → ℝ)
  (bigEndian : ℝ → α) (gitVersion : List Char) (vcName : Fin nvar → String)
  (userDefVariablesEnabled : Bool) (r : Process α nvar)

/-- `start[2-dir] = datain.gbeg[dir]-grid.nghost[dir]`. -/
def start (d : Dir) : ℕ := r.gbeg d - nghost d

/-- `nodestart[2-dir] = datain.gbeg[dir]-datain.nghost[dir]`. -/
def nodeStart (d : Dir) : ℕ := r.gbeg d - r.dataNghost d

/-- `view`: the interior cells of the data block in the global array of cells. -/
def view : List ℕ :=
  subarray [r.vtk.nx kDir, r.vtk.nx jDir, r.vtk.nx iDir]
    [r.vtk.nxLoc kDir, r.vtk.nxLoc jDir, r.vtk.nxLoc iDir]
    [r.start nghost kDir, r.start nghost jDir, r.start nghost iDir]

/-- `nodeView`: the nodes of the data block, three components each, in the global array of
nodes. -/
def nodeView : List ℕ :=
  subarray [nodeCount cfg r.vtk kDir, nodeCount cfg r.vtk jDir, nodeCount cfg r.vtk iDir, 3]
    [nodeSubsize cfg r.vtk.nxLoc r.lastProc kDir, nodeSubsize cfg r.vtk.nxLoc r.lastProc jDir,
      nodeSubsize cfg r.vtk.nxLoc r.lastProc iDir, 3]
    [r.nodeStart kDir, r.nodeStart jDir, r.nodeStart iDir, 0]

/-- The nodes `Init` stores: the axes of the global grid, and the nodes of the data block. -/
def nodes : Nodes α :=
  initNodes cfg grid r.data nghost r.vtk.nx r.vtk.nxLoc r.lastProc cos sin bigEndian

def calls : List (Call α) :=
  writeCalls cfg r.vtk gitVersion (r.nodes cfg grid nghost cos sin bigEndian) (r.nodeView cfg)
    (r.view nghost) (r.vtk.write r.beg r.fin bigEndian vcName r.vc userDefVariablesEnabled
      r.userDefVariables).1

/-- The elementary writes of `Vtk::Write` on the process, `this->offset = 0` after
`MPI_File_open`. -/
def write : List (ℕ × Item α) :=
  runCalls r.prank 0
    (r.calls cfg grid nghost cos sin bigEndian gitVersion vcName userDefVariablesEnabled)

def globalCell : Idx3 → Idx3
  | (k, j, i) =>
    (r.start nghost kDir + (k - r.beg kDir), r.start nghost jDir + (j - r.beg jDir),
      r.start nghost iDir + (i - r.beg iDir))

theorem globalCell_shift (p : Idx3) :
    r.globalCell nghost (shift r.beg p) = shift (r.start nghost) p := by
  obtain ⟨k, j, i⟩ := p
  simp only [globalCell, shift, Nat.add_sub_cancel_left]

theorem view_eq {nx : Dir → ℕ} (global : r.vtk.nx = nx)
    (extent : ∀ d, r.fin d - r.beg d = r.vtk.nxLoc d) :
    r.view nghost =
      (interior r.beg r.fin).map (subarrayPosition nx (fun _ => 0) ∘ r.globalCell nghost) := by
  have box : (fun d => r.fin d - r.beg d) = r.vtk.nxLoc := funext extent
  rw [view, subarray_three, interior_eq_map r.beg r.fin, box, List.map_map, global]
  exact List.map_congr_left fun p _ => by
    rw [Function.comp_apply, Function.comp_apply, globalCell_shift, subarrayPosition_shift]

theorem nodeView_eq {nx : Dir → ℕ} (global : r.vtk.nx = nx) :
    r.nodeView cfg = (interior (fun _ => 0) (nodeSubsize cfg r.vtk.nxLoc r.lastProc)).flatMap
      fun p => (List.range 3).map
        (subarrayPosition (fun d => nx d + offset cfg d) (fun _ => 0) (shift r.nodeStart p) * 3 + ·) := by
  have count : nodeCount cfg r.vtk = fun d => nx d + offset cfg d :=
    funext fun d => by rw [nodeCount, global]
  rw [nodeView, subarray_four, count]
  exact List.flatMap_congr fun p _ => by rw [subarrayPosition_shift]

theorem nodeCoord_slice (slice : ∀ d i, r.data.xl d i = grid.xl d (r.nodeStart d + i)) (p : Idx3) :
    nodeCoord cfg r.data nghost cos sin bigEndian p =
      nodeCoord cfg grid nghost cos sin bigEndian (shift r.nodeStart p) := by
  obtain ⟨k, j, i⟩ := p
  simp only [nodeCoord, shift, slice, Nat.add_assoc]

end Process

theorem nodeCoords_eq_flatMap (cfg : Config) (data : Grid) (nghost : Dir → ℕ) (cos sin : ℝ → ℝ)
    (bigEndian : ℝ → α) (dataNpInt : Dir → ℕ) (lastProc : Dir → Bool) :
    nodeCoords cfg data nghost cos sin bigEndian dataNpInt lastProc =
      (interior (fun _ => 0) (nodeSubsize cfg dataNpInt lastProc)).flatMap
        (nodeCoord cfg data nghost cos sin bigEndian) :=
  rfl

section Refinement

variable {nvar : ℕ} {cfg : Config} {grid : Grid} {nghost nx : Dir → ℕ} {ps : List (Process α nvar)}

theorem collective_scalar (ranks : ps.map Process.prank = List.range ps.length)
    (nonempty : ps ≠ []) (global : ∀ r ∈ ps, r.vtk.nx = nx)
    (extent : ∀ r ∈ ps, ∀ d, r.fin d - r.beg d = r.vtk.nxLoc d)
    (cells : (ps.flatMap fun r => (interior r.beg r.fin).map (r.globalCell nghost)).Perm
      (interior (fun _ => 0) nx))
    {v : Vtk α} (vnx : v.nx = nx) (bigEndian : ℝ → α) (name : String) (F : Idx3 → ℝ) :
    Collective Process.prank ps
      (fun r => scalarCalls v (r.view nghost)
        (name, (interior r.beg r.fin).map fun p => bigEndian (F (r.globalCell nghost p))))
      (writeScalarBlock (name, (interior (fun _ => 0) nx).map fun g => bigEndian (F g))) := by
  have positions := subarrayPosition_interior nx
  have length : ((interior (fun _ => 0) nx).map fun g => bigEndian (F g)).length = v.cellData := by
    rw [List.length_map, ← List.length_map _ (subarrayPosition nx fun _ => 0), positions,
      List.length_range, Vtk.cellData, vnx]
  unfold scalarCalls writeScalarBlock
  dsimp only
  refine (collective_headerString ranks nonempty _).append
    (collective_writeAll (fun r : Process α nvar => r.view nghost)
      (fun r => (interior r.beg r.fin).map fun p => bigEndian (F (r.globalCell nghost p)))
      (fun r => (interior r.beg r.fin).map (r.globalCell nghost)) _
      (fun g => [(subarrayPosition nx (fun _ => 0) g, bigEndian (F g))]) _ _ length.symm
      (fun r mem => ?_) cells ?_)
  · dsimp only
    rw [r.view_eq nghost (global r mem) (extent r mem), List.zip_map', List.flatMap_map,
      ← List.map_eq_flatMap]
    rfl
  · rw [← List.map_eq_flatMap, ← List.zip_map', positions, length, Vtk.cellData, vnx]

theorem collective_nodes (global : ∀ r ∈ ps, r.vtk.nx = nx)
    (nodeTiling : (ps.flatMap fun r => (interior (fun _ => 0)
      (nodeSubsize cfg r.vtk.nxLoc r.lastProc)).map (shift r.nodeStart)).Perm
        (interior (fun _ => 0) fun d => nx d + offset cfg d))
    (slice : ∀ r ∈ ps, ∀ d i, r.data.xl d i = grid.xl d (r.nodeStart d + i))
    {v : Vtk α} (vnx : v.nx = nx) (cos sin : ℝ → ℝ) (bigEndian : ℝ → α) :
    Collective Process.prank ps
      (fun r => [Call.writeAll (r.nodeView cfg) (r.nodes cfg grid nghost cos sin bigEndian).nodeCoord
        (nodeCount cfg v iDir * nodeCount cfg v jDir * nodeCount cfg v kDir * 3)])
      (floats (nodeCoords cfg grid nghost cos sin bigEndian nx fun _ => true)) := by
  have count : nodeCount cfg v = fun d => nx d + offset cfg d :=
    funext fun d => by rw [nodeCount, vnx]
  have whole : nodeSubsize cfg nx (fun _ => true) = fun d => nx d + offset cfg d :=
    funext fun d => by simp [nodeSubsize]
  have three (data : Grid) (p : Idx3) : (nodeCoord cfg data nghost cos sin bigEndian p).length = 3 := by
    obtain ⟨k, j, i⟩ := p
    rw [nodeCoord, List.length_map, length_corner]
  have values : nodeCoords cfg grid nghost cos sin bigEndian nx (fun _ => true) =
      (interior (fun _ => 0) fun d => nx d + offset cfg d).flatMap
        (nodeCoord cfg grid nghost cos sin bigEndian) := by
    rw [nodeCoords_eq_flatMap, whole]
  have length : (nodeCoords cfg grid nghost cos sin bigEndian nx fun _ => true).length =
      (nx iDir + offset cfg iDir) * (nx jDir + offset cfg jDir) * (nx kDir + offset cfg kDir) * 3 := by
    rw [length_nodeCoords, whole]
    ring
  refine collective_writeAll (fun r : Process α nvar => r.nodeView cfg)
    (fun r => (r.nodes cfg grid nghost cos sin bigEndian).nodeCoord)
    (fun r => (interior (fun _ => 0) (nodeSubsize cfg r.vtk.nxLoc r.lastProc)).map
      (shift r.nodeStart)) _
    (fun g => ((List.range 3).map
      (subarrayPosition (fun d => nx d + offset cfg d) (fun _ => 0) g * 3 + ·)).zip
        (nodeCoord cfg grid nghost cos sin bigEndian g)) _ _
    (by rw [length, count]) (fun r mem => ?_) nodeTiling ?_
  · dsimp only [Process.nodes, initNodes]
    rw [r.nodeView_eq cfg (global r mem), nodeCoords_eq_flatMap,
      zip_flatMap _ _ _ fun p _ => by rw [List.length_map, List.length_range, three],
      List.flatMap_map]
    exact List.flatMap_congr fun p _ => by rw [r.nodeCoord_slice cfg grid nghost cos sin bigEndian (slice r mem) p]
  · have positions := subarrayPosition_interior fun d => nx d + offset cfg d
    rw [length, ← flatMap_range_blocks, ← positions, List.flatMap_map, values,
      zip_flatMap _ _ _ fun g _ => by rw [List.length_map, List.length_range, three]]

theorem collective_gridCalls (ranks : ps.map Process.prank = List.range ps.length)
    (nonempty : ps ≠ []) (global : ∀ r ∈ ps, r.vtk.nx = nx)
    (nodes : vtkFormat cfg.geometry = .structuredGrid →
      (ps.flatMap fun r => (interior (fun _ => 0)
        (nodeSubsize cfg r.vtk.nxLoc r.lastProc)).map (shift r.nodeStart)).Perm
          (interior (fun _ => 0) fun d => nx d + offset cfg d) ∧
        ∀ r ∈ ps, ∀ d i, r.data.xl d i = grid.xl d (r.nodeStart d + i))
    {v : Vtk α} (vnx : v.nx = nx) (cos sin : ℝ → ℝ) (bigEndian : ℝ → α) :
    Collective Process.prank ps
      (fun r => gridCalls cfg v (r.nodes cfg grid nghost cos sin bigEndian) (r.nodeView cfg)
        (vtkFormat cfg.geometry))
      (writeGrid cfg v (initNodes cfg grid grid nghost nx nx (fun _ => true) cos sin bigEndian)
        (vtkFormat cfg.geometry)) := by
  revert nodes
  cases vtkFormat cfg.geometry with
  | rectilinearGrid =>
    intro _
    simp only [gridCalls, writeGrid, List.append_assoc]
    refine Collective.congr (fun r mem => ?_) ((collective_headerString ranks nonempty _).append
      ((collective_headerFloat ranks nonempty _).append
        ((collective_headerString ranks nonempty _).append
          ((collective_headerFloat ranks nonempty _).append
            ((collective_headerString ranks nonempty _).append
              (collective_headerFloat ranks nonempty _))))))
    simp only [Process.nodes, initNodes, global r mem, List.singleton_append]
  | structuredGrid =>
    intro nodes
    exact (collective_headerString ranks nonempty _).append
      (collective_nodes global (nodes rfl).1 (nodes rfl).2 vnx cos sin bigEndian)

theorem collective_headerCalls (ranks : ps.map Process.prank = List.range ps.length)
    (nonempty : ps ≠ []) (global : ∀ r ∈ ps, r.vtk.nx = nx)
    (nodes : vtkFormat cfg.geometry = .structuredGrid →
      (ps.flatMap fun r => (interior (fun _ => 0)
        (nodeSubsize cfg r.vtk.nxLoc r.lastProc)).map (shift r.nodeStart)).Perm
          (interior (fun _ => 0) fun d => nx d + offset cfg d) ∧
        ∀ r ∈ ps, ∀ d i, r.data.xl d i = grid.xl d (r.nodeStart d + i))
    {v : Vtk α} (vnx : v.nx = nx) (gitVersion : List Char) (cos sin : ℝ → ℝ)
    (bigEndian : ℝ → α) :
    Collective Process.prank ps
      (fun r => headerCalls cfg v gitVersion (r.nodes cfg grid nghost cos sin bigEndian)
        (r.nodeView cfg))
      (writeHeader cfg v gitVersion
        (initNodes cfg grid grid nghost nx nx (fun _ => true) cos sin bigEndian)) := by
  rw [writeHeader, List.append_assoc]
  exact (collective_headerString ranks nonempty _).append
    ((collective_gridCalls ranks nonempty global nodes vnx cos sin bigEndian).append
      (collective_headerString ranks nonempty _))

theorem collective_calls (ranks : ps.map Process.prank = List.range ps.length)
    (nonempty : ps ≠ []) (global : ∀ r ∈ ps, r.vtk.nx = nx)
    (extent : ∀ r ∈ ps, ∀ d, r.fin d - r.beg d = r.vtk.nxLoc d)
    (cells : (ps.flatMap fun r => (interior r.beg r.fin).map (r.globalCell nghost)).Perm
      (interior (fun _ => 0) nx))
    (vcName : Fin nvar → String) (vc : Fin nvar → Idx3 → ℝ) (userDefVariablesEnabled : Bool)
    (userDefVariables : List (String × (Idx3 → ℝ)))
    (slice : ∀ r ∈ ps, List.Forall₂ (fun here there => here.1 = there.1 ∧
        ∀ p ∈ interior r.beg r.fin, here.2 p = there.2 (r.globalCell nghost p))
      (Vtk.fields vcName r.vc userDefVariablesEnabled r.userDefVariables)
      (Vtk.fields vcName vc userDefVariablesEnabled userDefVariables))
    (nodes : vtkFormat cfg.geometry = .structuredGrid →
      (ps.flatMap fun r => (interior (fun _ => 0)
        (nodeSubsize cfg r.vtk.nxLoc r.lastProc)).map (shift r.nodeStart)).Perm
          (interior (fun _ => 0) fun d => nx d + offset cfg d) ∧
        ∀ r ∈ ps, ∀ d i, r.data.xl d i = grid.xl d (r.nodeStart d + i))
    (gitVersion : List Char) (cos sin : ℝ → ℝ) (bigEndian : ℝ → α) (buffer : ℕ → α) :
    Collective Process.prank ps
      (fun r => r.calls cfg grid nghost cos sin bigEndian gitVersion vcName userDefVariablesEnabled)
      (writeFile cfg (Vtk.init nx nx buffer) gitVersion
        (initNodes cfg grid grid nghost nx nx (fun _ => true) cos sin bigEndian)
        ((Vtk.init nx nx buffer).write (fun _ => 0) nx bigEndian vcName vc userDefVariablesEnabled
          userDefVariables).1) := by
  have vnx : (Vtk.init nx nx buffer).nx = nx := rfl
  rw [writeFile, Vtk.scalars_write _ _ _ fun d => Nat.sub_zero (nx d), List.flatMap_map]
  refine Collective.congr (fun r mem => ?_)
    ((collective_headerCalls ranks nonempty global nodes vnx gitVersion cos sin bigEndian).append
      (Collective.flatMap _ _ _ fun field _ =>
        collective_scalar ranks nonempty global extent cells vnx bigEndian field.1 field.2))
  have same : r.vtk.nx = (Vtk.init nx nx buffer).nx := global r mem
  rw [Process.calls, writeCalls, Vtk.scalars_write _ _ _ (extent r mem), List.flatMap_map,
    headerCalls_congr same, scalarCalls_congr same]
  refine congrArg _ (flatMap_eq_of_forall₂ (fun here there slice => ?_) (slice r mem)).symm
  dsimp only
  rw [slice.1, List.map_congr_left fun p mem => congrArg bigEndian (slice.2 p mem)]

end Refinement

/-- `Vtk::Write` with MPI refines the serial `Vtk::Write`. The processes hold data blocks whose
interior cells tile the grid, each holding the slice of the global fields at its cells and, for
a structured grid, the left faces of the global grid at its nodes, whose nodes tile those of
the grid. Then, in whatever order the elementary writes of all processes reach the file, the
file holds at the byte offset of every item of the serial file of the global fields that
item. -/
theorem Process.write_serial {nvar : ℕ} (cfg : Config) (grid : Grid) (nghost nx : Dir → ℕ)
    (cos sin : ℝ → ℝ) (bigEndian : ℝ → α) (gitVersion : List Char) (vcName : Fin nvar → String)
    (vc : Fin nvar → Idx3 → ℝ) (userDefVariablesEnabled : Bool)
    (userDefVariables : List (String × (Idx3 → ℝ))) (ps : List (Process α nvar))
    (ranks : ps.map Process.prank = List.range ps.length) (nonempty : ps ≠ [])
    (global : ∀ r ∈ ps, r.vtk.nx = nx)
    (extent : ∀ r ∈ ps, ∀ d, r.fin d - r.beg d = r.vtk.nxLoc d)
    (cells : (ps.flatMap fun r => (interior r.beg r.fin).map (r.globalCell nghost)).Perm
      (interior (fun _ => 0) nx))
    (slice : ∀ r ∈ ps, List.Forall₂ (fun here there => here.1 = there.1 ∧
        ∀ p ∈ interior r.beg r.fin, here.2 p = there.2 (r.globalCell nghost p))
      (Vtk.fields vcName r.vc userDefVariablesEnabled r.userDefVariables)
      (Vtk.fields vcName vc userDefVariablesEnabled userDefVariables))
    (nodes : vtkFormat cfg.geometry = .structuredGrid →
      (ps.flatMap fun r => (interior (fun _ => 0)
        (nodeSubsize cfg r.vtk.nxLoc r.lastProc)).map (shift r.nodeStart)).Perm
          (interior (fun _ => 0) fun d => nx d + offset cfg d) ∧
        ∀ r ∈ ps, ∀ d i, r.data.xl d i = grid.xl d (r.nodeStart d + i))
    (order : List (ℕ × Item α))
    (interleaving : order.Perm (ps.flatMap fun r =>
      r.write cfg grid nghost cos sin bigEndian gitVersion vcName userDefVariablesEnabled))
    (buffer : ℕ → α) (before : ℕ → Item α) :
    let v := Vtk.init nx nx buffer
    let serial := writeFile cfg v gitVersion
      (initNodes cfg grid grid nghost nx nx (fun _ => true) cos sin bigEndian)
      (v.write (fun _ => 0) nx bigEndian vcName vc userDefVariablesEnabled userDefVariables).1
    (place 0 serial).map (fun w => applyWrites order before w.1) = serial := by
  intro v serial
  have interleaved : order.Perm (place 0 serial) := interleaving.trans
    ((collective_calls ranks nonempty global extent cells vcName vc userDefVariablesEnabled
      userDefVariables slice nodes gitVersion cos sin bigEndian buffer).2 0)
  have distinct : (order.map Prod.fst).Nodup :=
    (interleaved.map Prod.fst).nodup_iff.2 (nodup_place serial 0)
  conv_rhs => rw [← map_snd_place serial 0]
  exact List.map_congr_left fun w mem =>
    foldl_update_apply Prod.fst Prod.snd order distinct before (interleaved.symm.subset mem)

def cartesian1 : Config := ⟨.cartesian, 1, Nat.one_pos, by decide⟩

def twoCells : Dir → ℕ := fun d => if d = iDir then 2 else 1

def halves : List (Process ℝ 1) :=
  [⟨0, Vtk.init twoCells (fun _ => 1) fun _ => 0, fun _ => 1, fun _ => 2, fun _ => 1,
      fun _ => 1, fun d => d != iDir, evenFaces, fun _ p => ((p.2.2 - 1 : ℕ) : ℝ), []⟩,
    ⟨1, Vtk.init twoCells (fun _ => 1) fun _ => 0, fun _ => 1, fun _ => 2,
      fun d => if d = iDir then 2 else 1, fun _ => 1, fun _ => true, evenFaces,
      fun _ p => ((p.2.2 : ℕ) : ℝ), []⟩]

theorem Process.write_serial_halves :
    (halves.map Process.prank = List.range halves.length ∧ halves ≠ [] ∧
      (∀ r ∈ halves, r.vtk.nx = twoCells) ∧
      (∀ r ∈ halves, ∀ d, r.fin d - r.beg d = r.vtk.nxLoc d) ∧
      (halves.flatMap fun r => (interior r.beg r.fin).map (r.globalCell fun _ => 1)).Perm
        (interior (fun _ => 0) twoCells) ∧
      (∀ r ∈ halves, List.Forall₂ (fun here there => here.1 = there.1 ∧
          ∀ p ∈ interior r.beg r.fin, here.2 p = there.2 (r.globalCell (fun _ => 1) p))
        (Vtk.fields (fun _ : Fin 1 => "RHO") r.vc false r.userDefVariables)
        (Vtk.fields (fun _ : Fin 1 => "RHO") (fun (_ : Fin 1) (g : Idx3) => ((g.2.2 : ℕ) : ℝ)) false [])) ∧
      vtkFormat cartesian1.geometry ≠ .structuredGrid) ∧
    let v := Vtk.init twoCells twoCells fun _ => (0 : ℝ)
    let serial := writeFile cartesian1 v "v2".toList
      (initNodes cartesian1 evenFaces evenFaces (fun _ => 1) twoCells twoCells (fun _ => true) id
        id id)
      (v.write (fun _ => 0) twoCells id (fun _ : Fin 1 => "RHO") (fun (_ : Fin 1) (g : Idx3) => ((g.2.2 : ℕ) : ℝ)) false []).1
    (place 0 serial).map (fun w => applyWrites
      (halves.flatMap fun r => r.write cartesian1 evenFaces (fun _ => 1) id id id "v2".toList
        (fun _ : Fin 1 => "RHO") false).reverse (fun _ => .char ' ') w.1) = serial := by
  have global : ∀ r ∈ halves, r.vtk.nx = twoCells := by
    simp only [halves, List.mem_cons, List.mem_singleton, List.not_mem_nil, or_false,
      forall_eq_or_imp, forall_eq]
    exact ⟨rfl, rfl⟩
  have extent : ∀ r ∈ halves, ∀ d, r.fin d - r.beg d = r.vtk.nxLoc d := by decide
  have cells : (halves.flatMap fun r => (interior r.beg r.fin).map (r.globalCell fun _ => 1)).Perm
      (interior (fun _ => 0) twoCells) := by decide
  have slice : ∀ r ∈ halves, List.Forall₂ (fun here there => here.1 = there.1 ∧
        ∀ p ∈ interior r.beg r.fin, here.2 p = there.2 (r.globalCell (fun _ => 1) p))
      (Vtk.fields (fun _ : Fin 1 => "RHO") r.vc false r.userDefVariables)
      (Vtk.fields (fun _ : Fin 1 => "RHO") (fun (_ : Fin 1) (g : Idx3) => ((g.2.2 : ℕ) : ℝ)) false []) := by
    have oneCell : interior (fun _ => 1) (fun _ => 2) = [(1, 1, 1)] := rfl
    intro r mem
    simp only [halves, List.mem_cons, List.mem_singleton, List.not_mem_nil, or_false] at mem
    rcases mem with rfl | rfl
    all_goals
      simp only [Vtk.fields, List.ofFn_succ, List.ofFn_zero, Bool.false_eq_true, if_false,
        List.append_nil, List.forall₂_cons, List.Forall₂.nil, oneCell, List.mem_singleton,
        forall_eq, true_and, and_true]
      rfl
  have cartesian : vtkFormat cartesian1.geometry ≠ .structuredGrid := by decide
  exact ⟨⟨rfl, List.cons_ne_nil _ _, global, extent, cells, slice, cartesian⟩,
    Process.write_serial cartesian1 evenFaces (fun _ => 1) twoCells id id id "v2".toList
      (fun _ : Fin 1 => "RHO") (fun (_ : Fin 1) (g : Idx3) => ((g.2.2 : ℕ) : ℝ)) false [] halves rfl (List.cons_ne_nil _ _)
      global extent cells slice (fun structured => absurd structured cartesian) _
      (List.reverse_perm _) (fun _ => 0) (fun _ => .char ' ')⟩

end Idefix

import Idefix.Geometry.Volume
import Idefix.Input.Parameters
import Mathlib.Analysis.SpecialFunctions.Pow.Real

/-!
# The `AxisFluxTube` test problem

`Setup::InitFlow` of the MHD test `AxisFluxTube` starts a uniform flow and a magnetic field
along `x3` whose strength depends on `x1` and `x2` only: a tube of flux around the polar axis.
`ComputeUserVars` measures the divergence of the face-centred field as the code stores it, the
net flux through the faces of a cell over its volume.

`divB_initFlow` says that on the geometry `MakeGeometry` builds, in every geometry, the initial
field has no net flux out of any interior cell: the two faces normal to `x3` of a cell have the
same area, and the field on them is the same. With ghost cells along every direction, the loops
of `InitFlow` reach every face `ComputeUserVars` reads.
-/

namespace Idefix.AxisFluxTube

open Kernel Real

set_option autoImplicit false

/-- `Rtorus`, `Ztorus` and `Rin`, the global variables of the setup. -/
structure Torus where
  rtorus : ℝ
  ztorus : ℝ
  rin : ℝ

/-- `Setup::Setup`: enrols the two callbacks of the output, which hold no data, and reads the
three reals of block `[Setup]` at index 0 with `GetReal`, whose conversion is `stod`. -/
def setup (stod : List Char → Except Input.Abort ℝ) (input : Input.InputContainer) :
    Except Input.Abort Torus := do
  let rtorus ← Input.getReal stod input "Setup".toList "Rtorus".toList 0
  let ztorus ← Input.getReal stod input "Setup".toList "Ztorus".toList 0
  let rin ← Input.getReal stod input "Setup".toList "Rin".toList 0
  pure ⟨rtorus, ztorus, rin⟩

noncomputable section

/-- The components of `Vc` that `InitFlow` writes. -/
inductive Var
  | rho | vx1 | vx2 | vx3 | prs
  deriving DecidableEq

/-- A data block of the MHD run: the arrays of `DataBlock`, and those the setup reads and
writes. -/
structure Block (nvar : ℕ) extends DataBlock nvar where
  /-- `Vc`, at the components `InitFlow` writes. -/
  vc : Var → Idx3 → ℝ
  /-- `Vs(BX1s, ...)`, `Vs(BX2s, ...)`, `Vs(BX3s, ...)`: the field normal to the faces of each
  direction. -/
  vs : Dir → Idx3 → ℝ
  /-- `Ex1`, the electromotive force along `x1`. -/
  ex1 : Idx3 → ℝ

variable {nvar : ℕ} (torus : Torus)

/-- The primitive variables `InitFlow` stores at a cell of centre `(x1, x2, x3)`: unit density
and pressure, and the velocity `(e_x + e_y) / √2` in the spherical basis. -/
def initVc (x2 x3 : ℝ) : Var → ℝ :=
  let exR := cos x3 * sin x2
  let exT := cos x3 * cos x2
  let exP := -sin x3
  let eyR := sin x3 * sin x2
  let eyT := sin x3 * cos x2
  let eyP := cos x3
  fun
  | .rho => 1
  | .prs => 1
  | .vx1 => (exR + eyR) / sqrt 2
  | .vx2 => (exT + eyT) / sqrt 2
  | .vx3 => (exP + eyP) / sqrt 2

/-- `bphi` at cylindrical radius `R` and height `Z`, set to zero where it is negative. -/
def bphi (R Z : ℝ) : ℝ :=
  let b := 1 - ((R - torus.rtorus) ^ (2 : ℝ) + (Z - torus.ztorus) ^ (2 : ℝ)) / torus.rin
  if b < 0 then 0 else b

/-- The face-centred field `InitFlow` stores at a cell of centre `(x1, x2, ·)`: along `x3`
only. -/
def initVs (x1 x2 : ℝ) (d : Dir) : ℝ :=
  if d = kDir then 1.0e-20 * bphi torus (x1 * sin x2) (x1 * cos x2) else 0

/-- The body of the loops of `InitFlow` at cell `(k, j, i)`. -/
def initFlowAt (p : Idx3) (d : Block nvar) : Block nvar :=
  { d with
    vc := fun v => Function.update (d.vc v) p (initVc (d.x jDir p.2.1) (d.x kDir p.1) v)
    vs := fun dir => Function.update (d.vs dir) p
      (initVs torus (d.x iDir p.2.2) (d.x jDir p.2.1) dir) }

/-- `Setup::InitFlow`: the loops over all the cells `0 ≤ k, j, i < np_tot`. -/
def initFlow (d : Block nvar) : Block nvar :=
  idefixFor (initFlowAt torus) (cellRange d.npTot) d

/-- The net flux of the face-centred field out of cell `(k, j, i)`, the numerator of `divB`. -/
def netFlux (d : Block nvar) : Idx3 → ℝ
  | (k, j, i) =>
    (d.A iDir (k, j, i + 1) * d.vs iDir (k, j, i + 1) - d.A iDir (k, j, i) * d.vs iDir (k, j, i)) +
      (d.A jDir (k, j + 1, i) * d.vs jDir (k, j + 1, i) - d.A jDir (k, j, i) * d.vs jDir (k, j, i)) +
      (d.A kDir (k + 1, j, i) * d.vs kDir (k + 1, j, i) - d.A kDir (k, j, i) * d.vs kDir (k, j, i))

/-- The user-defined variables of the test, `variables["divB"]` and `variables["Er"]`. -/
structure UserVars where
  divB : Idx3 → ℝ
  er : Idx3 → ℝ

/-- The body of the loops of `ComputeUserVars` at cell `(k, j, i)`. -/
def computeUserVarsAt (d : Block nvar) (p : Idx3) (vars : UserVars) : UserVars :=
  ⟨Function.update vars.divB p (netFlux d p / d.dV p),
    Function.update vars.er p (d.ex1 (p.1, p.2.1 + 1, p.2.2))⟩

/-- The interior cells `beg ≤ index < end`. -/
def interiorCells (d : Block nvar) : List Idx3 :=
  range3 (d.beg kDir) (d.end kDir) (d.beg jDir) (d.end jDir) (d.beg iDir) (d.end iDir)

/-- `ComputeUserVars`: the loops over the interior cells. -/
def computeUserVars (d : Block nvar) (vars : UserVars) : UserVars :=
  idefixFor (computeUserVarsAt d) (interiorCells d) vars

theorem vs_initFlow (d : Block nvar) (dir : Dir) {p : Idx3} (cell : p ∈ cellRange d.npTot) :
    (initFlow torus d).vs dir p = initVs torus (d.x iDir p.2.2) (d.x jDir p.2.1) dir := by
  have stored := get_idefixFor (initFlowAt torus) (fun d => d.vs dir)
    (fun d p => initVs torus (d.x iDir p.2.2) (d.x jDir p.2.1) dir) (fun _ _ => rfl)
    (fun _ _ => rfl) (cellRange d.npTot) d
  rw [initFlow, stored, overwrite_apply, if_pos cell]

theorem toDataBlock_initFlow (d : Block nvar) :
    (initFlow torus d).toDataBlock = d.toDataBlock :=
  frame_idefixFor (initFlowAt torus) Block.toDataBlock (fun _ _ => rfl) _ d

theorem divB_computeUserVars (d : Block nvar) (vars : UserVars) {p : Idx3}
    (cell : p ∈ interiorCells d) :
    (computeUserVars d vars).divB p = netFlux d p / d.dV p := by
  have stored := get_idefixFor (computeUserVarsAt d) UserVars.divB (fun _ p => netFlux d p / d.dV p)
    (fun _ _ => rfl) (fun _ _ => rfl) (interiorCells d) vars
  rw [computeUserVars, stored, overwrite_apply, if_pos cell]

theorem netFlux_initFlow (d : Block nvar) {k j i : ℕ} (inner : k + 1 < d.npTot kDir)
    (cell : (k, j, i) ∈ cellRange d.npTot) (nextI : i + 1 < d.npTot iDir)
    (nextJ : j + 1 < d.npTot jDir) :
    netFlux (initFlow torus d) (k, j, i) =
      d.A kDir (k + 1, j, i) * initVs torus (d.x iDir i) (d.x jDir j) kDir -
        d.A kDir (k, j, i) * initVs torus (d.x iDir i) (d.x jDir j) kDir := by
  have geometry := congrArg DataBlock.A (toDataBlock_initFlow torus d)
  simp only [cellRange, mem_range3] at cell
  have field (dir : Dir) {q : Idx3} (inside : q.1 < d.npTot kDir ∧ q.2.1 < d.npTot jDir ∧
      q.2.2 < d.npTot iDir) : (initFlow torus d).vs dir q =
        initVs torus (d.x iDir q.2.2) (d.x jDir q.2.1) dir :=
    vs_initFlow torus d dir (by simp only [cellRange, mem_range3]; omega)
  rw [netFlux, field iDir ⟨cell.1.2, cell.2.1.2, nextI⟩, field iDir ⟨cell.1.2, cell.2.1.2, cell.2.2.2⟩,
    field jDir ⟨cell.1.2, nextJ, cell.2.2.2⟩, field jDir ⟨cell.1.2, cell.2.1.2, cell.2.2.2⟩,
    field kDir ⟨inner, cell.2.1.2, cell.2.2.2⟩, field kDir ⟨cell.1.2, cell.2.1.2, cell.2.2.2⟩]
  simp only [initVs, if_neg iDir_ne_kDir, if_neg jDir_ne_kDir, mul_zero, sub_zero, zero_add]
  rw [show (initFlow torus d).A = d.A from geometry]

variable (cfg : Config)

/-- The initial field of the test has no net flux out of any interior cell, and `divB` is zero
at every interior cell of nonzero volume, on the geometry `MakeGeometry` builds and in every
geometry: with a ghost cell beyond the interior along every direction, the loops of `InitFlow`
reach the faces the divergence reads, and the two faces normal to `x3` of a cell have the same
area. -/
theorem divB_initFlow (st : Block nvar) (ghost : ∀ d, st.end d < st.npTot d)
    (vars : UserVars) :
    let d := initFlow torus { st with toDataBlock := makeGeometry cfg st.toDataBlock }
    ∀ p ∈ interiorCells st, netFlux d p = 0 ∧ (d.dV p ≠ 0 → (computeUserVars d vars).divB p = 0) := by
  intro d p cell
  obtain ⟨k, j, i⟩ := p
  have geometry : (makeGeometry cfg st.toDataBlock).npTot = st.npTot ∧
      (makeGeometry cfg st.toDataBlock).beg = st.beg ∧
        (makeGeometry cfg st.toDataBlock).end = st.end := by
    rw [makeGeometry_eq_geometrySpec]
    exact ⟨rfl, rfl, rfl⟩
  have kept : d.toDataBlock = makeGeometry cfg st.toDataBlock := toDataBlock_initFlow torus _
  have inside := cell
  simp only [interiorCells, mem_range3] at inside
  have := ghost iDir
  have := ghost jDir
  have := ghost kDir
  have face (l : ℕ) (lower : l < st.npTot kDir + offset cfg kDir) :
      (makeGeometry cfg st.toDataBlock).A kDir (l, j, i) = ax3At cfg st.grid (l, j, i) := by
    rw [A_makeGeometry]
    · rfl
    · simp only [faceRange, mem_range3, if_true, if_neg jDir_ne_kDir.symm,
        if_neg iDir_ne_kDir.symm, geometry.1]
      omega
  have flux : netFlux d (k, j, i) = 0 := by
    rw [netFlux_initFlow torus _ (by dsimp only; rw [geometry.1]; omega)
      (by simp only [cellRange, mem_range3, geometry.1]; omega) (by dsimp only; rw [geometry.1]; omega)
      (by dsimp only; rw [geometry.1]; omega)]
    dsimp only
    rw [face k (by omega), face (k + 1) (by omega)]
    simp only [ax3At, sub_self]
  have interiorD : (k, j, i) ∈ interiorCells d := by
    simp only [interiorCells, kept, geometry.2.1, geometry.2.2]
    exact cell
  exact ⟨flux, fun _ => by rw [divB_computeUserVars _ _ interiorD, flux, zero_div]⟩

def threeCells : Block 1 :=
  ⟨{ unitCube 1 with npTot := fun _ => 3, beg := fun _ => 1, «end» := fun _ => 2, dV := fun _ => 1 },
    fun _ _ => 0, fun _ _ => 0, fun _ => 0⟩

theorem divB_initFlow_threeCells :
    (∀ d, threeCells.end d < threeCells.npTot d) ∧
      let d := initFlow ⟨1, 0, 1⟩
        { threeCells with toDataBlock := makeGeometry spherical3 threeCells.toDataBlock }
      ∀ p ∈ interiorCells threeCells,
        netFlux d p = 0 ∧ (d.dV p ≠ 0 → (computeUserVars d ⟨fun _ => 0, fun _ => 0⟩).divB p = 0) :=
  ⟨by decide, divB_initFlow ⟨1, 0, 1⟩ spherical3 threeCells (by decide) ⟨fun _ => 0, fun _ => 0⟩⟩

def toCartesian (θ φ vr vθ vφ : ℝ) : ℝ × ℝ × ℝ :=
  (vr * (sin θ * cos φ) + vθ * (cos θ * cos φ) - vφ * sin φ,
    vr * (sin θ * sin φ) + vθ * (cos θ * sin φ) + vφ * cos φ,
    vr * cos θ - vθ * sin θ)

theorem vc_initFlow (d : Block nvar) (v : Var) {p : Idx3} (cell : p ∈ cellRange d.npTot) :
    (initFlow torus d).vc v p = initVc (d.x jDir p.2.1) (d.x kDir p.1) v := by
  have stored := get_idefixFor (initFlowAt torus) (fun d => d.vc v)
    (fun d p => initVc (d.x jDir p.2.1) (d.x kDir p.1) v) (fun _ _ => rfl)
    (fun _ _ => rfl) (cellRange d.npTot) d
  rw [initFlow, stored, overwrite_apply, if_pos cell]

theorem toCartesian_initVc (θ φ : ℝ) :
    toCartesian θ φ (initVc θ φ .vx1) (initVc θ φ .vx2) (initVc θ φ .vx3) =
      (1 / sqrt 2, 1 / sqrt 2, 0) := by
  have polar := sin_sq_add_cos_sq θ
  have azimuth := sin_sq_add_cos_sq φ
  simp only [toCartesian, initVc, Prod.mk.injEq]
  refine ⟨?_, ?_, ?_⟩ <;> field_simp
  · linear_combination (cos φ + sin φ) * cos φ * polar + azimuth
  · linear_combination (cos φ + sin φ) * sin φ * polar + azimuth
  · ring

/-- `InitFlow` starts, at every cell of the grid, ghosts included, a flow of unit density and
pressure that moves with the same Cartesian velocity `(1, 1, 0) / √2` everywhere: the spherical
components it stores at a cell are those of one fixed vector at the angles of the cell's
centre. -/
theorem initFlow_uniform (d : Block nvar) :
    ∀ p ∈ cellRange d.npTot,
      let vc := (initFlow torus d).vc
      vc .rho p = 1 ∧ vc .prs p = 1 ∧
        toCartesian (d.x jDir p.2.1) (d.x kDir p.1) (vc .vx1 p) (vc .vx2 p) (vc .vx3 p) =
          (1 / sqrt 2, 1 / sqrt 2, 0) := by
  intro p cell vc
  simp only [vc, vc_initFlow torus d _ cell]
  exact ⟨rfl, rfl, toCartesian_initVc _ _⟩

theorem initFlow_uniform_threeCells :
    (0, 0, 0) ∈ cellRange threeCells.npTot ∧
      let vc := (initFlow ⟨1, 0, 1⟩ threeCells).vc
      vc .rho (0, 0, 0) = 1 ∧ vc .prs (0, 0, 0) = 1 ∧
        toCartesian (threeCells.x jDir 0) (threeCells.x kDir 0) (vc .vx1 (0, 0, 0))
          (vc .vx2 (0, 0, 0)) (vc .vx3 (0, 0, 0)) = (1 / sqrt 2, 1 / sqrt 2, 0) :=
  have cell : ((0, 0, 0) : Idx3) ∈ cellRange threeCells.npTot := by
    simp [cellRange, threeCells]
  ⟨cell, initFlow_uniform ⟨1, 0, 1⟩ threeCells (0, 0, 0) cell⟩

/-- The flux of the face-centred field out of the interior through its boundary faces. -/
def boundaryFlux (d : Block nvar) : ℝ :=
  let flux (dir : Dir) (p : Idx3) := d.A dir p * d.vs dir p
  let ks := range1 (d.beg kDir) (d.end kDir)
  let js := range1 (d.beg jDir) (d.end jDir)
  let is := range1 (d.beg iDir) (d.end iDir)
  (ks.map fun k => (js.map fun j =>
      flux iDir (k, j, d.end iDir) - flux iDir (k, j, d.beg iDir)).sum).sum +
    (ks.map fun k => (is.map fun i =>
      flux jDir (k, d.end jDir, i) - flux jDir (k, d.beg jDir, i)).sum).sum +
    (js.map fun j => (is.map fun i =>
      flux kDir (d.end kDir, j, i) - flux kDir (d.beg kDir, j, i)).sum).sum

theorem sum_range1_sub (f : ℕ → ℝ) {b e : ℕ} (ordered : b ≤ e) :
    ((range1 b e).map fun i => f (i + 1) - f i).sum = f e - f b := by
  obtain ⟨n, rfl⟩ := Nat.exists_eq_add_of_le ordered
  rw [range1, Nat.add_sub_cancel_left]
  induction n with
  | zero => simp
  | succ n ih =>
    rw [List.range'_concat, List.map_append, List.sum_append, ih (Nat.le_add_right b n)]
    simp only [List.map_singleton, List.sum_singleton, one_mul, Nat.add_succ]
    ring

theorem sum_map_sum_comm {β γ : Type} (as : List β) (bs : List γ) (g : β → γ → ℝ) :
    (as.map fun a => (bs.map fun b => g a b).sum).sum =
      (bs.map fun b => (as.map fun a => g a b).sum).sum := by
  induction as with
  | nil => simp
  | cons a rest ih => simp only [List.map_cons, List.sum_cons, ih, List.sum_map_add]

theorem sum_netFlux (d : Block nvar) (ordered : ∀ dir, d.beg dir ≤ d.end dir) :
    ((interiorCells d).map (netFlux d)).sum = boundaryFlux d := by
  set flux : Dir → Idx3 → ℝ := fun dir p => d.A dir p * d.vs dir p
  have split (k j i : ℕ) : netFlux d (k, j, i) =
      (flux iDir (k, j, i + 1) - flux iDir (k, j, i)) +
        (flux jDir (k, j + 1, i) - flux jDir (k, j, i)) +
          (flux kDir (k + 1, j, i) - flux kDir (k, j, i)) := rfl
  rw [interiorCells, sum_range3, boundaryFlux]
  simp only [split, List.sum_map_add]
  refine congrArg₂ _ (congrArg₂ _ ?_ ?_) ?_
  · refine congrArg List.sum (List.map_congr_left fun k _ =>
      congrArg List.sum (List.map_congr_left fun j _ => ?_))
    exact sum_range1_sub (fun i => flux iDir (k, j, i)) (ordered iDir)
  · refine congrArg List.sum (List.map_congr_left fun k _ => ?_)
    rw [sum_map_sum_comm]
    exact congrArg List.sum (List.map_congr_left fun i _ =>
      sum_range1_sub (fun j => flux jDir (k, j, i)) (ordered jDir))
  · rw [sum_map_sum_comm]
    refine congrArg List.sum (List.map_congr_left fun j _ => ?_)
    rw [sum_map_sum_comm]
    exact congrArg List.sum (List.map_congr_left fun i _ =>
      sum_range1_sub (fun k => flux kDir (k, j, i)) (ordered kDir))

/-- The discrete divergence theorem of `ComputeUserVars`: where no interior cell has zero
volume, the `divB` it stores, times the volume of the cell, adds up over the interior to the
flux of the field through the boundary of the interior, whatever the field. -/
theorem sum_divB_computeUserVars (d : Block nvar) (ordered : ∀ dir, d.beg dir ≤ d.end dir)
    (volume : ∀ p ∈ interiorCells d, d.dV p ≠ 0) (vars : UserVars) :
    ((interiorCells d).map fun p => (computeUserVars d vars).divB p * d.dV p).sum =
      boundaryFlux d := by
  rw [← sum_netFlux d ordered]
  exact congrArg List.sum (List.map_congr_left fun p cell => by
    rw [divB_computeUserVars d vars cell, div_mul_cancel₀ _ (volume p cell)])

def fourCells : Block 1 :=
  ⟨{ unitCells 1 fun _ => 4 with dV := fun _ => 1, A := fun _ _ => 1 }, fun _ _ => 0,
    fun _ p => p.2.2, fun _ => 0⟩

theorem sum_divB_computeUserVars_fourCells :
    ((∀ dir, fourCells.beg dir ≤ fourCells.end dir) ∧
      ∀ p ∈ interiorCells fourCells, fourCells.dV p ≠ 0) ∧
    ((interiorCells fourCells).map fun p =>
      (computeUserVars fourCells ⟨fun _ => 0, fun _ => 0⟩).divB p * fourCells.dV p).sum =
        boundaryFlux fourCells :=
  have ordered : ∀ dir, fourCells.beg dir ≤ fourCells.end dir := by decide
  ⟨⟨ordered, fun _ _ => one_ne_zero⟩, sum_divB_computeUserVars fourCells ordered
    (fun _ _ => one_ne_zero) ⟨fun _ => 0, fun _ => 0⟩⟩

end

end Idefix.AxisFluxTube

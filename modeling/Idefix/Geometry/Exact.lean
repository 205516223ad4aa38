import Idefix.Geometry.Pointwise
import Mathlib.Analysis.SpecialFunctions.Integrals
import Mathlib.Data.Real.Pi.Bounds

/-!
# Exact volumes, areas and centroids

The coordinate systems are given by their Lamé scale factors, independently of the
kernels. The volume of a cell is the integral of the Jacobian `h₁h₂h₃` over its coordinate
box, and the area of a face normal to `d` the integral of the two transverse scale factors
over its transverse intervals; along an inactive direction the integral is replaced by `1`,
as `D_EXPAND` does. `MakeGeometry` computes exactly these on every grid the grid layer builds,
so the discrete divergence of `x₁ ê₁` is exact, and `rt` balances the radial divergence of a
uniform pressure.
-/

namespace Idefix

open Kernel Real intervalIntegral

set_option autoImplicit false

noncomputable section

def scaleFactor (geo : Geometry) (d e : Dir) (x : ℝ) : ℝ :=
  match geo, d.val, e.val with
  | .cylindrical, 2, 0 => x
  | .polar, 1, 0 => x
  | .spherical, 1, 0 => x
  | .spherical, 2, 0 => x
  | .spherical, 2, 1 => sin x
  | _, _, _ => 1

def volumeDensity (geo : Geometry) (e : Dir) (x : ℝ) : ℝ := ∏ d : Dir, scaleFactor geo d e x

def faceDensity (geo : Geometry) (d e : Dir) (x : ℝ) : ℝ :=
  ∏ d' : Dir, if d' = d then 1 else scaleFactor geo d' e x

def cellIndex (p : Idx3) : Dir → ℕ := ![p.2.2, p.2.1, p.1]

@[simp] theorem cellIndex_iDir (p : Idx3) : cellIndex p iDir = p.2.2 := rfl
@[simp] theorem cellIndex_jDir (p : Idx3) : cellIndex p jDir = p.2.1 := rfl
@[simp] theorem cellIndex_kDir (p : Idx3) : cellIndex p kDir = p.1 := rfl

/-- The exact coordinate volume of cell `p`. -/
def exactVolume (cfg : Config) (g : Grid) (p : Idx3) : ℝ :=
  ∏ e : Dir, if cfg.Active e then
    ∫ x in g.xl e (cellIndex p e)..g.xr e (cellIndex p e), volumeDensity cfg.geometry e x
  else 1

def faceCoord (g : Grid) (d : Dir) (f : ℕ) : ℝ :=
  if f = g.npTot d then g.xr d (f - 1) else g.xl d f

/-- The exact area of the face normal to `d` at index `p`. -/
def exactArea (cfg : Config) (g : Grid) (d : Dir) (p : Idx3) : ℝ :=
  ∏ e : Dir, if cfg.Active e then
    if e = d then faceDensity cfg.geometry d e (faceCoord g d (cellIndex p d))
    else ∫ x in g.xl e (cellIndex p e)..g.xr e (cellIndex p e), faceDensity cfg.geometry d e x
  else 1

/-- The grids of the exactness results: cells as the grid layer builds them, neighbours
sharing their faces, radii nonnegative in the curvilinear geometries and polar angles within
`[0, π]` in spherical geometry. -/
structure Grid.Physical (geo : Geometry) (g : Grid) : Prop where
  cells : ∀ d, g.Cells d
  contiguous : ∀ d, g.Contiguous d
  radial : geo ≠ .cartesian → ∀ i < g.npTot iDir, 0 ≤ g.xl iDir i
  polarAngle : geo = .spherical → ∀ j < g.npTot jDir, 0 ≤ g.xl jDir j ∧ g.xr jDir j ≤ π
  npTot_pos : ∀ d, 0 < g.npTot d

theorem prod_active (cfg : Config) (f : Dir → ℝ) :
    ∏ e : Dir, (if cfg.Active e then f e else 1) = dExpand cfg (f iDir) (f jDir) (f kDir) := by
  rw [dExpand_eq_prod]
  congr 1
  funext e
  fin_cases e <;> rfl

theorem integral_mul_self (a b : ℝ) : ∫ x in a..b, x * x = (b ^ 3 - a ^ 3) / 3 := by
  simp [← pow_two, integral_pow]
  norm_num

theorem sq_sub_sq_pos {a b : ℝ} (nonneg : 0 ≤ a) (lt : a < b) : 0 < b * b - a * a := by
  nlinarith

theorem cube_sub_cube_pos {a b : ℝ} (lt : a < b) : 0 < b * b * b - a * a * a := by
  have cubes := (Odd.strictMono_pow ⟨1, rfl⟩ : StrictMono fun x : ℝ => x ^ 3) lt
  simp only at cubes
  nlinarith

theorem dVAt_eq_exactVolume (cfg : Config)
    (narrow : cfg.geometry = .cylindrical → cfg.dimensions ≤ 2) (g : Grid)
    (phys : g.Physical cfg.geometry) {p : Idx3} (cell : p ∈ cellRange g.npTot) :
    dVAt cfg g p = exactVolume cfg g p := by
  obtain ⟨k, j, i⟩ := p
  obtain ⟨hk, hj, hi⟩ : k < g.npTot kDir ∧ j < g.npTot jDir ∧ i < g.npTot iDir := by
    simpa [cellRange] using cell
  have width := fun d => (phys.cells d).dx_eq
  have ordered := (phys.cells iDir).xl_lt_xr i hi
  rw [exactVolume, prod_active]
  cases geo : cfg.geometry <;>
    simp only [dVAt, geo, volumeDensity, scaleFactor, Fin.prod_univ_three, cellIndex_iDir,
      cellIndex_jDir, cellIndex_kDir, Grid.dx1, Grid.dx2, Grid.dx3, Grid.x1p, Grid.x1m, Grid.x2p,
      Grid.x2m, width iDir i hi, width jDir j hj, width kDir k hk, mul_one, one_mul, integral_const,
      smul_eq_mul, integral_id, integral_mul_self, integral_sin]
  · have radius := phys.radial (by simp [geo]) i hi
    rw [abs_of_pos (sq_sub_sq_pos radius ordered)]
    exact dExpand_congr cfg (fun _ => by ring) (fun _ => by ring)
      (fun three => absurd three (by have := narrow geo; omega))
  · have radius := phys.radial (by simp [geo]) i hi
    rw [abs_of_pos (sq_sub_sq_pos radius ordered)]
    exact dExpand_congr cfg (fun _ => by ring) (fun _ => by ring) (fun _ => by ring)
  · obtain ⟨low, high⟩ := phys.polarAngle geo j hj
    have band := cos_le_cos_of_nonneg_of_le_pi low high ((phys.cells jDir).xl_lt_xr j hj).le
    rw [abs_of_pos (cube_sub_cube_pos ordered), abs_of_nonneg (sub_nonneg.mpr band)]
    exact dExpand_congr cfg (fun _ => by ring) (fun _ => by ring) (fun _ => by ring)

theorem faceCoord_within {g : Grid} {d : Dir} (cells : g.Cells d) (npos : 0 < g.npTot d)
    {f : ℕ} (face : f ≤ g.npTot d) :
    ∃ n < g.npTot d, g.xl d n ≤ faceCoord g d f ∧ faceCoord g d f ≤ g.xr d n := by
  unfold faceCoord
  split_ifs with last
  · exact ⟨f - 1, by omega, (cells.xl_lt_xr _ (by omega)).le, le_rfl⟩
  · exact ⟨f, by omega, le_rfl, (cells.xl_lt_xr _ (by omega)).le⟩

theorem ax1At_eq_exactArea (cfg : Config)
    (narrow : cfg.geometry = .cylindrical → cfg.dimensions ≤ 2) (g : Grid)
    (phys : g.Physical cfg.geometry) {p : Idx3} (face : p ∈ faceRange cfg g.npTot iDir) :
    ax1At cfg g (g.npTot iDir) p = exactArea cfg g iDir p := by
  obtain ⟨k, j, i⟩ := p
  obtain ⟨hk, hj, hi⟩ : k < g.npTot kDir ∧ j < g.npTot jDir ∧ i ≤ g.npTot iDir := by
    simpa [faceRange, offset, Nat.lt_succ_iff] using face
  have width := fun d => (phys.cells d).dx_eq
  obtain ⟨n, hn, above, -⟩ := faceCoord_within (phys.cells iDir) (phys.npTot_pos iDir) hi
  have radius (curved : cfg.geometry ≠ .cartesian) : 0 ≤ faceCoord g iDir i :=
    (phys.radial curved n hn).trans above
  rw [exactArea, prod_active]
  cases geo : cfg.geometry <;>
    simp only [ax1At, geo, faceDensity, scaleFactor, Fin.prod_univ_three, cellIndex_iDir,
      cellIndex_jDir, cellIndex_kDir, Grid.dx1, Grid.dx2, Grid.dx3, Grid.x1p, Grid.x1m, Grid.x2p,
      Grid.x2m, width jDir j hj, width kDir k hk] at radius ⊢ <;>
    simp at radius ⊢
  · unfold faceCoord at radius ⊢
    split_ifs at radius ⊢ <;> rw [abs_of_nonneg radius] <;>
      exact dExpand_congr cfg (fun _ => rfl) (fun _ => rfl)
        (fun three => absurd three (by have := narrow geo; omega))
  · unfold faceCoord at radius ⊢
    split_ifs at radius ⊢ <;> rw [abs_of_nonneg radius]
  · obtain ⟨low, high⟩ := phys.polarAngle geo j hj
    have band := cos_le_cos_of_nonneg_of_le_pi low high ((phys.cells jDir).xl_lt_xr j hj).le
    unfold faceCoord
    split_ifs <;> rw [abs_of_nonneg (sub_nonneg.mpr band)]

theorem midpoint_mul_width {g : Grid} {d : Dir} (cells : g.Cells d) {i : ℕ}
    (cell : i < g.npTot d) : g.x d i * (g.xr d i - g.xl d i) = (g.xr d i ^ 2 - g.xl d i ^ 2) / 2 := by
  rw [cells.x_eq i cell]
  ring

theorem ax2At_eq_exactArea (cfg : Config)
    (narrow : cfg.geometry = .cylindrical → cfg.dimensions ≤ 2) (g : Grid)
    (phys : g.Physical cfg.geometry) (active : cfg.Active jDir) {p : Idx3}
    (face : p ∈ faceRange cfg g.npTot jDir) :
    ax2At cfg g (g.npTot jDir) p = exactArea cfg g jDir p := by
  obtain ⟨k, j, i⟩ := p
  obtain ⟨hk, hj, hi⟩ : k < g.npTot kDir ∧ j ≤ g.npTot jDir ∧ i < g.npTot iDir := by
    simpa [faceRange, offset, active, Nat.lt_succ_iff] using face
  have width := fun d => (phys.cells d).dx_eq
  have integral := midpoint_mul_width (phys.cells iDir) hi
  rw [exactArea, prod_active]
  cases geo : cfg.geometry <;>
    simp only [ax2At, geo, faceDensity, scaleFactor, Fin.prod_univ_three, cellIndex_iDir,
      cellIndex_jDir, cellIndex_kDir, Grid.dx1, Grid.dx2, Grid.dx3, Grid.x1, Grid.x2p, Grid.x2m,
      width kDir k hk] <;>
    simp [active, width iDir i hi, integral]
  · have centre : 0 ≤ g.x iDir i := by
      rw [(phys.cells iDir).x_eq i hi]
      linarith [phys.radial (by simp [geo]) i hi, (phys.cells iDir).xl_lt_xr i hi]
    rw [abs_of_nonneg centre]
    exact dExpand_congr cfg (fun one => absurd active (by simp [Config.Active, one]))
      (fun _ => by rw [mul_one, integral])
      (fun three => absurd three (by have := narrow geo; omega))
  · obtain ⟨n, hn, above, below⟩ :=
      faceCoord_within (phys.cells jDir) (phys.npTot_pos jDir) hj
    obtain ⟨low, high⟩ := phys.polarAngle geo n hn
    have angle := sin_nonneg_of_nonneg_of_le_pi (low.trans above) (below.trans high)
    unfold faceCoord at angle ⊢
    split_ifs at angle ⊢ <;> rw [abs_of_nonneg angle]

theorem ax3At_eq_exactArea (cfg : Config)
    (narrow : cfg.geometry = .cylindrical → cfg.dimensions ≤ 2) (g : Grid)
    (phys : g.Physical cfg.geometry) (active : cfg.Active kDir) {p : Idx3}
    (face : p ∈ faceRange cfg g.npTot kDir) :
    ax3At cfg g p = exactArea cfg g kDir p := by
  obtain ⟨k, j, i⟩ := p
  obtain ⟨hk, hj, hi⟩ : k ≤ g.npTot kDir ∧ j < g.npTot jDir ∧ i < g.npTot iDir := by
    simpa [faceRange, offset, active, Nat.lt_succ_iff] using face
  have width := fun d => (phys.cells d).dx_eq
  have integral := midpoint_mul_width (phys.cells iDir) hi
  rw [exactArea, prod_active]
  cases geo : cfg.geometry <;>
    simp only [ax3At, geo, faceDensity, scaleFactor, Fin.prod_univ_three, cellIndex_iDir,
      cellIndex_jDir, cellIndex_kDir, Grid.dx1, Grid.dx2, Grid.dx3, Grid.x1, width jDir j hj] <;>
    simp [active, width iDir i hi, integral]
  exact absurd (narrow geo) (by have : 2 < cfg.dimensions := active; omega)

def radialDivergence : Geometry → ℝ
  | .cartesian => 1
  | .cylindrical | .polar => 2
  | .spherical => 3

@[simp] theorem scaleFactor_iDir (geo : Geometry) (e : Dir) (x : ℝ) :
    scaleFactor geo iDir e x = 1 := by
  cases geo <;> fin_cases e <;> rfl

theorem volumeDensity_eq_faceDensity (geo : Geometry) (e : Dir) (x : ℝ) :
    volumeDensity geo e x = faceDensity geo iDir e x := by
  simp [volumeDensity, faceDensity, Fin.prod_univ_three]

theorem faceCoord_of_lt {g : Grid} {d : Dir} {f : ℕ} (cell : f < g.npTot d) :
    faceCoord g d f = g.xl d f :=
  if_neg (by omega)

theorem faceCoord_succ {g : Grid} {d : Dir} {i : ℕ}
    (contiguous : i + 1 < g.npTot d → g.xl d (i + 1) = g.xr d i) (cell : i < g.npTot d) :
    faceCoord g d (i + 1) = g.xr d i := by
  unfold faceCoord
  split_ifs with last
  · rfl
  · exact contiguous (by omega)

theorem exactArea_divergence (cfg : Config) (g : Grid) (contiguous : g.Contiguous iDir)
    {k j i : ℕ} (cell : i < g.npTot iDir) :
    exactArea cfg g iDir (k, j, i + 1) * g.xr iDir i - exactArea cfg g iDir (k, j, i) * g.xl iDir i =
      radialDivergence cfg.geometry * exactVolume cfg g (k, j, i) := by
  simp [exactArea, exactVolume, prod_active, cellIndex, volumeDensity_eq_faceDensity,
    faceCoord_succ (contiguous i) cell, faceCoord_of_lt cell, dExpand_mul_sub_mul, mul_dExpand]
  congr 1
  cases cfg.geometry <;>
    simp [radialDivergence, faceDensity, scaleFactor, Fin.prod_univ_three, integral_mul_self] <;>
    ring

variable {nvar : ℕ}

theorem dV_makeGeometry_exact (cfg : Config)
    (narrow : cfg.geometry = .cylindrical → cfg.dimensions ≤ 2) (st : DataBlock nvar)
    (phys : st.grid.Physical cfg.geometry) {p : Idx3} (cell : p ∈ cellRange st.npTot) :
    (makeGeometry cfg st).dV p = exactVolume cfg st.grid p := by
  rw [dV_makeGeometry cell]
  exact dVAt_eq_exactVolume cfg narrow _ phys cell

theorem A_makeGeometry_exact (cfg : Config)
    (narrow : cfg.geometry = .cylindrical → cfg.dimensions ≤ 2) (st : DataBlock nvar)
    (phys : st.grid.Physical cfg.geometry) {d : Dir} (active : cfg.Active d) {p : Idx3}
    (face : p ∈ faceRange cfg st.npTot d) :
    (makeGeometry cfg st).A d p = exactArea cfg st.grid d p := by
  rw [A_makeGeometry face]
  fin_cases d
  · exact ax1At_eq_exactArea cfg narrow _ phys face
  · exact ax2At_eq_exactArea cfg narrow _ phys active face
  · exact ax3At_eq_exactArea cfg narrow _ phys active face

theorem faces_of_cell {cfg : Config} {np : Dir → ℕ} {k j i : ℕ}
    (cell : (k, j, i) ∈ cellRange np) :
    (k, j, i) ∈ faceRange cfg np iDir ∧ (k, j, i + 1) ∈ faceRange cfg np iDir := by
  simp only [cellRange, faceRange, mem_range3, offset] at cell ⊢
  simp only [Config.active_iDir, if_true] at *
  omega

theorem makeGeometry_exact (cfg : Config)
    (narrow : cfg.geometry = .cylindrical → cfg.dimensions ≤ 2) (st : DataBlock nvar)
    (phys : st.grid.Physical cfg.geometry) :
    let out := makeGeometry cfg st
    (∀ p ∈ cellRange st.npTot, out.dV p = exactVolume cfg st.grid p) ∧
      (∀ d, cfg.Active d → ∀ p ∈ faceRange cfg st.npTot d, out.A d p = exactArea cfg st.grid d p) ∧
      ∀ k j i, (k, j, i) ∈ cellRange st.npTot →
        out.A iDir (k, j, i + 1) * st.xr iDir i - out.A iDir (k, j, i) * st.xl iDir i =
          radialDivergence cfg.geometry * out.dV (k, j, i) := by
  refine ⟨fun p => dV_makeGeometry_exact cfg narrow st phys,
    fun d active p => A_makeGeometry_exact cfg narrow st phys active, fun k j i cell => ?_⟩
  have radial : i < st.npTot iDir := by
    simp only [cellRange, mem_range3] at cell
    omega
  obtain ⟨left, right⟩ : (k, j, i) ∈ faceRange cfg st.npTot iDir ∧
      (k, j, i + 1) ∈ faceRange cfg st.npTot iDir := faces_of_cell cell
  rw [A_makeGeometry_exact cfg narrow st phys cfg.active_iDir left,
    A_makeGeometry_exact cfg narrow st phys cfg.active_iDir right,
    dV_makeGeometry_exact cfg narrow st phys cell]
  exact exactArea_divergence cfg st.grid (phys.contiguous iDir) radial

theorem unitCube_physical (nvar : ℕ) (geo : Geometry) : (unitCube nvar).grid.Physical geo where
  cells _ := ⟨fun _ _ => zero_lt_one, fun _ _ => (sub_zero 1).symm,
    fun _ _ => show (1 / 2 : ℝ) = (0 + 1) / 2 by norm_num⟩
  contiguous _ _ beyond := absurd beyond (by simp [unitCube, DataBlock.grid])
  radial _ _ _ := le_rfl
  polarAngle _ _ _ := ⟨le_rfl, show (1 : ℝ) ≤ π by linarith [two_le_pi]⟩
  npTot_pos _ := one_pos

theorem unitCells_physical (nvar : ℕ) (geo : Geometry) {np : Dir → ℕ} (npos : ∀ d, 0 < np d)
    (polar : np jDir ≤ 3) : (unitCells nvar np).grid.Physical geo where
  cells _ := ⟨fun i _ => show (i : ℝ) < i + 1 by linarith, fun i _ => show (1 : ℝ) = i + 1 - i by ring,
    fun i _ => show (i : ℝ) + 1 / 2 = (i + (i + 1)) / 2 by ring⟩
  contiguous _ i _ := show ((i + 1 : ℕ) : ℝ) = i + 1 by push_cast; rfl
  radial _ i _ := Nat.cast_nonneg i
  polarAngle _ j lt := by
    have inside : j < np jDir := lt
    have : (j : ℝ) ≤ 2 := by exact_mod_cast (by omega : j ≤ 2)
    exact ⟨Nat.cast_nonneg j, show (j : ℝ) + 1 ≤ π by linarith [Real.pi_gt_three]⟩
  npTot_pos := npos

theorem makeGeometry_exact_unitCube :
    (spherical3.geometry = .cylindrical → spherical3.dimensions ≤ 2) ∧
      (unitCube 0).grid.Physical spherical3.geometry ∧
      let out := makeGeometry spherical3 (unitCube 0)
      (∀ p ∈ cellRange (unitCube 0).npTot, out.dV p = exactVolume spherical3 (unitCube 0).grid p) ∧
        (∀ d, spherical3.Active d → ∀ p ∈ faceRange spherical3 (unitCube 0).npTot d,
          out.A d p = exactArea spherical3 (unitCube 0).grid d p) ∧
        ∀ k j i, (k, j, i) ∈ cellRange (unitCube 0).npTot →
          out.A iDir (k, j, i + 1) * (unitCube 0).xr iDir i - out.A iDir (k, j, i) * (unitCube 0).xl iDir i =
            radialDivergence spherical3.geometry * out.dV (k, j, i) :=
  ⟨by decide, unitCube_physical 0 _,
    makeGeometry_exact spherical3 (by decide) (unitCube 0) (unitCube_physical 0 _)⟩

end

end Idefix

import Idefix.Geometry.Exact

/-!
# Volumes and areas on grids with ghost cells

The safety results need only increasing faces, so they hold on the ghost cells too, which
may lie at negative radius or at polar angles outside `[0, π]`. Every volume is
nonnegative, and it vanishes exactly on the degenerate cells: a cell centred on the axis in
the cylindrical and polar geometries, a cell between polar faces of equal cosine in
spherical geometry. The same conditions make the divisors of `GeometricalCentersX1` and
`GeometricalCentersX2` vanish. The areas `x1·dx1` of the polar `z` faces and of the spherical
`θ` and `φ` faces do not take the absolute value that the cylindrical `z` face takes, and are
negative at negative radius.
-/

namespace Idefix

open Kernel Real

set_option autoImplicit false

noncomputable section

variable {nvar : ℕ}

theorem dExpand_nonneg (cfg : Config) {a b c : ℝ} (first : 0 ≤ a) (second : 0 ≤ b)
    (third : 0 ≤ c) : 0 ≤ dExpand cfg a b c := by
  unfold dExpand
  split_ifs <;> positivity

theorem dExpand_pos_iff (cfg : Config) {a b c : ℝ} (second : 0 < b) (third : 0 < c) :
    0 < dExpand cfg a b c ↔ 0 < a := by
  unfold dExpand
  split_ifs
  · rfl
  · exact mul_pos_iff_of_pos_right second
  · rw [mul_assoc]
    exact mul_pos_iff_of_pos_right (mul_pos second third)

theorem dExpand_pos_iff_second (cfg : Config) {a b c : ℝ} (first : 0 < a) (third : 0 < c) : 0 < dExpand cfg a b c ↔ cfg.dimensions = 1 ∨ 0 < b := by
  unfold dExpand
  split_ifs with one two
  · simp [first, one]
  · simp [one, mul_pos_iff_of_pos_left first]
  · simp [one, mul_pos_iff_of_pos_right third, mul_pos_iff_of_pos_left first]

/-- A cell on which `Volumes` computes a zero volume. -/
def Degenerate (cfg : Config) (g : Grid) : Idx3 → Prop
  | (_k, j, i) =>
    match cfg.geometry with
    | .cartesian => False
    | .cylindrical | .polar => g.x1 i = 0
    | .spherical => 2 ≤ cfg.dimensions ∧ cos (g.x2m j) = cos (g.x2p j)

theorem Grid.Cells.dx_pos {g : Grid} {d : Dir} (cells : g.Cells d) {i : ℕ}
    (cell : i < g.npTot d) : 0 < g.dx d i := by
  rw [cells.dx_eq i cell]
  exact sub_pos.mpr (cells.xl_lt_xr i cell)

theorem Grid.Cells.sq_sub_sq {g : Grid} {d : Dir} (cells : g.Cells d) {i : ℕ}
    (cell : i < g.npTot d) :
    g.xr d i * g.xr d i - g.xl d i * g.xl d i = 2 * g.x d i * g.dx d i := by
  rw [cells.x_eq i cell, cells.dx_eq i cell]
  ring

theorem dVAt_pos_iff (cfg : Config) (g : Grid) (increasing : ∀ d, g.Cells d) {k j i : ℕ}
    (cell : (k, j, i) ∈ cellRange g.npTot) :
    0 ≤ dVAt cfg g (k, j, i) ∧ (0 < dVAt cfg g (k, j, i) ↔ ¬ Degenerate cfg g (k, j, i)) := by
  obtain ⟨hk, hj, hi⟩ : k < g.npTot kDir ∧ j < g.npTot jDir ∧ i < g.npTot iDir := by
    simpa [cellRange] using cell
  have radialWidth := (increasing iDir).dx_pos hi
  have polarWidth := (increasing jDir).dx_pos hj
  have axialWidth := (increasing kDir).dx_pos hk
  cases geo : cfg.geometry <;> simp only [dVAt, Degenerate, geo, Grid.x1p, Grid.x1m]
  · exact ⟨dExpand_nonneg cfg radialWidth.le polarWidth.le axialWidth.le,
      by simp [dExpand_pos_iff cfg polarWidth axialWidth, radialWidth]⟩
  · rw [(increasing iDir).sq_sub_sq hi]
    refine ⟨dExpand_nonneg cfg (by positivity) polarWidth.le zero_le_one, ?_⟩
    simp [dExpand_pos_iff cfg polarWidth one_pos, abs_pos, radialWidth.ne']
  · rw [(increasing iDir).sq_sub_sq hi]
    refine ⟨dExpand_nonneg cfg (by positivity) polarWidth.le axialWidth.le, ?_⟩
    simp [dExpand_pos_iff cfg polarWidth axialWidth, abs_pos, radialWidth.ne']
  · have volume := cube_sub_cube_pos ((increasing iDir).xl_lt_xr i hi)
    refine ⟨dExpand_nonneg cfg (by positivity) (abs_nonneg _) axialWidth.le, ?_⟩
    rw [dExpand_pos_iff_second cfg (by positivity) axialWidth, abs_pos, sub_ne_zero, not_and]
    have := cfg.dimensions_pos
    constructor
    · rintro (one | apart) two
      · omega
      · exact apart
    · intro apart
      by_cases one : cfg.dimensions = 1
      · exact .inl one
      · exact .inr (apart (by omega))

theorem makeGeometry_volume_pos_iff (cfg : Config) (st : DataBlock nvar)
    (increasing : ∀ d, st.grid.Cells d) {k j i : ℕ} (cell : (k, j, i) ∈ cellRange st.npTot) :
    let out := makeGeometry cfg st
    0 ≤ out.dV (k, j, i) ∧ (0 < out.dV (k, j, i) ↔ ¬ Degenerate cfg st.grid (k, j, i)) ∧
      0 < 12 * st.x iDir i * st.x iDir i + st.dx iDir i * st.dx iDir i ∧
      (st.xr iDir i * st.xr iDir i - st.xl iDir i * st.xl iDir i = 0 ↔ st.x iDir i = 0) := by
  have radial : i < st.npTot iDir := by
    simp only [cellRange, mem_range3] at cell
    omega
  have width : 0 < st.dx iDir i := (increasing iDir).dx_pos radial
  have factor : st.xr iDir i * st.xr iDir i - st.xl iDir i * st.xl iDir i =
      2 * st.x iDir i * st.dx iDir i := (increasing iDir).sq_sub_sq radial
  obtain ⟨nonneg, pos⟩ := dVAt_pos_iff cfg st.grid increasing cell
  simp only [dV_makeGeometry cell, factor]
  exact ⟨nonneg, pos, by nlinarith [mul_self_nonneg (st.x iDir i)], by simp [width.ne']⟩

theorem makeGeometry_volume_pos_iff_unitCube :
    (∀ d, (unitCube 0).grid.Cells d) ∧ (0, 0, 0) ∈ cellRange (unitCube 0).npTot ∧
      let out := makeGeometry spherical3 (unitCube 0)
      0 ≤ out.dV (0, 0, 0) ∧ (0 < out.dV (0, 0, 0) ↔ ¬ Degenerate spherical3 (unitCube 0).grid (0, 0, 0)) ∧
        0 < 12 * (unitCube 0).x iDir 0 * (unitCube 0).x iDir 0 + (unitCube 0).dx iDir 0 * (unitCube 0).dx iDir 0 ∧
        ((unitCube 0).xr iDir 0 * (unitCube 0).xr iDir 0 - (unitCube 0).xl iDir 0 * (unitCube 0).xl iDir 0 = 0 ↔
          (unitCube 0).x iDir 0 = 0) := by
  have cell : ((0, 0, 0) : Idx3) ∈ cellRange (unitCube 0).npTot := by simp [cellRange, unitCube]
  have increasing := (unitCube_physical 0 .spherical).cells
  exact ⟨increasing, cell, makeGeometry_volume_pos_iff spherical3 (unitCube 0) increasing cell⟩

def radialCell (lo hi : ℝ) : DataBlock 0 :=
  { unitCube 0 with
    x := fun d _ => if d = iDir then (lo + hi) / 2 else 1 / 2
    dx := fun d _ => if d = iDir then hi - lo else 1
    xl := fun d _ => if d = iDir then lo else 0
    xr := fun d _ => if d = iDir then hi else 1 }

theorem radialCell_cells {lo hi : ℝ} (ordered : lo < hi) (d : Dir) :
    (radialCell lo hi).grid.Cells d := by
  by_cases radial : d = iDir <;> constructor <;> intro _ _ <;>
    norm_num [radialCell, unitCube, DataBlock.grid, radial, ordered]

theorem radialCell_face (cfg : Config) (lo hi : ℝ) (d : Dir) :
    ((0, 0, 0) : Idx3) ∈ faceRange cfg (radialCell lo hi).npTot d := by
  simp [faceRange, radialCell, unitCube]

def cylindrical2 : Config := ⟨.cylindrical, 2, by decide, by decide⟩

theorem makeGeometry_axis_cell_degenerate :
    (∀ d, (radialCell (-1) 1).grid.Cells d) ∧
      (makeGeometry cylindrical2 (radialCell (-1) 1)).dV (0, 0, 0) = 0 ∧
      12 * (radialCell (-1) 1).x iDir 0 = 0 := by
  refine ⟨radialCell_cells (by norm_num), ?_, by simp [radialCell]⟩
  rw [dV_makeGeometry (by simp [cellRange, radialCell, unitCube])]
  norm_num [dVAt, dExpand, cylindrical2, radialCell, unitCube, DataBlock.grid, Grid.x1p, Grid.x1m]

def polar3 : Config := ⟨.polar, 3, by decide, le_rfl⟩

/-- At the ghost cell `[-2, -1]`, the `z` face of polar geometry and the `φ` face of spherical
geometry get the negative area `x1·dx1·dx2`, while the cylindrical `z` face, from the same
cell, gets `|x1|·dx1`. -/
theorem makeGeometry_negative_face_area :
    (∀ d, (radialCell (-2) (-1)).grid.Cells d) ∧
      (makeGeometry polar3 (radialCell (-2) (-1))).A kDir (0, 0, 0) = -3 / 2 ∧
      (makeGeometry spherical3 (radialCell (-2) (-1))).A kDir (0, 0, 0) = -3 / 2 ∧
      (makeGeometry cylindrical2 (radialCell (-2) (-1))).A jDir (0, 0, 0) = 3 / 2 := by
  refine ⟨radialCell_cells (by norm_num), ?_, ?_, ?_⟩ <;>
    rw [A_makeGeometry (radialCell_face _ _ _ _)] <;>
    norm_num [areaAt, ax2At, ax3At, dExpand, polar3, spherical3, cylindrical2, radialCell, unitCube,
      DataBlock.grid, Grid.x1]

end

end Idefix

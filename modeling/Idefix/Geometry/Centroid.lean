import Idefix.Geometry.Exact

/-!
# Geometric centres and the curvature term

`GeometricalCentersX1` and `GeometricalCentersX2` store closed forms in `x1`, `dx1` and the
face angles. They are the centroids of the cells for the volume element of each geometry: the
ratio of the first moment of the Jacobian factor to its integral. In spherical geometry `rt`
is chosen so that the curvature source `2p/rt` balances the discrete radial divergence of a
uniform pressure, at every radial cell and at the last face too.
-/

namespace Idefix

open Kernel Real intervalIntegral

set_option autoImplicit false

noncomputable section

variable {nvar : ℕ}

theorem makeGeometry_rt_balance (cfg : Config) (spherical : cfg.geometry = .spherical)
    (st : DataBlock nvar) {k j i : ℕ} (cell : (k, j, i) ∈ cellRange st.npTot)
    (ordered : st.xl iDir i < st.xr iDir i) (distinct : st.xr iDir i ^ 2 ≠ st.xl iDir i ^ 2)
    (contiguous : i + 1 < st.npTot iDir → st.xl iDir (i + 1) = st.xr iDir i) :
    let out := makeGeometry cfg st
    (out.A iDir (k, j, i + 1) - out.A iDir (k, j, i)) * out.rt i = 2 * out.dV (k, j, i) := by
  have radial : i < st.npTot iDir := by
    simp only [cellRange, mem_range3] at cell
    omega
  obtain ⟨left, right⟩ : (k, j, i) ∈ faceRange cfg st.npTot iDir ∧
      (k, j, i + 1) ∈ faceRange cfg st.npTot iDir := faces_of_cell cell
  have outer : faceCoord st.grid iDir (i + 1) = st.grid.xr iDir i := faceCoord_succ contiguous radial
  have inner : faceCoord st.grid iDir i = st.grid.xl iDir i := faceCoord_of_lt radial
  unfold faceCoord at outer inner
  simp only [A_makeGeometry left, A_makeGeometry right, dV_makeGeometry cell,
    rt_makeGeometry spherical radial, areaAt, Matrix.cons_val_zero, ax1At, dVAt, spherical,
    Grid.x1p, Grid.x1m, outer, inner]
  have balance : (st.grid.xr iDir i * st.grid.xr iDir i - st.grid.xl iDir i * st.grid.xl iDir i) *
      rtAt st.grid i = 2 * (|st.grid.xr iDir i * st.grid.xr iDir i * st.grid.xr iDir i -
        st.grid.xl iDir i * st.grid.xl iDir i * st.grid.xl iDir i| / 3) := by
    have gap : st.grid.xr iDir i * st.grid.xr iDir i - st.grid.xl iDir i * st.grid.xl iDir i ≠ 0 := by
      rw [← sq, ← sq]
      exact sub_ne_zero.mpr distinct
    rw [rtAt, abs_of_pos (cube_sub_cube_pos (show st.grid.xl iDir i < st.grid.xr iDir i from ordered)),
      div_div, mul_div_assoc', mul_div_mul_left _ _ gap]
    ring
  split_ifs at outer inner ⊢ <;> rw [outer, inner, dExpand_sub_mul, mul_dExpand, balance]

theorem makeGeometry_rt_balance_unitCube :
    spherical3.geometry = .spherical ∧ (0, 0, 0) ∈ cellRange (unitCube 0).npTot ∧
      (unitCube 0).xl iDir 0 < (unitCube 0).xr iDir 0 ∧ (unitCube 0).xr iDir 0 ^ 2 ≠ (unitCube 0).xl iDir 0 ^ 2 ∧
      (0 + 1 < (unitCube 0).npTot iDir → (unitCube 0).xl iDir (0 + 1) = (unitCube 0).xr iDir 0) ∧
      let out := makeGeometry spherical3 (unitCube 0)
      (out.A iDir (0, 0, 0 + 1) - out.A iDir (0, 0, 0)) * out.rt 0 = 2 * out.dV (0, 0, 0) := by
  have cell : ((0, 0, 0) : Idx3) ∈ cellRange (unitCube 0).npTot := by simp [cellRange, unitCube]
  have ordered : (unitCube 0).xl iDir 0 < (unitCube 0).xr iDir 0 := zero_lt_one
  have distinct : (unitCube 0).xr iDir 0 ^ 2 ≠ (unitCube 0).xl iDir 0 ^ 2 := by norm_num [unitCube]
  have contiguous : 0 + 1 < (unitCube 0).npTot iDir → (unitCube 0).xl iDir (0 + 1) = (unitCube 0).xr iDir 0 :=
    fun beyond => absurd beyond (by simp [unitCube])
  exact ⟨rfl, cell, ordered, distinct, contiguous,
    makeGeometry_rt_balance spherical3 rfl (unitCube 0) cell ordered distinct contiguous⟩

theorem integral_cube (a b : ℝ) : ∫ x in a..b, x * (x * x) = (b ^ 4 - a ^ 4) / 4 := by
  simp [← pow_two, ← pow_succ', integral_pow]
  norm_num

theorem x1gcAt_eq_centroid (cfg : Config) (g : Grid) {i : ℕ} (nonneg : 0 ≤ g.xl iDir i)
    (ordered : g.xl iDir i < g.xr iDir i) (mid : g.x iDir i = (g.xl iDir i + g.xr iDir i) / 2)
    (width : g.dx iDir i = g.xr iDir i - g.xl iDir i) :
    x1gcAt cfg g i = (∫ r in g.xl iDir i..g.xr iDir i, r * volumeDensity cfg.geometry iDir r) /
      ∫ r in g.xl iDir i..g.xr iDir i, volumeDensity cfg.geometry iDir r := by
  generalize g.xl iDir i = a at *
  generalize g.xr iDir i = b at *
  have wide : 0 < b - a := sub_pos.mpr ordered
  have centre : 0 < (a + b) / 2 := by linarith
  have squares : 0 < (b ^ 2 - a ^ 2) / 2 := by nlinarith
  have cubes : 0 < (b ^ 3 - a ^ 3) / 3 := by nlinarith
  have spread : 0 < 12 * ((a + b) / 2) * ((a + b) / 2) + (b - a) * (b - a) :=
    add_pos (mul_pos (mul_pos (by norm_num) centre) centre) (mul_pos wide wide)
  cases geo : cfg.geometry <;>
    simp only [x1gcAt, geo, volumeDensity, scaleFactor, Fin.prod_univ_three, Grid.x1, Grid.dx1,
      mid, width] <;>
    simp only [mul_one, one_mul, integral_id, integral_mul_self, integral_cube, integral_const,
      smul_eq_mul]
  · rw [eq_div_iff wide.ne']
    ring
  all_goals
    rw [add_div' _ _ _ (by positivity), div_eq_div_iff (by positivity) (by positivity)]
    ring

theorem integral_mul_sin (a b : ℝ) :
    ∫ x in a..b, x * sin x = sin b - b * cos b - (sin a - a * cos a) := by
  have antiderivative (x : ℝ) : HasDerivAt (fun x => sin x - x * cos x) (x * sin x) x := by
    convert (hasDerivAt_sin x).sub ((hasDerivAt_id x).mul (hasDerivAt_cos x)) using 1
    simp only [id]
    ring
  exact integral_eq_sub_of_hasDerivAt (fun x _ => antiderivative x)
    ((continuous_id.mul continuous_sin).intervalIntegrable a b)

theorem x2gcAt_eq_centroid (cfg : Config) (spherical : cfg.geometry = .spherical) (g : Grid)
    (j : ℕ) :
    x2gcAt cfg g j = (∫ θ in g.xl jDir j..g.xr jDir j, θ * volumeDensity cfg.geometry jDir θ) /
      ∫ θ in g.xl jDir j..g.xr jDir j, volumeDensity cfg.geometry jDir θ := by
  simp only [x2gcAt, spherical, volumeDensity, scaleFactor, Fin.prod_univ_three]
  simp [integral_mul_sin]
  ring

theorem makeGeometry_centroids (cfg : Config) (st : DataBlock nvar) :
    let out := makeGeometry cfg st
    (∀ i < st.npTot iDir, 0 ≤ st.xl iDir i → st.xl iDir i < st.xr iDir i →
        st.x iDir i = (st.xl iDir i + st.xr iDir i) / 2 →
        st.dx iDir i = st.xr iDir i - st.xl iDir i →
        out.xgc iDir i = (∫ r in st.xl iDir i..st.xr iDir i, r * volumeDensity cfg.geometry iDir r) /
          ∫ r in st.xl iDir i..st.xr iDir i, volumeDensity cfg.geometry iDir r) ∧
      (cfg.geometry = .spherical → ∀ j < st.npTot jDir,
        out.xgc jDir j = (∫ θ in st.xl jDir j..st.xr jDir j, θ * volumeDensity cfg.geometry jDir θ) /
          ∫ θ in st.xl jDir j..st.xr jDir j, volumeDensity cfg.geometry jDir θ) ∧
      (cfg.geometry ≠ .spherical → ∀ j < st.npTot jDir, out.xgc jDir j = st.x jDir j) ∧
      ∀ k < st.npTot kDir, out.xgc kDir k = st.x kDir k := by
  refine ⟨fun i cell nonneg ordered mid width => ?_, fun spherical j cell => ?_,
    fun flat j cell => ?_, fun k cell => ?_⟩ <;>
    rw [xgc_makeGeometry cell]
  · exact x1gcAt_eq_centroid cfg st.grid nonneg ordered mid width
  · exact x2gcAt_eq_centroid cfg spherical st.grid j
  · simp [centerAt, x2gcAt, flat, DataBlock.grid]
  · rfl

end

end Idefix

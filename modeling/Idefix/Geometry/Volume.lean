import Idefix.Geometry.Exact

/-!
# The cell volumes add up to the volume of the domain

`MakeGeometry` gives every cell its exact coordinate volume, and neighbouring cells share their
faces, so over any box of cells the volumes it stores add up to the volume of the box's
coordinate region: a sum of `ρ dV` over the grid counts every part of the domain once. The
list sums over `idefix_for` ranges are shared with the test problems.
-/

namespace Idefix

open Kernel intervalIntegral

set_option autoImplicit false

theorem sum_flatMap {β : Type} (l : List β) (f : β → List ℝ) :
    (l.flatMap f).sum = (l.map fun a => (f a).sum).sum := by
  induction l with
  | nil => rfl
  | cons a rest ih => rw [List.flatMap_cons, List.sum_append, ih, List.map_cons, List.sum_cons]

theorem sum_range3 (f : Idx3 → ℝ) (kb ke jb je ib ie : ℕ) :
    ((range3 kb ke jb je ib ie).map f).sum =
      ((range1 kb ke).map fun k => ((range1 jb je).map fun j =>
        ((range1 ib ie).map fun i => f (k, j, i)).sum).sum).sum := by
  simp only [range3, List.map_flatMap, sum_flatMap, List.map_map, Function.comp_def]

theorem sum_range3_mul (f g h : ℕ → ℝ) (kb ke jb je ib ie : ℕ) :
    ((range3 kb ke jb je ib ie).map fun p => f p.2.2 * g p.2.1 * h p.1).sum =
      ((range1 ib ie).map f).sum * ((range1 jb je).map g).sum * ((range1 kb ke).map h).sum := by
  simp only [sum_range3, mul_assoc, List.sum_map_mul_left, List.sum_map_mul_right]

theorem sum_integral_shared {f : ℝ → ℝ} (cont : Continuous f) {xl xr : ℕ → ℝ} {b e : ℕ}
    (nonempty : b < e) (shared : ∀ i, i + 1 < e → xl (i + 1) = xr i) :
    ((range1 b e).map fun i => ∫ x in xl i..xr i, f x).sum = ∫ x in xl b..xr (e - 1), f x := by
  induction e, nonempty using Nat.le_induction with
  | base => simp [range1]
  | succ e above ih =>
    have split : range1 b (e + 1) = range1 b e ++ [e] := by
      rw [range1, range1, show e + 1 - b = e - b + 1 by omega, List.range'_concat, one_mul,
        Nat.add_sub_cancel' (by omega)]
    have next : xl e = xr (e - 1) := by
      simpa [Nat.sub_add_cancel (Nat.one_le_of_lt above)] using shared (e - 1) (by omega)
    rw [split, List.map_append, List.sum_append, ih fun i lt => shared i (by omega),
      List.map_singleton, List.sum_singleton, next,
      integral_add_adjacent_intervals (cont.intervalIntegrable _ _) (cont.intervalIntegrable _ _),
      Nat.add_sub_cancel]

noncomputable section

def cellBox (b e : Dir → ℕ) : List Idx3 :=
  range3 (b kDir) (e kDir) (b jDir) (e jDir) (b iDir) (e iDir)

/-- The exact volume of the coordinate region of the cells `b ≤ index < e`: along an active
direction the integral of the Jacobian's factor from the left face of the first cell to the
right face of the last, along an inactive one the number of cells. -/
def boxVolume (cfg : Config) (g : Grid) (b e : Dir → ℕ) : ℝ :=
  ∏ d : Dir, if cfg.Active d then
    ∫ x in g.xl d (b d)..g.xr d (e d - 1), volumeDensity cfg.geometry d x
  else ((e d - b d : ℕ) : ℝ)

theorem continuous_scaleFactor (geo : Geometry) (d e : Dir) : Continuous (scaleFactor geo d e) := by
  unfold scaleFactor
  split <;> fun_prop

theorem continuous_volumeDensity (geo : Geometry) (e : Dir) :
    Continuous (volumeDensity geo e) :=
  continuous_finset_prod _ fun d _ => continuous_scaleFactor geo d e

theorem sum_volumeFactor (cfg : Config) (g : Grid) (d : Dir) {b e : ℕ} (nonempty : b < e)
    (within : e ≤ g.npTot d) (contiguous : g.Contiguous d) :
    ((range1 b e).map fun i => if cfg.Active d then
        ∫ x in g.xl d i..g.xr d i, volumeDensity cfg.geometry d x else 1).sum =
      if cfg.Active d then ∫ x in g.xl d b..g.xr d (e - 1), volumeDensity cfg.geometry d x
      else ((e - b : ℕ) : ℝ) := by
  split_ifs
  · exact sum_integral_shared (continuous_volumeDensity _ _) nonempty
      fun i next => contiguous i (by omega)
  · simp [range1]

theorem sum_exactVolume (cfg : Config) (g : Grid) (contiguous : ∀ d, g.Contiguous d)
    {b e : Dir → ℕ} (nonempty : ∀ d, b d < e d) (within : ∀ d, e d ≤ g.npTot d) :
    ((cellBox b e).map (exactVolume cfg g)).sum = boxVolume cfg g b e := by
  have factor := fun d => sum_volumeFactor cfg g d (nonempty d) (within d) (contiguous d)
  let F : Dir → ℕ → ℝ := fun d i => if cfg.Active d then
    ∫ x in g.xl d i..g.xr d i, volumeDensity cfg.geometry d x else 1
  have cellwise : exactVolume cfg g = fun p => F iDir p.2.2 * F jDir p.2.1 * F kDir p.1 :=
    funext fun p => Fin.prod_univ_three _
  rw [cellwise, cellBox, sum_range3_mul, boxVolume, Fin.prod_univ_three]
  exact congrArg₂ _ (congrArg₂ _ (factor iDir) (factor jDir)) (factor kDir)

variable {nvar : ℕ}

/-- Over any box of cells of a grid as the grid layer builds it, the volumes `MakeGeometry`
stores add up to the exact volume of the box's coordinate region: no part of the domain is
lost or counted twice. -/
theorem sum_dV_makeGeometry (cfg : Config)
    (narrow : cfg.geometry = .cylindrical → cfg.dimensions ≤ 2) (st : DataBlock nvar)
    (phys : st.grid.Physical cfg.geometry) {b e : Dir → ℕ} (nonempty : ∀ d, b d < e d)
    (within : ∀ d, e d ≤ st.npTot d) :
    ((cellBox b e).map (makeGeometry cfg st).dV).sum = boxVolume cfg st.grid b e := by
  rw [← sum_exactVolume cfg st.grid phys.contiguous nonempty within]
  refine congrArg List.sum (List.map_congr_left fun p box => ?_)
  have cell : p ∈ cellRange st.npTot := by
    have := within kDir; have := within jDir; have := within iDir
    simp only [cellBox, cellRange, mem_range3] at box ⊢
    omega
  exact dV_makeGeometry_exact cfg narrow st phys cell

theorem sum_dV_makeGeometry_unitCells :
    let st := unitCells 0 ![4, 3, 4]
    let b : Dir → ℕ := ![1, 0, 1]
    let e : Dir → ℕ := ![3, 3, 4]
    (spherical3.geometry = .cylindrical → spherical3.dimensions ≤ 2) ∧
      st.grid.Physical spherical3.geometry ∧ (∀ d, b d < e d) ∧ (∀ d, e d ≤ st.npTot d) ∧
      ((cellBox b e).map (makeGeometry spherical3 st).dV).sum = boxVolume spherical3 st.grid b e :=
  have phys : (unitCells 0 ![4, 3, 4]).grid.Physical spherical3.geometry :=
    unitCells_physical 0 _ (by decide) (by decide)
  have nonempty : ∀ d, ![1, 0, 1] d < ![3, 3, 4] d := by decide
  have within : ∀ d, ![3, 3, 4] d ≤ (unitCells 0 ![4, 3, 4]).npTot d := by decide
  ⟨by decide, phys, nonempty, within,
    sum_dV_makeGeometry spherical3 (by decide) (unitCells 0 ![4, 3, 4]) phys nonempty within⟩

end

end Idefix

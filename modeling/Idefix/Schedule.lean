import Idefix.Geometry.Pointwise
import Idefix.Hydro.Tvdlf

/-!
# Order independence of the kernels

`idefix_for` fixes no order on its index space, and nothing orders the seven launches of
`MakeGeometry` but the data they share. Every iteration of these kernels writes only its own
index of arrays that no iteration reads, so any schedule of each launch, and any order of the
geometry launches, gives what the source order gives: the pointwise definition on the loop
range, and the old contents elsewhere.
-/

namespace Idefix

open Kernel

set_option autoImplicit false

noncomputable section

theorem kernels_order_independent {nvar : ℕ} (cfg : Config) (st : DataBlock nvar)
    (order : List GeometryKernel) (ordered : order.Perm GeometryKernel.all)
    (sched : (κ : GeometryKernel) → List κ.Index)
    (covers : ∀ κ, (sched κ).Perm (κ.range cfg st.npTot))
    (ph : Physics) (gamma C2Iso : ℝ) (DIR : Dir) (Xn : Fin ph.nvar) (hydro : DataBlock ph.nvar)
    (faces : List Idx3) (sweep : faces.Perm (sweepRange DIR hydro.beg hydro.end)) :
    order.foldl (fun s κ => κ.launch cfg st.npTot (sched κ) s) st = makeGeometry cfg st ∧
      makeGeometry cfg st = geometrySpec cfg st ∧
      idefixFor (tvdlfKernel ph gamma C2Iso Xn) faces hydro = tvdlfHD ph gamma C2Iso DIR Xn hydro ∧
      tvdlfHD ph gamma C2Iso DIR Xn hydro =
        tvdlfEffect ph gamma C2Iso Xn (sweepRange DIR hydro.beg hydro.end) hydro := by
  have geometry := makeGeometry_eq_geometrySpec cfg st
  refine ⟨(foldl_launch_eq_geometrySpec cfg order ordered sched st covers).trans geometry.symm,
    geometry, ?_, idefixFor_tvdlfKernel _ _ _ _ _ _⟩
  rw [tvdlfHD, idefixFor_tvdlfKernel, idefixFor_tvdlfKernel, tvdlfEffect, tvdlfEffect,
    overwrite_perm sweep, overwrite_perm sweep]

theorem kernels_order_independent_reversed :
    let geo := unitCells 0 ![4, 3, 4]
    let np := geo.npTot
    let sched := fun κ : GeometryKernel => (κ.range spherical3 np).reverse
    let hydro : DataBlock hydroPhysics.nvar :=
      { unitCells 5 ![4, 3, 3] with primL := fun _ => ![1, 1, 0, 0, 1], primR := fun _ => ![1, -1, 0, 0, 1] }
    let faces := (sweepRange iDir hydro.beg hydro.end).reverse
    let Xn := hydroPhysics.vx iDir
    GeometryKernel.all.reverse.Perm GeometryKernel.all ∧
      (∀ κ : GeometryKernel, (sched κ).Perm (κ.range spherical3 np)) ∧
      faces.Perm (sweepRange iDir hydro.beg hydro.end) ∧
      GeometryKernel.all.reverse.foldl (fun s κ => κ.launch spherical3 np (sched κ) s) geo =
        makeGeometry spherical3 geo ∧
      makeGeometry spherical3 geo = geometrySpec spherical3 geo ∧
      idefixFor (tvdlfKernel hydroPhysics (5 / 3) 1 Xn) faces hydro =
        tvdlfHD hydroPhysics (5 / 3) 1 iDir Xn hydro ∧
      tvdlfHD hydroPhysics (5 / 3) 1 iDir Xn hydro =
        tvdlfEffect hydroPhysics (5 / 3) 1 Xn (sweepRange iDir hydro.beg hydro.end) hydro :=
  ⟨List.reverse_perm _, fun _ => List.reverse_perm _, List.reverse_perm _,
    kernels_order_independent spherical3 (unitCells 0 ![4, 3, 4]) _ (List.reverse_perm _)
      (fun κ => (κ.range spherical3 (unitCells 0 ![4, 3, 4]).npTot).reverse)
      (fun _ => List.reverse_perm _) hydroPhysics (5 / 3) 1 iDir (hydroPhysics.vx iDir)
      { unitCells 5 ![4, 3, 3] with primL := fun _ => ![1, 1, 0, 0, 1], primR := fun _ => ![1, -1, 0, 0, 1] }
      _ (List.reverse_perm _)⟩

end

end Idefix

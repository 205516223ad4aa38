import Idefix.DataBlock
import Mathlib.Analysis.SpecialFunctions.Trigonometric.Basic

/-!
# `DataBlock::MakeGeometry`

The seven kernels of `makeGeometry.cpp`, one lambda each. A lambda reads the axis arrays
through `DataBlock.grid` and stores, at its own index, the value the corresponding `...At`
function computes; the `#if GEOMETRY` branches are a `match` on `cfg.geometry`. The spherical
`Volumes` lambda computes `dmu` in a local variable, as the source does, and does not read
the `dmu` array that `GeometricalCentersX2` fills.
-/

namespace Idefix

open Kernel Real

set_option autoImplicit false

noncomputable section

variable (cfg : Config) (g : Grid)

/-- `dV(k,j,i)` as the `Volumes` lambda computes it. -/
def dVAt : Idx3 → ℝ
  | (k, j, i) =>
    match cfg.geometry with
    | .cartesian => dExpand cfg (g.dx1 i) (g.dx2 j) (g.dx3 k)
    | .cylindrical =>
      let dVr := |g.x1p i * g.x1p i - g.x1m i * g.x1m i| / 2
      dExpand cfg dVr (g.dx2 j) 1
    | .polar =>
      let dVr := |g.x1p i * g.x1p i - g.x1m i * g.x1m i| / 2
      dExpand cfg dVr (g.dx2 j) (g.dx3 k)
    | .spherical =>
      let dVr := |g.x1p i * g.x1p i * g.x1p i - g.x1m i * g.x1m i * g.x1m i| / 3
      let dmu := |cos (g.x2m j) - cos (g.x2p j)|
      dExpand cfg dVr dmu (g.dx3 k)

/-- `x1gc(i)` as the `GeometricalCentersX1` lambda computes it. -/
def x1gcAt (i : ℕ) : ℝ :=
  match cfg.geometry with
  | .cartesian => g.x1 i
  | .cylindrical | .polar => g.x1 i + g.dx1 i * g.dx1 i / (12 * g.x1 i)
  | .spherical =>
    g.x1 i + 2 * g.x1 i * g.dx1 i * g.dx1 i / (12 * g.x1 i * g.x1 i + g.dx1 i * g.dx1 i)

/-- `rt(i)`, stored by `GeometricalCentersX1` in spherical geometry. -/
def rtAt (i : ℕ) : ℝ :=
  (g.x1p i * g.x1p i * g.x1p i - g.x1m i * g.x1m i * g.x1m i) /
    (g.x1p i * g.x1p i - g.x1m i * g.x1m i) / 1.5

/-- `x2gc(j)` as the `GeometricalCentersX2` lambda computes it. -/
def x2gcAt (j : ℕ) : ℝ :=
  match cfg.geometry with
  | .spherical =>
    let xL := g.x2m j
    let xR := g.x2p j
    (sin xR - sin xL + xL * cos xL - xR * cos xR) / (cos xL - cos xR)
  | _ => g.x2 j

/-- `sm(j)`, stored by `GeometricalCentersX2` in spherical geometry. -/
def smAt (j : ℕ) : ℝ := |sin (g.x2m j)|

/-- `s(j)`, stored by `GeometricalCentersX2` in spherical geometry. -/
def sAt (j : ℕ) : ℝ := |sin (g.x2 j)|

/-- `dmu(j)`, stored by `GeometricalCentersX2` in spherical geometry. -/
def dmuAt (j : ℕ) : ℝ := |cos (g.x2m j) - cos (g.x2p j)|

/-- `Ax1(k,j,i)` as the `AreaX1` lambda computes it; `endI` is the captured `end`,
`np_tot[IDIR]`. -/
def ax1At (endI : ℕ) : Idx3 → ℝ
  | (k, j, i) =>
    match cfg.geometry with
    | .cartesian => dExpand cfg 1 (g.dx2 j) (g.dx3 k)
    | .cylindrical =>
      if i = endI then dExpand cfg |g.x1p (i - 1)| (g.dx2 j) 1
      else dExpand cfg |g.x1m i| (g.dx2 j) 1
    | .polar =>
      if i = endI then dExpand cfg |g.x1p (i - 1)| (g.dx2 j) (g.dx3 k)
      else dExpand cfg |g.x1m i| (g.dx2 j) (g.dx3 k)
    | .spherical =>
      let dmu := |cos (g.x2m j) - cos (g.x2p j)|
      if i = endI then dExpand cfg (g.x1p (i - 1) * g.x1p (i - 1)) dmu (g.dx3 k)
      else dExpand cfg (g.x1m i * g.x1m i) dmu (g.dx3 k)

/-- `Ax2(k,j,i)` as the `AreaX2` lambda computes it; `endJ` is the captured `end`,
`np_tot[JDIR]`. -/
def ax2At (endJ : ℕ) : Idx3 → ℝ
  | (k, j, i) =>
    match cfg.geometry with
    | .cartesian => dExpand cfg (g.dx1 i) 1 (g.dx3 k)
    | .cylindrical => dExpand cfg |g.x1 i| (g.dx1 i) 1
    | .polar => dExpand cfg (g.dx1 i) 1 (g.dx3 k)
    | .spherical =>
      if j = endJ then dExpand cfg (g.x1 i * g.dx1 i) |sin (g.x2p (j - 1))| (g.dx3 k)
      else dExpand cfg (g.x1 i * g.dx1 i) |sin (g.x2m j)| (g.dx3 k)

/-- `Ax3(k,j,i)` as the `AreaX3` lambda computes it. -/
def ax3At : Idx3 → ℝ
  | (_k, j, i) =>
    match cfg.geometry with
    | .cartesian => dExpand cfg (g.dx1 i) (g.dx2 j) 1
    | .cylindrical => 1
    | .polar => dExpand cfg (g.x1 i * g.dx1 i) (g.dx2 j) 1
    | .spherical => dExpand cfg (g.x1 i * g.dx1 i) (g.dx2 j) 1

variable {nvar : ℕ}

/-- The `Volumes` lambda. -/
def volumes (p : Idx3) (st : DataBlock nvar) : DataBlock nvar :=
  { st with dV := Function.update st.dV p (dVAt cfg st.grid p) }

/-- The `GeometricalCentersX1` lambda; it also fills `rt` in spherical geometry. -/
def geometricalCentersX1 (i : ℕ) (st : DataBlock nvar) : DataBlock nvar :=
  { st with
    xgc := store st.xgc iDir i (x1gcAt cfg st.grid i)
    rt := if cfg.geometry = .spherical then Function.update st.rt i (rtAt st.grid i) else st.rt }

/-- The `GeometricalCentersX2` lambda; it also fills `sm`, `s` and `dmu` in spherical
geometry. -/
def geometricalCentersX2 (j : ℕ) (st : DataBlock nvar) : DataBlock nvar :=
  let spherical := cfg.geometry = .spherical
  { st with
    xgc := store st.xgc jDir j (x2gcAt cfg st.grid j)
    sm := if spherical then Function.update st.sm j (smAt st.grid j) else st.sm
    s := if spherical then Function.update st.s j (sAt st.grid j) else st.s
    dmu := if spherical then Function.update st.dmu j (dmuAt st.grid j) else st.dmu }

/-- The `GeometricalCentersX3` lambda. -/
def geometricalCentersX3 (k : ℕ) (st : DataBlock nvar) : DataBlock nvar :=
  { st with xgc := store st.xgc kDir k (st.grid.x3 k) }

/-- The `AreaX1` lambda. -/
def areaX1 (endI : ℕ) (p : Idx3) (st : DataBlock nvar) : DataBlock nvar :=
  { st with A := store st.A iDir p (ax1At cfg st.grid endI p) }

/-- The `AreaX2` lambda. -/
def areaX2 (endJ : ℕ) (p : Idx3) (st : DataBlock nvar) : DataBlock nvar :=
  { st with A := store st.A jDir p (ax2At cfg st.grid endJ p) }

/-- The `AreaX3` lambda. -/
def areaX3 (p : Idx3) (st : DataBlock nvar) : DataBlock nvar :=
  { st with A := store st.A kDir p (ax3At cfg st.grid p) }

/-- `DataBlock::MakeGeometry`: the seven launches in source order. `np_tot` is read once;
no kernel writes it. -/
def makeGeometry (st : DataBlock nvar) : DataBlock nvar :=
  let np := st.npTot
  let st := idefixFor (volumes cfg) (range3 0 (np kDir) 0 (np jDir) 0 (np iDir)) st
  let st := idefixFor (geometricalCentersX1 cfg) (range1 0 (np iDir)) st
  let st := idefixFor (geometricalCentersX2 cfg) (range1 0 (np jDir)) st
  let st := idefixFor geometricalCentersX3 (range1 0 (np kDir)) st
  let st := idefixFor (areaX1 cfg (np iDir))
    (range3 0 (np kDir) 0 (np jDir) 0 (np iDir + offset cfg iDir)) st
  let st := idefixFor (areaX2 cfg (np jDir))
    (range3 0 (np kDir) 0 (np jDir + offset cfg jDir) 0 (np iDir)) st
  idefixFor (areaX3 cfg) (range3 0 (np kDir + offset cfg kDir) 0 (np jDir) 0 (np iDir)) st

end

end Idefix

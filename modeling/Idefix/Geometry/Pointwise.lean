import Idefix.MakeGeometry

/-!
# What `MakeGeometry` leaves, in any order

Each array `MakeGeometry` writes has a single writing kernel, and every lambda reads only the
axis arrays, which no kernel writes. So launching the seven kernels in any order, each over
any ordering of its index range, leaves the same data block: on a kernel's range its arrays
hold the values its lambda computes from the grid, and every other entry is unchanged. The
source order is one such run.
-/

namespace Idefix

open Kernel

set_option autoImplicit false

noncomputable section

/-- The kernels of `MakeGeometry`. -/
inductive GeometryKernel
  | volumes
  | centersX1
  | centersX2
  | centersX3
  | areaX1
  | areaX2
  | areaX3
  deriving DecidableEq

namespace GeometryKernel

def all : List GeometryKernel :=
  [volumes, centersX1, centersX2, centersX3, areaX1, areaX2, areaX3]

theorem count_all (κ : GeometryKernel) : all.count κ = 1 := by
  cases κ <;> rfl

end GeometryKernel

def cellRange (np : Dir → ℕ) : List Idx3 := range3 0 (np kDir) 0 (np jDir) 0 (np iDir)

def faceRange (cfg : Config) (np : Dir → ℕ) (d : Dir) : List Idx3 :=
  let extent := fun e : Dir => np e + if e = d then offset cfg d else 0
  range3 0 (extent kDir) 0 (extent jDir) 0 (extent iDir)

namespace GeometryKernel

def Index : GeometryKernel → Type
  | volumes | areaX1 | areaX2 | areaX3 => Idx3
  | centersX1 | centersX2 | centersX3 => ℕ

instance (κ : GeometryKernel) : DecidableEq κ.Index :=
  match κ with
  | volumes | areaX1 | areaX2 | areaX3 => inferInstanceAs (DecidableEq Idx3)
  | centersX1 | centersX2 | centersX3 => inferInstanceAs (DecidableEq ℕ)

def range (cfg : Config) (np : Dir → ℕ) : (κ : GeometryKernel) → List κ.Index
  | volumes => cellRange np
  | centersX1 => range1 0 (np iDir)
  | centersX2 => range1 0 (np jDir)
  | centersX3 => range1 0 (np kDir)
  | areaX1 => faceRange cfg np iDir
  | areaX2 => faceRange cfg np jDir
  | areaX3 => faceRange cfg np kDir

variable (cfg : Config) {nvar : ℕ}

def body (np : Dir → ℕ) : (κ : GeometryKernel) → κ.Index → DataBlock nvar → DataBlock nvar
  | volumes => Idefix.volumes cfg
  | centersX1 => geometricalCentersX1 cfg
  | centersX2 => geometricalCentersX2 cfg
  | centersX3 => geometricalCentersX3
  | areaX1 => Idefix.areaX1 cfg (np iDir)
  | areaX2 => Idefix.areaX2 cfg (np jDir)
  | areaX3 => Idefix.areaX3 cfg

/-- One launch of a kernel over a schedule of its index space. -/
def launch (np : Dir → ℕ) (κ : GeometryKernel) (schedule : List κ.Index) :
    DataBlock nvar → DataBlock nvar :=
  idefixFor (κ.body cfg np) schedule

def effect (np : Dir → ℕ) : (κ : GeometryKernel) → List κ.Index → DataBlock nvar → DataBlock nvar
  | volumes, l, s => { s with dV := overwrite l (dVAt cfg s.grid) s.dV }
  | centersX1, l, s =>
    { s with
      xgc := Function.update s.xgc iDir (overwrite l (x1gcAt cfg s.grid) (s.xgc iDir))
      rt := if cfg.geometry = .spherical then overwrite l (rtAt s.grid) s.rt else s.rt }
  | centersX2, l, s =>
    let spherical := cfg.geometry = .spherical
    { s with
      xgc := Function.update s.xgc jDir (overwrite l (x2gcAt cfg s.grid) (s.xgc jDir))
      sm := if spherical then overwrite l (smAt s.grid) s.sm else s.sm
      s := if spherical then overwrite l (sAt s.grid) s.s else s.s
      dmu := if spherical then overwrite l (dmuAt s.grid) s.dmu else s.dmu }
  | centersX3, l, s =>
    { s with xgc := Function.update s.xgc kDir (overwrite l s.grid.x3 (s.xgc kDir)) }
  | areaX1, l, s =>
    { s with A := Function.update s.A iDir (overwrite l (ax1At cfg s.grid (np iDir)) (s.A iDir)) }
  | areaX2, l, s =>
    { s with A := Function.update s.A jDir (overwrite l (ax2At cfg s.grid (np jDir)) (s.A jDir)) }
  | areaX3, l, s =>
    { s with A := Function.update s.A kDir (overwrite l (ax3At cfg s.grid) (s.A kDir)) }

theorem launch_eq_effect (np : Dir → ℕ) (κ : GeometryKernel) (schedule : List κ.Index)
    (s : DataBlock nvar) : κ.launch cfg np schedule s = κ.effect cfg np schedule s := by
  refine idefixFor_eq_of_step _ _ (fun s => by cases κ <;> simp [effect]) (fun p l s => ?_) _ _
  by_cases sph : cfg.geometry = .spherical <;> cases κ <;>
    simp [effect, body, Idefix.volumes, geometricalCentersX1, geometricalCentersX2,
      geometricalCentersX3, Idefix.areaX1, Idefix.areaX2, Idefix.areaX3, overwrite_cons, store,
      sph, DataBlock.grid]

end GeometryKernel

variable (cfg : Config) {nvar : ℕ}

theorem makeGeometry_eq_launches (st : DataBlock nvar) :
    makeGeometry cfg st = GeometryKernel.all.foldl
      (fun s κ => κ.launch cfg st.npTot (κ.range cfg st.npTot) s) st := rfl

def centerAt (g : Grid) : Dir → ℕ → ℝ := ![x1gcAt cfg g, x2gcAt cfg g, g.x3]

def areaAt (g : Grid) : Dir → Idx3 → ℝ :=
  ![ax1At cfg g (g.npTot iDir), ax2At cfg g (g.npTot jDir), ax3At cfg g]

/-- The data block `MakeGeometry` leaves: on its kernel's range each array it writes holds
the value the lambda computes from the grid; every other entry keeps its value. -/
def geometrySpec (st : DataBlock nvar) : DataBlock nvar :=
  let g := st.grid
  let np := st.npTot
  let spherical := cfg.geometry = .spherical
  { st with
    dV := overwrite (cellRange np) (dVAt cfg g) st.dV
    xgc := fun d => overwrite (range1 0 (np d)) (centerAt cfg g d) (st.xgc d)
    rt := if spherical then overwrite (range1 0 (np iDir)) (rtAt g) st.rt else st.rt
    sm := if spherical then overwrite (range1 0 (np jDir)) (smAt g) st.sm else st.sm
    s := if spherical then overwrite (range1 0 (np jDir)) (sAt g) st.s else st.s
    dmu := if spherical then overwrite (range1 0 (np jDir)) (dmuAt g) st.dmu else st.dmu
    A := fun d => overwrite (faceRange cfg np d) (areaAt cfg g d) (st.A d) }

theorem GeometryKernel.effect_grid (np : Dir → ℕ) (κ : GeometryKernel) (l : List κ.Index)
    (s : DataBlock nvar) : (κ.effect cfg np l s).grid = s.grid := by
  cases κ <;> rfl

theorem GeometryKernel.effect_frame (np : Dir → ℕ) (κ : GeometryKernel) (l : List κ.Index)
    (s : DataBlock nvar) :
    (κ ≠ .volumes → (κ.effect cfg np l s).dV = s.dV) ∧
      (∀ d, κ ≠ ![.centersX1, .centersX2, .centersX3] d → (κ.effect cfg np l s).xgc d = s.xgc d) ∧
      (∀ d, κ ≠ ![.areaX1, .areaX2, .areaX3] d → (κ.effect cfg np l s).A d = s.A d) ∧
      (κ ≠ .centersX1 → (κ.effect cfg np l s).rt = s.rt) ∧
      (κ ≠ .centersX2 → (κ.effect cfg np l s).sm = s.sm ∧ (κ.effect cfg np l s).s = s.s ∧
        (κ.effect cfg np l s).dmu = s.dmu) := by
  cases κ <;> simp [GeometryKernel.effect, Fin.forall_fin_succ, Function.update_apply]

private theorem foldl_effect_single_writer {α : Type} (np : Dir → ℕ)
    (sched : (κ : GeometryKernel) → List κ.Index) (order : List GeometryKernel)
    (ordered : order.Perm GeometryKernel.all) (st : DataBlock nvar) (get : DataBlock nvar → α)
    (writer : GeometryKernel) (result : Grid → α → α)
    (keeps : ∀ κ, κ ≠ writer → ∀ s, get (κ.effect cfg np (sched κ) s) = get s)
    (writes : ∀ s, get (writer.effect cfg np (sched writer) s) = result s.grid (get s)) :
    get (order.foldl (fun s κ => κ.effect cfg np (sched κ) s) st) = result st.grid (get st) :=
  get_foldl_single_writer _ DataBlock.grid get writer result
    (fun κ => GeometryKernel.effect_grid cfg np κ (sched κ)) keeps writes order
    ((ordered.count_eq writer).trans (GeometryKernel.count_all writer)) st

private theorem foldl_effect_overwrite (np : Dir → ℕ) (sched : (κ : GeometryKernel) → List κ.Index)
    {order : List GeometryKernel} (ordered : order.Perm GeometryKernel.all) (st : DataBlock nvar)
    (c : Prop) [Decidable c] (writer : GeometryKernel)
    (covers : (sched writer).Perm (writer.range cfg np))
    (get : DataBlock nvar → writer.Index → ℝ) (value : Grid → writer.Index → ℝ)
    (keeps : ∀ κ, κ ≠ writer → ∀ s, get (κ.effect cfg np (sched κ) s) = get s)
    (writes : ∀ s, get (writer.effect cfg np (sched writer) s) =
      if c then overwrite (sched writer) (value s.grid) (get s) else get s) :
    get (order.foldl (fun s κ => κ.effect cfg np (sched κ) s) st) =
      if c then overwrite (writer.range cfg np) (value st.grid) (get st) else get st := by
  rw [foldl_effect_single_writer cfg np sched order ordered st get writer
    (fun g a => if c then overwrite (sched writer) (value g) a else a) keeps writes,
    overwrite_perm covers]

theorem foldl_launch_eq_geometrySpec (order : List GeometryKernel)
    (ordered : order.Perm GeometryKernel.all) (sched : (κ : GeometryKernel) → List κ.Index)
    (st : DataBlock nvar) (covers : ∀ κ, (sched κ).Perm (κ.range cfg st.npTot)) :
    order.foldl (fun s κ => κ.launch cfg st.npTot (sched κ) s) st = geometrySpec cfg st := by
  simp only [GeometryKernel.launch_eq_effect]
  have overwrites := foldl_effect_overwrite cfg st.npTot sched ordered st
  have spherical := overwrites (cfg.geometry = .spherical)
  refine DataBlock.ext ?_ ?_ ?_ ?_ ?_ ?_ ?_ (funext fun d => ?xgc) ?dV (funext fun d => ?A)
    ?rt ?sm ?s ?dmu ?_ ?_ ?_ ?_
  all_goals try exact get_foldl_of_keeps _ _ _ (fun κ _ s => by cases κ <;> rfl) _
  case dV =>
    exact overwrites True .volumes (covers _) DataBlock.dV (dVAt cfg)
      (fun κ other s => (κ.effect_frame cfg _ _ s).1 other) (fun _ => rfl)
  case xgc =>
    fin_cases d
    · exact overwrites True .centersX1 (covers _) (fun s => s.xgc iDir) (x1gcAt cfg)
        (fun κ other s => (κ.effect_frame cfg _ _ s).2.1 iDir other) (fun _ => rfl)
    · exact overwrites True .centersX2 (covers _) (fun s => s.xgc jDir) (x2gcAt cfg)
        (fun κ other s => (κ.effect_frame cfg _ _ s).2.1 jDir other) (fun _ => rfl)
    · exact overwrites True .centersX3 (covers _) (fun s => s.xgc kDir) Grid.x3
        (fun κ other s => (κ.effect_frame cfg _ _ s).2.1 kDir other) (fun _ => rfl)
  case A =>
    fin_cases d
    · exact overwrites True .areaX1 (covers _) (fun s => s.A iDir) (ax1At cfg · (st.npTot iDir))
        (fun κ other s => (κ.effect_frame cfg _ _ s).2.2.1 iDir other) (fun _ => rfl)
    · exact overwrites True .areaX2 (covers _) (fun s => s.A jDir) (ax2At cfg · (st.npTot jDir))
        (fun κ other s => (κ.effect_frame cfg _ _ s).2.2.1 jDir other) (fun _ => rfl)
    · exact overwrites True .areaX3 (covers _) (fun s => s.A kDir) (ax3At cfg)
        (fun κ other s => (κ.effect_frame cfg _ _ s).2.2.1 kDir other) (fun _ => rfl)
  case rt =>
    exact spherical .centersX1 (covers _) DataBlock.rt rtAt
      (fun κ other s => (κ.effect_frame cfg _ _ s).2.2.2.1 other) (fun _ => rfl)
  case sm =>
    exact spherical .centersX2 (covers _) DataBlock.sm smAt
      (fun κ other s => ((κ.effect_frame cfg _ _ s).2.2.2.2 other).1) (fun _ => rfl)
  case s =>
    exact spherical .centersX2 (covers _) DataBlock.s sAt
      (fun κ other s => ((κ.effect_frame cfg _ _ s).2.2.2.2 other).2.1) (fun _ => rfl)
  case dmu =>
    exact spherical .centersX2 (covers _) DataBlock.dmu dmuAt
      (fun κ other s => ((κ.effect_frame cfg _ _ s).2.2.2.2 other).2.2) (fun _ => rfl)

theorem makeGeometry_eq_geometrySpec (st : DataBlock nvar) :
    makeGeometry cfg st = geometrySpec cfg st :=
  (makeGeometry_eq_launches cfg st).trans
    (foldl_launch_eq_geometrySpec cfg _ (.refl _) _ st (fun _ => .refl _))

variable {cfg} {st : DataBlock nvar}

theorem dV_makeGeometry {p : Idx3} (cell : p ∈ cellRange st.npTot) :
    (makeGeometry cfg st).dV p = dVAt cfg st.grid p := by
  simp [makeGeometry_eq_geometrySpec, geometrySpec, overwrite_apply, cell]

theorem xgc_makeGeometry {d : Dir} {i : ℕ} (cell : i < st.npTot d) :
    (makeGeometry cfg st).xgc d i = centerAt cfg st.grid d i := by
  simp [makeGeometry_eq_geometrySpec, geometrySpec, overwrite_apply, cell]

theorem A_makeGeometry {d : Dir} {p : Idx3} (face : p ∈ faceRange cfg st.npTot d) :
    (makeGeometry cfg st).A d p = areaAt cfg st.grid d p := by
  simp [makeGeometry_eq_geometrySpec, geometrySpec, overwrite_apply, face]

theorem rt_makeGeometry (spherical : cfg.geometry = .spherical) {i : ℕ}
    (cell : i < st.npTot iDir) : (makeGeometry cfg st).rt i = rtAt st.grid i := by
  simp [makeGeometry_eq_geometrySpec, geometrySpec, overwrite_apply, cell, spherical]

end

end Idefix

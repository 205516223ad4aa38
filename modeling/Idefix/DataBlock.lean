import Idefix.Kernel
import Mathlib.Data.Real.Basic
import Mathlib.Algebra.BigOperators.Fin
import Mathlib.Tactic.Ring

/-!
# Configuration, data block and grid

The compile-time configuration (`GEOMETRY`, `DIMENSIONS`), the arrays of `DataBlock` that
`MakeGeometry` and `TvdlfHD` read and write, and the shape of the axis arrays the grid layer
builds. `real` is modelled by `ℝ`: the theorems are about the arithmetic the kernels spell
out, not about its rounding. `D_EXPAND` and the `IOFFSET` family are declared outside the
source tree and are modelled from the spec.
-/

namespace Idefix

open Kernel

set_option autoImplicit false

inductive Geometry
  | cartesian
  | cylindrical
  | polar
  | spherical
  deriving DecidableEq, Repr

abbrev Dir := Fin 3

abbrev iDir : Dir := 0
abbrev jDir : Dir := 1
abbrev kDir : Dir := 2

@[simp] theorem iDir_ne_jDir : iDir ≠ jDir := by decide
@[simp] theorem iDir_ne_kDir : iDir ≠ kDir := by decide
@[simp] theorem jDir_ne_iDir : jDir ≠ iDir := by decide
@[simp] theorem jDir_ne_kDir : jDir ≠ kDir := by decide
@[simp] theorem kDir_ne_iDir : kDir ≠ iDir := by decide
@[simp] theorem kDir_ne_jDir : kDir ≠ jDir := by decide

/-- The compile-time `GEOMETRY` and `DIMENSIONS`; there are one to three active directions. -/
structure Config where
  geometry : Geometry
  dimensions : ℕ
  dimensions_pos : 0 < dimensions
  dimensions_le : dimensions ≤ 3

namespace Config

variable (cfg : Config)

def Active (d : Dir) : Prop := d.val < cfg.dimensions

instance (d : Dir) : Decidable (cfg.Active d) := inferInstanceAs (Decidable (d.val < _))

@[simp] theorem active_iDir : cfg.Active iDir := cfg.dimensions_pos

end Config

/-- Modelled from the spec: `D_EXPAND(a, *b, *c)` keeps the factors of the active directions,
"inactive axes contribute a unit factor". -/
def dExpand (cfg : Config) (a b c : ℝ) : ℝ :=
  if cfg.dimensions = 1 then a else if cfg.dimensions = 2 then a * b else a * b * c

/-- Modelled from the spec: `IOFFSET`, `JOFFSET`, `KOFFSET`, one extra face along an active
direction, "sized one-larger than cell count along `dir`", none along an inactive one. -/
def offset (cfg : Config) (d : Dir) : ℕ := if cfg.Active d then 1 else 0

theorem dExpand_eq_prod (cfg : Config) (a b c : ℝ) :
    dExpand cfg a b c = ∏ d : Dir, if cfg.Active d then ![a, b, c] d else 1 := by
  have oneToThree : cfg.dimensions = 1 ∨ cfg.dimensions = 2 ∨ cfg.dimensions = 3 := by
    have := cfg.dimensions_pos
    have := cfg.dimensions_le
    omega
  simp only [dExpand, Fin.prod_univ_three, Config.Active]
  rcases oneToThree with dims | dims | dims <;> simp [dims]

theorem dExpand_congr (cfg : Config) {a b c a' b' c' : ℝ} (first : cfg.dimensions = 1 → a = a')
    (second : 2 ≤ cfg.dimensions → a * b = a' * b')
    (third : cfg.dimensions = 3 → a * b * c = a' * b' * c') :
    dExpand cfg a b c = dExpand cfg a' b' c' := by
  have positive := cfg.dimensions_pos
  have atMost := cfg.dimensions_le
  unfold dExpand
  split_ifs with one two
  · exact first one
  · exact second (by omega)
  · exact third (by omega)

theorem mul_dExpand (cfg : Config) (s a b c : ℝ) : s * dExpand cfg a b c = dExpand cfg (s * a) b c := by
  unfold dExpand
  split_ifs <;> ring

theorem dExpand_mul_sub_mul (cfg : Config) (a a' b c x y : ℝ) :
    dExpand cfg a b c * x - dExpand cfg a' b c * y = dExpand cfg (a * x - a' * y) b c := by
  unfold dExpand
  split_ifs <;> ring

theorem dExpand_sub_mul (cfg : Config) (a a' b c s : ℝ) :
    (dExpand cfg a b c - dExpand cfg a' b c) * s = dExpand cfg ((a - a') * s) b c := by
  unfold dExpand
  split_ifs <;> ring

/-- The axis arrays of `DataBlock` read by the geometry kernels. -/
structure Grid where
  npTot : Dir → ℕ
  x : Dir → ℕ → ℝ
  dx : Dir → ℕ → ℝ
  xl : Dir → ℕ → ℝ
  xr : Dir → ℕ → ℝ

namespace Grid

variable (g : Grid)

abbrev x1 : ℕ → ℝ := g.x iDir
abbrev x2 : ℕ → ℝ := g.x jDir
abbrev x3 : ℕ → ℝ := g.x kDir
abbrev dx1 : ℕ → ℝ := g.dx iDir
abbrev dx2 : ℕ → ℝ := g.dx jDir
abbrev dx3 : ℕ → ℝ := g.dx kDir
abbrev x1p : ℕ → ℝ := g.xr iDir
abbrev x2p : ℕ → ℝ := g.xr jDir
abbrev x1m : ℕ → ℝ := g.xl iDir
abbrev x2m : ℕ → ℝ := g.xl jDir

end Grid

/-- The members of `DataBlock` used by `MakeGeometry` and `TvdlfHD`; a primitive,
conservative or flux vector has `NVAR` components. -/
structure DataBlock (nvar : ℕ) where
  npTot : Dir → ℕ
  beg : Dir → ℕ
  «end» : Dir → ℕ
  x : Dir → ℕ → ℝ
  dx : Dir → ℕ → ℝ
  xl : Dir → ℕ → ℝ
  xr : Dir → ℕ → ℝ
  xgc : Dir → ℕ → ℝ
  dV : Idx3 → ℝ
  A : Dir → Idx3 → ℝ
  rt : ℕ → ℝ
  sm : ℕ → ℝ
  s : ℕ → ℝ
  dmu : ℕ → ℝ
  primL : Idx3 → Fin nvar → ℝ
  primR : Idx3 → Fin nvar → ℝ
  fluxRiemann : Idx3 → Fin nvar → ℝ
  cMax : Idx3 → ℝ

attribute [ext] DataBlock

def DataBlock.grid {nvar : ℕ} (st : DataBlock nvar) : Grid := ⟨st.npTot, st.x, st.dx, st.xl, st.xr⟩

def spherical3 : Config := ⟨.spherical, 3, by decide, le_rfl⟩

noncomputable def unitCube (nvar : ℕ) : DataBlock nvar where
  npTot _ := 1
  beg _ := 0
  «end» _ := 1
  x _ _ := 1 / 2
  dx _ _ := 1
  xl _ _ := 0
  xr _ _ := 1
  xgc _ _ := 0
  dV _ := 0
  A _ _ := 0
  rt _ := 0
  sm _ := 0
  s _ := 0
  dmu _ := 0
  primL _ _ := 0
  primR _ _ := 0
  fluxRiemann _ _ := 0
  cMax _ := 0

noncomputable def unitCells (nvar : ℕ) (np : Dir → ℕ) : DataBlock nvar where
  npTot := np
  beg _ := 1
  «end» d := np d - 1
  x _ i := i + 1 / 2
  dx _ _ := 1
  xl _ i := i
  xr _ i := i + 1
  xgc _ _ := 0
  dV _ := 0
  A _ _ := 0
  rt _ := 0
  sm _ := 0
  s _ := 0
  dmu _ := 0
  primL _ _ := 0
  primR _ _ := 0
  fluxRiemann _ _ := 0
  cMax _ := 0

def store {ι : Type*} [DecidableEq ι] (arr : Dir → ι → ℝ) (d : Dir) (p : ι) (v : ℝ) :
    Dir → ι → ℝ :=
  Function.update arr d (Function.update (arr d) p v)

@[simp] theorem store_same {ι : Type*} [DecidableEq ι] (arr : Dir → ι → ℝ) (d : Dir) (p : ι)
    (v : ℝ) : store arr d p v d = Function.update (arr d) p v := by
  simp [store]

@[simp] theorem store_ne {ι : Type*} [DecidableEq ι] (arr : Dir → ι → ℝ) {d d' : Dir}
    (other : d' ≠ d) (p : ι) (v : ℝ) : store arr d p v d' = arr d' := by
  simp [store, other]

/-- The axis arrays of direction `d` as the grid layer builds them, on the `np_tot[d]` cells:
faces increase, `dx` is their difference and `x` their midpoint. -/
structure Grid.Cells (g : Grid) (d : Dir) : Prop where
  xl_lt_xr : ∀ i < g.npTot d, g.xl d i < g.xr d i
  dx_eq : ∀ i < g.npTot d, g.dx d i = g.xr d i - g.xl d i
  x_eq : ∀ i < g.npTot d, g.x d i = (g.xl d i + g.xr d i) / 2

def Grid.Contiguous (g : Grid) (d : Dir) : Prop :=
  ∀ i, i + 1 < g.npTot d → g.xl d (i + 1) = g.xr d i

end Idefix

import Idefix.Geometry.Pointwise
import Idefix.Hydro.Tvdlf

/-!
# The array entries the kernels read and write

The `...At` functions give the values the lambdas of `MakeGeometry` store, not the entries
they read to compute them. Here each lambda is written once more with its reads as the leaves
of a term: `x1p(i)` is the leaf `xr[IDIR](i)`, `FABS` and the arithmetic are inner nodes. A
local variable the lambda initialises (`dVr`, `dmu`, `xL`, `xR`) is read when it is
initialised, whether or not `D_EXPAND` keeps the factor it enters; `D_EXPAND` drops the
factors of the inactive directions before they are evaluated. Evaluating the terms gives the
`...At` values, so the leaves are all the lambda depends on.

Every lambda of `MakeGeometry` writes at its own index only, and `TVDLF_Kernel` reads and
writes `PrimL`, `PrimR`, `Flux` and `cMax` at its own face only. On a grid of at least one
cell along each direction, every index the kernels read or write then lies within its array:
the axis arrays have `np_tot[d]` entries, a face-area array one more along its direction when
that direction is active, and the sweep stops at `end[d] < np_tot[d]`.
-/

namespace Idefix

open Kernel

set_option autoImplicit false

noncomputable section

/-- An axis array a geometry lambda reads. -/
inductive Axis
  | x
  | dx
  | xl
  | xr
  deriving DecidableEq, Repr

/-- The entry `axis[dir](idx)`; `x1p(i)` is `⟨.xr, IDIR, i⟩`. -/
structure Entry where
  axis : Axis
  dir : Dir
  idx : ℕ
  deriving DecidableEq, Repr

def Grid.get (g : Grid) : Entry → ℝ
  | ⟨.x, d, i⟩ => g.x d i
  | ⟨.dx, d, i⟩ => g.dx d i
  | ⟨.xl, d, i⟩ => g.xl d i
  | ⟨.xr, d, i⟩ => g.xr d i

/-- The arithmetic of a lambda, with the array entries it reads as leaves. -/
inductive Term
  | read (e : Entry)
  | const (r : ℝ)
  | app1 (f : ℝ → ℝ) (a : Term)
  | app2 (f : ℝ → ℝ → ℝ) (a b : Term)

namespace Term

instance : Add Term := ⟨app2 (· + ·)⟩
instance : Sub Term := ⟨app2 (· - ·)⟩
instance : Mul Term := ⟨app2 (· * ·)⟩
instance : Div Term := ⟨app2 (· / ·)⟩
instance (n : ℕ) [OfNat ℝ n] : OfNat Term n := ⟨const (OfNat.ofNat n)⟩

def fabs : Term → Term := app1 (|·|)

def cos : Term → Term := app1 Real.cos

def sin : Term → Term := app1 Real.sin

def eval (g : Grid) : Term → ℝ
  | read e => g.get e
  | const r => r
  | app1 f a => f (a.eval g)
  | app2 f a b => f (a.eval g) (b.eval g)

def reads : Term → List Entry
  | read e => [e]
  | const _ => []
  | app1 _ a => a.reads
  | app2 _ a b => a.reads ++ b.reads

theorem eval_congr {g g' : Grid} :
    ∀ a : Term, (∀ e ∈ a.reads, g.get e = g'.get e) → a.eval g = a.eval g'
  | read e, same => same e (List.mem_singleton_self e)
  | const _, _ => rfl
  | app1 f a, same => congrArg f (eval_congr a same)
  | app2 f a b, same => by
    simp only [reads, List.mem_append] at same
    simp only [eval, eval_congr a fun e mem => same e (.inl mem),
      eval_congr b fun e mem => same e (.inr mem)]

def x1 (i : ℕ) : Term := read ⟨.x, iDir, i⟩
def x2 (j : ℕ) : Term := read ⟨.x, jDir, j⟩
def x3 (k : ℕ) : Term := read ⟨.x, kDir, k⟩
def dx1 (i : ℕ) : Term := read ⟨.dx, iDir, i⟩
def dx2 (j : ℕ) : Term := read ⟨.dx, jDir, j⟩
def dx3 (k : ℕ) : Term := read ⟨.dx, kDir, k⟩
def x1p (i : ℕ) : Term := read ⟨.xr, iDir, i⟩
def x2p (j : ℕ) : Term := read ⟨.xr, jDir, j⟩
def x1m (i : ℕ) : Term := read ⟨.xl, iDir, i⟩
def x2m (j : ℕ) : Term := read ⟨.xl, jDir, j⟩

/-- `D_EXPAND` on terms: the factors of the inactive directions are not evaluated. -/
def dExpand (cfg : Config) (a b c : Term) : Term :=
  if cfg.dimensions = 1 then a else if cfg.dimensions = 2 then a * b else a * b * c

theorem eval_dExpand (cfg : Config) (g : Grid) (a b c : Term) :
    (dExpand cfg a b c).eval g = Idefix.dExpand cfg (a.eval g) (b.eval g) (c.eval g) := by
  unfold dExpand Idefix.dExpand
  split_ifs <;> rfl

theorem mem_reads_dExpand {cfg : Config} {a b c : Term} {e : Entry}
    (kept : e ∈ a.reads ∨ cfg.dimensions ≠ 1 ∧ e ∈ b.reads) :
    e ∈ (dExpand cfg a b c).reads := by
  unfold dExpand
  split_ifs with one <;> rcases kept with first | ⟨two, second⟩ <;>
    simp_all [reads]

@[simp] theorem add_def (a b : Term) : a + b = app2 (· + ·) a b := rfl
@[simp] theorem sub_def (a b : Term) : a - b = app2 (· - ·) a b := rfl
@[simp] theorem mul_def (a b : Term) : a * b = app2 (· * ·) a b := rfl
@[simp] theorem div_def (a b : Term) : a / b = app2 (· / ·) a b := rfl
@[simp] theorem ofNat_def (n : ℕ) [OfNat ℝ n] :
    (OfNat.ofNat n : Term) = const (OfNat.ofNat n) := rfl

def Within (np : Dir → ℕ) (a : Term) : Prop := ∀ e ∈ a.reads, e.idx < np e.dir

variable {np : Dir → ℕ}

@[simp] theorem within_read (e : Entry) : (read e).Within np ↔ e.idx < np e.dir := by
  simp [Within, reads]
@[simp] theorem within_const (r : ℝ) : (const r).Within np := by simp [Within, reads]
@[simp] theorem within_app1 (f : ℝ → ℝ) (a : Term) : (app1 f a).Within np ↔ a.Within np :=
  Iff.rfl
@[simp] theorem within_app2 (f : ℝ → ℝ → ℝ) (a b : Term) :
    (app2 f a b).Within np ↔ a.Within np ∧ b.Within np := by
  simp only [Within, reads, List.mem_append, or_imp, forall_and]

@[simp] theorem within_dExpand (cfg : Config) (a b c : Term) :
    (Term.dExpand cfg a b c).Within np ↔ a.Within np ∧ (cfg.dimensions ≠ 1 → b.Within np) ∧
      (cfg.dimensions ≠ 1 → cfg.dimensions ≠ 2 → c.Within np) := by
  unfold Term.dExpand
  split_ifs <;> simp [*, and_assoc]

end Term

/-- A lambda as its reads see it: the local variables it initialises and the values it
stores, in the order of the arrays it stores them in. -/
structure Lambda where
  locals : List Term
  stores : List Term

def Lambda.reads (body : Lambda) : List Entry :=
  (body.locals ++ body.stores).flatMap Term.reads

theorem Lambda.forall_reads (body : Lambda) (np : Dir → ℕ) :
    (∀ e ∈ body.reads, e.idx < np e.dir) ↔ ∀ t ∈ body.locals ++ body.stores, t.Within np := by
  simp only [Lambda.reads, List.mem_flatMap, Term.Within]
  constructor
  · exact fun all t mem e read => all e ⟨t, mem, read⟩
  · rintro all e ⟨t, mem, read⟩
    exact all t mem e read

open Term in
/-- The lambdas of `MakeGeometry`, from `makeGeometry.cpp`; `np` is the `np_tot` the area
lambdas capture as `end`. -/
def GeometryKernel.lambda (cfg : Config) (np : Dir → ℕ) :
    (κ : GeometryKernel) → κ.Index → Lambda
  | .volumes, (k, j, i) =>
    match cfg.geometry with
    | .cartesian => ⟨[], [Term.dExpand cfg (dx1 i) (dx2 j) (dx3 k)]⟩
    | .cylindrical =>
      let dVr := fabs (x1p i * x1p i - x1m i * x1m i) / 2
      ⟨[dVr], [Term.dExpand cfg dVr (dx2 j) 1]⟩
    | .polar =>
      let dVr := fabs (x1p i * x1p i - x1m i * x1m i) / 2
      ⟨[dVr], [Term.dExpand cfg dVr (dx2 j) (dx3 k)]⟩
    | .spherical =>
      let dVr := fabs (x1p i * x1p i * x1p i - x1m i * x1m i * x1m i) / 3
      let dmu := fabs (cos (x2m j) - cos (x2p j))
      ⟨[dVr, dmu], [Term.dExpand cfg dVr dmu (dx3 k)]⟩
  | .centersX1, i =>
    match cfg.geometry with
    | .cartesian => ⟨[], [x1 i]⟩
    | .cylindrical | .polar => ⟨[], [x1 i + dx1 i * dx1 i / (12 * x1 i)]⟩
    | .spherical =>
      ⟨[], [x1 i + 2 * x1 i * dx1 i * dx1 i / (12 * x1 i * x1 i + dx1 i * dx1 i),
        (x1p i * x1p i * x1p i - x1m i * x1m i * x1m i) / (x1p i * x1p i - x1m i * x1m i) /
          const 1.5]⟩
  | .centersX2, j =>
    match cfg.geometry with
    | .spherical =>
      let xL := x2m j
      let xR := x2p j
      ⟨[xL, xR], [(sin xR - sin xL + xL * cos xL - xR * cos xR) / (cos xL - cos xR),
        fabs (sin xL), fabs (sin (x2 j)), fabs (cos xL - cos xR)]⟩
    | _ => ⟨[], [x2 j]⟩
  | .centersX3, k => ⟨[], [x3 k]⟩
  | .areaX1, (k, j, i) =>
    let endI := np iDir
    match cfg.geometry with
    | .cartesian => ⟨[], [Term.dExpand cfg 1 (dx2 j) (dx3 k)]⟩
    | .cylindrical =>
      if i = endI then ⟨[], [Term.dExpand cfg (fabs (x1p (i - 1))) (dx2 j) 1]⟩
      else ⟨[], [Term.dExpand cfg (fabs (x1m i)) (dx2 j) 1]⟩
    | .polar =>
      if i = endI then ⟨[], [Term.dExpand cfg (fabs (x1p (i - 1))) (dx2 j) (dx3 k)]⟩
      else ⟨[], [Term.dExpand cfg (fabs (x1m i)) (dx2 j) (dx3 k)]⟩
    | .spherical =>
      let dmu := fabs (cos (x2m j) - cos (x2p j))
      if i = endI then ⟨[dmu], [Term.dExpand cfg (x1p (i - 1) * x1p (i - 1)) dmu (dx3 k)]⟩
      else ⟨[dmu], [Term.dExpand cfg (x1m i * x1m i) dmu (dx3 k)]⟩
  | .areaX2, (k, j, i) =>
    let endJ := np jDir
    match cfg.geometry with
    | .cartesian => ⟨[], [Term.dExpand cfg (dx1 i) 1 (dx3 k)]⟩
    | .cylindrical => ⟨[], [Term.dExpand cfg (fabs (x1 i)) (dx1 i) 1]⟩
    | .polar => ⟨[], [Term.dExpand cfg (dx1 i) 1 (dx3 k)]⟩
    | .spherical =>
      if j = endJ then ⟨[], [Term.dExpand cfg (x1 i * dx1 i) (fabs (sin (x2p (j - 1)))) (dx3 k)]⟩
      else ⟨[], [Term.dExpand cfg (x1 i * dx1 i) (fabs (sin (x2m j))) (dx3 k)]⟩
  | .areaX3, (_k, j, i) =>
    match cfg.geometry with
    | .cartesian => ⟨[], [Term.dExpand cfg (dx1 i) (dx2 j) 1]⟩
    | .cylindrical => ⟨[], [1]⟩
    | .polar | .spherical => ⟨[], [Term.dExpand cfg (x1 i * dx1 i) (dx2 j) 1]⟩

def GeometryKernel.values (cfg : Config) (np : Dir → ℕ) (g : Grid) :
    (κ : GeometryKernel) → κ.Index → List ℝ
  | .volumes, p => [dVAt cfg g p]
  | .centersX1, i =>
    x1gcAt cfg g i :: if cfg.geometry = .spherical then [rtAt g i] else []
  | .centersX2, j =>
    x2gcAt cfg g j :: if cfg.geometry = .spherical then [smAt g j, sAt g j, dmuAt g j] else []
  | .centersX3, k => [g.x3 k]
  | .areaX1, p => [ax1At cfg g (np iDir) p]
  | .areaX2, p => [ax2At cfg g (np jDir) p]
  | .areaX3, p => [ax3At cfg g p]

theorem GeometryKernel.lambda_eval (cfg : Config) (np : Dir → ℕ) (g : Grid) :
    ∀ (κ : GeometryKernel) (p : κ.Index),
      (κ.lambda cfg np p).stores.map (Term.eval g) = κ.values cfg np g p
  | .volumes, (k, j, i) => by
    cases geo : cfg.geometry <;>
      simp only [lambda, values, dVAt, geo, List.map_cons, List.map_nil, Term.eval_dExpand] <;> rfl
  | .centersX1, i => by
    cases geo : cfg.geometry <;> simp only [lambda, values, x1gcAt, geo] <;> rfl
  | .centersX2, j => by
    cases geo : cfg.geometry <;> simp only [lambda, values, x2gcAt, geo] <;> rfl
  | .centersX3, k => rfl
  | .areaX1, (k, j, i) => by
    cases geo : cfg.geometry <;> simp only [lambda, values, ax1At, geo] <;> (try split_ifs) <;>
      simp only [List.map_cons, List.map_nil, Term.eval_dExpand] <;> rfl
  | .areaX2, (k, j, i) => by
    cases geo : cfg.geometry <;> simp only [lambda, values, ax2At, geo] <;> (try split_ifs) <;>
      simp only [List.map_cons, List.map_nil, Term.eval_dExpand] <;> rfl
  | .areaX3, (k, j, i) => by
    cases geo : cfg.geometry <;> simp only [lambda, values, ax3At, geo] <;>
      simp only [List.map_cons, List.map_nil, Term.eval_dExpand] <;> rfl

open Term in
theorem GeometryKernel.lambda_within (cfg : Config) (np : Dir → ℕ) (nonempty : ∀ d, 1 ≤ np d) :
    ∀ (κ : GeometryKernel) (p : κ.Index), p ∈ κ.range cfg np →
      ∀ e ∈ (κ.lambda cfg np p).reads, e.idx < np e.dir := by
  intro κ p mem
  rw [Lambda.forall_reads]
  -- first the bounds each range gives, then one closing step for every lambda
  cases κ
  case' volumes =>
    obtain ⟨k, j, i⟩ := p
    replace mem : (k, j, i) ∈ cellRange np := mem
    simp only [cellRange, mem_range3] at mem
  case' centersX1 | centersX2 | centersX3 =>
    change ℕ at p
    have bound := (mem_range1.mp mem).2
  case' areaX1 =>
    obtain ⟨k, j, i⟩ := p
    have inside := nonempty iDir
    replace mem : (k, j, i) ∈ faceRange cfg np iDir := mem
    simp only [faceRange, mem_range3, offset, kDir_ne_iDir, jDir_ne_iDir, if_true, if_false,
      Config.active_iDir, add_zero] at mem
  case' areaX2 =>
    obtain ⟨k, j, i⟩ := p
    have inside := nonempty jDir
    have step : offset cfg jDir ≤ 1 := by unfold offset; split <;> omega
    replace mem : (k, j, i) ∈ faceRange cfg np jDir := mem
    simp only [faceRange, mem_range3, kDir_ne_jDir, iDir_ne_jDir, if_true, if_false,
      add_zero] at mem
  case' areaX3 =>
    obtain ⟨k, j, i⟩ := p
    replace mem : (k, j, i) ∈ faceRange cfg np kDir := mem
    simp only [faceRange, mem_range3, jDir_ne_kDir, iDir_ne_kDir, if_false, add_zero] at mem
  all_goals
    cases geo : cfg.geometry <;> simp only [lambda, geo] <;> (try split_ifs) <;>
      simp only [List.nil_append, List.singleton_append, List.cons_append, List.mem_cons,
        List.mem_singleton, List.not_mem_nil, forall_eq_or_imp, forall_eq, IsEmpty.forall_iff,
        implies_true, and_true, true_and, within_dExpand, within_app1, within_app2, within_read,
        within_const, ofNat_def, add_def, mul_def, sub_def, div_def, x1, x2, x3, dx1, dx2, dx3,
        x1p, x1m, x2p, x2m, fabs, cos, sin] <;> omega

open Term in
theorem areaX1_extra_face (cfg : Config) (np : Dir → ℕ) (nonempty : ∀ d, 1 ≤ np d) {k j : ℕ}
    (face : (k, j, np iDir) ∈ faceRange cfg np iDir) :
    ⟨.xl, iDir, np iDir⟩ ∉ (GeometryKernel.areaX1.lambda cfg np (k, j, np iDir)).reads ∧
      (cfg.geometry ≠ .cartesian →
        ⟨.xr, iDir, np iDir - 1⟩ ∈ (GeometryKernel.areaX1.lambda cfg np (k, j, np iDir)).reads) := by
  refine ⟨fun read =>
    lt_irrefl _ (GeometryKernel.lambda_within cfg np nonempty .areaX1 _ face _ read),
    fun curved => ?_⟩
  simp only [Lambda.reads, List.mem_flatMap]
  cases geo : cfg.geometry
  · exact absurd geo curved
  all_goals
    simp only [GeometryKernel.lambda, geo, if_true]
    exact ⟨_, List.mem_append_right _ (List.mem_singleton_self _),
      Term.mem_reads_dExpand (.inl (by simp [x1p, fabs, Term.reads]))⟩

open Term in
theorem areaX2_extra_face (cfg : Config) (np : Dir → ℕ) (nonempty : ∀ d, 1 ≤ np d) {k i : ℕ}
    (face : (k, np jDir, i) ∈ faceRange cfg np jDir) :
    ⟨.xl, jDir, np jDir⟩ ∉ (GeometryKernel.areaX2.lambda cfg np (k, np jDir, i)).reads ∧
      (cfg.geometry = .spherical →
        ⟨.xr, jDir, np jDir - 1⟩ ∈ (GeometryKernel.areaX2.lambda cfg np (k, np jDir, i)).reads) := by
  refine ⟨fun read =>
    lt_irrefl _ (GeometryKernel.lambda_within cfg np nonempty .areaX2 _ face _ read),
    fun spherical => ?_⟩
  have active : cfg.dimensions ≠ 1 := by
    simp [faceRange, offset, Config.Active] at face
    split_ifs at face <;> omega
  simp only [Lambda.reads, List.mem_flatMap, GeometryKernel.lambda, spherical, if_true]
  exact ⟨_, List.mem_append_right _ (List.mem_singleton_self _),
    Term.mem_reads_dExpand (.inr ⟨active, by simp [x2p, fabs, sin, Term.reads]⟩)⟩

/-- An entry of an array `MakeGeometry` writes. -/
inductive Output
  | dV (p : Idx3)
  | xgc (d : Dir) (i : ℕ)
  | rt (i : ℕ)
  | sm (j : ℕ)
  | s (j : ℕ)
  | dmu (j : ℕ)
  | A (d : Dir) (p : Idx3)
  deriving DecidableEq

def DataBlock.output {nvar : ℕ} (st : DataBlock nvar) : Output → ℝ
  | .dV p => st.dV p
  | .xgc d i => st.xgc d i
  | .rt i => st.rt i
  | .sm j => st.sm j
  | .s j => st.s j
  | .dmu j => st.dmu j
  | .A d p => st.A d p

/-- The entries each lambda writes: its own index, in the arrays it stores to. -/
def GeometryKernel.writes (cfg : Config) : (κ : GeometryKernel) → κ.Index → List Output
  | .volumes, p => [.dV p]
  | .centersX1, i => .xgc iDir i :: if cfg.geometry = .spherical then [.rt i] else []
  | .centersX2, j =>
    .xgc jDir j :: if cfg.geometry = .spherical then [.sm j, .s j, .dmu j] else []
  | .centersX3, k => [.xgc kDir k]
  | .areaX1, p => [.A iDir p]
  | .areaX2, p => [.A jDir p]
  | .areaX3, p => [.A kDir p]

def Output.Within (cfg : Config) (np : Dir → ℕ) : Output → Prop
  | .dV p => p ∈ cellRange np
  | .xgc d i => i < np d
  | .rt i => i < np iDir
  | .sm j | .s j | .dmu j => j < np jDir
  | .A d p => p ∈ faceRange cfg np d

theorem store_apply {ι : Type} [DecidableEq ι] (arr : Dir → ι → ℝ) (d' : Dir) (p : ι) (v : ℝ)
    (d : Dir) (q : ι) : store arr d' p v d q = if d = d' ∧ q = p then v else arr d q := by
  by_cases same : d = d'
  · subst same
    simp [store, Function.update_apply]
  · simp [store, same]

theorem GeometryKernel.body_footprint (cfg : Config) (np : Dir → ℕ) {nvar : ℕ}
    (κ : GeometryKernel) (p : κ.Index) (st : DataBlock nvar) :
    { κ.body cfg np p st with
        dV := st.dV, xgc := st.xgc, A := st.A, rt := st.rt, sm := st.sm, s := st.s,
        dmu := st.dmu } = st ∧
      ∀ w ∉ κ.writes cfg p, (κ.body cfg np p st).output w = st.output w := by
  refine ⟨by cases κ <;> rfl, fun w other => ?_⟩
  cases κ <;> cases w <;>
    simp only [writes, body, DataBlock.output, Idefix.volumes, geometricalCentersX1,
      geometricalCentersX2, geometricalCentersX3, Idefix.areaX1, Idefix.areaX2, Idefix.areaX3]
      at other ⊢ <;>
    (try split_ifs at other ⊢) <;>
    simp_all [store_apply, Function.update_apply]

theorem GeometryKernel.writes_within (cfg : Config) (np : Dir → ℕ) :
    ∀ (κ : GeometryKernel) (p : κ.Index), p ∈ κ.range cfg np →
      ∀ w ∈ κ.writes cfg p, w.Within cfg np
  | .volumes, _, cell => by simpa [writes, Output.Within] using cell
  | .centersX1, _, cell => by
    have bound := (mem_range1.mp cell).2
    by_cases spherical : cfg.geometry = .spherical <;>
      simp [writes, Output.Within, bound, spherical]
  | .centersX2, _, cell => by
    have bound := (mem_range1.mp cell).2
    by_cases spherical : cfg.geometry = .spherical <;>
      simp [writes, Output.Within, bound, spherical]
  | .centersX3, _, cell => by simpa [writes, Output.Within] using (mem_range1.mp cell).2
  | .areaX1, _, face => by simpa [writes, Output.Within] using face
  | .areaX2, _, face => by simpa [writes, Output.Within] using face
  | .areaX3, _, face => by simpa [writes, Output.Within] using face

theorem sweepRange_within (DIR : Dir) {beg fin np : Dir → ℕ} (below : ∀ d, fin d < np d) :
    ∀ p ∈ sweepRange DIR beg fin, p.1 < np kDir ∧ p.2.1 < np jDir ∧ p.2.2 < np iDir := by
  intro p face
  simp only [sweepRange, mem_range3] at face
  have k := below kDir
  have j := below jDir
  have i := below iDir
  refine ⟨?_, ?_, ?_⟩ <;> split_ifs at face <;> omega

theorem tvdlfHD_footprint (ph : Physics) (gamma C2Iso : ℝ) (DIR : Dir) (Xn : Fin ph.nvar)
    (st : DataBlock ph.nvar) :
    { tvdlfHD ph gamma C2Iso DIR Xn st with fluxRiemann := st.fluxRiemann, cMax := st.cMax } = st ∧
      ∀ q ∉ sweepRange DIR st.beg st.end,
        (tvdlfHD ph gamma C2Iso DIR Xn st).fluxRiemann q = st.fluxRiemann q ∧
          (tvdlfHD ph gamma C2Iso DIR Xn st).cMax q = st.cMax q := by
  rw [tvdlfHD, idefixFor_tvdlfKernel]
  exact ⟨rfl, fun q off => by simp [tvdlfEffect, overwrite_apply, off]⟩

def cartesian3 : Config := ⟨.cartesian, 3, by decide, le_rfl⟩

/-- In Cartesian geometry the areas of the faces normal to `x` and `y` read no face
coordinate at all, at the face beyond the last cell as elsewhere. -/
theorem areaX_extra_face_cartesian :
    (0, 0, 1) ∈ faceRange cartesian3 (unitCube 0).npTot iDir ∧
      ⟨.xr, iDir, 0⟩ ∉ (GeometryKernel.areaX1.lambda cartesian3 (unitCube 0).npTot (0, 0, 1)).reads ∧
      (0, 1, 0) ∈ faceRange cartesian3 (unitCube 0).npTot jDir ∧
      ⟨.xr, jDir, 0⟩ ∉ (GeometryKernel.areaX2.lambda cartesian3 (unitCube 0).npTot (0, 1, 0)).reads := by
  decide

/-- On a data block of at least one cell along each direction, every entry a lambda of
`MakeGeometry` reads or writes at an index of its range lies within its array; at the face
beyond the last cell, `AreaX1` and `AreaX2` never read `xl` there and, where their area
depends on that face, read `xr` of the last cell. A sweep of `TvdlfHD` with
`end[d] < np_tot[d]` visits faces within the cells, and changes `Flux` and `cMax` at those
faces only. -/
theorem kernels_access_within (cfg : Config) (ph : Physics) (gamma C2Iso : ℝ) (DIR : Dir)
    (Xn : Fin ph.nvar) (st : DataBlock ph.nvar) (nonempty : ∀ d, 1 ≤ st.npTot d) :
    (∀ κ : GeometryKernel, ∀ p ∈ κ.range cfg st.npTot,
        (∀ e ∈ (κ.lambda cfg st.npTot p).reads, e.idx < st.npTot e.dir) ∧
          ∀ w ∈ κ.writes cfg p, w.Within cfg st.npTot) ∧
      (∀ k j, (k, j, st.npTot iDir) ∈ faceRange cfg st.npTot iDir →
        ⟨.xl, iDir, st.npTot iDir⟩ ∉
            (GeometryKernel.areaX1.lambda cfg st.npTot (k, j, st.npTot iDir)).reads ∧
          (cfg.geometry ≠ .cartesian → ⟨.xr, iDir, st.npTot iDir - 1⟩ ∈
            (GeometryKernel.areaX1.lambda cfg st.npTot (k, j, st.npTot iDir)).reads)) ∧
      (∀ k i, (k, st.npTot jDir, i) ∈ faceRange cfg st.npTot jDir →
        ⟨.xl, jDir, st.npTot jDir⟩ ∉
            (GeometryKernel.areaX2.lambda cfg st.npTot (k, st.npTot jDir, i)).reads ∧
          (cfg.geometry = .spherical → ⟨.xr, jDir, st.npTot jDir - 1⟩ ∈
            (GeometryKernel.areaX2.lambda cfg st.npTot (k, st.npTot jDir, i)).reads)) ∧
      ((∀ d, st.beg d ≤ st.end d ∧ st.end d < st.npTot d) →
        ∀ p ∈ sweepRange DIR st.beg st.end,
          p.1 < st.npTot kDir ∧ p.2.1 < st.npTot jDir ∧ p.2.2 < st.npTot iDir) ∧
      ∀ q ∉ sweepRange DIR st.beg st.end,
        (tvdlfHD ph gamma C2Iso DIR Xn st).fluxRiemann q = st.fluxRiemann q ∧
          (tvdlfHD ph gamma C2Iso DIR Xn st).cMax q = st.cMax q :=
  ⟨fun κ p mem => ⟨GeometryKernel.lambda_within cfg _ nonempty κ p mem,
      GeometryKernel.writes_within cfg _ κ p mem⟩,
    fun _ _ face => areaX1_extra_face cfg _ nonempty face,
    fun _ _ face => areaX2_extra_face cfg _ nonempty face,
    fun sweep => sweepRange_within DIR fun d => (sweep d).2,
    (tvdlfHD_footprint ph gamma C2Iso DIR Xn st).2⟩

theorem kernels_access_within_ghostCells :
    let st : DataBlock hydroPhysics.nvar := unitCells 5 fun _ => 3
    (∀ d, 1 ≤ st.npTot d) ∧ (∀ d, st.beg d ≤ st.end d ∧ st.end d < st.npTot d) ∧
      (∀ κ : GeometryKernel, ∀ p ∈ κ.range spherical3 st.npTot,
          (∀ e ∈ (κ.lambda spherical3 st.npTot p).reads, e.idx < st.npTot e.dir) ∧
            ∀ w ∈ κ.writes spherical3 p, w.Within spherical3 st.npTot) ∧
        (∀ k j, (k, j, st.npTot iDir) ∈ faceRange spherical3 st.npTot iDir →
          ⟨.xl, iDir, st.npTot iDir⟩ ∉
              (GeometryKernel.areaX1.lambda spherical3 st.npTot (k, j, st.npTot iDir)).reads ∧
            (spherical3.geometry ≠ .cartesian → ⟨.xr, iDir, st.npTot iDir - 1⟩ ∈
              (GeometryKernel.areaX1.lambda spherical3 st.npTot (k, j, st.npTot iDir)).reads)) ∧
        (∀ k i, (k, st.npTot jDir, i) ∈ faceRange spherical3 st.npTot jDir →
          ⟨.xl, jDir, st.npTot jDir⟩ ∉
              (GeometryKernel.areaX2.lambda spherical3 st.npTot (k, st.npTot jDir, i)).reads ∧
            (spherical3.geometry = .spherical → ⟨.xr, jDir, st.npTot jDir - 1⟩ ∈
              (GeometryKernel.areaX2.lambda spherical3 st.npTot (k, st.npTot jDir, i)).reads)) ∧
        ((∀ d, st.beg d ≤ st.end d ∧ st.end d < st.npTot d) →
          ∀ p ∈ sweepRange iDir st.beg st.end,
            p.1 < st.npTot kDir ∧ p.2.1 < st.npTot jDir ∧ p.2.2 < st.npTot iDir) ∧
        ∀ q ∉ sweepRange iDir st.beg st.end,
          (tvdlfHD hydroPhysics (5 / 3) 1 iDir (hydroPhysics.vx iDir) st).fluxRiemann q =
              st.fluxRiemann q ∧
            (tvdlfHD hydroPhysics (5 / 3) 1 iDir (hydroPhysics.vx iDir) st).cMax q = st.cMax q :=
  have nonempty : ∀ d, 1 ≤ (unitCells 5 fun _ => 3 : DataBlock hydroPhysics.nvar).npTot d := by decide
  ⟨nonempty, by decide, kernels_access_within spherical3 hydroPhysics (5 / 3) 1 iDir
    (hydroPhysics.vx iDir) (unitCells 5 fun _ => 3) nonempty⟩

end

end Idefix

import Idefix.DataBlock
import Mathlib.Data.Real.Sqrt
import Mathlib.Tactic.Linarith
import Mathlib.Tactic.Ring
import Mathlib.Tactic.FinCases

/-!
# `TvdlfHD`: the Rusanov flux of the hydro solver

The lambda of `TVDLF_Kernel` is the face function `tvdlfFace`: it averages the two
primitive states, converts and fluxes each side, takes the wave speed of the averaged
state, and blends. The variable layout and the equation-of-state helpers `K_PrimToCons`
and `K_Flux` are declared outside the source tree; they are the parameters bundled in
`Physics`. The template arguments `Xt` and `Xb` are not read by the kernel.
-/

namespace Idefix

open Kernel

set_option autoImplicit false

/-- Modelled from the spec: the layout of a primitive vector (`NVAR`, `RHO`, `PRS`, the
velocities `VX1..VX3`), `HAVE_ENERGY`, and the pure helpers `K_PrimToCons(u, v, gamma_m1)`
and `K_Flux(flux, v, u, C2Iso, Xn)` the solver calls. A velocity index is neither the
density nor the pressure index. -/
structure Physics where
  nvar : ℕ
  rho : Fin nvar
  prs : Fin nvar
  vx : Dir → Fin nvar
  haveEnergy : Bool
  primToCons : (Fin nvar → ℝ) → ℝ → Fin nvar → ℝ
  flux : (Fin nvar → ℝ) → (Fin nvar → ℝ) → ℝ → Fin nvar → Fin nvar → ℝ
  vx_ne_rho : ∀ d, vx d ≠ rho
  vx_ne_prs : ∀ d, vx d ≠ prs

noncomputable section

variable (ph : Physics) (gamma C2Iso : ℝ)

/-- `vRL[nv] = HALF_F*(vL[nv]+vR[nv])`. -/
def average (vL vR : Fin ph.nvar → ℝ) : Fin ph.nvar → ℝ := fun nv => 1 / 2 * (vL nv + vR nv)

theorem average_self (v : Fin ph.nvar → ℝ) : average ph v v = v := by
  funext nv
  simp only [average]
  ring

/-- Step 4 of the kernel: `cmax` from the averaged state `vRL`. -/
def waveSpeed (Xn : Fin ph.nvar) (vRL : Fin ph.nvar → ℝ) : ℝ :=
  let gamma_m1 := gamma - 1
  let cRL :=
    if ph.haveEnergy then Real.sqrt ((gamma_m1 + 1) * (vRL ph.prs / vRL ph.rho))
    else Real.sqrt C2Iso
  max |vRL Xn + cRL| |vRL Xn - cRL|

/-- The lambda of `TVDLF_Kernel` at one face: the flux vector it stores in `Flux(·,k,j,i)`
and the speed it stores in `cMax(k,j,i)`, from `PrimL(·,k,j,i)` and `PrimR(·,k,j,i)`. -/
def tvdlfFace (Xn : Fin ph.nvar) (vL vR : Fin ph.nvar → ℝ) : (Fin ph.nvar → ℝ) × ℝ :=
  let gamma_m1 := gamma - 1
  let vRL := average ph vL vR
  let uL := ph.primToCons vL gamma_m1
  let uR := ph.primToCons vR gamma_m1
  let fluxL := ph.flux vL uL C2Iso Xn
  let fluxR := ph.flux vR uR C2Iso Xn
  let cmax := waveSpeed ph gamma C2Iso Xn vRL
  (fun nv => 1 / 2 * (fluxL nv + fluxR nv - cmax * (uR nv - uL nv)), cmax)

/-- The lambda of `TVDLF_Kernel`. -/
def tvdlfKernel (Xn : Fin ph.nvar) (p : Idx3) (st : DataBlock ph.nvar) : DataBlock ph.nvar :=
  let face := tvdlfFace ph gamma C2Iso Xn (st.primL p) (st.primR p)
  { st with
    fluxRiemann := Function.update st.fluxRiemann p face.1
    cMax := Function.update st.cMax p face.2 }

/-- The faces a sweep along `DIR` visits: `beg ≤ index < end`, one more along `DIR`. -/
def sweepRange (DIR : Dir) (beg fin : Dir → ℕ) : List Idx3 :=
  let offset := fun d : Dir => if DIR = d then 1 else 0
  range3 (beg kDir) (fin kDir + offset kDir) (beg jDir) (fin jDir + offset jDir)
    (beg iDir) (fin iDir + offset iDir)

/-- `TvdlfHD<DIR, Xn, Xt, Xb>(data, gamma, C2Iso)`. -/
def tvdlfHD (DIR : Dir) (Xn : Fin ph.nvar) (st : DataBlock ph.nvar) : DataBlock ph.nvar :=
  idefixFor (tvdlfKernel ph gamma C2Iso Xn) (sweepRange DIR st.beg st.end) st

def tvdlfEffect (Xn : Fin ph.nvar) (schedule : List Idx3) (st : DataBlock ph.nvar) :
    DataBlock ph.nvar :=
  let face := fun p => tvdlfFace ph gamma C2Iso Xn (st.primL p) (st.primR p)
  { st with
    fluxRiemann := overwrite schedule (fun p => (face p).1) st.fluxRiemann
    cMax := overwrite schedule (fun p => (face p).2) st.cMax }

theorem idefixFor_tvdlfKernel (Xn : Fin ph.nvar) (schedule : List Idx3)
    (st : DataBlock ph.nvar) :
    idefixFor (tvdlfKernel ph gamma C2Iso Xn) schedule st =
      tvdlfEffect ph gamma C2Iso Xn schedule st :=
  idefixFor_eq_of_step _ _ (fun _ => rfl)
    (fun p l s => by simp [tvdlfEffect, tvdlfKernel, overwrite_cons]) schedule st

/-- The sound speed of a state: `sqrt(gamma·PRS/RHO)` with an energy equation,
`sqrt(C2Iso)` isothermally. -/
def soundSpeed (v : Fin ph.nvar → ℝ) : ℝ :=
  if ph.haveEnergy then Real.sqrt (gamma * (v ph.prs / v ph.rho)) else Real.sqrt C2Iso

/-- The largest characteristic speed `|v[Xn]| + c` of a state along `Xn`. -/
def signalSpeed (Xn : Fin ph.nvar) (v : Fin ph.nvar → ℝ) : ℝ :=
  |v Xn| + soundSpeed ph gamma C2Iso v

theorem max_abs_add_abs_sub {u c : ℝ} (nonneg : 0 ≤ c) : max |u + c| |u - c| = |u| + c := by
  rcases le_total 0 u with sign | sign
  · rw [abs_of_nonneg sign, abs_of_nonneg (by linarith : 0 ≤ u + c),
      max_eq_left (abs_le.mpr ⟨by linarith, by linarith⟩)]
  · rw [abs_of_nonpos sign, abs_of_nonpos (by linarith : u - c ≤ 0),
      max_eq_right (abs_le.mpr ⟨by linarith, by linarith⟩)]
    ring

theorem waveSpeed_eq_signalSpeed (Xn : Fin ph.nvar) (v : Fin ph.nvar → ℝ) :
    waveSpeed ph gamma C2Iso Xn v = signalSpeed ph gamma C2Iso Xn v := by
  have soundNonneg : 0 ≤ soundSpeed ph gamma C2Iso v := by
    unfold soundSpeed
    split <;> exact Real.sqrt_nonneg _
  simp only [waveSpeed, sub_add_cancel]
  exact max_abs_add_abs_sub soundNonneg

/-- The states on which the kernel's arithmetic is defined: positive density, and nonnegative
`gamma` and pressure with an energy equation or a nonnegative `C2Iso` without. Elsewhere the
code's `PRS/RHO` or `SQRT` is not a number, where `Real.sqrt` and `x / 0` return `0`. -/
def Physical (v : Fin ph.nvar → ℝ) : Prop :=
  0 < v ph.rho ∧ if ph.haveEnergy then 0 ≤ gamma ∧ 0 ≤ v ph.prs else 0 ≤ C2Iso

theorem physical_average {vL vR : Fin ph.nvar → ℝ} (left : Physical ph gamma C2Iso vL)
    (right : Physical ph gamma C2Iso vR) : Physical ph gamma C2Iso (average ph vL vR) := by
  obtain ⟨rhoL, eosL⟩ := left
  obtain ⟨rhoR, eosR⟩ := right
  refine ⟨by simp only [average]; linarith, ?_⟩
  split_ifs at eosL eosR ⊢
  · exact ⟨eosL.1, by simp only [average]; linarith [eosL.2, eosR.2]⟩
  · exact eosL

theorem soundSpeed_sq {v : Fin ph.nvar → ℝ} (physical : Physical ph gamma C2Iso v) :
    soundSpeed ph gamma C2Iso v ^ 2 =
      if ph.haveEnergy then gamma * (v ph.prs / v ph.rho) else C2Iso := by
  obtain ⟨rho, eos⟩ := physical
  unfold soundSpeed
  split_ifs at eos ⊢
  · exact Real.sq_sqrt (mul_nonneg eos.1 (div_nonneg eos.2 rho.le))
  · exact Real.sq_sqrt eos

/-- The adiabatic Euler equations in the layout `RHO, VX1, VX2, VX3, PRS`: `K_PrimToCons` gives
density, momentum and the total energy `PRS/gamma_m1 + ½ρ|v|²`, `K_Flux` the fluxes of these
along `Xn`. -/
def hydroPhysics : Physics where
  nvar := 5
  rho := 0
  prs := 4
  vx := ![1, 2, 3]
  haveEnergy := true
  primToCons v gamma_m1 := ![v 0, v 0 * v 1, v 0 * v 2, v 0 * v 3,
    v 4 / gamma_m1 + 1 / 2 * v 0 * (v 1 ^ 2 + v 2 ^ 2 + v 3 ^ 2)]
  flux v u _ Xn nv := u nv * v Xn + (if nv = Xn then v 4 else 0) + if nv = 4 then v 4 * v Xn else 0
  vx_ne_rho := by decide
  vx_ne_prs := by decide

/-- After a sweep, at every face of its range between two physical states, the averaged state
`½(PrimL + PrimR)` is physical, `cMax` holds its largest characteristic speed, and the stored
flux uses that speed as its dissipation coefficient. -/
theorem tvdlfHD_face (DIR : Dir) (Xn : Fin ph.nvar) (st : DataBlock ph.nvar) {p : Idx3}
    (face : p ∈ sweepRange DIR st.beg st.end) (left : Physical ph gamma C2Iso (st.primL p))
    (right : Physical ph gamma C2Iso (st.primR p)) :
    let vL := st.primL p
    let vR := st.primR p
    let cmax := signalSpeed ph gamma C2Iso Xn (average ph vL vR)
    let uL := ph.primToCons vL (gamma - 1)
    let uR := ph.primToCons vR (gamma - 1)
    Physical ph gamma C2Iso (average ph vL vR) ∧ (tvdlfHD ph gamma C2Iso DIR Xn st).cMax p = cmax ∧
      (tvdlfHD ph gamma C2Iso DIR Xn st).fluxRiemann p = fun nv =>
        1 / 2 * (ph.flux vL uL C2Iso Xn nv + ph.flux vR uR C2Iso Xn nv -
          cmax * (uR nv - uL nv)) := by
  refine ⟨physical_average ph gamma C2Iso left right, ?_⟩
  simp [tvdlfHD, idefixFor_tvdlfKernel, tvdlfEffect, overwrite_apply, face, tvdlfFace,
    waveSpeed_eq_signalSpeed]

theorem tvdlfHD_face_apart :
    let st : DataBlock hydroPhysics.nvar :=
      { unitCells 5 ![3, 3, 3] with primL := fun _ => ![1, 1, 0, 0, 1], primR := fun _ => ![1, -1, 0, 0, 1] }
    let Xn := hydroPhysics.vx iDir
    let vL := st.primL (1, 1, 1)
    let vR := st.primR (1, 1, 1)
    let cmax := signalSpeed hydroPhysics (5 / 3) 1 Xn (average hydroPhysics vL vR)
    let uL := hydroPhysics.primToCons vL (5 / 3 - 1)
    let uR := hydroPhysics.primToCons vR (5 / 3 - 1)
    (1, 1, 1) ∈ sweepRange iDir st.beg st.end ∧ Physical hydroPhysics (5 / 3) 1 vL ∧
      Physical hydroPhysics (5 / 3) 1 vR ∧ Physical hydroPhysics (5 / 3) 1 (average hydroPhysics vL vR) ∧
      (tvdlfHD hydroPhysics (5 / 3) 1 iDir Xn st).cMax (1, 1, 1) = cmax ∧
        (tvdlfHD hydroPhysics (5 / 3) 1 iDir Xn st).fluxRiemann (1, 1, 1) = fun nv =>
          1 / 2 * (hydroPhysics.flux vL uL 1 Xn nv + hydroPhysics.flux vR uR 1 Xn nv -
            cmax * (uR nv - uL nv)) :=
  have face : ((1, 1, 1) : Idx3) ∈ sweepRange iDir (unitCells 5 ![3, 3, 3]).beg
      (unitCells 5 ![3, 3, 3]).end := by
    simp [sweepRange, unitCells]
  have left : Physical hydroPhysics (5 / 3) 1 ![1, 1, 0, 0, 1] :=
    show (0 : ℝ) < 1 ∧ 0 ≤ (5 / 3 : ℝ) ∧ (0 : ℝ) ≤ 1 by norm_num
  have right : Physical hydroPhysics (5 / 3) 1 ![1, -1, 0, 0, 1] :=
    show (0 : ℝ) < 1 ∧ 0 ≤ (5 / 3 : ℝ) ∧ (0 : ℝ) ≤ 1 by norm_num
  ⟨face, left, right, tvdlfHD_face hydroPhysics (5 / 3) 1 iDir (hydroPhysics.vx iDir)
    { unitCells 5 ![3, 3, 3] with primL := fun _ => ![1, 1, 0, 0, 1], primR := fun _ => ![1, -1, 0, 0, 1] }
    face left right⟩

/-- Two states of equal density and pressure moving apart at unit speed: their average is at
rest, so `cmax` is the sound speed alone and falls short of either side's `|v| + c`. -/
theorem tvdlfFace_cmax_below_left_speed :
    let vL : Fin 5 → ℝ := ![1, 1, 0, 0, 1]
    let vR : Fin 5 → ℝ := ![1, -1, 0, 0, 1]
    (0 < vL 0 ∧ 0 < vR 0 ∧ 0 < vL 4 ∧ 0 < vR 4) ∧
      (tvdlfFace hydroPhysics (5 / 3) 1 (hydroPhysics.vx iDir) vL vR).2 <
        signalSpeed hydroPhysics (5 / 3) 1 (hydroPhysics.vx iDir) vL := by
  refine ⟨by norm_num, ?_⟩
  simp only [tvdlfFace, waveSpeed_eq_signalSpeed, signalSpeed, soundSpeed, average,
    hydroPhysics]
  norm_num

/-- At a face whose two states are equal, the stored flux is the physical flux of that state
and `cMax` its largest characteristic speed: the dissipation term vanishes. -/
theorem tvdlfHD_equal_states (DIR : Dir) (Xn : Fin ph.nvar) (st : DataBlock ph.nvar) {p : Idx3}
    (face : p ∈ sweepRange DIR st.beg st.end) (v : Fin ph.nvar → ℝ) (left : st.primL p = v)
    (right : st.primR p = v) (physical : Physical ph gamma C2Iso v) :
    (tvdlfHD ph gamma C2Iso DIR Xn st).fluxRiemann p =
        ph.flux v (ph.primToCons v (gamma - 1)) C2Iso Xn ∧
      (tvdlfHD ph gamma C2Iso DIR Xn st).cMax p = |v Xn| + soundSpeed ph gamma C2Iso v ∧
      soundSpeed ph gamma C2Iso v ^ 2 =
        if ph.haveEnergy then gamma * (v ph.prs / v ph.rho) else C2Iso := by
  refine ⟨?_, ?_, soundSpeed_sq ph gamma C2Iso physical⟩ <;>
    simp only [tvdlfHD, idefixFor_tvdlfKernel, tvdlfEffect, overwrite_apply, face, if_true,
      tvdlfFace, left, right, average_self, waveSpeed_eq_signalSpeed, signalSpeed, sub_self,
      mul_zero, sub_zero]
  funext nv
  ring

theorem tvdlfHD_equal_states_moving :
    let v : Fin hydroPhysics.nvar → ℝ := ![1, 1, 0, 0, 1]
    let st : DataBlock hydroPhysics.nvar := { unitCells 5 ![3, 3, 3] with primL := fun _ => v, primR := fun _ => v }
    let Xn := hydroPhysics.vx iDir
    (1, 1, 1) ∈ sweepRange iDir st.beg st.end ∧ st.primL (1, 1, 1) = v ∧ st.primR (1, 1, 1) = v ∧
      Physical hydroPhysics (5 / 3) 1 v ∧
      (tvdlfHD hydroPhysics (5 / 3) 1 iDir Xn st).fluxRiemann (1, 1, 1) =
          hydroPhysics.flux v (hydroPhysics.primToCons v (5 / 3 - 1)) 1 Xn ∧
        (tvdlfHD hydroPhysics (5 / 3) 1 iDir Xn st).cMax (1, 1, 1) =
          |v Xn| + soundSpeed hydroPhysics (5 / 3) 1 v ∧
        soundSpeed hydroPhysics (5 / 3) 1 v ^ 2 =
          if hydroPhysics.haveEnergy then 5 / 3 * (v hydroPhysics.prs / v hydroPhysics.rho) else 1 :=
  have face : ((1, 1, 1) : Idx3) ∈ sweepRange iDir (unitCells 5 ![3, 3, 3]).beg
      (unitCells 5 ![3, 3, 3]).end := by
    simp [sweepRange, unitCells]
  have physical : Physical hydroPhysics (5 / 3) 1 ![1, 1, 0, 0, 1] :=
    show (0 : ℝ) < 1 ∧ 0 ≤ (5 / 3 : ℝ) ∧ (0 : ℝ) ≤ 1 by norm_num
  ⟨face, rfl, rfl, physical, tvdlfHD_equal_states hydroPhysics (5 / 3) 1 iDir (hydroPhysics.vx iDir)
    { unitCells 5 ![3, 3, 3] with primL := fun _ => ![1, 1, 0, 0, 1], primR := fun _ => ![1, 1, 0, 0, 1] }
    face _ rfl rfl physical⟩

/-- `M`: the state with its `Xn` component negated. -/
def mirror {n : ℕ} (Xn : Fin n) (v : Fin n → ℝ) : Fin n → ℝ :=
  fun nv => if nv = Xn then -v nv else v nv

theorem average_mirror (Xn : Fin ph.nvar) (vL vR : Fin ph.nvar → ℝ) :
    average ph (mirror Xn vR) (mirror Xn vL) = mirror Xn (average ph vL vR) := by
  funext nv
  by_cases normal : nv = Xn <;> simp [average, mirror, normal] <;> ring

theorem signalSpeed_mirror (DIR : Dir) (v : Fin ph.nvar → ℝ) :
    signalSpeed ph gamma C2Iso (ph.vx DIR) (mirror (ph.vx DIR) v) =
      signalSpeed ph gamma C2Iso (ph.vx DIR) v := by
  simp [signalSpeed, soundSpeed, mirror, (ph.vx_ne_prs DIR).symm, (ph.vx_ne_rho DIR).symm]

/-- Mirroring both states and swapping them negates and mirrors the flux and keeps `cmax`,
when the helpers commute with the mirror as the hydrodynamic ones do. -/
theorem tvdlfFace_mirror_swap (DIR : Dir) (vL vR : Fin ph.nvar → ℝ)
    (consMirror : ∀ v, ph.primToCons (mirror (ph.vx DIR) v) (gamma - 1) =
      mirror (ph.vx DIR) (ph.primToCons v (gamma - 1)))
    (fluxMirror : ∀ v, ph.flux (mirror (ph.vx DIR) v)
        (ph.primToCons (mirror (ph.vx DIR) v) (gamma - 1)) C2Iso (ph.vx DIR) =
      -mirror (ph.vx DIR) (ph.flux v (ph.primToCons v (gamma - 1)) C2Iso (ph.vx DIR))) :
    let Xn := ph.vx DIR
    let face := tvdlfFace ph gamma C2Iso Xn vL vR
    tvdlfFace ph gamma C2Iso Xn (mirror Xn vR) (mirror Xn vL) = (-mirror Xn face.1, face.2) := by
  intro Xn face
  have speed : waveSpeed ph gamma C2Iso Xn (average ph (mirror Xn vR) (mirror Xn vL)) =
      waveSpeed ph gamma C2Iso Xn (average ph vL vR) := by
    rw [average_mirror, waveSpeed_eq_signalSpeed, waveSpeed_eq_signalSpeed, signalSpeed_mirror]
  simp only [face, tvdlfFace, speed, Prod.mk.injEq, and_true]
  rw [fluxMirror, fluxMirror, consMirror, consMirror]
  funext nv
  by_cases normal : nv = Xn <;> simp [mirror, normal] <;> ring

theorem hydroPhysics_primToCons_mirror (DIR : Dir) (v : Fin hydroPhysics.nvar → ℝ) (gamma_m1 : ℝ) :
    hydroPhysics.primToCons (mirror (hydroPhysics.vx DIR) v) gamma_m1 =
      mirror (hydroPhysics.vx DIR) (hydroPhysics.primToCons v gamma_m1) := by
  have rho : (0 : Fin 5) ≠ hydroPhysics.vx DIR := (hydroPhysics.vx_ne_rho DIR).symm
  have prs : (4 : Fin 5) ≠ hydroPhysics.vx DIR := (hydroPhysics.vx_ne_prs DIR).symm
  refine funext fun (nv : Fin 5) => ?_
  generalize hydroPhysics.vx DIR = Xn at rho prs ⊢
  fin_cases nv <;> simp [hydroPhysics, mirror, rho, prs, mul_ite, apply_ite (· ^ 2)]

theorem hydroPhysics_flux_mirror (DIR : Dir) (v : Fin hydroPhysics.nvar → ℝ) (gamma_m1 C2Iso : ℝ) :
    hydroPhysics.flux (mirror (hydroPhysics.vx DIR) v)
        (hydroPhysics.primToCons (mirror (hydroPhysics.vx DIR) v) gamma_m1) C2Iso (hydroPhysics.vx DIR) =
      -mirror (hydroPhysics.vx DIR)
        (hydroPhysics.flux v (hydroPhysics.primToCons v gamma_m1) C2Iso (hydroPhysics.vx DIR)) := by
  rw [hydroPhysics_primToCons_mirror]
  have prs : (4 : Fin 5) ≠ hydroPhysics.vx DIR := (hydroPhysics.vx_ne_prs DIR).symm
  generalize hydroPhysics.primToCons v gamma_m1 = u
  refine funext fun (nv : Fin 5) => ?_
  generalize hydroPhysics.vx DIR = Xn at prs ⊢
  by_cases normal : nv = Xn
  · subst normal
    simp [hydroPhysics, mirror, prs, prs.symm]
  · simp [hydroPhysics, mirror, normal, prs]
    split_ifs <;> ring

theorem tvdlfFace_mirror_swap_hydro :
    let Xn := hydroPhysics.vx iDir
    let vL : Fin 5 → ℝ := ![1, 1, 0, 0, 1]
    let vR : Fin 5 → ℝ := ![2, 1 / 2, 1, 0, 3]
    let face := tvdlfFace hydroPhysics (5 / 3) 1 Xn vL vR
    (∀ v, hydroPhysics.primToCons (mirror Xn v) (5 / 3 - 1) =
        mirror Xn (hydroPhysics.primToCons v (5 / 3 - 1))) ∧
      (∀ v, hydroPhysics.flux (mirror Xn v) (hydroPhysics.primToCons (mirror Xn v) (5 / 3 - 1)) 1
          Xn = -mirror Xn (hydroPhysics.flux v (hydroPhysics.primToCons v (5 / 3 - 1)) 1 Xn)) ∧
      tvdlfFace hydroPhysics (5 / 3) 1 Xn (mirror Xn vR) (mirror Xn vL) =
        (-mirror Xn face.1, face.2) :=
  ⟨fun v => hydroPhysics_primToCons_mirror iDir v _, fun v => hydroPhysics_flux_mirror iDir v _ _,
    tvdlfFace_mirror_swap hydroPhysics (5 / 3) 1 iDir ![1, 1, 0, 0, 1] ![2, 1 / 2, 1, 0, 3]
      (fun v => hydroPhysics_primToCons_mirror iDir v _) (fun v => hydroPhysics_flux_mirror iDir v _ _)⟩

end

end Idefix

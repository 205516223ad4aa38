import Mathlib.Logic.Function.Basic
import Mathlib.Data.List.Perm.Basic

/-!
# `idefix_for` as a sequential loop

`idefix_for(name, kb, ke, jb, je, ib, ie, lambda)` runs `lambda` once at every index of a
rectangular range and leaves the order to Kokkos. A launch is modelled as a fold of the
lambda over a schedule, the indices of the range in one order. The two lemmas at the end
describe a lambda that stores, at its own index, a value read only from arrays that the
lambda never writes: after any schedule the array holds that value exactly at the scheduled
indices, and every other array is untouched. Order independence of all kernels of the
model is derived from them.
-/

namespace Idefix.Kernel

set_option autoImplicit false

abbrev Idx3 := ℕ × ℕ × ℕ

def idefixFor {σ ι : Type*} (body : ι → σ → σ) (schedule : List ι) (st : σ) : σ :=
  schedule.foldl (fun st p => body p st) st

def range1 (b e : ℕ) : List ℕ := List.range' b (e - b)

def range3 (kb ke jb je ib ie : ℕ) : List Idx3 :=
  (range1 kb ke).flatMap fun k =>
    (range1 jb je).flatMap fun j => (range1 ib ie).map fun i => (k, j, i)

@[simp] theorem mem_range1 {b e i : ℕ} : i ∈ range1 b e ↔ b ≤ i ∧ i < e := by
  simp only [range1, List.mem_range'_1]
  omega

@[simp] theorem mem_range3 {kb ke jb je ib ie : ℕ} {p : Idx3} :
    p ∈ range3 kb ke jb je ib ie ↔
      (kb ≤ p.1 ∧ p.1 < ke) ∧ (jb ≤ p.2.1 ∧ p.2.1 < je) ∧ (ib ≤ p.2.2 ∧ p.2.2 < ie) := by
  obtain ⟨k, j, i⟩ := p
  simp only [range3, List.mem_flatMap, List.mem_map, mem_range1, Prod.mk.injEq]
  constructor
  · rintro ⟨k, kIn, j, jIn, i, iIn, rfl, rfl, rfl⟩
    exact ⟨kIn, jIn, iIn⟩
  · rintro ⟨kIn, jIn, iIn⟩
    exact ⟨k, kIn, j, jIn, i, iIn, rfl, rfl, rfl⟩

@[simp] theorem idefixFor_nil {σ ι : Type*} (body : ι → σ → σ) (st : σ) :
    idefixFor body [] st = st := rfl

@[simp] theorem idefixFor_cons {σ ι : Type*} (body : ι → σ → σ) (p : ι) (rest : List ι)
    (st : σ) : idefixFor body (p :: rest) st = idefixFor body rest (body p st) := rfl

def overwrite {ι α : Type*} [DecidableEq ι] (schedule : List ι) (value old : ι → α) : ι → α :=
  fun q => if q ∈ schedule then value q else old q

theorem overwrite_apply {ι α : Type*} [DecidableEq ι] (schedule : List ι) (value old : ι → α)
    (q : ι) : overwrite schedule value old q = if q ∈ schedule then value q else old q := rfl

theorem overwrite_perm {ι α : Type*} [DecidableEq ι] {schedule other : List ι}
    (reordered : schedule.Perm other) (value old : ι → α) :
    overwrite schedule value old = overwrite other value old := by
  funext q
  simp only [overwrite_apply, reordered.mem_iff]

theorem overwrite_cons {ι α : Type*} [DecidableEq ι] (p : ι) (schedule : List ι)
    (value old : ι → α) :
    overwrite (p :: schedule) value old =
      overwrite schedule value (Function.update old p (value p)) := by
  funext q
  by_cases own : q = p
  · subst own
    simp [overwrite_apply]
  · simp [overwrite_apply, own]

@[simp] theorem overwrite_nil {ι α : Type*} [DecidableEq ι] (value old : ι → α) :
    overwrite [] value old = old := rfl

theorem idefixFor_eq_of_step {σ ι : Type*} (body : ι → σ → σ) (effect : List ι → σ → σ)
    (nil : ∀ st, effect [] st = st) (step : ∀ p rest st, effect rest (body p st) = effect (p :: rest) st)
    (schedule : List ι) (st : σ) : idefixFor body schedule st = effect schedule st := by
  induction schedule generalizing st with
  | nil => exact (nil st).symm
  | cons p rest ih => rw [idefixFor_cons, ih, step]

section Stores

variable {σ ι α β : Type*} (body : ι → σ → σ)

theorem get_idefixFor [DecidableEq ι] (get : σ → ι → α) (value : σ → ι → α)
    (stores : ∀ p st, get (body p st) = Function.update (get st) p (value st p))
    (reads : ∀ p st, value (body p st) = value st) (schedule : List ι) (st : σ) :
    get (idefixFor body schedule st) = overwrite schedule (value st) (get st) := by
  induction schedule generalizing st with
  | nil => funext q; simp [overwrite_apply]
  | cons p rest ih =>
    funext q
    rw [idefixFor_cons, ih, stores, reads, overwrite_apply, overwrite_apply]
    by_cases own : q = p
    · subst own
      simp
    · simp [own, Function.update_noteq]

theorem frame_idefixFor (other : σ → β) (keeps : ∀ p st, other (body p st) = other st)
    (schedule : List ι) (st : σ) : other (idefixFor body schedule st) = other st := by
  induction schedule generalizing st with
  | nil => rfl
  | cons p rest ih => rw [idefixFor_cons, ih, keeps]

end Stores

section Launches

variable {K σ α γ : Type*} (launch : K → σ → σ)

theorem get_foldl_of_keeps (get : σ → α) (order : List K)
    (keeps : ∀ κ ∈ order, ∀ s, get (launch κ s) = get s) (st : σ) :
    get (order.foldl (fun s κ => launch κ s) st) = get st := by
  induction order generalizing st with
  | nil => rfl
  | cons κ rest ih =>
    rw [List.foldl_cons, ih (fun κ' mem => keeps κ' (List.mem_cons_of_mem κ mem)),
      keeps κ (List.mem_cons_self κ rest)]

theorem get_foldl_single_writer [DecidableEq K] (inv : σ → γ) (get : σ → α) (writer : K)
    (result : γ → α → α) (keepsInv : ∀ κ s, inv (launch κ s) = inv s)
    (keepsGet : ∀ κ, κ ≠ writer → ∀ s, get (launch κ s) = get s)
    (writes : ∀ s, get (launch writer s) = result (inv s) (get s))
    (order : List K) (once : order.count writer = 1) (st : σ) :
    get (order.foldl (fun s κ => launch κ s) st) = result (inv st) (get st) := by
  induction order generalizing st with
  | nil => simp at once
  | cons κ rest ih =>
    rw [List.foldl_cons]
    by_cases first : κ = writer
    · subst first
      have absent : κ ∉ rest := List.count_eq_zero.mp (by simpa using once)
      rw [get_foldl_of_keeps launch get rest
        (fun κ' mem => keepsGet κ' (fun same => absent (same ▸ mem))), writes]
    · rw [ih (by simpa [List.count_cons, first] using once), keepsInv, keepsGet κ first]

end Launches

end Idefix.Kernel

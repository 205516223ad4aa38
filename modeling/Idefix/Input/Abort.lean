import Mathlib.Data.List.Basic
import Mathlib.Order.Lattice

/-!
# `CheckForAbort`: an abort request reaches every process

`Input::Input` installs `signalHandler` for `SIGUSR2`, and the handler sets the static
`abortRequested` of the process it interrupts. With `WITH_MPI`, `CheckForAbort` is collective:
every process hands its `abortValue`, `1` when its flag is set, to `MPI_Allreduce` with
`MPI_MAX`, and every process gets the largest back. A run is any interleaving of signals and
calls over the processes; the `k`-th call of a process is its part in the `k`-th reduction.

Over every run, the `k`-th reduction aborts exactly when some process was signalled before it
made its `k`-th call, and once one reduction aborts, every later one does: no process ever
clears its flag. Every process gets the same answer, since one reduction serves them all.
-/

namespace Idefix.Input

set_option autoImplicit false

/-- What happens to a process in a run: `SIGUSR2` reaches it, or it calls `CheckForAbort`. -/
inductive AbortEvent (π : Type)
  | signal (rank : π)
  | check (rank : π)
  deriving DecidableEq

/-- Each process's static `abortRequested`, and the `abortValue` it has handed to each
`MPI_Allreduce` so far, in order. -/
structure AbortState (π : Type) where
  abortRequested : π → Bool
  sent : π → List ℤ

variable {π : Type} [DecidableEq π]

/-- `bool Input::abortRequested = false;` on every process, before any reduction. -/
def AbortState.init : AbortState π := ⟨fun _ => false, fun _ => []⟩

/-- `signalHandler`: `abortRequested=true`. The message it prints is left out. -/
def signalHandler (st : AbortState π) (rank : π) : AbortState π :=
  { st with abortRequested := Function.update st.abortRequested rank true }

/-- `int abortValue{0}; if(abortRequested) abortValue = 1;` -/
def abortValue (abortRequested : Bool) : ℤ := if abortRequested then 1 else 0

/-- The part of `CheckForAbort` a process runs when it calls it: it hands its `abortValue` to the
next `MPI_Allreduce`. -/
def enterCheck (st : AbortState π) (rank : π) : AbortState π :=
  let value := abortValue (st.abortRequested rank)
  { st with sent := Function.update st.sent rank (st.sent rank ++ [value]) }

def abortStep (st : AbortState π) : AbortEvent π → AbortState π
  | .signal rank => signalHandler st rank
  | .check rank => enterCheck st rank

/-- The state after a run, from the start of the program. -/
def abortRun (events : List (AbortEvent π)) : AbortState π := events.foldl abortStep .init

/-- `MPI_Allreduce` with `MPI_MAX` on values that are `0` or `1`. -/
def allreduceMax (values : List ℤ) : ℤ := values.foldr max 0

/-- `CheckForAbort` with `WITH_MPI`: what every process of `MPI_COMM_WORLD`, the processes
`ranks`, gets back from its `k`-th call (counting from `0`), `returnValue = abortValue > 0`
after the reduction; `none` while some process has not made its `k`-th call. The message it
prints is left out. -/
def checkForAbort (ranks : List π) (st : AbortState π) (k : ℕ) : Option Bool :=
  if ranks.all fun rank => k < (st.sent rank).length then
    some (decide (0 < allreduceMax (ranks.map fun rank => (st.sent rank).getD k 0)))
  else none

@[simp] theorem abortRequested_abortStep (st : AbortState π) (e : AbortEvent π) (rank : π) :
    (abortStep st e).abortRequested rank =
      (st.abortRequested rank || decide (e = .signal rank)) := by
  cases e with
  | signal r => by_cases same : rank = r <;> simp [abortStep, signalHandler, same, Ne.symm]
  | check r => simp [abortStep, enterCheck]

@[simp] theorem sent_abortStep (st : AbortState π) (e : AbortEvent π) (rank : π) :
    (abortStep st e).sent rank =
      if e = .check rank then st.sent rank ++ [abortValue (st.abortRequested rank)]
      else st.sent rank := by
  cases e with
  | signal r => simp [abortStep, signalHandler]
  | check r => by_cases same : rank = r <;> simp [abortStep, enterCheck, same, eq_comm]

theorem abortRun_append (events : List (AbortEvent π)) (e : AbortEvent π) :
    abortRun (events ++ [e]) = abortStep (abortRun events) e := by
  simp only [abortRun, List.foldl_append, List.foldl_cons, List.foldl_nil]

theorem exists_count_eq {α : Type} [DecidableEq α] (c : α) :
    ∀ (l : List α) (k : ℕ), k < l.count c →
      ∃ pre post, l = pre ++ c :: post ∧ pre.count c = k
  | [], _, more => absurd more (by simp)
  | a :: l, k, more => by
    by_cases same : a = c
    · subst same
      cases k with
      | zero => exact ⟨[], l, rfl, rfl⟩
      | succ k =>
        obtain ⟨pre, post, split, count⟩ :=
          exists_count_eq a l k (by simpa [List.count_cons_self] using more)
        exact ⟨a :: pre, post, by rw [split, List.cons_append], by simp [count]⟩
    · obtain ⟨pre, post, split, count⟩ :=
        exists_count_eq c l k (by simpa [List.count_cons, same] using more)
      exact ⟨a :: pre, post, by rw [split, List.cons_append],
        by rw [List.count_cons_of_ne (Ne.symm same), count]⟩

theorem append_singleton_eq_append_cons {α : Type} {l pre post : List α} {c e : α}
    (split : l ++ [e] = pre ++ c :: post) :
    (pre = l ∧ c = e ∧ post = []) ∨ ∃ rest, l = pre ++ c :: rest ∧ post = rest ++ [e] := by
  rcases List.eq_nil_or_concat post with rfl | ⟨rest, b, rfl⟩
  · obtain ⟨front, last⟩ := List.append_inj' split rfl
    exact .inl ⟨front.symm, by simpa using last.symm, rfl⟩
  · rw [List.concat_eq_append, show pre ++ c :: (rest ++ [b]) = (pre ++ c :: rest) ++ [b] by simp]
      at split
    obtain ⟨front, last⟩ := List.append_inj' split rfl
    exact .inr ⟨rest, front, by simpa using last.symm⟩

/-- What the state of every run records, for every process: its flag is set exactly when it has
been signalled, it has made one contribution per call, and the contribution of its `k`-th call
is `1` exactly when it was signalled before that call. -/
structure AbortInvariant (events : List (AbortEvent π)) (rank : π) : Prop where
  flag : (abortRun events).abortRequested rank = decide (.signal rank ∈ events)
  length : ((abortRun events).sent rank).length = events.count (.check rank)
  sent : ∀ pre post, events = pre ++ .check rank :: post →
    ((abortRun events).sent rank)[pre.count (.check rank)]? =
      some (abortValue (decide (.signal rank ∈ pre)))

theorem abortInvariant_nil (rank : π) : AbortInvariant ([] : List (AbortEvent π)) rank where
  flag := rfl
  length := rfl
  sent pre post split := absurd split.symm (by simp)

theorem AbortInvariant.append {events : List (AbortEvent π)} {rank : π}
    (inv : AbortInvariant events rank) (e : AbortEvent π) : AbortInvariant (events ++ [e]) rank where
  flag := by
    rw [abortRun_append, abortRequested_abortStep, inv.flag]
    by_cases signalled : e = .signal rank <;> simp [signalled, eq_comm]
  length := by
    rw [abortRun_append, sent_abortStep]
    by_cases called : e = .check rank <;> simp [called, inv.length, List.count_singleton', eq_comm]
  sent pre post split := by
    rw [abortRun_append, sent_abortStep]
    rcases append_singleton_eq_append_cons split with ⟨rfl, rfl, -⟩ | ⟨rest, earlier, -⟩
    · simp [← inv.length, inv.flag]
    · have before : pre.count (.check rank) < ((abortRun events).sent rank).length := by
        rw [inv.length, earlier, List.count_append, List.count_cons_self]
        omega
      have kept := inv.sent pre rest earlier
      split_ifs <;> simp [List.getElem?_append_left before, kept]

theorem abortInvariant (events : List (AbortEvent π)) (rank : π) : AbortInvariant events rank := by
  induction events using List.reverseRecOn with
  | nil => exact abortInvariant_nil rank
  | append_singleton events e ih => exact ih.append e

theorem allreduceMax_pos {values : List ℤ} : 0 < allreduceMax values ↔ ∃ v ∈ values, 0 < v := by
  induction values with
  | nil => simp [allreduceMax]
  | cons v rest ih =>
    rw [allreduceMax, List.foldr_cons, lt_sup_iff, ← allreduceMax, ih]
    simp

theorem abortValue_pos {b : Bool} : 0 < abortValue b ↔ b = true := by
  cases b <;> simp [abortValue]

def SignalledBefore (events : List (AbortEvent π)) (rank : π) (k : ℕ) : Prop :=
  ∃ pre post, events = pre ++ .check rank :: post ∧ pre.count (.check rank) = k ∧
    .signal rank ∈ pre

theorem SignalledBefore.later {events : List (AbortEvent π)} {rank : π} {k k' : ℕ}
    (signalled : SignalledBefore events rank k) (later : k ≤ k')
    (calls : k' < events.count (.check rank)) : SignalledBefore events rank k' := by
  obtain ⟨pre, post, split, count, signal⟩ := signalled
  rcases later.lt_or_eq with later | rfl
  · have more : k' - k - 1 < post.count (.check rank) := by
      rw [split, List.count_append, List.count_cons_self] at calls
      omega
    obtain ⟨between, rest, tail, between_count⟩ := exists_count_eq _ post _ more
    refine ⟨pre ++ .check rank :: between, rest, ?_, ?_, List.mem_append_left _ signal⟩
    · rw [split, tail, List.append_assoc, List.cons_append]
    · rw [List.count_append, List.count_cons_self, between_count]
      omega
  · exact ⟨pre, post, split, count, signal⟩

theorem sent_pos_iff (events : List (AbortEvent π)) (rank : π) {k : ℕ}
    (called : k < events.count (.check rank)) :
    0 < ((abortRun events).sent rank).getD k 0 ↔ SignalledBefore events rank k := by
  have inv := abortInvariant events rank
  constructor
  · intro positive
    obtain ⟨pre, post, split, count⟩ := exists_count_eq _ events k called
    have stored := inv.sent pre post split
    rw [count] at stored
    rw [List.getD_eq_getElem?_getD, stored, Option.getD_some, abortValue_pos] at positive
    exact ⟨pre, post, split, count, of_decide_eq_true positive⟩
  · rintro ⟨pre, post, split, rfl, signalled⟩
    rw [List.getD_eq_getElem?_getD, inv.sent pre post split, Option.getD_some, abortValue_pos]
    exact decide_eq_true signalled

variable (ranks : List π) (events : List (AbortEvent π))

theorem isSome_checkForAbort (k : ℕ) : (checkForAbort ranks (abortRun events) k).isSome ↔
    ∀ rank ∈ ranks, k < events.count (.check rank) := by
  unfold checkForAbort
  split_ifs with all <;> simpa [(abortInvariant events _).length] using all

theorem checkForAbort_eq_some {k : ℕ} {b : Bool}
    (result : checkForAbort ranks (abortRun events) k = some b) :
    b = true ↔ ∃ rank ∈ ranks, SignalledBefore events rank k := by
  unfold checkForAbort at result
  split_ifs at result with all
  simp only [List.all_eq_true, decide_eq_true_eq, (abortInvariant events _).length] at all
  rw [← Option.some.inj result, decide_eq_true_iff, allreduceMax_pos]
  simp only [List.mem_map, exists_exists_and_eq_and]
  exact exists_congr fun rank => and_congr_right fun mem => sent_pos_iff events rank (all rank mem)

/-- Over every run: the `k`-th reduction of `CheckForAbort` completes exactly when every process
has made its `k`-th call; it then tells every process to abort exactly when some process was
signalled before its own `k`-th call; and once one reduction aborts, every later one that
completes aborts too. -/
theorem checkForAbort_run (ranks : List π) (events : List (AbortEvent π)) (k : ℕ) :
    ((checkForAbort ranks (abortRun events) k).isSome ↔
        ∀ rank ∈ ranks, k < events.count (.check rank)) ∧
      (∀ b, checkForAbort ranks (abortRun events) k = some b →
        (b = true ↔ ∃ rank ∈ ranks, SignalledBefore events rank k)) ∧
      (checkForAbort ranks (abortRun events) k = some true →
        ∀ k', k ≤ k' → checkForAbort ranks (abortRun events) k' ≠ some false) := by
  refine ⟨isSome_checkForAbort ranks events k, fun b => checkForAbort_eq_some ranks events,
    fun aborts k' later stops => ?_⟩
  obtain ⟨rank, mem, signalled⟩ := (checkForAbort_eq_some ranks events aborts).mp rfl
  have calls := (isSome_checkForAbort ranks events k').mp (by simp [stops]) rank mem
  exact Bool.false_ne_true
    ((checkForAbort_eq_some ranks events stops).mpr ⟨rank, mem, signalled.later later calls⟩)

theorem checkForAbort_run_twoRanks :
    let events : List (AbortEvent ℕ) := [.check 0, .signal 1, .check 1, .check 0, .check 1]
    checkForAbort [0, 1] (abortRun events) 0 = some true ∧
      ((checkForAbort [0, 1] (abortRun events) 0).isSome ↔
          ∀ rank ∈ [0, 1], 0 < events.count (.check rank)) ∧
        (∀ b, checkForAbort [0, 1] (abortRun events) 0 = some b →
          (b = true ↔ ∃ rank ∈ [0, 1], SignalledBefore events rank 0)) ∧
        (checkForAbort [0, 1] (abortRun events) 0 = some true →
          ∀ k', 0 ≤ k' → checkForAbort [0, 1] (abortRun events) k' ≠ some false) :=
  ⟨by decide, checkForAbort_run [0, 1] [.check 0, .signal 1, .check 1, .check 0, .check 1] 0⟩

end Idefix.Input

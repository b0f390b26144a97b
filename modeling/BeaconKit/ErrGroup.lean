import BeaconKit.Primitives
import Mathlib.Data.List.FinRange

/-!
# `errgroup.Group` with a cancellable context

`errgroup.WithContext` returns a group and a context derived from the caller's.  `Go` runs a
function in a new goroutine; the first goroutine that returns a non-nil error records it,
under a `sync.Once`, and cancels the context.  `Wait` blocks until every goroutine launched
so far has returned, cancels the context, and returns the recorded error.

The group is modelled by its recorded error and the state of its context.  A wave, some
calls of `Go` followed by one `Wait`, is given by its goroutines and the order `σ` in which
they return: the goroutines run concurrently, so every permutation is a possible schedule.
What a goroutine does to the world is the list of collaborator calls it makes; a wave lists
them goroutine by goroutine, in return order.

`runWave_err` says that `Wait` returns the error recorded before the wave if there is one,
and otherwise the error of the first goroutine to fail in return order.  The lemmas after it
drop the order, so they hold under every schedule.
-/

namespace BeaconKit

/-- An `errgroup.Group` made by `errgroup.WithContext`: the recorded error and whether the
group's context is cancelled. -/
structure Group where
  err : Option Error
  cancelled : Bool
  deriving DecidableEq, Repr

/-- A function handed to `Go`: the collaborator calls it makes and the error it returns. -/
abbrev Goroutine (α : Type) := List α × Option Error

namespace Group

/-- `errgroup.WithContext`: nothing recorded, the context live. -/
def withContext : Group := ⟨none, false⟩

/-- A goroutine of the group returns `r`: the first non-nil error is recorded, once, and
cancels the context. -/
def done (g : Group) : Option Error → Group
  | none => g
  | some err =>
    match g.err with
    | none => ⟨some err, true⟩
    | some _ => g

/-- `Wait`, once the goroutines have returned `rs` in this order: cancel the context and
return the recorded error. -/
def wait (g : Group) (rs : List (Option Error)) : Group × Option Error :=
  let g := rs.foldl done g
  ({ g with cancelled := true }, g.err)

/-- One wave: the goroutines `fs` are launched with `Go` and return in the order `σ`, then
`Wait` runs.  The calls of the wave, the group after it, and what `Wait` returned. -/
def runWave {α : Type} {n : Nat} (g : Group) (fs : Fin n → Goroutine α)
    (σ : Equiv.Perm (Fin n)) : List α × Group × Option Error :=
  let order := List.ofFn (fs ∘ σ)
  let (g, err) := g.wait (order.map Prod.snd)
  ((order.map Prod.fst).flatten, g, err)

theorem foldl_done_err (g : Group) (rs : List (Option Error)) :
    (rs.foldl done g).err = g.err.or (rs.findSome? id) := by
  induction rs generalizing g with
  | nil => simp
  | cons r rs ih =>
    rw [List.foldl_cons, ih]
    cases r with
    | none => simp [done]
    | some err => cases h : g.err <;> simp [done, h]

variable {α : Type} {n : Nat} (g : Group) (fs : Fin n → Goroutine α) (σ : Equiv.Perm (Fin n))

/-- **What `Wait` returns**: the error recorded before the wave, else the first error of the
wave in return order. -/
theorem runWave_err :
    (g.runWave fs σ).2.2 = g.err.or ((List.ofFn (fs ∘ σ)).findSome? Prod.snd) := by
  simp only [runWave, wait, foldl_done_err, List.findSome?_map, Function.id_comp]

/-- After a wave the group holds the error `Wait` returned, and its context is cancelled. -/
theorem runWave_group : (g.runWave fs σ).2.1 = ⟨(g.runWave fs σ).2.2, true⟩ := rfl

/-- `Wait` returns nil exactly when nothing was recorded before and no goroutine of the wave
failed, under every schedule. -/
theorem runWave_err_eq_none_iff :
    (g.runWave fs σ).2.2 = none ↔ g.err = none ∧ ∀ i, (fs i).2 = none := by
  rw [runWave_err, Option.or_eq_none, List.findSome?_eq_none_iff]
  simp only [List.mem_ofFn, Set.mem_range, Function.comp_apply, forall_exists_index,
    forall_apply_eq_imp_iff]
  exact and_congr_right fun _ => ⟨fun h i => by simpa using h (σ.symm i), fun h i => h (σ i)⟩

/-- An error `Wait` returns was recorded before the wave or returned by one of its
goroutines, under every schedule. -/
theorem runWave_err_mem {e : Error} (h : (g.runWave fs σ).2.2 = some e) :
    g.err = some e ∨ ∃ i, (fs i).2 = some e := by
  rw [runWave_err] at h
  cases hg : g.err with
  | some e' => simp_all
  | none =>
    simp only [hg, Option.none_or] at h
    obtain ⟨f, hf, he⟩ := List.exists_of_findSome?_eq_some h
    obtain ⟨i, rfl⟩ := (List.mem_ofFn _ _).mp hf
    exact .inr ⟨σ i, he⟩

/-- The calls of a wave are those of its goroutines, under every schedule, up to order. -/
theorem runWave_calls_perm :
    (g.runWave fs σ).1.Perm ((List.ofFn fs).map Prod.fst).flatten :=
  ((σ.ofFn_comp_perm fs).map Prod.fst).flatten

end Group

end BeaconKit

import ForgeBoard.Proofs.Client.Cells
import Mathlib.Data.List.Induction
import Mathlib.Logic.Function.Basic
import Mathlib.Logic.Function.Iterate

/-!
# Programs side by side

Clients work side by side on the caches they share. A `Pool` is a family of tasks, each with a
network of its own, that take turns as a schedule says. A turn is one step: one request and its
reply, one sleep, or one use of the caches. A task that is done lets its turns pass.

* `Task.alone_eq_play`: enough turns carry a task on its own to the end, with the result, the
  exchanges and the caches of `Program.play`.
* `Pool.run_eq_alone`: where no two tasks use a cell in common, each task goes step by step as it
  goes on its own, whatever the schedule.
-/

namespace ForgeBoard

open Http Program

/-- What answers requests, in view of the exchanges before. -/
abbrev Network := List Exchange → Request → Reply

/-- A program under way: what is left of it, and its exchanges so far. -/
structure Task (α : Type) where
  rest : Program α
  log : List Exchange

namespace Task

variable {α : Type}

/-- A program before its first step. -/
def ofProgram (p : Program α) : Task α :=
  ⟨p, []⟩

/-- The result of a task that is done. -/
def result? (t : Task α) : Option α :=
  match t.rest with
  | .done a => some a
  | _ => none

/-- One turn. -/
def step (network : Network) : Task α × Caches → Task α × Caches
  | (⟨.done a, log⟩, caches) => (⟨.done a, log⟩, caches)
  | (⟨.send request next, log⟩, caches) =>
    (⟨next (network log request), log ++ [(request, network log request)]⟩, caches)
  | (⟨.sleep _ next, log⟩, caches) => (⟨next, log⟩, caches)
  | (⟨.access change next, log⟩, caches) => (⟨next caches, log⟩, change caches)

/-- A task after so many turns on its own. -/
def alone (network : Network) (turns : Nat) (t : Task α) (caches : Caches) : Task α × Caches :=
  (step network)^[turns] (t, caches)

variable {network : Network} {t : Task α} {caches caches' : Caches} {region : Set Cell}

/-! ## One turn -/

theorem keepsTo_step (h : t.rest.KeepsTo region) (network : Network) (caches : Caches) :
    (step network (t, caches)).1.rest.KeepsTo region := by
  obtain ⟨rest, log⟩ := t
  cases rest with
  | done a => exact h
  | send request next => exact h _
  | sleep ms next => exact h
  | access change next => exact h.2 caches

/-- A turn changes no cell outside of the region. -/
theorem agree_step (h : t.rest.KeepsTo region) (network : Network) (caches : Caches) :
    Caches.Agree regionᶜ (step network (t, caches)).2 caches := by
  obtain ⟨rest, log⟩ := t
  cases rest with
  | done | send | sleep => exact .refl _ _
  | access change next => exact h.1.outside caches

/-- A turn does not depend on cells outside of the region. -/
theorem step_congr (h : t.rest.KeepsTo region) (network : Network)
    (hagree : Caches.Agree region caches caches') :
    (step network (t, caches)).1 = (step network (t, caches')).1 ∧
      Caches.Agree region (step network (t, caches)).2 (step network (t, caches')).2 := by
  obtain ⟨rest, log⟩ := t
  cases rest with
  | done | send | sleep => exact ⟨rfl, hagree⟩
  | access change next =>
    exact ⟨congrArg (Task.mk · log) (h.1.result _ _ hagree), h.1.inside _ _ hagree⟩

theorem alone_succ (network : Network) (turns : Nat) (t : Task α) (caches : Caches) :
    alone network (turns + 1) t caches =
      step network ((alone network turns t caches).1, (alone network turns t caches).2) :=
  Function.iterate_succ_apply' ..

theorem keepsTo_alone (h : t.rest.KeepsTo region) (network : Network) (turns : Nat)
    (caches : Caches) : (alone network turns t caches).1.rest.KeepsTo region := by
  induction turns with
  | zero => exact h
  | succ turns ih =>
    rw [alone_succ]
    exact keepsTo_step ih network _

/-! ## To the end -/

theorem alone_done (network : Network) (turns : Nat) (a : α) (log : List Exchange)
    (caches : Caches) :
    alone network turns ⟨.done a, log⟩ caches = (⟨.done a, log⟩, caches) :=
  Function.iterate_fixed rfl turns

/-- **Enough turns carry a task to its end**, and then it has come to what `Program.play` says. -/
theorem alone_eq_play (network : Network) (p : Program α) (caches : Caches) :
    ∃ enough, ∀ turns, enough ≤ turns →
      alone network turns (ofProgram p) caches =
        (⟨.done (p.play network caches).1.1, (p.play network caches).2⟩,
          (p.play network caches).1.2) := by
  have hfrom : ∀ before, ∃ enough, ∀ turns, enough ≤ turns →
      alone network turns ⟨p, before⟩ caches =
        (fun r : (α × Caches) × List Exchange => (⟨.done r.1.1, r.2⟩, r.1.2))
          ((p.run (play.deliver network) (fun _ => pure ()) caches).run before) := by
    induction p generalizing caches with
    | done a => exact fun before => ⟨0, fun turns _ => alone_done network turns a before caches⟩
    | send request next ih =>
      intro before
      obtain ⟨enough, h⟩ := ih (network before request) caches
        (before ++ [(request, network before request)])
      refine ⟨enough + 1, fun turns hturns => ?_⟩
      obtain ⟨turns, rfl⟩ := Nat.exists_eq_add_of_le' hturns
      exact h _ (Nat.le_add_left _ _)
    | sleep ms next ih =>
      intro before
      obtain ⟨enough, h⟩ := ih caches before
      refine ⟨enough + 1, fun turns hturns => ?_⟩
      obtain ⟨turns, rfl⟩ := Nat.exists_eq_add_of_le' hturns
      exact h _ (Nat.le_add_left _ _)
    | access change next ih =>
      intro before
      obtain ⟨enough, h⟩ := ih caches (change caches) before
      refine ⟨enough + 1, fun turns hturns => ?_⟩
      obtain ⟨turns, rfl⟩ := Nat.exists_eq_add_of_le' hturns
      exact h _ (Nat.le_add_left _ _)
  exact hfrom []

/-- A task that is done on its own has come to what `Program.play` says. -/
theorem result_of_alone {network : Network} {p : Program α} {caches : Caches} {turns : Nat} {a : α}
    (h : (alone network turns (ofProgram p) caches).1.result? = some a) :
    a = (p.play network caches).1.1 := by
  obtain ⟨enough, hplay⟩ := alone_eq_play network p caches
  have hlater := hplay (enough + turns) (Nat.le_add_right _ _)
  rw [alone, Function.iterate_add_apply] at hlater
  change alone network enough (alone network turns (ofProgram p) caches).1
    (alone network turns (ofProgram p) caches).2 = _ at hlater
  generalize alone network turns (ofProgram p) caches = now at h hlater
  obtain ⟨⟨rest, log⟩, caches'⟩ := now
  cases rest with
  | done b =>
    obtain rfl := Option.some.inj h
    rw [alone_done] at hlater
    have hrest := congrArg (fun r => r.1.result?) hlater
    exact Option.some.inj hrest
  | send | sleep | access => exact absurd h nofun

end Task

/-! ## Pools -/

/-- Tasks that share caches. -/
structure Pool {ι : Type} (α : ι → Type) where
  tasks : ∀ k, Task (α k)
  caches : Caches

namespace Pool

variable {ι : Type} [DecidableEq ι] {α : ι → Type}

/-- Programs before their first steps. -/
def ofPrograms (programs : ∀ k, Program (α k)) (caches : Caches) : Pool α :=
  ⟨fun k => .ofProgram (programs k), caches⟩

/-- The turn of one task. -/
def step (networks : ι → Network) (p : Pool α) (k : ι) : Pool α :=
  let moved := Task.step (networks k) (p.tasks k, p.caches)
  ⟨Function.update p.tasks k moved.1, moved.2⟩

/-- Turns in the order of a schedule. -/
def run (networks : ι → Network) (p : Pool α) (schedule : List ι) : Pool α :=
  schedule.foldl (step networks) p

variable {networks : ι → Network} {p : Pool α} {region : ι → Set Cell}

@[simp]
theorem step_tasks_self (networks : ι → Network) (p : Pool α) (k : ι) :
    (p.step networks k).tasks k = (Task.step (networks k) (p.tasks k, p.caches)).1 :=
  Function.update_self ..

theorem step_tasks_of_ne (networks : ι → Network) (p : Pool α) {k l : ι} (h : l ≠ k) :
    (p.step networks k).tasks l = p.tasks l :=
  Function.update_of_ne h ..

@[simp]
theorem step_caches (networks : ι → Network) (p : Pool α) (k : ι) :
    (p.step networks k).caches = (Task.step (networks k) (p.tasks k, p.caches)).2 :=
  rfl

theorem run_append_singleton (networks : ι → Network) (p : Pool α) (schedule : List ι) (k : ι) :
    p.run networks (schedule ++ [k]) = (p.run networks schedule).step networks k := by
  rw [run, List.foldl_append]
  rfl

/-- **Tasks that have no cell in common do not influence each other.** By induction on the schedule,
whose last turn is the task's own or changes cells of another task. -/
theorem run_eq_alone (hregion : ∀ k l, k ≠ l → region k ⊆ (region l)ᶜ)
    (hp : ∀ k, (p.tasks k).rest.KeepsTo (region k)) (schedule : List ι) (k : ι) :
    (p.run networks schedule).tasks k =
        (Task.alone (networks k) (schedule.count k) (p.tasks k) p.caches).1 ∧
      Caches.Agree (region k) (p.run networks schedule).caches
        (Task.alone (networks k) (schedule.count k) (p.tasks k) p.caches).2 := by
  induction schedule using List.reverseRecOn generalizing k with
  | nil => exact ⟨rfl, .refl _ _⟩
  | append_singleton schedule l ih =>
    rw [run_append_singleton]
    have hl : ((p.run networks schedule).tasks l).rest.KeepsTo (region l) := by
      rw [(ih l).1]
      exact Task.keepsTo_alone (hp l) _ _ _
    obtain ⟨htask, hcaches⟩ := ih k
    by_cases hk : k = l
    · subst hk
      have hcount : (schedule ++ [k]).count k = schedule.count k + 1 := by simp
      rw [hcount, Task.alone_succ, step_tasks_self, step_caches, ← htask]
      exact Task.step_congr hl (networks k) hcaches
    · have hcount : (schedule ++ [l]).count k = schedule.count k := by
        simp [Ne.symm hk]
      rw [hcount, step_tasks_of_ne _ _ hk, step_caches]
      refine ⟨htask, fun cell hcell => ?_⟩
      have hother : cell ∈ (region l)ᶜ := hregion k l hk hcell
      exact (Task.agree_step hl (networks l) _ cell hother).trans (hcaches cell hcell)

/-! ## To the end -/

/-- All tasks are done. -/
def Finished (p : Pool α) : Prop :=
  ∀ k, ∃ a, (p.tasks k).result? = some a

variable {programs : ∀ k, Program (α k)} {caches : Caches}

/-- A task that is done has come to what its program comes to by itself. -/
theorem result_run (hregion : ∀ k l, k ≠ l → region k ⊆ (region l)ᶜ)
    (hprograms : ∀ k, (programs k).KeepsTo (region k)) {schedule : List ι} {k : ι} {a : α k}
    (h : (((ofPrograms programs caches).run networks schedule).tasks k).result? = some a) :
    a = ((programs k).play (networks k) caches).1.1 := by
  rw [(run_eq_alone hregion hprograms schedule k).1] at h
  exact Task.result_of_alone h

/-- **A schedule that gives each task turns enough finishes them all.** -/
theorem exists_enough (hregion : ∀ k l, k ≠ l → region k ⊆ (region l)ᶜ)
    (hprograms : ∀ k, (programs k).KeepsTo (region k)) (networks : ι → Network) (caches : Caches) :
    ∃ enough : ι → Nat, ∀ schedule : List ι, (∀ k, enough k ≤ schedule.count k) →
      ((ofPrograms programs caches).run networks schedule).Finished := by
  have hplay := fun k => Task.alone_eq_play (networks k) (programs k) caches
  refine ⟨fun k => (hplay k).choose, fun schedule hturns k => ?_⟩
  have hdone := (hplay k).choose_spec _ (hturns k)
  refine ⟨((programs k).play (networks k) caches).1.1, ?_⟩
  rw [(run_eq_alone hregion hprograms schedule k).1]
  exact congrArg (fun r => r.1.result?) hdone

end Pool

end ForgeBoard

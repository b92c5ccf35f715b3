import ForgeBoard.Client.Program

/-!
# What a program can end with

What a program gives depends on the replies it gets and on what it finds in the caches, which other
operations use as well. `Program.Ends` leaves both open: a program can end with a result if some
replies and some caches lead it there. What holds of every such result holds of every run,
whatever the forges answer and whatever else is going on.

* `ends_bind_iff`: a sequence ends with what its second part ends with, after some result of the
  first.
* `ends_run`: what a program gives when it is carried out is something it can end with.
* `Action.ends_bind_ok_iff`: the same for actions, which may fail.
-/

namespace ForgeBoard

open Http

namespace Program

variable {α β σ : Type}

/-- Some replies and some contents of the caches lead the program to the result. -/
inductive Ends : Program α → α → Prop where
  | done (a : α) : Ends (.done a) a
  | send {request : Request} {next : Reply → Program α} {a : α} (reply : Reply)
      (h : Ends (next reply) a) : Ends (.send request next) a
  | sleep {ms : Nat} {next : Program α} {a : α} (h : Ends next a) : Ends (.sleep ms next) a
  | access {change : Caches → Caches} {next : Caches → Program α} {a : α} (caches : Caches)
      (h : Ends (next caches) a) : Ends (.access change next) a

@[simp]
theorem ends_pure_iff {a b : α} : (pure a : Program α).Ends b ↔ b = a := by
  constructor
  · rintro ⟨⟩
    rfl
  · rintro rfl
    exact .done b

theorem ends_bind_iff {x : Program α} {f : α → Program β} {b : β} :
    (x >>= f).Ends b ↔ ∃ a, x.Ends a ∧ (f a).Ends b := by
  change (x.bind f).Ends b ↔ _
  constructor
  · intro h
    induction x with
    | done a => exact ⟨a, .done a, h⟩
    | send request next ih =>
      obtain ⟨reply, h⟩ : ∃ reply, ((next reply).bind f).Ends b := by
        cases h with | send reply h => exact ⟨reply, h⟩
      obtain ⟨a, ha, hb⟩ := ih reply h
      exact ⟨a, .send reply ha, hb⟩
    | sleep ms next ih =>
      obtain ⟨a, ha, hb⟩ := ih (by cases h with | sleep h => exact h)
      exact ⟨a, .sleep ha, hb⟩
    | access change next ih =>
      obtain ⟨caches, h⟩ : ∃ caches, ((next caches).bind f).Ends b := by
        cases h with | access caches h => exact ⟨caches, h⟩
      obtain ⟨a, ha, hb⟩ := ih caches h
      exact ⟨a, .access caches ha, hb⟩
  · rintro ⟨a, ha, hb⟩
    induction ha with
    | done a => exact hb
    | send reply _ ih => exact .send reply (ih hb)
    | sleep _ ih => exact .sleep (ih hb)
    | access caches _ ih => exact .access caches (ih hb)

/-- A program that is carried out ends with something it can end with. -/
theorem ends_run (deliver : Request → StateM σ Reply) (pause : Nat → StateM σ Unit)
    (p : Program α) (caches : Caches) (s : σ) :
    p.Ends ((p.run deliver pause caches).run s).1.1 := by
  induction p generalizing caches s with
  | done a => exact .done a
  | send request next ih => exact .send _ (ih _ caches _)
  | sleep ms next ih => exact .sleep (ih caches _)
  | access change next ih => exact .access caches (ih caches _ s)

end Program

namespace Action

variable {α β : Type}

@[simp]
theorem ends_pure_ok_iff {a b : α} : (pure a : Action α).run.Ends (.ok b) ↔ b = a := by
  rw [ExceptT.run_pure, Program.ends_pure_iff, Except.ok.injEq]

@[simp]
theorem not_ends_throw_ok {e : ClientError} {b : α} :
    ¬ (throw e : Action α).run.Ends (.ok b) := by
  rintro ⟨⟩

theorem ends_bind_ok_iff {x : Action α} {f : α → Action β} {b : β} :
    (x >>= f).run.Ends (.ok b) ↔ ∃ a, x.run.Ends (.ok a) ∧ (f a).run.Ends (.ok b) := by
  rw [ExceptT.run_bind, Program.ends_bind_iff]
  constructor
  · rintro ⟨a | a, ha, hb⟩
    · exact absurd (Program.ends_pure_iff.mp hb) nofun
    · exact ⟨a, ha, hb⟩
  · rintro ⟨a, ha, hb⟩
    exact ⟨.ok a, ha, hb⟩

end Action

end ForgeBoard

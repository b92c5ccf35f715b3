import ForgeBoard.Dashboard.Report
import ForgeBoard.Proofs.Client.Footprint
import ForgeBoard.Proofs.Client.Pool
import ForgeBoard.Proofs.Client.ScopedKey
import ForgeBoard.Proofs.Forge.Selection

/-!
# The instances of a section do not influence each other

The fetches of a section work side by side on the caches of the dashboard, one fetch for each
instance that the filter is routed to (`Dashboard.fetches`). Ids of instances occur in all keys, and
all instances are asked for the same project if any, so that fetches of different ids have no cell
in common (`Dashboard.footprint_apart`).

Result: `fetches_independent`.
-/

namespace ForgeBoard.Dashboard

open ForgeBoard.Filter Http Program

variable {d : Dashboard} {clock : Clock} {s : SectionConfig} {i j : Instance}

/-- The cells that the fetch of an instance uses. -/
def footprint (d : Dashboard) (clock : Clock) (s : SectionConfig) (i : Instance) : Set Cell :=
  GitLab.footprint d.settings clock.now s.filter i

theorem keepsTo_ask (d : Dashboard) (clock : Clock) (s : SectionConfig) (i : Instance) :
    (d.ask clock s i).run.KeepsTo (d.footprint clock s i) := by
  unfold ask
  have hlogin : (⟨.logins, i.id⟩ : Cell) ∈ d.footprint clock s i := .inl rfl
  cases i.kind with
  | gitlab =>
    cases s.kind with
    | prs => exact Action.keepsTo_bind (GitLab.keepsTo_fetchMergeRequests _) fun _ _ => trivial
    | issues => exact Action.keepsTo_bind (GitLab.keepsTo_fetchIssues _) fun _ _ => trivial
  | github =>
    cases s.kind with
    | prs =>
      exact Action.keepsTo_bind (GitHub.keepsTo_fetchPullRequests hlogin _) fun _ _ => trivial
    | issues => exact Action.keepsTo_bind (GitHub.keepsTo_fetchIssues hlogin _) fun _ _ => trivial

theorem footprint_apart (h : i.id ≠ j.id) :
    d.footprint clock s i ⊆ (d.footprint clock s j)ᶜ := by
  intro cell hi hj
  obtain rfl | ⟨path, hpath, rfl⟩ := hi
  · obtain heq | ⟨path', -, heq⟩ := hj
    · exact h (Cell.mk.inj heq).2
    · exact absurd (Cell.mk.inj heq).1 nofun
  · obtain heq | ⟨path', hpath', heq⟩ := hj
    · exact absurd (Cell.mk.inj heq).1 nofun
    · obtain rfl := Option.some.inj (hpath.symm.trans hpath')
      exact h (scopedKey_left_inj (Cell.mk.inj heq).2)

theorem instanceId_of_outcome {answer : Except ClientError (Option SectionItems)} {o : Outcome}
    (h : outcome i answer = some o) : o.instanceId = i.id := by
  obtain e | _ | items := answer
  · obtain rfl := Option.some.inj h
    rfl
  · exact absurd h nofun
  · obtain rfl := Option.some.inj h
    rfl

/-- Outcomes come in the order of the instances, at most one for each. -/
theorem outcomes_sublist (answers : Instance → Except ClientError (Option SectionItems))
    (instances : List Instance) :
    ((instances.filterMap fun i => outcome i (answers i)).map (·.instanceId)).Sublist
      (instances.map (·.id)) := by
  induction instances with
  | nil => exact .slnil
  | cons i rest ih =>
    rw [List.filterMap_cons, List.map_cons]
    split
    · exact ih.cons i.id
    · next o ho =>
      rw [List.map_cons, instanceId_of_outcome ho]
      exact ih.cons_cons i.id

/-! ## Side by side -/

/-- The instances that a section asks. -/
def Asked (d : Dashboard) (s : SectionConfig) : Type :=
  {i : Instance // i ∈ d.routed s.filter}

instance (d : Dashboard) (s : SectionConfig) : DecidableEq (d.Asked s) :=
  inferInstanceAs (DecidableEq {i : Instance // i ∈ d.routed s.filter})

/-- What an instance is asked comes to. -/
abbrev Answer : Type :=
  Except ClientError (Option SectionItems)

/-- The fetches of a section side by side, from empty caches, after the turns of a schedule. -/
def interleaved (d : Dashboard) (clock : Clock) (s : SectionConfig) (networks : Instance → Network)
    (schedule : List (d.Asked s)) : Pool fun _ : d.Asked s => Answer :=
  Pool.run (fun i : d.Asked s => networks i.1)
    (.ofPrograms (fun i => (d.ask clock s i.1).run) .empty) schedule

/-- The outcomes of the fetches that are done, in the order in which the instances are asked. -/
def outcomes (p : Pool fun _ : d.Asked s => Answer) : List Outcome :=
  (d.routed s.filter).attach.filterMap fun i : d.Asked s => (p.tasks i).result?.bind (outcome i.1)

/-- What the fetch of an instance comes to by itself. -/
def alone (d : Dashboard) (clock : Clock) (s : SectionConfig) (network : Network) (i : Instance) :
    Answer :=
  ((d.ask clock s i).run.play network .empty).1.1

/-- The ids of the instances that a section asks are distinct if those of the dashboard are. -/
theorem nodup_ids_routed (hids : (d.instances.map (·.id)).Nodup) (filter : String) :
    ((d.routed filter).map (·.id)).Nodup :=
  Instance.nodup_ids_select hids

theorem asked_apart (hids : (d.instances.map (·.id)).Nodup) (clock : Clock) (i j : d.Asked s)
    (h : i ≠ j) : d.footprint clock s i.1 ⊆ (d.footprint clock s j.1)ᶜ := by
  refine footprint_apart fun hid => h (Subtype.ext ?_)
  exact List.inj_on_of_nodup_map (nodup_ids_routed hids s.filter) i.2 j.2 hid

/-- When all fetches are done, their outcomes are those of the fetches by themselves. -/
theorem outcomes_of_finished (hids : (d.instances.map (·.id)).Nodup)
    {networks : Instance → Network} {schedule : List (d.Asked s)}
    (h : (d.interleaved clock s networks schedule).Finished) :
    d.outcomes (d.interleaved clock s networks schedule) =
      (d.routed s.filter).filterMap fun i => outcome i (d.alone clock s (networks i) i) := by
  have hresult : ∀ i : d.Asked s,
      ((d.interleaved clock s networks schedule).tasks i).result? =
        some (d.alone clock s (networks i.1) i.1) := by
    intro i
    obtain ⟨answer, hanswer⟩ := h i
    rw [hanswer, Pool.result_run (asked_apart hids clock) (fun i => d.keepsTo_ask clock s i.1)
      hanswer, alone]
  have houtcomes : d.outcomes (d.interleaved clock s networks schedule) =
      (d.routed s.filter).attach.filterMap fun i : d.Asked s =>
        outcome i.1 (d.alone clock s (networks i.1) i.1) :=
    List.filterMap_congr fun i _ => by
      rw [hresult i]
      rfl
  have hvalues : (d.routed s.filter).attach.map Subtype.val = d.routed s.filter :=
    List.attach_map_subtype_val _
  conv_rhs => rw [← hvalues, List.filterMap_map]
  exact houtcomes

/-! ## One after the other -/

/-- The outcomes of instances that are asked one after the other, where what is in the caches
concerns none of them. By induction on the instances: one that is asked leaves the cells of the
others alone. -/
theorem runs_askAll (networks : Instance → Network) {instances : List Instance}
    (hids : (instances.map (·.id)).Nodup) {caches : Caches}
    (hcaches : ∀ i ∈ instances, Caches.Agree (d.footprint clock s i) .empty caches) :
    ∃ caches', (d.askAll clock s instances).Runs caches
      (instances.flatMap fun i => ((d.ask clock s i).run.play (networks i) .empty).2)
      (instances.filterMap fun i => outcome i (d.alone clock s (networks i) i)) caches' := by
  induction instances generalizing caches with
  | nil => exact ⟨caches, .done _ _⟩
  | cons i rest ih =>
    obtain ⟨hi, hrest⟩ := List.nodup_cons.mp hids
    obtain ⟨hcaches, hothers⟩ := List.forall_mem_cons.mp hcaches
    obtain ⟨after, hask, -⟩ := (d.keepsTo_ask clock s i).runs_congr
      (runs_play (networks i) (d.ask clock s i).run .empty) hcaches
    have hafter := (d.keepsTo_ask clock s i).agree_of_runs hask
    have hrestCaches : ∀ j ∈ rest, Caches.Agree (d.footprint clock s j) .empty after := by
      intro j hj cell hcell
      have hne : i.id ≠ j.id := fun h => hi (List.mem_map.mpr ⟨j, hj, h.symm⟩)
      have hnot := footprint_apart (Ne.symm hne) hcell
      exact (hothers j hj cell hcell).trans (hafter cell hnot).symm
    obtain ⟨caches', hruns⟩ := ih hrest hrestCaches
    have houtcomes : (i :: rest).filterMap (fun i => outcome i (d.alone clock s (networks i) i)) =
        (outcome i (d.alone clock s (networks i) i)).toList ++
          rest.filterMap fun i => outcome i (d.alone clock s (networks i) i) := by
      rw [List.filterMap_cons]
      cases outcome i (d.alone clock s (networks i) i) <;> rfl
    refine ⟨caches', runs_bind_iff.mpr ⟨_, after, _, _, hask, runs_bind_iff.mpr
      ⟨_, caches', _, [], hruns, runs_pure_iff.mpr ⟨rfl, houtcomes, rfl⟩,
        (List.append_nil _).symm⟩, rfl⟩⟩

/-! ## Any section -/

/-- **The instances of a section do not influence each other**, if no two instances of the dashboard
have the same id. The fetches go side by side, each on a network of its own and in any order of
steps. Each of them goes step by step as it goes by itself, with the same requests and the same
answer; all come to an end; and then their outcomes are those of the fetches by themselves, in the
order in which the instances are asked and at most one for each of them. A section that is filled by
one fetch after the other has the same outcomes. -/
theorem fetches_independent (d : Dashboard) (clock : Clock) (s : SectionConfig)
    (hids : (d.instances.map (·.id)).Nodup) (networks : Instance → Network) :
    (∀ (schedule : List (d.Asked s)) (i : d.Asked s),
      (d.interleaved clock s networks schedule).tasks i =
        (Task.alone (networks i.1) (schedule.count i) (.ofProgram (d.ask clock s i.1).run)
          .empty).1) ∧
    (∃ enough : d.Asked s → Nat, ∀ schedule : List (d.Asked s),
      (∀ i, enough i ≤ schedule.count i) →
        (d.interleaved clock s networks schedule).Finished) ∧
    (∀ schedule : List (d.Asked s), (d.interleaved clock s networks schedule).Finished →
      d.outcomes (d.interleaved clock s networks schedule) =
        (d.routed s.filter).filterMap fun i => outcome i (d.alone clock s (networks i) i)) ∧
    (∃ caches', (d.fetchSection clock s).Runs .empty
      ((d.routed s.filter).flatMap fun i => ((d.ask clock s i).run.play (networks i) .empty).2)
      ((d.routed s.filter).filterMap fun i => outcome i (d.alone clock s (networks i) i))
      caches') ∧
    ((d.routed s.filter).map (·.id)).Nodup ∧
    (((d.routed s.filter).filterMap fun i => outcome i (d.alone clock s (networks i) i)).map
      (·.instanceId)).Sublist ((d.routed s.filter).map (·.id)) := by
  have hapart := asked_apart hids (s := s) clock
  have hkeeps : ∀ i : d.Asked s, (d.ask clock s i.1).run.KeepsTo (d.footprint clock s i.1) :=
    fun i => d.keepsTo_ask clock s i.1
  refine ⟨fun schedule i => (Pool.run_eq_alone hapart hkeeps schedule i).1,
    Pool.exists_enough hapart hkeeps _ .empty, fun schedule => outcomes_of_finished hids,
    runs_askAll networks (nodup_ids_routed hids s.filter) fun i _ => .refl _ _,
    nodup_ids_routed hids s.filter,
    outcomes_sublist (fun i => d.alone clock s (networks i) i) (d.routed s.filter)⟩

/-- Two servers at one host, the id of one of which begins with the id of the other. -/
def twoServers : Dashboard where
  settings := ⟨.standard, false⟩
  instances := [.ofHost .gitlab "[::1]", .ofHost .gitlab "[::1]:81"]

/-- The merge requests of one project. -/
def oneProject : SectionConfig where
  title := "one project"
  kind := .prs
  filter := "project = \"g/r\""
  limit := none

/-- The first server is silent, and the second knows the project and finds nothing in it. -/
def halfSilent (i : Instance) : Network :=
  if i.host = "[::1]" then fun _ _ => .nothing
  else fun log _ => .response ⟨200, [], if log.isEmpty then "\x7b\"id\":5\x7d" else "[]"⟩

theorem routed_oneProject : twoServers.routed oneProject.filter = twoServers.instances := by
  have hsorted : Instance.sortById twoServers.instances = twoServers.instances :=
    List.mergeSort_of_pairwise (by decide +kernel)
  have hrouting : routingOf oneProject.filter = ⟨[], []⟩ := by decide +kernel
  rw [routed, hrouting, Instance.select, hsorted]
  rfl

theorem twoServers_independent :
    (twoServers.instances.map (·.id)).Nodup ∧
      ∀ schedule : List (twoServers.Asked oneProject),
        (twoServers.interleaved ⟨0, 0⟩ oneProject halfSilent schedule).Finished →
          (twoServers.outcomes (twoServers.interleaved ⟨0, 0⟩ oneProject halfSilent schedule)).map
              (fun o => (o.instanceId, o.result.toOption.map (·.size))) =
            [("gitlab:[::1]", none), ("gitlab:[::1]:81", some 0)] := by
  have hids : (twoServers.instances.map (·.id)).Nodup := by decide +kernel
  refine ⟨hids, fun schedule hfinished => ?_⟩
  rw [(fetches_independent twoServers ⟨0, 0⟩ oneProject hids halfSilent).2.2.1 schedule hfinished,
    routed_oneProject]
  decide +kernel

end ForgeBoard.Dashboard

import ForgeBoard.Proofs.Client.Plans

/-!
# Changes of items

A `Change` is one of the six writes of the GitLab client, with all that it is given. It is planned
as one or two requests (`Change.requests`): a change of assignees is planned with the ids of its
users, and the others are planned at once.

* `Change.Course`: how a change can go. It is refused before anything is sent, or the look-up of a
  user fails, or its plan is carried out (`Change.course_of_runs`).
* `Change.Careful`: what holds of all that is sent and of the result.

Result: `changes_sent_once`.
-/

namespace ForgeBoard

open Http Query Text Program

variable {caches caches' : Caches} {log : List Exchange}

/-! ## Checks -/

namespace GitLab

variable {i : Instance} {k : ItemKey} {r : Except ClientError Unit} {f : Unit → Action Unit}

/-- A capability that is missing ends the action before anything is sent. -/
theorem runs_requireCapability {c : Capability} {action : String}
    (h : (requireCapability i c action >>= f).run.Runs caches log r caches') :
    (i.supports c = false ∧ log = [] ∧ ∃ e, r = .error e) ∨
      (i.supports c = true ∧ (f ()).run.Runs caches log r caches') := by
  unfold requireCapability at h
  split at h
  · next hc => exact .inr ⟨hc, h⟩
  · next hc =>
    obtain ⟨hlog, hr, -⟩ := Action.runs_throw_iff.mp h
    exact .inl ⟨Bool.eq_false_iff.mpr hc, hlog, _, hr⟩

/-- An issue ends the action before anything is sent. -/
theorem runs_requirePullRequest {action : String}
    (h : (requirePullRequest k action >>= f).run.Runs caches log r caches') :
    (k.itemType ≠ .pullRequest ∧ log = [] ∧ ∃ e, r = .error e) ∨
      (k.itemType = .pullRequest ∧ (f ()).run.Runs caches log r caches') := by
  unfold requirePullRequest at h
  split at h
  · next hk => exact .inr ⟨hk, h⟩
  · next hk =>
    obtain ⟨hlog, hr, -⟩ := Action.runs_throw_iff.mp h
    exact .inl ⟨by rw [hk]; exact nofun, hlog, _, hr⟩

/-- A key without a project ends the action before anything is sent. -/
theorem runs_itemEndpoint {f : String → Action Unit}
    (h : (Action.ofExcept (itemEndpoint k) >>= f).run.Runs caches log r caches') :
    (k.repoPath = "" ∧ log = [] ∧ ∃ e, r = .error e) ∨
      (k.repoPath ≠ "" ∧ ∃ endpoint, itemEndpoint k = .ok endpoint ∧
        (f endpoint).run.Runs caches log r caches') := by
  cases hpath : k.repoPath.isEmpty with
  | true =>
    have hk : itemEndpoint k = .error .missingProjectPath := by rw [itemEndpoint, hpath]; rfl
    rw [hk] at h
    obtain ⟨hlog, hr, -⟩ := Action.runs_throw_iff.mp h
    exact .inl ⟨String.isEmpty_iff.mp hpath, hlog, _, hr⟩
  | false =>
    obtain ⟨endpoint, hk⟩ : ∃ endpoint, itemEndpoint k = .ok endpoint := by
      rw [itemEndpoint, hpath]
      exact ⟨_, rfl⟩
    rw [hk] at h
    exact .inr ⟨fun heq => by simp [heq] at hpath, endpoint, hk, h⟩

/-! ## Drafts -/

/-- A request to an item, without the item. -/
structure Draft where
  method : Method
  suffix : String
  form : List (String × String)

def Draft.note (body : String) : Draft :=
  ⟨.post, "/notes", [("body", body)]⟩

def Draft.approval : Draft :=
  ⟨.post, "/approve", []⟩

def Draft.assignees (ids : List Nat) : Draft :=
  ⟨.put, "", assigneeForm ids⟩

/-- Sends a request to an item. -/
def sendDraft (i : Instance) (k : ItemKey) (draft : Draft) : Action Unit := do
  let endpoint ← Action.ofExcept (itemEndpoint k)
  sendForm i draft.method (endpoint ++ draft.suffix) draft.form

/-- A form for the item itself. -/
theorem sendDraft_item (i : Instance) (k : ItemKey) (method : Method)
    (form : List (String × String)) :
    sendDraft i k ⟨method, "", form⟩ = (do
      let endpoint ← Action.ofExcept (itemEndpoint k)
      sendForm i method endpoint form) := by
  unfold sendDraft
  simp only [String.append_empty]

/-! ## Changes -/

/-- The writes of the client. -/
inductive Write where
  | comment (body : String)
  | approve (remark : Option String)
  | merge
  | setState (event : StateEvent)
  | setLabels (labels : List String)
  | setAssignees (usernames : List String)

/-- The capability that a write asks for, if it asks for one. -/
def Write.capability? : Write → Option Capability
  | comment _ | setState _ => none
  | approve _ => some .approvals
  | merge => some .merge
  | setLabels _ => some .labels
  | setAssignees _ => some .assignees

/-- The write is for merge requests only. -/
def Write.ForMergeRequests : Write → Prop
  | approve _ | merge => True
  | comment _ | setState _ | setLabels _ | setAssignees _ => False

/-- The requests of a write, where `ids` are the ids of the new assignees. -/
def Write.drafts (ids : List Nat) : Write → List Draft
  | comment body => [.note body]
  | approve none => [.approval]
  | approve (some remark) => if remark.isEmpty then [.approval] else [.note remark, .approval]
  | merge => [⟨.put, "/merge", []⟩]
  | setState event => [⟨.put, "", [("state_event", event.name)]⟩]
  | setLabels labels => [⟨.put, "", [("labels", String.intercalate "," labels)]⟩]
  | setAssignees _ => [.assignees ids]

theorem Write.drafts_remarked {text : String} {ids : List Nat} (h : text.isEmpty = false) :
    (Write.approve (some text)).drafts ids = [.note text, .approval] :=
  if_neg (by rw [h]; exact nofun)

/-- A write is one request, or a comment that is not empty and an approval. -/
theorem Write.drafts_cases (write : Write) (ids : List Nat) :
    (∃ draft, draft.method ≠ .get ∧ write.drafts ids = [draft]) ∨
      ∃ text, write = .approve (some text) ∧ write.drafts ids = [.note text, .approval] := by
  cases write with
  | approve remark =>
    cases remark with
    | none => exact .inl ⟨.approval, nofun, rfl⟩
    | some text =>
      cases htext : text.isEmpty with
      | true => exact .inl ⟨.approval, nofun, if_pos htext⟩
      | false => exact .inr ⟨text, rfl, drafts_remarked htext⟩
  | comment body => exact .inl ⟨.note body, nofun, rfl⟩
  | merge | setState | setLabels | setAssignees => exact .inl ⟨⟨.put, _, _⟩, nofun, rfl⟩

/-- Other ids are as many requests. -/
theorem Write.length_drafts (write : Write) (ids ids' : List Nat) :
    (write.drafts ids).length = (write.drafts ids').length := by
  cases write with
  | approve remark => cases remark <;> rfl
  | comment | merge | setState | setLabels | setAssignees => rfl

/-- A write to an item, with all that the client is given. -/
structure Change where
  settings : ClientSettings
  clock : Clock
  forge : Instance
  key : ItemKey
  write : Write

namespace Change

def action (c : Change) : Action Unit :=
  match c.write with
  | .comment body => comment c.forge c.key body
  | .approve remark => approve c.forge c.key remark
  | .merge => merge c.forge c.key
  | .setState event => setState c.forge c.key event
  | .setLabels labels => setLabels c.forge c.key labels
  | .setAssignees usernames => setAssignees c.settings c.clock c.forge c.key usernames

/-- All that the client can check on its own is as it should be. -/
structure Admissible (c : Change) : Prop where
  capability : ∀ capability ∈ c.write.capability?, c.forge.supports capability = true
  itemType : c.write.ForMergeRequests → c.key.itemType = .pullRequest
  repoPath : c.key.repoPath ≠ ""

/-- The request for an endpoint of the item. -/
def request? (c : Change) (draft : Draft) : Option Request :=
  (itemEndpoint c.key).toOption.bind fun endpoint =>
    formRequest? c.forge draft.method (endpoint ++ draft.suffix) draft.form

/-- The requests of a change, where `ids` are the ids of the new assignees. -/
def requests (c : Change) (ids : List Nat) : List (Option Request) :=
  (c.write.drafts ids).map c.request?

/-- The ids belong to the new assignees, if the change is one of assignees. -/
def Identified (c : Change) (caches : Caches) (reads : List Exchange) (ids : List Nat) : Prop :=
  ∀ usernames, c.write = .setAssignees usernames →
    List.Forall₂ (Resolved c.clock c.forge caches reads) (distinctNames [] usernames) ids

/-- How a change can go: nothing is sent, or the look-up of a user fails, or the ids are there and
the requests are sent as planned. -/
inductive Course (c : Change) (caches : Caches) :
    List Exchange → Except ClientError Unit → Prop where
  | refused {e : ClientError} : ¬ c.Admissible → Course c caches [] (.error e)
  | unresolved {reads : List Exchange} {e : ClientError} : c.Admissible →
    (∀ x ∈ reads, x.1.method = .get) → Course c caches reads (.error e)
  | carried {reads writes : List Exchange} {ids : List Nat} {result : Except ClientError Unit} :
    c.Admissible → (∀ x ∈ reads, x.1.method = .get) → c.Identified caches reads ids →
    Carried (c.requests ids) writes result → Course c caches (reads ++ writes) result

variable {c : Change} {result : Except ClientError Unit}

theorem request?_eq {endpoint : String} (h : itemEndpoint c.key = .ok endpoint) (draft : Draft) :
    c.request? draft =
      formRequest? c.forge draft.method (endpoint ++ draft.suffix) draft.form := by
  rw [request?, h]
  rfl

/-- A request is sent to the item, if the key has a project. -/
theorem runs_sendDraft {draft : Draft}
    (h : (sendDraft c.forge c.key draft).run.Runs caches log result caches') :
    (c.key.repoPath = "" ∧ log = [] ∧ ∃ e, result = .error e) ∨
      (c.key.repoPath ≠ "" ∧ Carried [c.request? draft] log result) := by
  obtain hnone | ⟨hpath, endpoint, hk, h⟩ := runs_itemEndpoint h
  · exact .inl hnone
  · rw [request?_eq hk]
    exact .inr ⟨hpath, carried_sendForm h⟩

/-- A form is sent to the item itself. -/
theorem carried_of_item {endpoint : String} {method : Method} {form : List (String × String)}
    (hk : itemEndpoint c.key = .ok endpoint)
    (h : (sendForm c.forge method endpoint form).run.Runs caches log result caches') :
    Carried [c.request? ⟨method, "", form⟩] log result := by
  rw [request?_eq hk, String.append_empty]
  exact carried_sendForm h

/-- A change that looks no user up. -/
theorem Course.of_carried (hadmissible : c.Admissible)
    (hwrite : ∀ usernames, c.write ≠ .setAssignees usernames)
    (hcarried : Carried (c.requests []) log result) : c.Course caches log result := by
  have hreads : ∀ x ∈ ([] : List Exchange), x.1.method = .get := List.forall_mem_nil _
  have hids : c.Identified caches [] [] := fun usernames h => absurd h (hwrite usernames)
  exact .carried hadmissible hreads hids hcarried

/-- A change that is one request. -/
theorem course_of_sendDraft {draft : Draft} (hchecked : c.key.repoPath ≠ "" → c.Admissible)
    (hwrite : ∀ usernames, c.write ≠ .setAssignees usernames)
    (hplan : c.write.drafts [] = [draft])
    (h : (sendDraft c.forge c.key draft).run.Runs caches log result caches') :
    c.Course caches log result := by
  obtain ⟨hpath, rfl, e, rfl⟩ | ⟨hpath, hcarried⟩ := runs_sendDraft h
  · exact .refused fun hc => hc.repoPath hpath
  · refine .of_carried (hchecked hpath) hwrite ?_
    rw [requests, hplan]
    exact hcarried

/-- A comment that is not empty, and then an approval. The approval is sent if the comment has
succeeded. -/
theorem course_of_remarked {text : String} (hchecked : c.key.repoPath ≠ "" → c.Admissible)
    (hwrite : c.write = .approve (some text)) (htext : text.isEmpty = false)
    (h : (sendDraft c.forge c.key (.note text) >>= fun _ =>
      sendDraft c.forge c.key .approval).run.Runs caches log result caches') :
    c.Course caches log result := by
  have hplan : c.requests [] = [c.request? (.note text)] ++ [c.request? .approval] := by
    rw [requests, hwrite, Write.drafts_remarked htext]
    rfl
  have hother : ∀ usernames, c.write ≠ .setAssignees usernames := by
    rw [hwrite]
    exact nofun
  obtain ⟨e, hnote, rfl⟩ | ⟨_, between, first, second, hnote, happroval, rfl⟩ :=
    Action.runs_bind_iff.mp h
  · obtain ⟨hpath, rfl, -⟩ | ⟨hpath, hcarried⟩ := runs_sendDraft hnote
    · exact .refused fun hc => hc.repoPath hpath
    · refine .of_carried (hchecked hpath) hother ?_
      rw [hplan]
      exact hcarried.append_of_error _
  · obtain ⟨-, -, e, hr⟩ | ⟨hpath, hfirst⟩ := runs_sendDraft hnote
    · exact absurd hr nofun
    obtain ⟨hempty, -⟩ | ⟨-, hsecond⟩ := runs_sendDraft happroval
    · exact absurd hempty hpath
    · refine .of_carried (hchecked hpath) hother ?_
      rw [hplan]
      exact hfirst.append hsecond

/-- A capability that is there is the one that the write asks for. -/
theorem supports_of_mem {i : Instance} {needed : Capability} (h : i.supports needed = true) :
    ∀ capability ∈ some needed, i.supports capability = true := by
  intro capability hcapability
  rwa [← Option.some.inj hcapability]

/-- **A change goes one of these ways.** -/
theorem course_of_runs (h : c.action.run.Runs caches log result caches') :
    c.Course caches log result := by
  obtain ⟨settings, clock, i, k, write⟩ := c
  cases write with
  | comment body => exact course_of_sendDraft (fun hpath => ⟨nofun, nofun, hpath⟩) nofun rfl h
  | approve remark =>
    obtain ⟨hcap, rfl, e, rfl⟩ | ⟨hcap, h⟩ := runs_requireCapability h
    · exact .refused fun hc => absurd (hcap.symm.trans (hc.capability .approvals rfl)) nofun
    obtain ⟨htype, rfl, e, rfl⟩ | ⟨htype, h⟩ := runs_requirePullRequest h
    · exact .refused fun hc => htype (hc.itemType trivial)
    have hchecked : k.repoPath ≠ "" → Admissible ⟨settings, clock, i, k, .approve remark⟩ :=
      fun hpath => ⟨supports_of_mem hcap, fun _ => htype, hpath⟩
    cases remark with
    | none => exact course_of_sendDraft hchecked nofun rfl h
    | some text =>
      cases htext : text.isEmpty with
      | true =>
        dsimp only at h
        rw [if_pos htext] at h
        exact course_of_sendDraft hchecked nofun (if_pos htext) h
      | false =>
        dsimp only at h
        rw [if_neg (by rw [htext]; exact nofun)] at h
        exact course_of_remarked hchecked rfl htext h
  | merge =>
    obtain ⟨hcap, rfl, e, rfl⟩ | ⟨hcap, h⟩ := runs_requireCapability h
    · exact .refused fun hc => absurd (hcap.symm.trans (hc.capability .merge rfl)) nofun
    obtain ⟨htype, rfl, e, rfl⟩ | ⟨htype, h⟩ := runs_requirePullRequest h
    · exact .refused fun hc => htype (hc.itemType trivial)
    exact course_of_sendDraft (fun hpath => ⟨supports_of_mem hcap, fun _ => htype, hpath⟩) nofun
      rfl h
  | setState event =>
    have hsend : (sendDraft i k ⟨.put, "", [("state_event", event.name)]⟩).run.Runs caches log
        result caches' := by
      rw [sendDraft_item]
      exact h
    exact course_of_sendDraft (fun hpath => ⟨nofun, nofun, hpath⟩) nofun rfl hsend
  | setLabels labels =>
    obtain ⟨hcap, rfl, e, rfl⟩ | ⟨hcap, h⟩ := runs_requireCapability h
    · exact .refused fun hc => absurd (hcap.symm.trans (hc.capability .labels rfl)) nofun
    have hsend : (sendDraft i k ⟨.put, "", [("labels", String.intercalate "," labels)]⟩).run.Runs
        caches log result caches' := by
      rw [sendDraft_item]
      exact h
    exact course_of_sendDraft (fun hpath => ⟨supports_of_mem hcap, nofun, hpath⟩) nofun rfl hsend
  | setAssignees usernames =>
    obtain ⟨hcap, rfl, e, rfl⟩ | ⟨hcap, h⟩ := runs_requireCapability h
    · exact .refused fun hc => absurd (hcap.symm.trans (hc.capability .assignees rfl)) nofun
    obtain ⟨hpath, rfl, e, rfl⟩ | ⟨hpath, endpoint, hk, h⟩ := runs_itemEndpoint h
    · exact .refused fun hc => hc.repoPath hpath
    have hadmissible : Admissible ⟨settings, clock, i, k, .setAssignees usernames⟩ :=
      ⟨supports_of_mem hcap, nofun, hpath⟩
    obtain ⟨e, hreads, rfl⟩ | ⟨ids, between, reads, writes, hreads, hwrites, rfl⟩ :=
      Action.runs_bind_iff.mp h
    · exact .unresolved hadmissible ((sendsOnly_userIds usernames).of_runs hreads)
    · have hids : Identified ⟨settings, clock, i, k, .setAssignees usernames⟩ caches reads ids := by
        intro usernames' heq
        obtain rfl := Write.setAssignees.inj heq
        exact resolved_of_runs_userIds hreads
      exact .carried hadmissible ((sendsOnly_userIds usernames).of_runs hreads) hids
        (carried_of_item hk hwrites)

/-! ## What is sent -/

theorem request?_eq_some {draft : Draft} {request : Request} (h : c.request? draft = some request) :
    request.method = draft.method ∧ request.body = .form draft.form := by
  obtain ⟨endpoint, -, h⟩ := Option.bind_eq_some_iff.mp h
  exact Request.build?_eq_some h

/-- A comment is not an approval. -/
theorem note_ne_approval {body : String} {request : Request}
    (h : c.request? .approval = some request) : c.request? (.note body) ≠ some request := by
  intro hnote
  have hbody : request.body = .form [("body", body)] := (request?_eq_some hnote).2
  have hempty : request.body = .form [] := (request?_eq_some h).2
  exact List.cons_ne_nil _ _ (Body.form.inj (hbody.symm.trans hempty))

/-- A change is one request, or a comment and an approval. -/
theorem requests_cases (c : Change) (ids : List Nat) :
    (∃ draft, draft.method ≠ .get ∧ c.requests ids = [c.request? draft]) ∨
      ∃ text, c.requests ids = [c.request? (.note text), c.request? .approval] := by
  obtain ⟨draft, hmethod, hdrafts⟩ | ⟨text, -, hdrafts⟩ := c.write.drafts_cases ids
  · refine .inl ⟨draft, hmethod, ?_⟩
    rw [requests, hdrafts, List.map_singleton]
  · refine .inr ⟨text, ?_⟩
    rw [requests, hdrafts, List.map_cons, List.map_singleton]

theorem method_of_mem_requests {ids : List Nat} {request : Request}
    (h : some request ∈ c.requests ids) : request.method ≠ .get := by
  obtain ⟨draft, hdraft, hrequest⟩ := List.mem_map.mp h
  rw [(request?_eq_some hrequest).1]
  obtain ⟨_, hmethod, hdrafts⟩ | ⟨text, -, hdrafts⟩ := c.write.drafts_cases ids
  · rw [hdrafts, List.mem_singleton] at hdraft
    rwa [hdraft]
  · rw [hdrafts, List.mem_cons, List.mem_singleton] at hdraft
    obtain rfl | rfl := hdraft <;> exact nofun

/-- No request occurs twice in a plan. -/
theorem nodup_of_isPrefix {ids : List Nat} {requests : List Request}
    (h : requests.map some <+: c.requests ids) : requests.Nodup := by
  obtain ⟨draft, -, hplan⟩ | ⟨text, hplan⟩ := c.requests_cases ids
  · rw [hplan] at h
    match requests, h with
    | [], _ => exact List.nodup_nil
    | [request], _ => exact List.nodup_singleton _
    | _ :: _ :: _, h => exact absurd h.length_le (by simp)
  · rw [hplan] at h
    match requests, h with
    | [], _ => exact List.nodup_nil
    | [request], _ => exact List.nodup_singleton _
    | [note, approval], h =>
      obtain ⟨hnote, h⟩ := List.cons_prefix_cons.mp h
      obtain ⟨happroval, -⟩ := List.cons_prefix_cons.mp h
      refine List.nodup_cons.mpr ⟨fun hmem => ?_, List.nodup_singleton _⟩
      rw [List.mem_singleton.mp hmem] at hnote
      exact note_ne_approval happroval.symm hnote.symm
    | _ :: _ :: _ :: _, h => exact absurd h.length_le (by simp)

theorem requests_ne_nil (c : Change) (ids : List Nat) : c.requests ids ≠ [] := by
  obtain ⟨_, -, hplan⟩ | ⟨_, hplan⟩ := c.requests_cases ids <;>
    exact hplan.symm ▸ List.cons_ne_nil _ _

/-- Plans for other ids are as long. -/
theorem length_requests (c : Change) (ids ids' : List Nat) :
    (c.requests ids).length = (c.requests ids').length := by
  rw [requests, requests, List.length_map, List.length_map, c.write.length_drafts ids ids']

/-- The exchanges that are not reads. -/
def writesOf (log : List Exchange) : List Exchange :=
  log.filter fun x => decide (x.1.method ≠ .get)

theorem writesOf_append {reads writes : List Exchange} (hreads : ∀ x ∈ reads, x.1.method = .get)
    (hwrites : ∀ x ∈ writes, x.1.method ≠ .get) : writesOf (reads ++ writes) = writes := by
  rw [writesOf, List.filter_append, List.filter_eq_nil_iff.mpr, List.filter_eq_self.mpr,
    List.nil_append]
  · exact fun x hx => decide_eq_true (hwrites x hx)
  · exact fun x hx => by simp [hreads x hx]

theorem method_of_mem_writes {ids : List Nat} {writes : List Exchange}
    (h : Carried (c.requests ids) writes result) : ∀ x ∈ writes, x.1.method ≠ .get := by
  intro x hx
  have hplanned : some x.1 ∈ c.requests ids := h.isPrefix.subset (List.mem_map_of_mem hx)
  exact method_of_mem_requests hplanned

/-- A write comes after all reads. -/
theorem exists_before {reads writes before after : List Exchange} {x : Exchange}
    (hlog : reads ++ writes = before ++ x :: after) (hx : x ∉ reads) :
    ∃ before', before = reads ++ before' ∧ writes = before' ++ x :: after := by
  obtain ⟨before', hbefore, hwrites⟩ | ⟨rest, hreads, hrest⟩ := List.append_eq_append_iff.mp hlog
  · exact ⟨before', hbefore, hwrites⟩
  · cases rest with
    | nil => exact ⟨[], by simpa using hreads.symm, by simpa using hrest.symm⟩
    | cons y rest =>
      obtain ⟨rfl, -⟩ := List.cons.inj hrest
      exact absurd (hreads ▸ List.mem_append_right _ List.mem_cons_self) hx

/-! ## What holds of a change -/

/-- What holds of all that a change sends and of its result. -/
structure Careful (c : Change) (caches : Caches) (log : List Exchange)
    (result : Except ClientError Unit) : Prop where
  /-- Without the capability, the type of item or the project, nothing is sent. -/
  refused : ¬ c.Admissible → log = [] ∧ ∃ e, result = .error e
  /-- Each write is sent once at most, whatever the reply. -/
  once : ((writesOf log).map Prod.fst).Nodup
  /-- An approval with a remark is sent after the remark has been taken. -/
  approval : ∀ text, c.write = .approve (some text) → text ≠ "" →
    ∀ before x after, log = before ++ x :: after → c.request? .approval = some x.1 →
      ∃ note ∈ before, c.request? (.note text) = some note.1 ∧ note.2.IsSuccess
  /-- Assignees are written after all of them have been resolved, and they are written as such. -/
  assignees : ∀ usernames, c.write = .setAssignees usernames →
    ∀ before x after, log = before ++ x :: after → x.1.method ≠ .get →
      ∃ ids, c.request? (.assignees ids) = some x.1 ∧
        List.Forall₂ (Resolved c.clock c.forge caches before) (distinctNames [] usernames) ids
  /-- The change has succeeded iff all its requests were sent and have succeeded. -/
  succeeds : result = .ok () ↔ c.Admissible ∧ ∃ ids,
    (writesOf log).map (fun x => some x.1) = c.requests ids ∧ ∀ x ∈ writesOf log, x.2.IsSuccess

theorem Careful.of_reads (hadmissible : c.Admissible) (hreads : ∀ x ∈ log, x.1.method = .get)
    (e : ClientError) : c.Careful caches log (.error e) := by
  have hnone : writesOf log = [] := by
    have h : writesOf (log ++ []) = [] := writesOf_append hreads (List.forall_mem_nil _)
    rwa [List.append_nil] at h
  refine ⟨fun h => absurd hadmissible h, ?_, ?_, ?_, ?_⟩
  · rw [hnone]
    exact List.nodup_nil
  · rintro text - - before x after rfl hx
    have hpost := (request?_eq_some hx).1
    rw [hreads x (by simp)] at hpost
    exact absurd hpost nofun
  · rintro usernames - before x after rfl hx
    exact absurd (hreads x (by simp)) hx
  · refine ⟨nofun, ?_⟩
    rintro ⟨-, ids, hplan, -⟩
    rw [hnone] at hplan
    exact absurd hplan.symm (c.requests_ne_nil ids)

variable {reads writes : List Exchange} {ids : List Nat}

/-- An approval with a remark is the second request of its plan. -/
theorem exists_note_of_carried {text : String} {before after : List Exchange} {x : Exchange}
    (hwrite : c.write = .approve (some text)) (htext : text ≠ "")
    (h : Carried (c.requests ids) (before ++ x :: after) result)
    (hx : c.request? .approval = some x.1) :
    ∃ note ∈ before, c.request? (.note text) = some note.1 ∧ note.2.IsSuccess := by
  have hplan : c.requests ids = [c.request? (.note text), c.request? .approval] := by
    rw [requests, hwrite, Write.drafts_remarked (String.isEmpty_eq_false_iff.mpr htext)]
    rfl
  have hprefix := h.isPrefix
  rw [hplan, List.map_append, List.map_cons] at hprefix
  cases before with
  | nil =>
    have hnote := (List.cons_prefix_cons.mp hprefix).1
    exact absurd hnote.symm (note_ne_approval hx)
  | cons note before =>
    have hnote := (List.cons_prefix_cons.mp hprefix).1
    exact ⟨note, List.mem_cons_self, hnote.symm, h.isSuccess_before rfl note List.mem_cons_self⟩

theorem Careful.of_carried (hadmissible : c.Admissible) (hreads : ∀ x ∈ reads, x.1.method = .get)
    (hids : c.Identified caches reads ids) (h : Carried (c.requests ids) writes result) :
    c.Careful caches (reads ++ writes) result := by
  have hwrites := writesOf_append hreads (method_of_mem_writes h)
  have hnot : ∀ x : Exchange, x.1.method ≠ .get → x ∉ reads := fun x hx hmem => hx (hreads x hmem)
  refine ⟨fun hc => absurd hadmissible hc, ?_, ?_, ?_, ?_⟩
  · rw [hwrites]
    have hprefix : (writes.map Prod.fst).map some <+: c.requests ids := by
      rw [List.map_map]
      exact h.isPrefix
    exact nodup_of_isPrefix hprefix
  · intro text hwrite htext before x after hlog hx
    have hpost : x.1.method ≠ .get := by
      rw [(request?_eq_some hx).1]
      exact nofun
    obtain ⟨before', rfl, rfl⟩ := exists_before hlog (hnot x hpost)
    obtain ⟨note, hmem, hnote⟩ := exists_note_of_carried hwrite htext h hx
    exact ⟨note, List.mem_append_right _ hmem, hnote⟩
  · intro usernames hwrite before x after hlog hx
    obtain ⟨before', rfl, rfl⟩ := exists_before hlog (hnot x hx)
    have hprefix := h.isPrefix
    rw [requests, hwrite, Write.drafts, List.map_singleton] at hprefix
    have hsome : some x.1 ∈ [c.request? (.assignees ids)] :=
      hprefix.subset (List.mem_map_of_mem (List.mem_append_right _ List.mem_cons_self))
    refine ⟨ids, (List.mem_singleton.mp hsome).symm, ?_⟩
    exact (hids usernames hwrite).imp fun _ _ hresolved =>
      hresolved.mono (List.subset_append_left _ _)
  · rw [hwrites, h.eq_ok_iff]
    refine ⟨fun hok => ⟨hadmissible, ids, hok⟩, ?_⟩
    rintro ⟨-, ids', hplan, hsuccess⟩
    refine ⟨h.isPrefix.eq_of_length ?_, hsuccess⟩
    rw [hplan, c.length_requests ids' ids]

theorem careful_of_course (h : c.Course caches log result) : c.Careful caches log result := by
  cases h with
  | refused hnot =>
    refine ⟨fun _ => ⟨rfl, _, rfl⟩, List.nodup_nil, ?_, ?_, nofun, fun h => absurd h.1 hnot⟩
    · rintro _ _ _ before x after hlog
      exact absurd hlog (by simp)
    · rintro _ _ before x after hlog
      exact absurd hlog (by simp)
  | unresolved hadmissible hreads => exact .of_reads hadmissible hreads _
  | carried hadmissible hreads hids hcarried => exact .of_carried hadmissible hreads hids hcarried

end Change

/-- **Writes are sent once at most, and only after all checks.** A change on any network and any
caches: if the instance lacks the capability, the item is of the wrong type or its project is
missing, nothing is sent at all. Each write is sent once at most, whatever the replies. An approval
with a remark waits until the remark has been taken. Assignees are written after each of them has
been resolved, and every name that is not blank is one of them in some case. The change succeeds iff
all that it has to send was sent and has succeeded.

A write is sent when it is handed to the library that speaks HTTP, and its reply is what that gives
in the end. A library that follows a redirect may put the write on the wire again: this is below
`send` and not in the log. -/
theorem changes_sent_once (c : Change) (network : List Exchange → Request → Reply)
    (caches : Caches) :
    c.Careful caches (c.action.run.play network caches).2
        (c.action.run.play network caches).1.1 ∧
      ∀ usernames, c.write = .setAssignees usernames →
        ∀ username ∈ usernames, trim username ≠ "" →
          ∃ name ∈ distinctNames [] usernames, lower name = lower (trim username) := by
  refine ⟨Change.careful_of_course (Change.course_of_runs (runs_play network _ caches)), ?_⟩
  intro usernames _ username hmem hblank
  exact (exists_mem_distinctNames [] hmem hblank).resolve_left List.not_mem_nil

end GitLab

end ForgeBoard

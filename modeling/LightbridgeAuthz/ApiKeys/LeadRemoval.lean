import LightbridgeAuthz.ApiKeys.RosterCalls

/-!
# Removing a lead

A roster operation or a key creation that has passed `authorize_project_lead`
stands before its write with nothing left to check. If the owner's removal of the
lead commits there, the write still goes through: a lead can put themselves back
on the roster. Along every interleaving in which no call of the lead stands
before its write when the `DELETE` runs, the removal is final.
-/

namespace LightbridgeAuthz.ApiKeys.LeadRemoval

open Library.EventRun Library.KeyedRows Library.CallSlots
open Access.Tenancy Access.TenancyOps
open KeyTable KeyCalls RosterCalls

set_option autoImplicit false

structure Parties where
  owner : String
  lead : String
  projectId : String
  deriving DecidableEq, Repr

/-- The owner's removals of the lead, the lead's `addProjectMember`,
`setProjectMemberRole`, `setProjectMemberQuotaTier` and `createApiKey` calls, on
this project or any other, and time. -/
def Parties.allows (parties : Parties) : RosterEvent → Bool
  | .key (.tick _) => true
  | .key (.createApiKey _ request) => request.subject == parties.lead
  | .key (.advance _ _) => true
  | .arrive subject projectId target request =>
      if request = .removeProjectMember then
        subject == parties.owner && projectId == parties.projectId && target == parties.lead
      else subject == parties.lead
  | .advance _ => true
  | _ => false

def rosterOf (tenancy : TenancyDb) (projectId : String) : List ProjectMember :=
  tenancy.members.filter fun member => member.projectId == projectId

def keysOf (keys : List ApiKeyRow) (projectId : String) : List ApiKeyRow :=
  keys.filter fun row => row.projectId == projectId

def Parties.OwnRosterCall (parties : Parties) (call : RosterCall) : Prop :=
  (call.subject = parties.lead ∧ call.write ≠ .delete) ∨
    (call.subject = parties.owner ∧ call.projectId = parties.projectId ∧
      call.target = parties.lead ∧ call.write = .delete)

def Parties.OwnKeyCall (parties : Parties) : KeyCall → Prop
  | .rotate _ _ => False
  | .create request point =>
      request.subject = parties.lead ∧
        ∀ row, plannedRow point = some row → row.projectId = request.projectId

/-- What holds all along: the project is the owner's, and only the two parties'
calls are in flight. -/
structure Scene (parties : Parties) (world : RosterWorld) : Prop where
  owned : ∃ project, getProjectById world.base.tenancy parties.projectId = some project ∧
    project.accountId = parties.owner
  roster : ∀ (slot : Nat) (call : RosterCall), world.calls[slot]? = some call →
    parties.OwnRosterCall call
  keys : ∀ caller call, world.base.calls caller = some call → parties.OwnKeyCall call

/-- No call of the lead on the project stands before its write. -/
structure NoPendingWrite (parties : Parties) (world : RosterWorld) : Prop where
  roster : ∀ (slot : Nat) (call : RosterCall), world.calls[slot]? = some call →
    call.subject = parties.lead → call.projectId = parties.projectId → call.point ≠ .write
  keys : ∀ caller request row, world.base.calls caller = some (.create request (.insert row)) →
    request.projectId ≠ parties.projectId

/-- The call in this slot is the owner's removal of the lead, at its `DELETE`. -/
def RemovesAt (parties : Parties) (world : RosterWorld) (slot : Nat) : Prop :=
  world.calls[slot]? =
    some ⟨parties.owner, parties.projectId, parties.lead, .delete, .write⟩

section Statements

variable {tenancy next : TenancyDb} {projectId subject : String}

theorem authorize_owner_some
    (authorized : authorizeOwner tenancy projectId subject = .ok (some ())) :
    ∃ project, getProjectById tenancy projectId = some project ∧
      project.accountId = subject := by
  unfold authorizeOwner at authorized
  split at authorized
  · cases authorized
  · rename_i project found
    split_ifs at authorized with owns
    · exact ⟨project, found, owns⟩
    · cases authorized

theorem authorize_lead_ok (authorized : authorizeLead tenancy projectId subject = .ok ()) :
    memberRow tenancy projectId subject ≠ none := by
  intro absent
  simp [authorizeLead, projectMemberRole, absent] at authorized

theorem member_row_none :
    memberRow tenancy projectId subject = none ↔
      ∀ member ∈ rosterOf tenancy projectId, member.accountId ≠ subject := by
  constructor
  · intro absent member inRoster same
    obtain ⟨stored, onProject⟩ := List.mem_filter.mp inRoster
    have isProject : member.projectId = projectId := by simpa using onProject
    exact find_key_none.mp absent member stored (by rw [memberKey, isProject, same])
  · intro apart
    apply find_key_none.mpr
    intro member stored keyed
    obtain ⟨isProject, isSubject⟩ := Prod.mk.inj (Option.some.inj keyed)
    exact apart member (List.mem_filter.mpr ⟨stored, by simpa using isProject⟩) isSubject

theorem roster_of_update {other target : String} {change : ProjectMember → ProjectMember}
    (different : other ≠ projectId)
    (keeps : ∀ member, (change member).projectId = member.projectId) :
    rosterOf
        { tenancy with
          members := updateKey memberKey tenancy.members (other, target) change } projectId =
      rosterOf tenancy projectId := by
  unfold rosterOf updateKey
  induction tenancy.members with
  | nil => rfl
  | cons member rest ih =>
      by_cases hit : memberKey member = some (other, target)
      · have isOther : member.projectId = other := (Prod.mk.inj (Option.some.inj hit)).1
        have notHere : member.projectId ≠ projectId := by rwa [isOther]
        simp only [List.map_cons, if_pos hit, List.filter_cons, keeps, ih]
        simp [notHere]
      · simp only [List.map_cons, if_neg hit, List.filter_cons, ih]

theorem roster_of_other_write {other target : String} {write : RosterWrite}
    (different : other ≠ projectId)
    (written : applyRosterWrite tenancy other target write = .ok next) :
    rosterOf next projectId = rosterOf tenancy projectId := by
  cases write with
  | insert role =>
      rcases insert_member_ok written with same | appended
      · rw [same]
      · rw [appended]
        simp [rosterOf, List.filter_append, different]
  | delete =>
      cases written
      unfold rosterOf deleteMember
      rw [List.filter_filter]
      apply List.filter_congr
      intro member _
      by_cases here : member.projectId = projectId
      · simp [here, memberKey, Ne.symm different]
      · simp [here]
  | setRole role =>
      rw [update_member_ok written]
      exact roster_of_update different fun _ => rfl
  | setTier tier =>
      rw [update_member_ok written]
      exact roster_of_update different fun _ => rfl

theorem delete_member_absent (absent : memberRow tenancy projectId subject = none) :
    deleteMember tenancy projectId subject = tenancy := by
  unfold deleteMember
  rw [List.filter_eq_self.mpr]
  intro member stored
  simpa using find_key_none.mp absent member stored

theorem delete_member_removes :
    memberRow (deleteMember tenancy projectId subject) projectId subject = none := by
  apply find_key_none.mpr
  intro member stored
  simpa using (List.mem_filter.mp stored).2

end Statements

section Steps

variable {tiers : List String} {config : KeyConfig} {parties : Parties}
  {world next : RosterWorld} {event : RosterEvent}

theorem key_calls_step {keyEvent : KeyEvent} {base : KeyWorld} (scene : Scene parties world)
    (allowed : parties.allows (.key keyEvent) = true)
    (stepped : keyStep config world.base keyEvent = some base) {caller : Nat} {call : KeyCall}
    (stands : base.calls caller = some call) : parties.OwnKeyCall call := by
  have origin := call_origin stepped stands
  cases origin with
  | stood was => exact scene.keys caller call was
  | rotationArrived request => cases allowed
  | creationArrived request =>
      refine ⟨by simpa [Parties.allows] using allowed, ?_⟩
      intro row planned
      cases planned
  | rotationMoved was moved => exact (scene.keys caller _ was).elim
  | creationMoved was moved =>
      obtain ⟨isLead, planned⟩ := scene.keys caller _ was
      refine ⟨isLead, ?_⟩
      intro row isPlanned
      rcases create_move_planned moved isPlanned with before | ⟨onProject, _⟩
      · exact planned row before
      · exact onProject

theorem scene_step (scene : Scene parties world) (allowed : parties.allows event = true)
    (stepped : rosterStep tiers config world event = some next) : Scene parties next := by
  cases roster_change stepped with
  | refused _ => exact scene
  | keyed keyStepped sameTenancy =>
      refine ⟨?_, scene.roster, ?_⟩
      · rw [sameTenancy]
        exact scene.owned
      · intro caller call stands
        exact key_calls_step scene allowed keyStepped stands
  | operated notRoster done => cases allowed
  | @arrived subject projectId target request write checked =>
      refine ⟨scene.owned, ?_, scene.keys⟩
      intro slot call there
      rcases slot_of_append there with old | isNew
      · exact scene.roster slot call old
      · subst isNew
        by_cases removes : request = .removeProjectMember
        · subst removes
          cases checked
          have named : (subject = parties.owner ∧ projectId = parties.projectId) ∧
              target = parties.lead := by
            simpa [Parties.allows] using allowed
          exact Or.inr ⟨named.1.1, named.1.2, named.2, rfl⟩
        · refine Or.inl ⟨by simpa [Parties.allows, removes] using allowed, ?_⟩
          intro isDelete
          subst isDelete
          exact removes (roster_write_delete checked)
  | moved running reads =>
      refine ⟨scene.owned, ?_, scene.keys⟩
      intro slot call there
      rcases slot_of_set there with ⟨_, isNew⟩ | ⟨_, old⟩
      · subst isNew
        have own := scene.roster _ _ running
        exact own
      · exact scene.roster slot call old
  | wrote running stands written =>
      refine ⟨?_, ?_, scene.keys⟩
      · obtain ⟨project, found, owned⟩ := scene.owned
        refine ⟨project, ?_, owned⟩
        simp only [withTenancy, getProjectById, roster_write_projects written]
        exact found
      · intro slot call there
        rcases slot_of_set there with ⟨_, isNew⟩ | ⟨_, old⟩
        · subst isNew
          have own := scene.roster _ _ running
          exact own
        · exact scene.roster slot call old

/-- The lead is off the roster, none of their calls can write, and the project's
roster and keys are those that the removal left. -/
structure Gone (parties : Parties) (roster : List ProjectMember) (keys : List ApiKeyRow)
    (world : RosterWorld) : Prop where
  scene : Scene parties world
  absent : memberRow world.base.tenancy parties.projectId parties.lead = none
  pending : NoPendingWrite parties world
  sameRoster : rosterOf world.base.tenancy parties.projectId = roster
  sameKeys : keysOf world.base.keys parties.projectId = keys

variable {roster : List ProjectMember} {keys : List ApiKeyRow}

theorem gone_unauthorized (gone : Gone parties roster keys world)
    (other : parties.lead ≠ parties.owner) :
    authorizeOwner world.base.tenancy parties.projectId parties.lead ≠ .ok (some ()) ∧
      authorizeLead world.base.tenancy parties.projectId parties.lead ≠ .ok () := by
  constructor
  · intro authorized
    obtain ⟨project, found, isLead⟩ := authorize_owner_some authorized
    obtain ⟨stored, storedFound, isOwner⟩ := gone.scene.owned
    have same : project = stored := Option.some.inj (found.symm.trans storedFound)
    rw [same, isOwner] at isLead
    exact other isLead.symm
  · intro authorized
    exact authorize_lead_ok authorized gone.absent

theorem gone_key_pending (gone : Gone parties roster keys world)
    (other : parties.lead ≠ parties.owner) {keyEvent : KeyEvent} {base : KeyWorld}
    (stepped : keyStep config world.base keyEvent = some base) {caller : Nat}
    {request : CreateRequest} {row : ApiKeyRow}
    (stands : base.calls caller = some (.create request (.insert row))) :
    request.projectId ≠ parties.projectId := by
  have origin := call_origin stepped stands
  generalize base.keys = written at origin
  cases origin with
  | stood was => exact gone.pending.keys caller request row was
  | @creationMoved _ _ before _ was moved =>
      have unauthorized := gone_unauthorized gone other
      have isLead := (gone.scene.keys caller _ was).1
      intro here
      cases before with
      | authorizeOwner stored =>
          simp only [createMove] at moved
          split at moved
          · cases moved
          · rename_i authorized
            rw [here, isLead] at authorized
            exact unauthorized.1 authorized
          · cases moved
      | authorizeLead stored =>
          simp only [createMove] at moved
          split at moved
          · cases moved
          · rename_i authorized
            rw [here, isLead] at authorized
            exact unauthorized.2 authorized
      | issue =>
          simp only [createMove] at moved
          split at moved <;> cases moved
      | insert stored =>
          simp only [createMove] at moved
          split at moved <;> cases moved
      | returned answer => cases moved

theorem gone_key_rows (gone : Gone parties roster keys world) {keyEvent : KeyEvent}
    {base : KeyWorld} (allowed : parties.allows (.key keyEvent) = true)
    (stepped : keyStep config world.base keyEvent = some base) :
    keysOf base.keys parties.projectId = keys := by
  have change := KeyCalls.step_change stepped
  generalize base.keys = written at change ⊢
  cases change with
  | kept => exact gone.sameKeys
  | @inserted caller input request row call fresh =>
      obtain ⟨_, planned⟩ := gone.scene.keys caller _ call
      have elsewhere : row.projectId ≠ parties.projectId := by
        rw [planned row rfl]
        exact gone.pending.keys caller request row call
      rw [← gone.sameKeys]
      simp [keysOf, List.filter_append, elsewhere]
  | rotated call found fresh => exact (gone.scene.keys _ _ call).elim
  | revoked subject id => cases allowed
  | deleted subject id => cases allowed
  | renamed subject id name => cases allowed

theorem gone_move_pending (gone : Gone parties roster keys world)
    (other : parties.lead ≠ parties.owner) {call : RosterCall} {point : RosterPoint}
    (reads : rosterMove world.base.tenancy call = some (world.base.tenancy, point))
    (isLead : call.subject = parties.lead) (here : call.projectId = parties.projectId) :
    point ≠ .write := by
  have unauthorized := gone_unauthorized gone other
  intro writes
  subst writes
  obtain ⟨subject, projectId, target, write, stands⟩ := call
  cases isLead
  cases here
  cases stands with
  | authorizeOwner =>
      simp only [rosterMove] at reads
      split at reads
      · cases reads
      · rename_i authorized
        exact unauthorized.1 authorized
      · cases reads
  | authorizeLead =>
      simp only [rosterMove] at reads
      split at reads
      · cases reads
      · rename_i authorized
        exact unauthorized.2 authorized
  | write =>
      simp only [rosterMove] at reads
      split at reads <;> cases reads
  | readBack =>
      simp only [rosterMove] at reads
      split at reads <;> cases reads
  | returned answer => cases reads

theorem gone_write_roster (gone : Gone parties roster keys world) {slot : Nat}
    {call : RosterCall} {tenancy : TenancyDb} (running : world.calls[slot]? = some call)
    (stands : call.point = .write)
    (written : applyRosterWrite world.base.tenancy call.projectId call.target call.write =
      .ok tenancy) : rosterOf tenancy parties.projectId = roster := by
  rcases gone.scene.roster slot call running with ⟨isLead, _⟩ | ⟨_, here, target, deletes⟩
  · have elsewhere : call.projectId ≠ parties.projectId := by
      intro here
      exact gone.pending.roster slot call running isLead here stands
    rw [roster_of_other_write elsewhere written]
    exact gone.sameRoster
  · rw [deletes, here, target] at written
    have isNext := Except.ok.inj written
    rw [delete_member_absent gone.absent] at isNext
    rw [← isNext]
    exact gone.sameRoster

theorem gone_step (other : parties.lead ≠ parties.owner)
    (gone : Gone parties roster keys world) (allowed : parties.allows event = true)
    (stepped : rosterStep tiers config world event = some next) :
    Gone parties roster keys next := by
  have scene := scene_step gone.scene allowed stepped
  cases roster_change stepped with
  | refused _ => exact gone
  | keyed keyStepped sameTenancy =>
      refine ⟨scene, ?_, ⟨gone.pending.roster, ?_⟩, ?_, ?_⟩
      · rw [sameTenancy]
        exact gone.absent
      · intro caller request row stands
        exact gone_key_pending gone other keyStepped stands
      · rw [sameTenancy]
        exact gone.sameRoster
      · exact gone_key_rows gone allowed keyStepped
  | operated notRoster done => cases allowed
  | arrived checked =>
      refine ⟨scene, gone.absent, ⟨?_, gone.pending.keys⟩, gone.sameRoster, gone.sameKeys⟩
      intro slot call there isLead here
      rcases slot_of_append there with old | isNew
      · exact gone.pending.roster slot call old isLead here
      · subst isNew
        simp
  | moved running reads =>
      refine ⟨scene, gone.absent, ⟨?_, gone.pending.keys⟩, gone.sameRoster, gone.sameKeys⟩
      intro slot call there isLead here
      rcases slot_of_set there with ⟨_, isNew⟩ | ⟨_, old⟩
      · subst isNew
        exact gone_move_pending gone other reads isLead here
      · exact gone.pending.roster slot call old isLead here
  | wrote running stands written =>
      have sameRoster := gone_write_roster gone running stands written
      refine ⟨scene, ?_, ⟨?_, gone.pending.keys⟩, sameRoster, gone.sameKeys⟩
      · apply member_row_none.mpr
        simp only [withTenancy]
        rw [sameRoster, ← gone.sameRoster]
        exact member_row_none.mp gone.absent
      · intro slot call there isLead here
        rcases slot_of_set there with ⟨_, isNew⟩ | ⟨_, old⟩
        · subst isNew
          simp
        · exact gone.pending.roster slot call old isLead here

theorem removal_gone (scene : Scene parties world) (pending : NoPendingWrite parties world)
    {slot : Nat} (removes : RemovesAt parties world slot)
    (stepped : rosterStep tiers config world (.advance slot) = some next) :
    Gone parties (rosterOf next.base.tenancy parties.projectId)
      (keysOf next.base.keys parties.projectId) next := by
  have nextScene := scene_step scene rfl stepped
  have written : next =
      { withTenancy world (deleteMember world.base.tenancy parties.projectId parties.lead) with
        calls := world.calls.set slot
          ⟨parties.owner, parties.projectId, parties.lead, .delete, .readBack⟩ } := by
    unfold RemovesAt at removes
    simp only [rosterStep, removes, rosterMove, applyRosterWrite, Option.map_some,
      Option.some.injEq] at stepped
    exact stepped.symm
  refine ⟨nextScene, ?_, ⟨?_, ?_⟩, rfl, rfl⟩
  · rw [written]
    exact delete_member_removes
  · intro other call there isLead here
    rw [written] at there
    rcases slot_of_set there with ⟨_, isNew⟩ | ⟨_, old⟩
    · subst isNew
      simp
    · exact pending.roster other call old isLead here
  · rw [written]
    exact pending.keys

end Steps

structure Idle (world : RosterWorld) : Prop where
  roster : world.calls = []
  keys : ∀ caller, world.base.calls caller = none

/-- If no call of the lead stands before its write when the owner's `DELETE` runs,
then from there on, in every state, the lead is off the roster and the project's
roster and keys are as the removal left them. -/
theorem removal_is_effective (tiers : List String) (config : KeyConfig) {parties : Parties}
    {start middle removed last : RosterWorld} {before after : List RosterEvent} {slot : Nat}
    {project : Project} (idle : Idle start)
    (found : getProjectById start.base.tenancy parties.projectId = some project)
    (owned : project.accountId = parties.owner) (other : parties.lead ≠ parties.owner)
    (allowed : ∀ event ∈ before ++ after, parties.allows event = true)
    (ranBefore : runFrom (rosterStep tiers config) start before = some middle)
    (removes : RemovesAt parties middle slot) (pending : NoPendingWrite parties middle)
    (removal : rosterStep tiers config middle (.advance slot) = some removed)
    (ranAfter : runFrom (rosterStep tiers config) removed after = some last) :
    memberRow last.base.tenancy parties.projectId parties.lead = none ∧
      rosterOf last.base.tenancy parties.projectId =
        rosterOf removed.base.tenancy parties.projectId ∧
      keysOf last.base.keys parties.projectId =
        keysOf removed.base.keys parties.projectId := by
  have startScene : Scene parties start := by
    refine ⟨⟨project, found, owned⟩, ?_, ?_⟩
    · intro position call there
      simp [idle.roster] at there
    · intro caller call there
      simp [idle.keys caller] at there
  have scene : Scene parties middle := by
    apply run_preserves_of_meets (Scene parties)
      (fun _ _ _ inv now stepped => scene_step inv now stepped) startScene _ ranBefore
    exact meets_of_forall_mem fun event member _ =>
      allowed event (List.mem_append_left _ member)
  have gone := run_preserves_of_meets
    (Gone parties (rosterOf removed.base.tenancy parties.projectId)
      (keysOf removed.base.keys parties.projectId))
    (fun _ _ _ inv now stepped => gone_step other inv now stepped)
    (removal_gone scene pending removes removal)
    (meets_of_forall_mem fun event member _ =>
      allowed event (List.mem_append_right _ member)) ranAfter
  exact ⟨gone.absent, gone.sameRoster, gone.sameKeys⟩

def sampleParties : Parties := ⟨"owner", "lead", "shared"⟩

/-- The owner's removal before its `DELETE`, and the lead's re-admission of
themselves at some point. -/
def racing (point : RosterPoint) : RosterWorld :=
  { sampleRoster with
    calls :=
      [⟨"owner", "shared", "lead", .delete, .write⟩,
        ⟨"lead", "shared", "lead", .insert .lead, point⟩] }

def untilDelete (authorizations : Nat) : List RosterEvent :=
  [.arrive "owner" "shared" "lead" .removeProjectMember,
    .arrive "lead" "shared" "lead" (.addProjectMember (some "lead")), .advance 0] ++
    List.replicate authorizations (.advance 1)

theorem racing_idle : Idle sampleRoster := ⟨rfl, fun _ => rfl⟩

theorem racing_no_pending : NoPendingWrite sampleParties (racing .authorizeLead) := by
  refine ⟨?_, ?_⟩
  · intro slot call there isLead
    have member := List.mem_of_getElem? there
    simp only [racing, List.mem_cons, List.not_mem_nil, or_false] at member
    rcases member with isOwner | isOther
    · subst isOwner
      exact absurd isLead (by decide)
    · subst isOther
      simp
  · intro caller request row running
    cases running

/-- With one check still to make, the lead's call fails after the removal. -/
theorem late_check_removal_effective :
    ∃ removed last,
      runFrom (rosterStep [] sampleKeyConfig) sampleRoster (untilDelete 1) =
        some (racing .authorizeLead) ∧
      rosterStep [] sampleKeyConfig (racing .authorizeLead) (.advance 0) = some removed ∧
      runFrom (rosterStep [] sampleKeyConfig) removed [.advance 1] = some last ∧
      memberRow last.base.tenancy "shared" "lead" = none ∧
      rosterOf last.base.tenancy "shared" = rosterOf removed.base.tenancy "shared" ∧
      keysOf last.base.keys "shared" = keysOf removed.base.keys "shared" := by
  have allowed : ∀ event ∈ untilDelete 1 ++ [.advance 1], sampleParties.allows event = true := by
    intro event member
    simp only [untilDelete, List.replicate, List.cons_append, List.nil_append, List.mem_cons,
      List.not_mem_nil, or_false] at member
    rcases member with isEvent | isEvent | isEvent | isEvent | isEvent <;>
      · subst isEvent
        decide
  have ran : runFrom (rosterStep [] sampleKeyConfig) sampleRoster (untilDelete 1) =
      some (racing .authorizeLead) := rfl
  have removes : RemovesAt sampleParties (racing .authorizeLead) 0 := rfl
  refine ⟨_, _, ran, rfl, rfl, ?_⟩
  exact removal_is_effective [] sampleKeyConfig racing_idle rfl rfl (by decide) allowed ran
    removes racing_no_pending rfl rfl

/-- With both checks made, the lead's `INSERT` follows the owner's `DELETE` and
puts the lead back on the roster. -/
theorem removed_lead_readmits_themselves :
    Idle sampleRoster ∧
      (∀ event ∈ untilDelete 2 ++ [.advance 0, .advance 1], sampleParties.allows event = true) ∧
      ∃ removed last,
        runFrom (rosterStep [] sampleKeyConfig) sampleRoster (untilDelete 2) =
          some (racing .write) ∧
        RemovesAt sampleParties (racing .write) 0 ∧
        rosterStep [] sampleKeyConfig (racing .write) (.advance 0) = some removed ∧
        memberRow removed.base.tenancy "shared" "lead" = none ∧
        runFrom (rosterStep [] sampleKeyConfig) removed [.advance 1] = some last ∧
        projectMemberRole last.base.tenancy "shared" "lead" = some .lead := by
  refine ⟨racing_idle, ?_, _, _, rfl, rfl, rfl, by decide +kernel, rfl, by decide +kernel⟩
  intro event member
  simp only [untilDelete, List.replicate, List.cons_append, List.nil_append, List.mem_cons,
    List.not_mem_nil, or_false] at member
  rcases member with isEvent | isEvent | isEvent | isEvent | isEvent | isEvent | isEvent <;>
    · subst isEvent
      decide

end LightbridgeAuthz.ApiKeys.LeadRemoval

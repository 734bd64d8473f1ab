import LightbridgeAuthz.ApiKeys.KeyWriteSides

/-!
# Tenants are served as if they were alone

For any split of the accounts in two sides whose calls put no account of the
other side on a roster, move no project to it and draw other names than it does,
each side's rows after any run of calls are those of its own calls alone, and so
are the answers it gets: its refusals too. Nothing is asked of what the calls
name otherwise: a caller may try any id of the other side.
-/

namespace LightbridgeAuthz.ApiKeys.TenantSeparation

open Library.KeyedRows Library.Separation
open Access.Tenancy Access.TenancyOps Access.TenantSides
open KeyTable KeySides RosterCalls StoreCalls StoreSides KeyWriteSides

set_option autoImplicit false

variable {side : StoreSide} {config : StoreConfig} {store : AuthzStore} {subject : String}

theorem refused_separates {tenancy : TenancyDb} (error : AccessError) :
    side.toSide.Separates tenancy subject fun _ => .error error where
  keeps := by
    intro next done
    cases done
  beyond := by
    intro next other done
    cases done
  own := fun _ => rfl

theorem set_project_allowed_models_separates {tenancy : TenancyDb}
    (apart : side.Apart tenancy) (projectId : String) (models : Option (List String)) :
    side.toSide.Separates tenancy subject
      fun rows => setProjectAllowedModels config rows subject projectId models := by
  unfold setProjectAllowedModels
  split
  · apply set_project_column_separates apart
    · exact fun _ => rfl
    · exact fun _ => rfl
  · exact refused_separates _

theorem set_model_policy_separates {tenancy : TenancyDb} (apart : side.Apart tenancy)
    (projectId modelPolicy : String) :
    side.toSide.Separates tenancy subject
      fun rows => setModelPolicy rows subject projectId modelPolicy := by
  unfold setModelPolicy
  split
  · exact refused_separates _
  · exact set_project_model_policy_separates apart _

theorem set_project_allowed_models_stays {tenancy next : TenancyDb} {projectId : String}
    {models : Option (List String)}
    (done : setProjectAllowedModels config tenancy subject projectId models = .ok next) :
    Stays tenancy next := by
  unfold setProjectAllowedModels at done
  split at done
  · refine set_project_column_stays ?_ done
    exact fun _ => rfl
  · cases done

theorem set_model_policy_stays {tenancy next : TenancyDb} {projectId modelPolicy : String}
    (done : setModelPolicy tenancy subject projectId modelPolicy = .ok next) :
    Stays tenancy next := by
  unfold setModelPolicy at done
  split at done
  · cases done
  · rw [set_project_model_policy_ok done]
    apply update_project_stays
    exact fun _ => rfl

theorem idle_separates (sound : side.Sound store) :
    side.Separates store subject fun rows => .ok (rows, none) where
  keeps := by
    intro next issued done
    cases done
    exact sound
  beyond := by
    intro next issued other done
    cases done
    rfl
  own := fun _ => rfl

theorem write_request_separates (sound : side.Sound store) {request : StoreRequest}
    (confined : side.Confined config ⟨subject, request⟩) :
    side.Separates store subject fun rows => writeRequest config rows subject request := by
  cases request with
  | createAccount defaultQuota => exact create_account_with_quota_separates sound defaultQuota
  | updateAccountDefaultQuota accountId defaultQuota =>
      exact update_account_default_quota_separates sound accountId defaultQuota
  | setAccountStatus accountId status =>
      exact tenancy_separates sound (set_account_status_separates sound.apart accountId status)
        set_account_status_stays
  | deleteAccountPermanently accountId =>
      exact deletion_separates sound (delete_account_separates sound.apart accountId)
  | createProject input => exact create_project_row_separates sound confined.1 confined.2
  | updateProject projectId input =>
      exact update_project_row_separates sound projectId confined.1 confined.2
  | deleteProject projectId =>
      exact deletion_separates sound (delete_project_separates sound.apart projectId)
  | setProjectStatus projectId status =>
      have column : side.toSide.Separates store.tenancy subject fun rows =>
          setProjectColumn rows subject projectId (withProjectStatus status) := by
        apply set_project_column_separates sound.apart <;> exact fun _ => rfl
      refine tenancy_separates sound column ?_
      intro tenancy done
      refine set_project_column_stays ?_ done
      exact fun _ => rfl
  | setDefaultProject projectId =>
      exact tenancy_separates sound (set_default_project_separates sound.apart projectId)
        set_default_project_stays
  | setProjectQuota projectId projectQuota =>
      exact set_project_quota_separates sound projectId projectQuota
  | setProjectAllowedModels projectId models =>
      exact tenancy_separates sound
        (set_project_allowed_models_separates sound.apart projectId models)
        set_project_allowed_models_stays
  | setProjectModelPolicy projectId modelPolicy =>
      exact tenancy_separates sound (set_model_policy_separates sound.apart projectId modelPolicy)
        set_model_policy_stays
  | changeRoster projectId target request =>
      exact tenancy_separates sound
        (roster_operation_separates sound.apart config.quotaTiers projectId target confined)
        roster_operation_stays
  | createApiKey projectId input issue =>
      exact create_api_key_separates sound projectId input confined
  | rotateApiKey id input issue => exact rotate_api_key_separates sound id input confined
  | revokeApiKey id now => exact revoke_api_key_separates sound id now
  | updateApiKey id name => exact update_api_key_separates sound id name
  | deleteApiKey id now => exact delete_api_key_separates sound id now
  | getAccount accountId => exact idle_separates sound
  | getProject projectId => exact idle_separates sound
  | listProjects => exact idle_separates sound
  | listProjectRoster projectId => exact idle_separates sound
  | getApiKey id => exact idle_separates sound
  | listApiKeys => exact idle_separates sound
  | resolveContext projectId => exact idle_separates sound
  | findDefaultProjectId => exact idle_separates sound

section Replies

theorem account_reply_part {accountId : String} (inside : side.accounts accountId = true) :
    (side.part store).accountReply accountId = store.accountReply accountId := by
  have sameTerms : findKey accountTermsKey (side.part store).accountTerms accountId =
      findKey accountTermsKey store.accountTerms accountId := by
    apply find_key_filter
    intro terms _ keyed
    rw [Option.some.inj keyed, inside]
  unfold AuthzStore.accountReply
  rw [sameTerms, show (side.part store).tenancy = side.tenancy store.tenancy from rfl,
    get_account_part, if_pos inside]

theorem project_terms_part {projectId : String} (inside : side.projects projectId = true) :
    findKey projectTermsKey (side.part store).projectTerms projectId =
      findKey projectTermsKey store.projectTerms projectId := by
  apply find_key_filter
  intro terms _ keyed
  rw [Option.some.inj keyed, inside]

theorem project_reply_part {projectId : String} (inside : side.projects projectId = true) :
    (side.part store).projectReply projectId = store.projectReply projectId := by
  unfold AuthzStore.projectReply
  rw [project_terms_part inside,
    show (side.part store).tenancy = side.tenancy store.tenancy from rfl, get_project_part,
    if_pos inside]

theorem key_reply_part (sound : side.Sound store) {id : String}
    (inside : side.keyIds id = true) :
    (side.part store).keyReply id = store.keyReply id := by
  unfold AuthzStore.keyReply
  rw [show (side.part store).keys = side.keys store.keys from rfl,
    find_key_id_part sound.keyed, if_pos inside]

theorem list_projects_part (sound : side.Sound store) (own : side.accounts subject = true) :
    (side.part store).tenancy.projects.filter (sees (side.part store).tenancy subject) =
      store.tenancy.projects.filter (sees store.tenancy subject) := by
  simp only [StoreSide.part, Side.tenancy, List.filter_filter]
  apply List.filter_congr
  intro project member
  cases inside : side.projects project.id with
  | true =>
      have same := @sees_part side.toSide store.tenancy subject project inside
      simp only [Side.tenancy] at same
      simp [same]
  | false =>
      have notOwner : project.accountId ≠ subject := by
        rintro rfl
        rw [sound.apart.owned project member, own] at inside
        cases inside
      have noMember : (memberRow store.tenancy project.id subject).isSome = false := by
        by_contra isMember
        have onSide := member_on_side sound.apart (Bool.eq_true_of_not_eq_false isMember)
        rw [inside, own] at onSide
        cases onSide
      simp [sees, notOwner, noMember]

theorem list_project_roster_part (sound : side.Sound store) (own : side.accounts subject = true)
    (projectId : String) :
    listProjectRoster (side.part store).tenancy subject projectId =
      listProjectRoster store.tenancy subject projectId := by
  unfold listProjectRoster projectMemberRole
  rw [show (side.part store).tenancy = side.tenancy store.tenancy from rfl, get_project_part,
    member_row_part]
  cases inside : side.projects projectId with
  | true =>
      have sameMembers : (side.tenancy store.tenancy).members.filter
          (fun member => member.projectId == projectId) =
            store.tenancy.members.filter fun member => member.projectId == projectId := by
        simp only [Side.tenancy, List.filter_filter]
        apply List.filter_congr
        intro member _
        by_cases listed : member.projectId = projectId
        · simp [listed, inside]
        · simp [listed]
      simp [sameMembers]
  | false =>
      cases found : getProjectById store.tenancy projectId with
      | none => simp
      | some project =>
          have unseen := unseen_beyond sound.apart own found inside
          have named : project.id = projectId := Option.some.inj (find_key_some found).2
          simp only [sees, Bool.or_eq_false_iff, beq_eq_false_iff_ne, named,
            Option.isSome_eq_false_iff, Option.isNone_iff_eq_none] at unseen
          simp [unseen.1, unseen.2]

theorem list_api_keys_part (sound : side.Sound store) (own : side.accounts subject = true) :
    (side.part store).keys.filter (visibleKey (side.part store) subject) =
      store.keys.filter (visibleKey store subject) := by
  simp only [StoreSide.part, KeySide.keys, List.filter_filter]
  apply List.filter_congr
  intro row _
  have same := visible_key_part sound own row
  simp only [StoreSide.part, KeySide.keys] at same
  rw [same]
  cases visible : visibleKey store subject row with
  | false => rfl
  | true =>
      rw [sees_project_on_side sound.apart (Bool.and_eq_true_iff.mp visible).2, own]
      rfl

theorem read_request_part (sound : side.Sound store) (own : side.accounts subject = true)
    (request : StoreRequest) :
    readRequest (side.part store) subject request = readRequest store subject request := by
  have sameTenancy : (side.part store).tenancy = side.tenancy store.tenancy := rfl
  cases request with
  | getAccount accountId =>
      simp only [readRequest]
      by_cases theirs : accountId = subject
      · subst theirs
        rw [account_reply_part own, sameTenancy, get_account_part, if_pos own]
      · simp [theirs]
  | getProject projectId =>
      simp only [readRequest, sameTenancy, visible_project_part sound.apart own]
      cases visible : visibleProject store.tenancy subject projectId with
      | none => rfl
      | some project =>
          rw [project_reply_part ((visible_on_side sound.apart visible).trans own)]
  | listProjects =>
      simp only [readRequest, list_projects_part sound own]
      congr 3
      apply List.map_congr_left
      intro project member
      obtain ⟨stored, may⟩ := List.mem_filter.mp member
      have inside : side.projects project.id = true := by
        rw [sound.apart.owned project stored]
        rcases Bool.or_eq_true_iff.mp may with owner | isMember
        · rw [beq_iff_eq.mp owner, own]
        · rw [← sound.apart.owned project stored, member_on_side sound.apart isMember, own]
      rw [project_terms_part inside]
  | listProjectRoster projectId =>
      simp only [readRequest, list_project_roster_part sound own]
  | getApiKey id => simp only [readRequest, selected_key_part sound own]
  | listApiKeys => simp only [readRequest, list_api_keys_part sound own]
  | resolveContext projectId =>
      simp only [readRequest, sameTenancy, resolve_context_part sound.apart own]
  | findDefaultProjectId =>
      simp only [readRequest, sameTenancy, find_default_part sound.apart own]
  | _ => rfl

theorem except_map_ok {Error Source Target : Type*} {result : Except Error Source}
    {change : Source → Target} {target : Target} (mapped : result.map change = .ok target) :
    ∃ source, result = .ok source ∧ change source = target := by
  cases result with
  | error error => cases mapped
  | ok source => exact ⟨source, rfl, Except.ok.inj mapped⟩

theorem set_project_column_visible {tenancy next : TenancyDb} {projectId : String}
    {change : Project → Project}
    (done : setProjectColumn tenancy subject projectId change = .ok next) :
    ∃ project, visibleProject tenancy subject projectId = some project := by
  unfold setProjectColumn at done
  split at done
  · cases done
  · rename_i project visible
    exact ⟨project, visible⟩

/-- A write returns rows of the caller's side, and so the same rows from the part. -/
theorem write_reply_part (sound : side.Sound store) (own : side.accounts subject = true)
    {request : StoreRequest} (confined : side.Confined config ⟨subject, request⟩)
    {next : AuthzStore} {issued : Option ApiKeyRow}
    (written : writeRequest config store subject request = .ok (next, issued)) :
    writeReply (side.part store) (side.part next) subject issued request =
      writeReply store next subject issued request := by
  have soundNext : side.Sound next := (write_request_separates sound confined).keeps written
  have ofVisible : ∀ {projectId},
      (∃ project, visibleProject store.tenancy subject projectId = some project) →
      side.projects projectId = true := by
    rintro projectId ⟨project, visible⟩
    exact (visible_on_side sound.apart visible).trans own
  cases request with
  | createAccount defaultQuota => exact account_reply_part own
  | updateAccountDefaultQuota accountId defaultQuota =>
      obtain ⟨changed, done, _⟩ := except_map_ok written
      unfold updateAccountDefaultQuota at done
      split_ifs at done with checked theirs
      rw [theirs.1] at *
      exact account_reply_part own
  | setAccountStatus accountId status =>
      obtain ⟨tenancy, done, _⟩ := except_map_ok written
      unfold setAccountStatus at done
      split_ifs at done with theirs
      rw [theirs.1] at *
      exact account_reply_part own
  | deleteAccountPermanently accountId =>
      obtain ⟨tenancy, done, _⟩ := except_map_ok written
      unfold deleteAccount at done
      split_ifs at done with theirs
      rw [theirs.1] at *
      exact account_reply_part own
  | createProject input => exact project_reply_part (confined.1.trans own)
  | updateProject projectId input =>
      obtain ⟨changed, done, _⟩ := except_map_ok written
      obtain ⟨tenancy, ran, _⟩ := update_project_row_ok done
      exact project_reply_part (ofVisible (update_project_verb_visible ran))
  | deleteProject projectId =>
      obtain ⟨tenancy, done, _⟩ := except_map_ok written
      obtain ⟨⟨project, found, theirs⟩, _⟩ := delete_project_ok done
      exact project_reply_part (by rw [found_owned sound.apart found, theirs, own])
  | setProjectStatus projectId status =>
      obtain ⟨tenancy, done, _⟩ := except_map_ok written
      exact project_reply_part (ofVisible (set_project_column_visible done))
  | setDefaultProject projectId =>
      obtain ⟨tenancy, done, _⟩ := except_map_ok written
      unfold setDefaultProject at done
      split at done
      · cases done
      · rename_i project visible
        exact project_reply_part (ofVisible ⟨project, visible⟩)
  | setProjectQuota projectId projectQuota =>
      obtain ⟨changed, done, _⟩ := except_map_ok written
      unfold setProjectQuota at done
      split_ifs at done
      split at done
      · cases done
      · rename_i project visible
        exact project_reply_part (ofVisible ⟨project, visible⟩)
  | setProjectAllowedModels projectId models =>
      obtain ⟨tenancy, done, _⟩ := except_map_ok written
      unfold setProjectAllowedModels at done
      split at done
      · exact project_reply_part (ofVisible (set_project_column_visible done))
      · cases done
  | setProjectModelPolicy projectId modelPolicy =>
      obtain ⟨tenancy, done, _⟩ := except_map_ok written
      unfold setModelPolicy setProjectModelPolicy at done
      split at done
      · cases done
      · split at done
        · cases done
        · rename_i project visible
          exact project_reply_part (ofVisible ⟨project, visible⟩)
  | changeRoster projectId target request =>
      obtain ⟨tenancy, done, _⟩ := except_map_ok written
      obtain ⟨write, _, authorized, _⟩ := roster_operation_ok done
      exact project_reply_part ((authorized_on_side sound.apart authorized).1.trans own)
  | revokeApiKey id now =>
      obtain ⟨changed, done, _⟩ := except_map_ok written
      obtain ⟨keys, ran, _⟩ := except_map_ok done
      unfold setApiKeyStatus at ran
      split at ran
      · cases ran
      · rename_i row got
        exact key_reply_part soundNext
          ((get_api_key_on_side sound.apart sound.keyed got).1.trans own)
  | updateApiKey id name =>
      obtain ⟨changed, done, _⟩ := except_map_ok written
      unfold updateApiKey withSelectedKey at done
      split at done
      · cases done
      · rename_i row selected
        exact key_reply_part soundNext ((selected_key_on_side sound selected).trans own)
  | deleteApiKey id now =>
      obtain ⟨changed, done, _⟩ := except_map_ok written
      unfold deleteApiKey withSelectedKey at done
      split at done
      · cases done
      · rename_i row selected
        exact key_reply_part soundNext ((selected_key_on_side sound selected).trans own)
  | _ => rfl

end Replies

theorem serve_part (sound : side.Sound store) {call : StoreCall}
    (confined : side.Confined config call) (own : side.calls call = true) :
    serve config (side.part store) call =
      (side.part (serve config store call).1, (serve config store call).2) := by
  have writes := (write_request_separates sound confined).own own
  unfold serve
  rw [read_request_part sound own]
  cases readRequest store call.subject call.request with
  | some reply => rfl
  | none =>
      simp only [writes]
      cases written : writeRequest config store call.subject call.request with
      | error error => rfl
      | ok done =>
          have replies := write_reply_part sound own confined written
          exact congrArg (Prod.mk (side.part done.1)) (congrArg Except.ok replies)

theorem serve_separates (side : StoreSide) (config : StoreConfig) :
    Separates (serve config) side.calls side.part side.Sound (side.Confined config) where
  keeps := by
    intro store call sound confined
    unfold serve
    split
    · exact sound
    · split
      · exact sound
      · rename_i next issued written
        exact (write_request_separates sound confined).keeps written
  foreign := by
    intro store call sound confined other
    unfold serve
    split
    · rfl
    · split
      · rfl
      · rename_i next issued written
        exact (write_request_separates sound confined).beyond other written
  own := by
    intro store call sound confined own
    rw [serve_part sound confined own]
  answered := by
    intro store call sound confined own
    rw [serve_part sound confined own]

/-- The side's part of a run is a run of its own: its rows and answers are those of its
calls alone, and no other rows and calls beside it would change an answer. -/
structure ServedAlone (side : StoreSide) (config : StoreConfig) (store : AuthzStore)
    (calls : List StoreCall) : Prop where
  rows : side.part (finalState (serve config) store calls) =
    finalState (serve config) (side.part store) (calls.filter side.calls)
  answers : answersTo (serve config) side.calls store calls =
    answersTo (serve config) side.calls (side.part store) (calls.filter side.calls)
  unaffected : ∀ (other : AuthzStore) (others : List StoreCall), side.Sound other →
    (∀ call ∈ others, side.Confined config call) → side.part other = side.part store →
    others.filter side.calls = calls.filter side.calls →
    answersTo (serve config) side.calls other others =
      answersTo (serve config) side.calls store calls

/-- Tenants that share no project are served as if each were alone. -/
theorem tenants_served_alone (side : StoreSide) (config : StoreConfig) (store : AuthzStore)
    (calls : List StoreCall) (sound : side.Sound store)
    (confined : ∀ call ∈ calls, side.Confined config call) :
    ServedAlone side config store calls where
  rows := part_run (serve_separates side config) sound confined
  answers := answers_run (serve_separates side config) sound confined
  unaffected := fun _ _ otherSound othersConfined samePart sameCalls =>
    answers_alike (serve_separates side config) otherSound sound othersConfined confined samePart
      sameCalls

section Sample

def aliceSide : StoreSide where
  accounts := fun id => id == "alice"
  projects := fun id => id == "alice-app"
  keyIds := fun id => id == "alice-key"
  keyHashes := fun hash => hash == "alice-secret"
  identities := fun identity => identity == "alice-billing"

def openConfig : StoreConfig where
  quotaTiers := []
  models := []
  apiKeys := { hashApiKey := id, maxLifetimeDays := 90, billingPlans := ["free"] }

def twoAccounts : AuthzStore where
  tenancy := { accounts := [⟨"alice", .active⟩, ⟨"bob", .active⟩], projects := [], members := [] }
  accountTerms := [⟨"alice", none⟩, ⟨"bob", none⟩]
  projectTerms := []
  keys := []

def aliceIssue : Issue where
  now := 0
  newId := "alice-key"
  issueSecret := fun _ => .ok ⟨"alice-secret", none⟩

/-- Alice makes a project and a key; Bob tries to read, lead and revoke them. -/
def mixedCalls : List StoreCall :=
  [⟨"alice", .createProject ⟨"alice-app", "alice", "app", .null, "free", "alice-billing"⟩⟩,
    ⟨"bob", .getProject "alice-app"⟩,
    ⟨"alice", .createApiKey "alice-app" ⟨"key", some 1, "free"⟩ aliceIssue⟩,
    ⟨"bob", .revokeApiKey "alice-key" 1⟩,
    ⟨"bob", .changeRoster "alice-app" "bob" (.addProjectMember none)⟩,
    ⟨"alice", .getApiKey "alice-key"⟩]

theorem mixed_calls_confined :
    ∀ call ∈ mixedCalls, aliceSide.Confined openConfig call := by
  intro call member
  simp only [mixedCalls, List.mem_cons, List.not_mem_nil, or_false] at member
  rcases member with rfl | rfl | rfl | rfl | rfl | rfl
  · exact ⟨rfl, rfl⟩
  · exact trivial
  · refine ⟨rfl, ?_⟩
    intro project secret issued
    cases issued
    rfl
  · exact trivial
  · intro brought given
    cases given
    rfl
  · exact trivial

theorem two_accounts_sound : aliceSide.Sound twoAccounts where
  apart := ⟨by decide, by decide⟩
  billed := by decide
  keyed := by
    intro row member
    cases member
  accountsStand := by decide
  projectsStand := by decide
  keysStand := by decide

/-- Bob's calls between Alice's are all refused, hers are all served. -/
theorem mixed_calls_served_alone :
    ServedAlone aliceSide openConfig twoAccounts mixedCalls ∧
      (answersTo (serve openConfig) aliceSide.calls twoAccounts mixedCalls).map Except.isOk =
        [true, true, true] ∧
      (answersTo (serve openConfig) (fun call => !aliceSide.calls call) twoAccounts
        mixedCalls).map Except.isOk = [false, false, false] :=
  ⟨tenants_served_alone aliceSide openConfig twoAccounts mixedCalls two_accounts_sound
    mixed_calls_confined, by decide, by decide⟩

end Sample

end LightbridgeAuthz.ApiKeys.TenantSeparation

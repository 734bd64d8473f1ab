import LightbridgeAuthz.ApiKeys.KeySides
import LightbridgeAuthz.ApiKeys.StoreCalls

/-!
# One side of the store

The rows of one side's accounts, projects and keys, what keeps every row on one
side, and what the split asks of a write. The writes of accounts and projects
meet it: the tables change together, and a deletion takes with it what the
foreign keys cascade to.
-/

namespace LightbridgeAuthz.ApiKeys.StoreSides

open Library.KeyedRows
open Access.Tenancy Access.TenancyOps Access.TenantSides
open KeyTable KeySides RosterCalls StoreCalls

set_option autoImplicit false

/-- A side with the billing identities that its projects use. -/
structure StoreSide extends KeySide where
  identities : String → Bool

def StoreSide.part (side : StoreSide) (store : AuthzStore) : AuthzStore where
  tenancy := side.tenancy store.tenancy
  accountTerms := store.accountTerms.filter fun terms => side.accounts terms.accountId
  projectTerms := store.projectTerms.filter fun terms => side.projects terms.projectId
  keys := side.keys store.keys

/-- Every row of the store is of one side, and its foreign keys hold. -/
structure StoreSide.Sound (side : StoreSide) (store : AuthzStore) : Prop where
  apart : side.Apart store.tenancy
  billed : ∀ terms ∈ store.projectTerms,
    side.identities terms.billingIdentity = side.projects terms.projectId
  keyed : ∀ row ∈ store.keys, side.Holds row
  accountsStand : ∀ terms ∈ store.accountTerms,
    (getAccountById store.tenancy terms.accountId).isSome = true
  projectsStand : ∀ terms ∈ store.projectTerms,
    (getProjectById store.tenancy terms.projectId).isSome = true
  keysStand : ∀ row ∈ store.keys,
    (getProjectById store.tenancy row.projectId).isSome = true ∧
      (getAccountById store.tenancy row.ownerAccountId).isSome = true

/-- What a call's issuer draws is the caller's side's. -/
structure StoreSide.Draws (side : StoreSide) (config : KeyConfig) (subject : String)
    (issue : Issue) : Prop where
  id : side.keyIds issue.newId = side.accounts subject
  hash : ∀ project secret, issue.issueSecret project = .ok secret →
    side.keyHashes (config.hashApiKey secret.secret) = side.accounts subject

/-- The call names the other side nowhere where that would join the two. -/
def StoreSide.Confined (side : StoreSide) (config : StoreConfig) (call : StoreCall) : Prop :=
  match call.request with
  | .createProject input =>
      side.projects input.id = side.accounts call.subject ∧
        side.identities input.billingIdentity = side.accounts call.subject
  | .updateProject _ input =>
      (∀ target ∈ input.accountId, side.accounts target = side.accounts call.subject) ∧
        ∀ identity ∈ input.billingIdentity,
          side.identities identity = side.accounts call.subject
  | .changeRoster _ target request =>
      ∀ brought ∈ RosterRequest.brings target request,
        side.accounts brought = side.accounts call.subject
  | .createApiKey _ _ issue => side.Draws config.apiKeys call.subject issue
  | .rotateApiKey _ _ issue => side.Draws config.apiKeys call.subject issue
  | _ => True

def StoreSide.calls (side : StoreSide) (call : StoreCall) : Bool := side.accounts call.subject

/-- Accounts and projects that stand before stand after. -/
structure Stays (before after : TenancyDb) : Prop where
  accounts : before.accounts.map Account.id ⊆ after.accounts.map Account.id
  projects : before.projects.map Project.id ⊆ after.projects.map Project.id

theorem account_stands_iff {tenancy : TenancyDb} {accountId : String} :
    (getAccountById tenancy accountId).isSome = true ↔
      accountId ∈ tenancy.accounts.map Account.id := by
  simp [getAccountById, findKey, accountKey]

theorem project_stands_iff {tenancy : TenancyDb} {projectId : String} :
    (getProjectById tenancy projectId).isSome = true ↔
      projectId ∈ tenancy.projects.map Project.id := by
  simp [getProjectById, findKey, projectKey]

theorem update_project_stays {tenancy : TenancyDb} {projectId : String}
    {change : Project → Project} (keepsId : ∀ project, (change project).id = project.id) :
    Stays tenancy (updateProject tenancy projectId change) where
  accounts := List.Subset.refl _
  projects := by
    have sameIds : (updateProject tenancy projectId change).projects.map Project.id =
        tenancy.projects.map Project.id := by
      simp only [updateProject, updateKey, List.map_map]
      apply List.map_congr_left
      intro project _
      by_cases hit : projectKey project = some projectId <;> simp [hit, keepsId]
    rw [sameIds]
    exact List.Subset.refl _

section Tenancy

variable {tenancy next : TenancyDb} {subject projectId accountId : String}

theorem set_project_column_stays {change : Project → Project}
    (keepsId : ∀ project, (change project).id = project.id)
    (done : setProjectColumn tenancy subject projectId change = .ok next) :
    Stays tenancy next := by
  rw [set_project_column_ok done]
  exact update_project_stays keepsId

theorem set_account_status_stays {status : ResourceStatus}
    (done : setAccountStatus tenancy subject accountId status = .ok next) :
    Stays tenancy next := by
  unfold setAccountStatus at done
  split_ifs at done
  cases done
  refine ⟨?_, List.Subset.refl _⟩
  intro id member
  obtain ⟨account, isAccount, named⟩ := List.mem_map.mp member
  refine List.mem_map.mpr ⟨_, List.mem_map.mpr ⟨account, isAccount, rfl⟩, ?_⟩
  by_cases hit : accountKey account = some accountId <;> simp [hit, named]

theorem set_default_project_stays
    (done : setDefaultProject tenancy subject projectId = .ok next) : Stays tenancy next := by
  obtain ⟨promoted, _, rows⟩ := set_default_project_ok done
  rw [rows]
  refine ⟨List.Subset.refl _, ?_⟩
  rw [List.map_map]
  intro id member
  obtain ⟨project, isProject, named⟩ := List.mem_map.mp member
  exact List.mem_map.mpr ⟨project, isProject, (with_default_row _ _ project).1.trans named⟩

theorem update_project_verb_stays {target : Option String}
    (done : updateProjectVerb tenancy subject projectId target = .ok next) :
    Stays tenancy next := by
  rcases update_project_verb_ok done with same | ⟨project, other, _, _, rows⟩
  · rw [same]
    exact ⟨List.Subset.refl _, List.Subset.refl _⟩
  · rw [rows]
    apply update_project_stays
    exact fun _ => rfl

theorem roster_operation_stays {tiers : List String} {target : String}
    {request : RosterRequest}
    (done : rosterOperation tiers tenancy subject projectId target request = .ok next) :
    Stays tenancy next := by
  obtain ⟨write, _, _, applied⟩ := roster_operation_ok done
  have sameProjects := roster_operation_projects done
  have sameAccounts : next.accounts = tenancy.accounts := by
    cases write with
    | insert role =>
        rcases insert_member_ok applied with same | appended
        · rw [same]
        · rw [appended]
    | delete =>
        cases applied
        rfl
    | setRole role => rw [update_member_ok applied]
    | setTier tier => rw [update_member_ok applied]
  constructor
  · rw [sameAccounts]
    exact List.Subset.refl _
  · rw [sameProjects]
    exact List.Subset.refl _

end Tenancy

variable {side : StoreSide} {config : StoreConfig} {store : AuthzStore} {subject : String}

theorem stays_account {before after : TenancyDb} (stays : Stays before after)
    {accountId : String} (stands : (getAccountById before accountId).isSome = true) :
    (getAccountById after accountId).isSome = true :=
  account_stands_iff.mpr (stays.accounts (account_stands_iff.mp stands))

theorem stays_project {before after : TenancyDb} (stays : Stays before after)
    {projectId : String} (stands : (getProjectById before projectId).isSome = true) :
    (getProjectById after projectId).isSome = true :=
  project_stands_iff.mpr (stays.projects (project_stands_iff.mp stands))

theorem sound_with_tenancy (sound : side.Sound store) {tenancy : TenancyDb}
    (apart : side.Apart tenancy) (stays : Stays store.tenancy tenancy) :
    side.Sound (store.withTenancy tenancy) where
  apart := apart
  billed := sound.billed
  keyed := sound.keyed
  accountsStand := fun terms member => stays_account stays (sound.accountsStand terms member)
  projectsStand := fun terms member => stays_project stays (sound.projectsStand terms member)
  keysStand := fun row member =>
    ⟨stays_project stays (sound.keysStand row member).1,
      stays_account stays (sound.keysStand row member).2⟩

/-- What the split asks of a write that `subject` calls. -/
structure StoreSide.Separates (side : StoreSide) (store : AuthzStore) (subject : String)
    (write : AuthzStore → Except AccessError (AuthzStore × Option ApiKeyRow)) : Prop where
  keeps : ∀ {next issued}, write store = .ok (next, issued) → side.Sound next
  beyond : ∀ {next issued}, side.accounts subject = false → write store = .ok (next, issued) →
    side.part next = side.part store
  own : side.accounts subject = true →
    write (side.part store) = (write store).map fun done => (side.part done.1, done.2)

theorem tenancy_separates (sound : side.Sound store)
    {operation : TenancyDb → Except AccessError TenancyDb}
    (separates : side.toSide.Separates store.tenancy subject operation)
    (stays : ∀ {tenancy}, operation store.tenancy = .ok tenancy → Stays store.tenancy tenancy) :
    side.Separates store subject
      fun rows => (operation rows.tenancy).map (rows.withTenancy ·, none) where
  keeps := by
    intro next issued done
    cases ran : operation store.tenancy with
    | error error => simp [ran, Except.map] at done
    | ok tenancy =>
        simp only [ran, Except.map, Except.ok.injEq, Prod.mk.injEq] at done
        rw [← done.1]
        exact sound_with_tenancy sound (separates.keeps ran) (stays ran)
  beyond := by
    intro next issued other done
    cases ran : operation store.tenancy with
    | error error => simp [ran, Except.map] at done
    | ok tenancy =>
        simp only [ran, Except.map, Except.ok.injEq, Prod.mk.injEq] at done
        rw [← done.1, StoreSide.part, StoreSide.part, AuthzStore.withTenancy,
          separates.beyond other ran]
  own := by
    intro own
    rw [show (side.part store).tenancy = side.tenancy store.tenancy from rfl,
      separates.own own]
    cases operation store.tenancy with
    | error error => rfl
    | ok tenancy => rfl

theorem after_deletion_part (sound : side.Sound store) (tenancy : TenancyDb) :
    side.part (store.afterDeletion tenancy) =
      (side.part store).afterDeletion (side.tenancy tenancy) := by
  simp only [StoreSide.part, AuthzStore.afterDeletion, AuthzStore.mk.injEq, true_and,
    KeySide.keys, cascadeKeys, List.filter_filter]
  refine ⟨?_, ?_, ?_⟩
  · apply List.filter_congr
    intro terms _
    rw [get_account_part]
    cases side.accounts terms.accountId with
    | true => simp
    | false => simp
  · apply List.filter_congr
    intro terms _
    rw [get_project_part]
    cases side.projects terms.projectId with
    | true => simp
    | false => simp
  · apply List.filter_congr
    intro row member
    rw [get_project_part, get_account_part, (sound.keyed row member).owner]
    cases side.projects row.projectId with
    | true => simp
    | false => simp

theorem after_deletion_beyond (sound : side.Sound store) {tenancy : TenancyDb}
    (same : side.tenancy tenancy = side.tenancy store.tenancy) :
    side.part (store.afterDeletion tenancy) = side.part store := by
  have accountStands : ∀ accountId, side.accounts accountId = true →
      getAccountById tenancy accountId = getAccountById store.tenancy accountId := by
    intro accountId inside
    have looked := congrArg (fun rows => getAccountById rows accountId) same
    simpa [inside] using looked
  have projectStands : ∀ projectId, side.projects projectId = true →
      getProjectById tenancy projectId = getProjectById store.tenancy projectId := by
    intro projectId inside
    have looked := congrArg (fun rows => getProjectById rows projectId) same
    simpa [inside] using looked
  simp only [StoreSide.part, AuthzStore.afterDeletion, AuthzStore.mk.injEq, same, true_and,
    KeySide.keys, cascadeKeys, List.filter_filter]
  refine ⟨?_, ?_, ?_⟩
  · apply List.filter_congr
    intro terms member
    cases inside : side.accounts terms.accountId with
    | true => rw [accountStands _ inside, sound.accountsStand terms member]; rfl
    | false => rfl
  · apply List.filter_congr
    intro terms member
    cases inside : side.projects terms.projectId with
    | true => rw [projectStands _ inside, sound.projectsStand terms member]; rfl
    | false => rfl
  · apply List.filter_congr
    intro row member
    cases inside : side.projects row.projectId with
    | true =>
        have ownerInside := (sound.keyed row member).owner.trans inside
        rw [projectStands _ inside, accountStands _ ownerInside,
          (sound.keysStand row member).1, (sound.keysStand row member).2]
        rfl
    | false => rfl

theorem sound_after_deletion (sound : side.Sound store) {tenancy : TenancyDb}
    (apart : side.Apart tenancy) : side.Sound (store.afterDeletion tenancy) where
  apart := apart
  billed := fun terms member => sound.billed terms (List.mem_filter.mp member).1
  keyed := fun row member => sound.keyed row (List.mem_filter.mp member).1
  accountsStand := fun _ member => (List.mem_filter.mp member).2
  projectsStand := fun _ member => (List.mem_filter.mp member).2
  keysStand := by
    intro row member
    have stands := (List.mem_filter.mp member).2
    rw [Bool.and_eq_true] at stands
    exact stands

theorem deletion_separates (sound : side.Sound store)
    {operation : TenancyDb → Except AccessError TenancyDb}
    (separates : side.toSide.Separates store.tenancy subject operation) :
    side.Separates store subject
      fun rows => (operation rows.tenancy).map (rows.afterDeletion ·, none) where
  keeps := by
    intro next issued done
    cases ran : operation store.tenancy with
    | error error => simp [ran, Except.map] at done
    | ok tenancy =>
        simp only [ran, Except.map, Except.ok.injEq, Prod.mk.injEq] at done
        rw [← done.1]
        exact sound_after_deletion sound (separates.keeps ran)
  beyond := by
    intro next issued other done
    cases ran : operation store.tenancy with
    | error error => simp [ran, Except.map] at done
    | ok tenancy =>
        simp only [ran, Except.map, Except.ok.injEq, Prod.mk.injEq] at done
        rw [← done.1]
        exact after_deletion_beyond sound (separates.beyond other ran)
  own := by
    intro own
    rw [show (side.part store).tenancy = side.tenancy store.tenancy from rfl,
      separates.own own]
    cases operation store.tenancy with
    | error error => rfl
    | ok tenancy => simp only [Except.map, after_deletion_part sound]

theorem plain_separates {operation : AuthzStore → Except AccessError AuthzStore}
    (keeps : ∀ {next}, operation store = .ok next → side.Sound next)
    (beyond : ∀ {next}, side.accounts subject = false → operation store = .ok next →
      side.part next = side.part store)
    (own : side.accounts subject = true →
      operation (side.part store) = (operation store).map side.part) :
    side.Separates store subject fun rows => (operation rows).map (·, none) where
  keeps := by
    intro next issued done
    cases ran : operation store with
    | error error => simp [ran, Except.map] at done
    | ok changed =>
        simp only [ran, Except.map, Except.ok.injEq, Prod.mk.injEq] at done
        rw [← done.1]
        exact keeps ran
  beyond := by
    intro next issued other done
    cases ran : operation store with
    | error error => simp [ran, Except.map] at done
    | ok changed =>
        simp only [ran, Except.map, Except.ok.injEq, Prod.mk.injEq] at done
        rw [← done.1]
        exact beyond other ran
  own := by
    intro mine
    rw [own mine]
    cases operation store with
    | error error => rfl
    | ok changed => rfl

theorem create_account_with_quota_separates (sound : side.Sound store)
    (defaultQuota : Option String) :
    side.Separates store subject
      fun rows => (createAccountWithQuota config rows subject defaultQuota).map (·, none) := by
  have separates : side.toSide.Separates store.tenancy subject
      fun rows => createAccount rows subject := create_account_separates sound.apart
  have created : ∀ {next}, createAccountWithQuota config store subject defaultQuota = .ok next →
      ∃ tenancy, createAccount store.tenancy subject = .ok tenancy ∧
        next = { store with
          tenancy := tenancy
          accountTerms := store.accountTerms ++ [⟨subject, defaultQuota⟩] } := by
    intro next done
    unfold createAccountWithQuota at done
    split_ifs at done
    cases ran : createAccount store.tenancy subject with
    | error error => simp [ran, Except.map] at done
    | ok tenancy =>
        simp only [ran, Except.map, Except.ok.injEq] at done
        exact ⟨tenancy, rfl, done.symm⟩
  apply plain_separates
  · intro next done
    obtain ⟨tenancy, ran, isNext⟩ := created done
    rw [isNext]
    have stays : Stays store.tenancy tenancy := by
      rw [create_account_ok ran]
      refine ⟨?_, List.Subset.refl _⟩
      rw [List.map_append]
      exact List.subset_append_left _ _
    have later := sound_with_tenancy sound (separates.keeps ran) stays
    refine ⟨later.apart, later.billed, later.keyed, ?_, later.projectsStand, later.keysStand⟩
    intro terms member
    rcases List.mem_append.mp member with stored | fresh
    · exact later.accountsStand terms stored
    · rw [List.mem_singleton.mp fresh, create_account_ok ran]
      simp [account_stands_iff]
  · intro next other done
    obtain ⟨tenancy, ran, isNext⟩ := created done
    rw [isNext]
    simp [StoreSide.part, separates.beyond other ran, other]
  · intro own
    unfold createAccountWithQuota
    split_ifs
    · rw [show (side.part store).tenancy = side.tenancy store.tenancy from rfl,
        separates.own own]
      cases createAccount store.tenancy subject with
      | error error => rfl
      | ok tenancy => simp [Except.map, StoreSide.part, own]
    · rfl

theorem update_account_terms_part {accountId : String} {change : AccountTerms → AccountTerms}
    (keeps : ∀ terms, (change terms).accountId = terms.accountId) :
    (updateKey accountTermsKey store.accountTerms accountId change).filter
        (fun terms => side.accounts terms.accountId) =
      updateKey accountTermsKey (side.part store).accountTerms accountId change := by
  apply update_key_filter
  intro terms _ _
  rw [keeps]

theorem update_account_default_quota_separates (sound : side.Sound store) (accountId : String)
    (defaultQuota : Option String) :
    side.Separates store subject fun rows =>
      (updateAccountDefaultQuota config rows subject accountId defaultQuota).map (·, none) := by
  apply plain_separates
  · intro next done
    unfold updateAccountDefaultQuota at done
    split_ifs at done
    cases done
    refine ⟨sound.apart, sound.billed, sound.keyed, ?_, sound.projectsStand, sound.keysStand⟩
    intro terms member
    obtain ⟨stored, storedMember, isRow⟩ := mem_update_key.mp member
    have stands := sound.accountsStand stored storedMember
    subst isRow
    split <;> exact stands
  · intro next other done
    unfold updateAccountDefaultQuota at done
    split_ifs at done with checked allowed
    cases done
    simp only [StoreSide.part, AuthzStore.mk.injEq, true_and, and_true]
    apply update_key_filter_outside
    · intro terms _ keyed
      rw [Option.some.inj keyed, allowed.1, other]
    · intro terms _ keyed
      exact (congrArg side.accounts ((Option.some.inj keyed).trans allowed.1)).trans other
  · intro own
    unfold updateAccountDefaultQuota
    rw [show (side.part store).tenancy = side.tenancy store.tenancy from rfl, get_account_part]
    by_cases checked : tierAllowed config.quotaTiers defaultQuota = true
    · by_cases theirs : accountId = subject
      · simp only [checked, not_true_eq_false, if_false, theirs, own, if_true, true_and]
        split_ifs
        · simp only [Except.map, StoreSide.part, Except.ok.injEq, AuthzStore.mk.injEq, true_and,
            and_true]
          symm
          apply update_account_terms_part
          exact fun _ => rfl
        · rfl
      · simp [checked, theirs, Except.map]
    · simp [checked, Except.map]

theorem update_project_terms_part {projectId : String} {change : ProjectTerms → ProjectTerms}
    (keeps : ∀ terms, (change terms).projectId = terms.projectId) :
    (updateKey projectTermsKey store.projectTerms projectId change).filter
        (fun terms => side.projects terms.projectId) =
      updateKey projectTermsKey (side.part store).projectTerms projectId change := by
  apply update_key_filter
  intro terms _ _
  rw [keeps]

theorem update_project_terms_beyond {projectId : String} {change : ProjectTerms → ProjectTerms}
    (keeps : ∀ terms, (change terms).projectId = terms.projectId)
    (beyond : side.projects projectId = false) :
    (updateKey projectTermsKey store.projectTerms projectId change).filter
        (fun terms => side.projects terms.projectId) =
      (side.part store).projectTerms := by
  apply update_key_filter_outside
  · intro terms _ keyed
    rw [Option.some.inj keyed, beyond]
  · intro terms _ keyed
    rw [keeps, Option.some.inj keyed, beyond]

theorem sound_with_terms (sound : side.Sound store) {tenancy : TenancyDb} {projectId : String}
    {change : ProjectTerms → ProjectTerms} (apart : side.Apart tenancy)
    (stays : Stays store.tenancy tenancy)
    (keeps : ∀ terms, (change terms).projectId = terms.projectId)
    (billed : ∀ terms ∈ store.projectTerms, terms.projectId = projectId →
      side.identities (change terms).billingIdentity = side.projects projectId) :
    side.Sound { store with
      tenancy := tenancy
      projectTerms := updateKey projectTermsKey store.projectTerms projectId change } := by
  have later := sound_with_tenancy sound apart stays
  refine ⟨apart, ?_, sound.keyed, later.accountsStand, ?_, later.keysStand⟩
  · intro terms member
    obtain ⟨stored, storedMember, isRow⟩ := mem_update_key.mp member
    subst isRow
    split
    · rename_i hit
      rw [keeps, billed stored storedMember (Option.some.inj hit), Option.some.inj hit]
    · exact sound.billed stored storedMember
  · intro terms member
    obtain ⟨stored, storedMember, isRow⟩ := mem_update_key.mp member
    have stands := later.projectsStand stored storedMember
    subst isRow
    split
    · rw [keeps]
      exact stands
    · exact stands

theorem set_project_quota_separates (sound : side.Sound store) (projectId : String)
    (projectQuota : Option String) :
    side.Separates store subject fun rows =>
      (setProjectQuota config rows subject projectId projectQuota).map (·, none) := by
  apply plain_separates
  · intro next done
    unfold setProjectQuota at done
    split_ifs at done
    split at done
    · cases done
    · cases done
      apply sound_with_terms sound sound.apart ⟨List.Subset.refl _, List.Subset.refl _⟩
      · exact fun _ => rfl
      · intro terms member named
        rw [← named]
        exact sound.billed terms member
  · intro next other done
    unfold setProjectQuota at done
    split_ifs at done
    split at done
    · cases done
    · rename_i project visible
      cases done
      simp only [StoreSide.part, AuthzStore.mk.injEq, true_and, and_true]
      apply update_project_terms_beyond
      · exact fun _ => rfl
      · exact (visible_on_side sound.apart visible).trans other
  · intro own
    unfold setProjectQuota
    rw [show (side.part store).tenancy = side.tenancy store.tenancy from rfl,
      visible_project_part sound.apart own]
    by_cases checked : tierAllowed config.quotaTiers projectQuota = true
    · cases visibleProject store.tenancy subject projectId with
      | none => simp [checked, Except.map]
      | some project =>
          simp only [checked, not_true_eq_false, if_false, Except.map, StoreSide.part,
            Except.ok.injEq, AuthzStore.mk.injEq, true_and, and_true]
          symm
          apply update_project_terms_part
          exact fun _ => rfl
    · simp [checked, Except.map]

theorem billing_conflicts_part (sound : side.Sound store) {identity : String}
    (inside : side.identities identity = true) :
    conflicts billingKey (side.part store).projectTerms (some identity) =
      conflicts billingKey store.projectTerms (some identity) := by
  apply conflicts_filter
  intro present isPresent terms member keyed
  cases isPresent
  rw [← sound.billed terms member, Option.some.inj keyed, inside]

theorem create_project_row_ok {next : AuthzStore} {input : CreateProjectInput}
    (done : createProjectRow store subject input = .ok next) :
    ∃ tenancy, createProject store.tenancy subject input.id input.accountId = .ok tenancy ∧
      next = { store with
        tenancy := tenancy
        projectTerms := store.projectTerms ++
          [⟨input.id, input.name, input.defaultLimits, input.billingPlan,
            input.billingIdentity, none⟩] } := by
  unfold createProjectRow at done
  split at done
  · cases done
  · rename_i tenancy ran
    split_ifs at done
    exact ⟨tenancy, ran, (Except.ok.inj done).symm⟩

theorem create_project_row_separates (sound : side.Sound store) {input : CreateProjectInput}
    (drawnId : side.projects input.id = side.accounts subject)
    (drawnIdentity : side.identities input.billingIdentity = side.accounts subject) :
    side.Separates store subject
      fun rows => (createProjectRow rows subject input).map (·, none) := by
  have separates := create_project_separates sound.apart input.accountId drawnId
  apply plain_separates
  · intro next done
    obtain ⟨tenancy, ran, isNext⟩ := create_project_row_ok done
    obtain ⟨fresh, isTenancy, _⟩ := create_project_ok ran
    have stays : Stays store.tenancy tenancy := by
      rw [isTenancy]
      refine ⟨List.Subset.refl _, ?_⟩
      rw [List.map_append]
      exact List.subset_append_left _ _
    have later := sound_with_tenancy sound (separates.keeps ran) stays
    rw [isNext]
    refine ⟨later.apart, ?_, sound.keyed, later.accountsStand, ?_, later.keysStand⟩
    · intro terms member
      rcases List.mem_append.mp member with stored | created
      · exact sound.billed terms stored
      · rw [List.mem_singleton.mp created, drawnIdentity, drawnId]
    · intro terms member
      rcases List.mem_append.mp member with stored | created
      · exact later.projectsStand terms stored
      · rw [List.mem_singleton.mp created]
        unfold createProject at ran
        split_ifs at ran
        cases ran
        simp [project_stands_iff]
  · intro next other done
    obtain ⟨tenancy, ran, isNext⟩ := create_project_row_ok done
    rw [isNext]
    simp [StoreSide.part, separates.beyond other ran, drawnId, other]
  · intro own
    unfold createProjectRow
    rw [show (side.part store).tenancy = side.tenancy store.tenancy from rfl, separates.own own,
      billing_conflicts_part sound (drawnIdentity.trans own)]
    cases createProject store.tenancy subject input.id input.accountId with
    | error error => rfl
    | ok tenancy =>
        simp only [Except.map]
        split_ifs
        · rfl
        · simp [StoreSide.part, drawnId, own]

theorem billing_conflict_part (sound : side.Sound store) {projectId : String}
    {billingIdentity : Option String}
    (inside : ∀ identity ∈ billingIdentity, side.identities identity = true) :
    billingConflict (side.part store) projectId billingIdentity =
      billingConflict store projectId billingIdentity := by
  cases billingIdentity with
  | none => rfl
  | some identity =>
      simp only [billingConflict, Option.any_some]
      rw [Bool.eq_iff_iff]
      simp only [List.any_eq_true, StoreSide.part, List.mem_filter]
      constructor
      · rintro ⟨terms, ⟨member, _⟩, conflicting⟩
        exact ⟨terms, member, conflicting⟩
      · rintro ⟨terms, member, conflicting⟩
        refine ⟨terms, ⟨member, ?_⟩, conflicting⟩
        rw [Bool.and_eq_true, beq_iff_eq] at conflicting
        rw [← sound.billed terms member, conflicting.1]
        exact inside identity rfl

theorem update_project_row_ok {next : AuthzStore} {projectId : String}
    {input : UpdateProjectInput} (done : updateProjectRow store subject projectId input = .ok next) :
    ∃ tenancy, updateProjectVerb store.tenancy subject projectId input.accountId = .ok tenancy ∧
      next = { store with
        tenancy := tenancy
        projectTerms :=
          updateKey projectTermsKey store.projectTerms projectId input.change } := by
  unfold updateProjectRow at done
  split at done
  · cases done
  · rename_i tenancy ran
    split_ifs at done
    exact ⟨tenancy, ran, (Except.ok.inj done).symm⟩

theorem update_project_verb_visible {tenancy next : TenancyDb} {projectId : String}
    {target : Option String}
    (done : updateProjectVerb tenancy subject projectId target = .ok next) :
    ∃ project, visibleProject tenancy subject projectId = some project := by
  unfold updateProjectVerb at done
  split at done
  · cases done
  · rename_i project visible
    exact ⟨project, visible⟩
  · rename_i project other visible
    exact ⟨project, visible⟩

theorem update_project_row_separates (sound : side.Sound store) (projectId : String)
    {input : UpdateProjectInput}
    (confined : ∀ target ∈ input.accountId, side.accounts target = side.accounts subject)
    (drawn : ∀ identity ∈ input.billingIdentity,
      side.identities identity = side.accounts subject) :
    side.Separates store subject
      fun rows => (updateProjectRow rows subject projectId input).map (·, none) := by
  have separates := update_project_verb_separates sound.apart projectId confined
  apply plain_separates
  · intro next done
    obtain ⟨tenancy, ran, isNext⟩ := update_project_row_ok done
    obtain ⟨project, visible⟩ := update_project_verb_visible ran
    rw [isNext]
    apply sound_with_terms sound (separates.keeps ran) (update_project_verb_stays ran)
    · exact fun _ => rfl
    · intro terms member named
      simp only [UpdateProjectInput.change]
      cases isIdentity : input.billingIdentity with
      | none =>
          rw [← named]
          exact sound.billed terms member
      | some identity =>
          rw [visible_on_side sound.apart visible]
          exact drawn identity isIdentity
  · intro next other done
    obtain ⟨tenancy, ran, isNext⟩ := update_project_row_ok done
    obtain ⟨project, visible⟩ := update_project_verb_visible ran
    rw [isNext]
    simp only [StoreSide.part, AuthzStore.mk.injEq, true_and, and_true]
    refine ⟨separates.beyond other ran, ?_⟩
    apply update_project_terms_beyond
    · exact fun _ => rfl
    · exact (visible_on_side sound.apart visible).trans other
  · intro own
    unfold updateProjectRow
    rw [show (side.part store).tenancy = side.tenancy store.tenancy from rfl, separates.own own,
      billing_conflict_part sound fun identity given => (drawn identity given).trans own]
    cases updateProjectVerb store.tenancy subject projectId input.accountId with
    | error error => rfl
    | ok tenancy =>
        simp only [Except.map]
        split_ifs
        · rfl
        · simp only [StoreSide.part, Except.ok.injEq, AuthzStore.mk.injEq, true_and, and_true]
          symm
          apply update_project_terms_part
          exact fun _ => rfl

end LightbridgeAuthz.ApiKeys.StoreSides

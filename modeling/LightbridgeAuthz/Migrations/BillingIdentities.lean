import LightbridgeAuthz.Migrations.AccountRekeying

/-!
# Billing identities move from accounts to projects

Four migrations take the billing identity of every account to a project of it: the
oldest project of each account becomes its default one, the default project inherits
the identity, an account without projects is given one, and every other project gets a
placeholder. The accounts are then re-keyed, which merges accounts and moves projects.
-/

namespace LightbridgeAuthz.Migrations.BillingIdentities

open Library.KeyRenames Migrations.AccountRekeying

set_option autoImplicit false

/-- A row of `accounts` while it carries the billing identity. -/
structure BilledAccount where
  id : String
  billingIdentity : String
  createdAt : Int
  updatedAt : Int
  deriving DecidableEq, Repr

/-- A row of `projects` before the default flag. -/
structure PlainProject where
  id : String
  accountId : String
  createdAt : Int
  deriving DecidableEq, Repr

/-- The tables that the first of the migrations finds. -/
structure Unmarked where
  accounts : List BilledAccount
  projects : List PlainProject
  memberships : List AccountMembership
  tokens : List ExchangeRefreshToken
  deriving DecidableEq, Repr

structure MarkedAccount extends BilledAccount where
  isDefault : Bool
  deriving DecidableEq, Repr

/-- A project with its billing identity: an `Option` until the column is `NOT NULL`. -/
structure Billed (Identity : Type) extends Project where
  billingIdentity : Identity
  deriving DecidableEq, Repr

structure Migrated where
  accounts : List Account
  projects : List (Billed String)
  memberships : List AccountMembership
  projectMembers : List ProjectMember
  tokens : List ExchangeRefreshToken
  deriving DecidableEq, Repr

/-- What the migrations take from outside: the instants of their transactions, the ids
that are generated for the projects of accounts without one, and the order in which
accounts are renamed. -/
structure Draws where
  correctedAt : Int
  insertedAt : Int
  rekeyedAt : Int
  generated : String → String
  scan : List (String × String) → List (String × String)
  scanned : ∀ renames, (scan renames).Perm renames

section Statements

-- The order of text in the database's collation.
variable {Collated : Type} [LinearOrder Collated] (collate : String → Collated)

/-- The columns are added as `NOT NULL DEFAULT false`; every account is then marked. -/
def markAccounts (accounts : List BilledAccount) : List MarkedAccount :=
  accounts.map fun account => { account with isDefault := true }

def unmarkedProjects (projects : List PlainProject) : List Project :=
  projects.map fun project => ⟨project.id, project.accountId, false, project.createdAt⟩

/-- `DISTINCT ON (account_id) id … ORDER BY account_id, created_at ASC, id ASC`. -/
def oldestOf (projects : List Project) (accountId : String) : Option String :=
  ((projects.filter fun project => project.accountId = accountId).argmin
    (projectKey collate)).map Project.id

def markOldest (projects : List Project) : List Project :=
  projects.map fun project =>
    if project.id ∈ (projects.map Project.accountId).dedup.filterMap (oldestOf collate projects)
    then { project with isDefault := true }
    else project

/-- `a.created_at ASC, a.id ASC`. -/
def accountKey (account : MarkedAccount) : Dated Collated :=
  (account.createdAt, collate account.id)

/-- The earliest default account that a subject is a member of. -/
def keeperOf (accounts : List MarkedAccount) (memberships : List AccountMembership)
    (subject : String) : Option String :=
  ((accounts.filter fun account => account.isDefault && memberships.any fun membership =>
      membership.accountId = account.id && membership.subject = subject).argmin
    (accountKey collate)).map (·.id)

/-- The correction of the first backfill: an account that is nobody's earliest one loses
its mark. -/
def correctMarks (now : Int) (memberships : List AccountMembership)
    (accounts : List MarkedAccount) : List MarkedAccount :=
  let keepers := (memberships.map AccountMembership.subject).dedup.filterMap
    (keeperOf collate accounts memberships)
  accounts.map fun account =>
    if account.isDefault && account.id ∉ keepers then
      { account with isDefault := false, updatedAt := now }
    else account

end Statements

/-- `CREATE UNIQUE INDEX projects_account_id_default_uidx`. -/
def defaultIndexed (projects : List Project) : Option (List Project) :=
  if defaultsDistinct projects then some projects else none

/-- `ADD COLUMN billing_identity`; a default project then inherits its account's. -/
def inheritIdentities (accounts : List MarkedAccount) (projects : List Project) :
    List (Billed (Option String)) :=
  projects.map fun project =>
    { project with
      billingIdentity :=
        if project.isDefault then
          (accounts.find? fun account => account.id = project.accountId).map (·.billingIdentity)
        else none }

/-- The row of an account's new project. The trigger makes it the default one where the
account has no other at that moment. -/
def defaultRow (now : Int) (generated : String → String)
    (projects : List (Billed (Option String))) (account : MarkedAccount) :
    Billed (Option String) where
  id := generated account.id
  accountId := account.id
  isDefault := !projects.any fun project => project.accountId = account.id
  createdAt := now
  billingIdentity := some account.billingIdentity

/-- One row after the other; a taken id or a second default project aborts. -/
def insertDefaults (now : Int) (generated : String → String) :
    List MarkedAccount → List (Billed (Option String)) → Option (List (Billed (Option String)))
  | [], projects => some projects
  | account :: rest, projects =>
      let row := defaultRow now generated projects account
      if row.id ∈ projects.map (·.id) then none
      else if defaultsDistinct ((projects ++ [row]).map (·.toProject)) then
        insertDefaults now generated rest (projects ++ [row])
      else none

/-- `NOT EXISTS (SELECT 1 FROM projects WHERE projects.account_id = accounts.id)`. -/
def projectless (projects : List (Billed (Option String))) (accounts : List MarkedAccount) :
    List MarkedAccount :=
  accounts.filter fun account => projects.all fun project => project.accountId ≠ account.id

def placeholder (id : String) : String := "legacy-" ++ id

/-- The placeholders fill what is still `NULL`, and the column becomes `NOT NULL`. -/
def fillPlaceholders (projects : List (Billed (Option String))) : List (Billed String) :=
  projects.map fun project =>
    { toProject := project.toProject
      billingIdentity := project.billingIdentity.getD (placeholder project.id) }

/-- `CREATE UNIQUE INDEX idx_projects_billing_identity` aborts where two rows agree. -/
def identityIndexed (projects : List (Billed String)) : Option (List (Billed String)) :=
  if (projects.map (·.billingIdentity)).Nodup then some projects else none

/-- `20260727000002`: the identities move to the projects. -/
def moveIdentities (now : Int) (generated : String → String) (accounts : List MarkedAccount)
    (projects : List Project) : Option (List (Billed String)) :=
  let inherited := inheritIdentities accounts projects
  (insertDefaults now generated (projectless inherited accounts) inherited).bind fun inserted =>
    identityIndexed (fillPlaceholders inserted)

/-- `20260727000003`: `DROP COLUMN billing_identity` on the accounts. -/
def dropIdentities (accounts : List MarkedAccount) : List Account :=
  accounts.map fun account =>
    ⟨account.id, account.isDefault, account.createdAt, account.updatedAt⟩

/-- No statement of the re-keying names `projects.billing_identity`: a row keeps its own. -/
def carryIdentities (before : List (Billed String)) (projects : List Project) :
    List (Billed String) :=
  projects.filterMap fun project =>
    (before.find? fun row => row.id = project.id).map fun row =>
      { toProject := project, billingIdentity := row.billingIdentity }

section Chain

variable {Collated : Type} [LinearOrder Collated] (collate : String → Collated) (draws : Draws)

/-- The accounts as the billing migrations find them. -/
def markedAccounts (unmarked : Unmarked) : List MarkedAccount :=
  correctMarks collate draws.correctedAt unmarked.memberships (markAccounts unmarked.accounts)

/-- The projects as the billing migrations find them. -/
def markedProjects (unmarked : Unmarked) : List Project :=
  markOldest collate (unmarkedProjects unmarked.projects)

/-- The tables that the re-keying finds; `project_members` is as it was created. -/
def billedTables (unmarked : Unmarked) (projects : List (Billed String)) : Tables where
  accounts := dropIdentities (markedAccounts collate draws unmarked)
  projects := projects.map (·.toProject)
  memberships := unmarked.memberships
  projectMembers := []
  tokens := unmarked.tokens

/-- The renames of the re-keying, in the order of its scan. -/
def renamesOf (tables : Tables) : List (String × String) :=
  draws.scan (dueRenames (subjectSurvivorAccount collate tables) tables.accounts)

/-- The migrations one after the other; `none` where one of them aborts. -/
def migrate (unmarked : Unmarked) : Option Migrated :=
  (defaultIndexed (markedProjects collate unmarked)).bind fun marked =>
    (moveIdentities draws.insertedAt draws.generated (markedAccounts collate draws unmarked)
        marked).bind fun billed =>
      let tables := billedTables collate draws unmarked billed
      (rekeyAccounts collate draws.rekeyedAt (renamesOf collate draws tables) tables).map
        fun after =>
          { accounts := after.accounts
            projects := carryIdentities billed after.projects
            memberships := after.memberships
            projectMembers := after.projectMembers
            tokens := after.tokens }

end Chain

/-- The constraints on the tables before the migrations. -/
structure LegacyConstraints (unmarked : Unmarked) : Prop where
  accountIds : (unmarked.accounts.map BilledAccount.id).Nodup
  identities : (unmarked.accounts.map BilledAccount.billingIdentity).Nodup
  projectIds : (unmarked.projects.map PlainProject.id).Nodup
  projectAccount : ∀ project ∈ unmarked.projects,
    project.accountId ∈ unmarked.accounts.map BilledAccount.id
  membershipAccount : ∀ membership ∈ unmarked.memberships,
    membership.accountId ∈ unmarked.accounts.map BilledAccount.id

/-- What the first two migrations leave: each account with projects has one default one. -/
structure DefaultsMarked (accounts : List MarkedAccount) (projects : List Project) : Prop where
  accountIds : (accounts.map (·.id)).Nodup
  identities : (accounts.map (·.billingIdentity)).Nodup
  projectIds : (projects.map Project.id).Nodup
  projectAccount : ∀ project ∈ projects, project.accountId ∈ accounts.map (·.id)
  oneDefault : defaultsDistinct projects
  hasDefault : ∀ project ∈ projects, ∃ default ∈ projects,
    default.accountId = project.accountId ∧ default.isDefault = true

structure IdentitiesMoved (accounts : List MarkedAccount) (rows : List (Billed String)) :
    Prop where
  rowIds : (rows.map (·.id)).Nodup
  rowAccount : ∀ row ∈ rows, row.accountId ∈ accounts.map (·.id)
  inherits : ∀ row ∈ rows, row.isDefault = true → ∀ account ∈ accounts,
    account.id = row.accountId → row.billingIdentity = account.billingIdentity
  placeholders : ∀ row ∈ rows, row.isDefault = false → row.billingIdentity = placeholder row.id
  oneDefault : defaultsDistinct (rows.map (·.toProject))
  hasDefault : ∀ account ∈ accounts, ∃ row ∈ rows,
    row.accountId = account.id ∧ row.isDefault = true

theorem default_unique {projects : List Project} (distinct : defaultsDistinct projects)
    {left right : Project} (inLeft : left ∈ projects) (inRight : right ∈ projects)
    (same : left.accountId = right.accountId) (leftDefault : left.isDefault = true)
    (rightDefault : right.isDefault = true) : left = right := by
  by_contra other
  exact List.Pairwise.forall distinct inLeft inRight other ⟨same, leftDefault, rightDefault⟩

section Marking

variable {Collated : Type} [LinearOrder Collated] (collate : String → Collated)
variable {projects : List Project}

theorem oldest_some {accountId id : String}
    (found : oldestOf collate projects accountId = some id) :
    ∃ project ∈ projects, project.accountId = accountId ∧ project.id = id := by
  obtain ⟨project, least, rfl⟩ := Option.map_eq_some_iff.mp found
  obtain ⟨member, same⟩ := List.mem_filter.mp (List.argmin_mem least)
  exact ⟨project, member, of_decide_eq_true same, rfl⟩

theorem oldest_none_iff (accountId : String) :
    oldestOf collate projects accountId = none ↔
      ∀ project ∈ projects, project.accountId ≠ accountId := by
  simp [oldestOf, List.filter_eq_nil_iff]

theorem oldest_of_member {project : Project} (member : project ∈ projects) :
    ∃ oldest ∈ projects, oldest.accountId = project.accountId ∧
      oldestOf collate projects project.accountId = some oldest.id := by
  cases found : oldestOf collate projects project.accountId with
  | none => exact absurd rfl ((oldest_none_iff collate _).mp found project member)
  | some id =>
      obtain ⟨oldest, inside, under, rfl⟩ := oldest_some collate found
      exact ⟨oldest, inside, under, rfl⟩

def markedProject (projects : List Project) (project : Project) : Project :=
  { project with
    isDefault := decide (oldestOf collate projects project.accountId = some project.id) }

theorem oldest_listed_iff (ids : (projects.map Project.id).Nodup) {project : Project}
    (member : project ∈ projects) :
    project.id ∈ (projects.map Project.accountId).dedup.filterMap (oldestOf collate projects) ↔
      oldestOf collate projects project.accountId = some project.id := by
  rw [List.mem_filterMap]
  constructor
  · rintro ⟨accountId, _, found⟩
    obtain ⟨oldest, inside, under, same⟩ := oldest_some collate found
    have isProject : oldest = project := List.inj_on_of_nodup_map ids inside member same
    rw [← isProject, under, same]
    exact found
  · intro found
    exact ⟨project.accountId,
      List.mem_dedup.mpr (List.mem_map.mpr ⟨project, member, rfl⟩), found⟩

theorem mark_oldest_eq (ids : (projects.map Project.id).Nodup)
    (clear : ∀ project ∈ projects, project.isDefault = false) :
    markOldest collate projects = projects.map (markedProject collate projects) := by
  apply List.map_congr_left
  intro project member
  have unset : { project with isDefault := false } = project := by
    rw [← clear project member]
  rw [markedProject]
  by_cases oldest : oldestOf collate projects project.accountId = some project.id
  · rw [if_pos ((oldest_listed_iff collate ids member).mpr oldest), decide_eq_true oldest]
  · rw [if_neg fun listed => oldest ((oldest_listed_iff collate ids member).mp listed),
      decide_eq_false oldest, unset]

end Marking

section Corrections

variable {Collated : Type} [LinearOrder Collated] (collate : String → Collated)

theorem correct_marks_keeps {Field : Type} (field : BilledAccount → Field)
    (untouched : ∀ account now, field { account with updatedAt := now } = field account)
    (now : Int) (memberships : List AccountMembership) (accounts : List MarkedAccount) :
    (correctMarks collate now memberships accounts).map (fun account =>
        field account.toBilledAccount) =
      accounts.map fun account => field account.toBilledAccount := by
  rw [correctMarks, List.map_map]
  apply List.map_congr_left
  intro account _
  rw [Function.comp_apply]
  split
  · exact untouched account.toBilledAccount now
  · rfl

variable (draws : Draws) {unmarked : Unmarked}

theorem marked_account_fields {Field : Type} (field : BilledAccount → Field)
    (untouched : ∀ account now, field { account with updatedAt := now } = field account) :
    (markedAccounts collate draws unmarked).map (fun account => field account.toBilledAccount) =
      unmarked.accounts.map field := by
  rw [markedAccounts, correct_marks_keeps collate field untouched, markAccounts, List.map_map]
  rfl

theorem marked_account_ids :
    (markedAccounts collate draws unmarked).map (·.id) =
      unmarked.accounts.map BilledAccount.id :=
  marked_account_fields collate draws BilledAccount.id fun _ _ => rfl

theorem marked_account_pairs :
    (markedAccounts collate draws unmarked).map (fun account =>
        (account.id, account.billingIdentity)) =
      unmarked.accounts.map fun account => (account.id, account.billingIdentity) :=
  marked_account_fields collate draws (fun account => (account.id, account.billingIdentity))
    fun _ _ => rfl

theorem marked_project_ids (constraints : LegacyConstraints unmarked) :
    ((unmarkedProjects unmarked.projects).map Project.id).Nodup := by
  rw [unmarkedProjects, List.map_map]
  exact constraints.projectIds

theorem marked_projects_eq (constraints : LegacyConstraints unmarked) :
    markedProjects collate unmarked =
      (unmarkedProjects unmarked.projects).map
        (markedProject collate (unmarkedProjects unmarked.projects)) := by
  apply mark_oldest_eq collate (marked_project_ids constraints)
  intro project member
  obtain ⟨_, _, rfl⟩ := List.mem_map.mp member
  rfl

theorem defaults_marked (constraints : LegacyConstraints unmarked) :
    DefaultsMarked (markedAccounts collate draws unmarked) (markedProjects collate unmarked) := by
  have ids := marked_project_ids constraints
  rw [marked_projects_eq collate constraints]
  constructor
  · rw [marked_account_ids]
    exact constraints.accountIds
  · rw [marked_account_fields collate draws BilledAccount.billingIdentity fun _ _ => rfl]
    exact constraints.identities
  · rw [List.map_map]
    exact ids
  · intro project member
    obtain ⟨plain, inPlain, rfl⟩ := List.mem_map.mp member
    obtain ⟨row, inRows, rfl⟩ := List.mem_map.mp inPlain
    rw [marked_account_ids]
    exact constraints.projectAccount row inRows
  · unfold defaultsDistinct
    rw [List.pairwise_map]
    refine List.Pairwise.imp_of_mem ?_ (List.Nodup.of_map _ ids)
    rintro left right inLeft inRight other ⟨same, leftDefault, rightDefault⟩
    have leftOldest := of_decide_eq_true leftDefault
    have rightOldest := of_decide_eq_true rightDefault
    have under : left.accountId = right.accountId := same
    rw [under, rightOldest] at leftOldest
    exact other (List.inj_on_of_nodup_map ids inLeft inRight (Option.some.inj leftOldest).symm)
  · intro project member
    obtain ⟨plain, inPlain, rfl⟩ := List.mem_map.mp member
    obtain ⟨oldest, inside, under, found⟩ := oldest_of_member collate inPlain
    refine ⟨_, List.mem_map.mpr ⟨oldest, inside, rfl⟩, under, decide_eq_true ?_⟩
    rw [under]
    exact found

end Corrections

section Moving

variable {now : Int} {generated : String → String}

def newRow (now : Int) (generated : String → String) (account : MarkedAccount) :
    Billed (Option String) where
  id := generated account.id
  accountId := account.id
  isDefault := true
  createdAt := now
  billingIdentity := some account.billingIdentity

theorem default_row_eq {projects : List (Billed (Option String))} {account : MarkedAccount}
    (without : ∀ project ∈ projects, project.accountId ≠ account.id) :
    defaultRow now generated projects account = newRow now generated account := by
  have none : (projects.any fun project => project.accountId = account.id) = false := by
    rw [List.any_eq_false]
    intro project member
    simpa using without project member
  simp [defaultRow, newRow, none]

theorem append_new_distinct {projects : List (Billed (Option String))} {account : MarkedAccount}
    (distinct : defaultsDistinct (projects.map (·.toProject)))
    (without : ∀ project ∈ projects, project.accountId ≠ account.id) :
    defaultsDistinct ((projects ++ [newRow now generated account]).map (·.toProject)) := by
  unfold defaultsDistinct
  rw [List.map_append, List.pairwise_append]
  refine ⟨distinct, List.pairwise_singleton _ _, ?_⟩
  rintro project member row inNew ⟨same, _, _⟩
  obtain ⟨origin, inside, rfl⟩ := List.mem_map.mp member
  rw [List.map_singleton, List.mem_singleton] at inNew
  rw [inNew] at same
  exact without origin inside same

theorem insert_defaults_eq {missing : List MarkedAccount}
    {projects : List (Billed (Option String))} (ids : (missing.map (·.id)).Nodup)
    (without : ∀ account ∈ missing, ∀ project ∈ projects, project.accountId ≠ account.id)
    (distinct : defaultsDistinct (projects.map (·.toProject))) :
    insertDefaults now generated missing projects =
      if (missing.map fun account => generated account.id).Nodup ∧
          ∀ account ∈ missing, generated account.id ∉ projects.map (·.id) then
        some (projects ++ missing.map (newRow now generated))
      else none := by
  induction missing generalizing projects with
  | nil => simp [insertDefaults]
  | cons account rest ih =>
      rw [List.map_cons, List.nodup_cons] at ids
      have here := without account List.mem_cons_self
      have later : ∀ other ∈ rest, ∀ project ∈ projects ++ [newRow now generated account],
          project.accountId ≠ other.id := by
        intro other inRest project member
        rcases List.mem_append.mp member with old | new
        · exact without other (List.mem_cons_of_mem _ inRest) project old
        · rw [List.mem_singleton] at new
          rw [new]
          intro same
          exact ids.1 (List.mem_map.mpr ⟨other, inRest, same.symm⟩)
      rw [insertDefaults, default_row_eq here,
        if_pos (append_new_distinct distinct here), ih ids.2 later
          (append_new_distinct distinct here)]
      have rowId : (newRow now generated account).id = generated account.id := rfl
      rw [rowId]
      by_cases taken : generated account.id ∈ projects.map (·.id)
      · rw [if_pos taken, if_neg]
        exact fun free => free.2 account List.mem_cons_self taken
      · rw [if_neg taken]
        have both : ((rest.map fun other => generated other.id).Nodup ∧
              ∀ other ∈ rest, generated other.id ∉
                (projects ++ [newRow now generated account]).map (·.id)) ↔
            (((account :: rest).map fun other => generated other.id).Nodup ∧
              ∀ other ∈ account :: rest, generated other.id ∉ projects.map (·.id)) := by
          rw [List.map_cons, List.nodup_cons, List.forall_mem_cons]
          simp only [List.map_append, List.mem_append, List.map_singleton, List.mem_singleton,
            newRow, List.mem_map]
          grind
        simp only [both, List.append_assoc, List.map_cons, List.singleton_append]

theorem find_of_nodup {Row : Type} (key : Row → String) {rows : List Row}
    (distinct : (rows.map key).Nodup) {row : Row} (member : row ∈ rows) {value : String}
    (same : key row = value) : (rows.find? fun other => key other = value) = some row := by
  cases found : rows.find? fun other => key other = value with
  | none =>
      have absent := List.find?_eq_none.mp found row member
      exact absurd (decide_eq_true same) absent
  | some other =>
      have sameKey : key other = value := by simpa using List.find?_some found
      rw [List.inj_on_of_nodup_map distinct (List.mem_of_find?_eq_some found) member
        (sameKey.trans same.symm)]

variable {accounts : List MarkedAccount} {projects : List Project}

theorem mem_missing {account : MarkedAccount} :
    account ∈ projectless (inheritIdentities accounts projects) accounts ↔
      account ∈ accounts ∧ ∀ project ∈ projects, project.accountId ≠ account.id := by
  simp [projectless, inheritIdentities, List.mem_filter]

def movedRows (now : Int) (generated : String → String) (accounts : List MarkedAccount)
    (projects : List Project) : List (Billed String) :=
  let inherited := inheritIdentities accounts projects
  fillPlaceholders (inherited ++ (projectless inherited accounts).map (newRow now generated))

/-- A generated id is neither taken nor given twice. -/
structure FreshIds (generated : String → String) (accounts : List MarkedAccount)
    (projects : List Project) : Prop where
  distinct : ((projectless (inheritIdentities accounts projects) accounts).map fun account =>
    generated account.id).Nodup
  free : ∀ account ∈ projectless (inheritIdentities accounts projects) accounts,
    generated account.id ∉ projects.map Project.id

theorem inherited_projects :
    (inheritIdentities accounts projects).map (·.toProject) = projects := by
  rw [inheritIdentities, List.map_map]
  exact List.map_id projects

theorem inherited_ids :
    (inheritIdentities accounts projects).map (·.id) = projects.map Project.id := by
  rw [inheritIdentities, List.map_map]
  rfl

theorem missing_nodup (marked : DefaultsMarked accounts projects) :
    ((projectless (inheritIdentities accounts projects) accounts).map (·.id)).Nodup :=
  marked.accountIds.sublist (List.filter_sublist.map _)

theorem missing_without {account : MarkedAccount}
    (missing : account ∈ projectless (inheritIdentities accounts projects) accounts) :
    ∀ row ∈ inheritIdentities accounts projects, row.accountId ≠ account.id := by
  intro row member
  obtain ⟨project, inside, rfl⟩ := List.mem_map.mp member
  exact (mem_missing.mp missing).2 project inside

theorem move_identities_eq_some_iff (marked : DefaultsMarked accounts projects)
    {rows : List (Billed String)} :
    moveIdentities now generated accounts projects = some rows ↔
      FreshIds generated accounts projects ∧
        (rows.map (·.billingIdentity)).Nodup ∧ rows = movedRows now generated accounts projects := by
  have ordered : defaultsDistinct ((inheritIdentities accounts projects).map (·.toProject)) := by
    rw [inherited_projects]
    exact marked.oneDefault
  rw [moveIdentities, insert_defaults_eq (missing_nodup marked)
    (fun account missing => missing_without missing) ordered, inherited_ids]
  constructor
  · intro moved
    split_ifs at moved with fresh
    · rw [Option.bind_some, identityIndexed] at moved
      split_ifs at moved with distinct
      cases moved
      exact ⟨⟨fresh.1, fresh.2⟩, distinct, rfl⟩
    · cases moved
  · rintro ⟨fresh, distinct, rfl⟩
    rw [if_pos ⟨fresh.distinct, fresh.free⟩, Option.bind_some, identityIndexed]
    exact if_pos distinct

theorem mem_moved_rows {row : Billed String} :
    row ∈ movedRows now generated accounts projects ↔
      (∃ project ∈ projects, row =
          { toProject := project
            billingIdentity := (if project.isDefault then
              (accounts.find? fun account => account.id = project.accountId).map
                (·.billingIdentity) else none).getD (placeholder project.id) }) ∨
        ∃ account ∈ projectless (inheritIdentities accounts projects) accounts, row =
          { toProject := (newRow now generated account).toProject
            billingIdentity := account.billingIdentity } := by
  simp only [movedRows, fillPlaceholders, List.mem_map, List.mem_append]
  constructor
  · rintro ⟨_, inherited | ⟨account, missing, rfl⟩, rfl⟩
    · obtain ⟨project, member, rfl⟩ := List.mem_map.mp inherited
      exact Or.inl ⟨project, member, rfl⟩
    · exact Or.inr ⟨account, missing, rfl⟩
  · rintro (⟨project, member, rfl⟩ | ⟨account, missing, rfl⟩)
    · exact ⟨_, Or.inl (List.mem_map.mpr ⟨project, member, rfl⟩), rfl⟩
    · exact ⟨_, Or.inr ⟨account, missing, rfl⟩, rfl⟩

theorem moved_row_ids :
    (movedRows now generated accounts projects).map (·.id) = projects.map Project.id ++
      (projectless (inheritIdentities accounts projects) accounts).map fun account =>
        generated account.id := by
  rw [movedRows, fillPlaceholders, List.map_map, List.map_append, List.map_map]
  congr 1
  rw [inheritIdentities, List.map_map]
  rfl

theorem moved_projects :
    (movedRows now generated accounts projects).map (·.toProject) = projects ++
      (projectless (inheritIdentities accounts projects) accounts).map fun account =>
        (newRow now generated account).toProject := by
  rw [movedRows, fillPlaceholders, List.map_map, List.map_append, List.map_map]
  congr 1
  rw [inheritIdentities, List.map_map]
  exact List.map_id projects

theorem identities_moved (marked : DefaultsMarked accounts projects)
    (fresh : FreshIds generated accounts projects) :
    IdentitiesMoved accounts (movedRows now generated accounts projects) := by
  constructor
  · rw [moved_row_ids]
    refine List.Nodup.append marked.projectIds fresh.distinct ?_
    intro id old new
    obtain ⟨account, missing, rfl⟩ := List.mem_map.mp new
    exact fresh.free account missing old
  · intro row member
    rcases mem_moved_rows.mp member with ⟨project, inside, rfl⟩ | ⟨account, missing, rfl⟩
    · exact marked.projectAccount project inside
    · exact List.mem_map.mpr ⟨account, (mem_missing.mp missing).1, rfl⟩
  · intro row member isDefault account inAccounts same
    rcases mem_moved_rows.mp member with ⟨project, inside, rfl⟩ | ⟨owner, missing, rfl⟩
    · have found := find_of_nodup (·.id) marked.accountIds inAccounts same
      have default : project.isDefault = true := isDefault
      simp only [default, if_true]
      rw [found, Option.map_some, Option.getD_some]
    · have sameAccount := List.inj_on_of_nodup_map marked.accountIds inAccounts
        (mem_missing.mp missing).1 same
      rw [sameAccount]
  · intro row member other
    rcases mem_moved_rows.mp member with ⟨project, inside, rfl⟩ | ⟨owner, missing, rfl⟩
    · have plain : project.isDefault = false := other
      simp [plain]
    · cases other
  · rw [moved_projects]
    unfold defaultsDistinct
    rw [List.pairwise_append]
    refine ⟨marked.oneDefault, ?_, ?_⟩
    · rw [List.pairwise_map]
      refine List.Pairwise.imp_of_mem ?_ (List.Nodup.of_map _ (missing_nodup marked))
      rintro left right inLeft inRight apart ⟨same, _, _⟩
      exact apart (List.inj_on_of_nodup_map marked.accountIds (mem_missing.mp inLeft).1
        (mem_missing.mp inRight).1 same)
    · rintro project inside row new ⟨same, _, _⟩
      obtain ⟨account, missing, rfl⟩ := List.mem_map.mp new
      exact (mem_missing.mp missing).2 project inside same
  · intro account inAccounts
    by_cases missing : account ∈ projectless (inheritIdentities accounts projects) accounts
    · exact ⟨_, mem_moved_rows.mpr (Or.inr ⟨account, missing, rfl⟩), rfl, rfl⟩
    · rw [mem_missing] at missing
      push Not at missing
      obtain ⟨project, inside, under⟩ := missing inAccounts
      obtain ⟨default, inProjects, sameAccount, isDefault⟩ := marked.hasDefault project inside
      exact ⟨_, mem_moved_rows.mpr (Or.inl ⟨default, inProjects, rfl⟩),
        sameAccount.trans under, isDefault⟩

end Moving

theorem identities_nodup_iff {accounts : List MarkedAccount} {rows : List (Billed String)}
    (moved : IdentitiesMoved accounts rows)
    (identities : (accounts.map (·.billingIdentity)).Nodup) :
    (rows.map (·.billingIdentity)).Nodup ↔
      ∀ row ∈ rows, row.isDefault = false → ∀ account ∈ accounts,
        account.billingIdentity ≠ placeholder row.id := by
  rw [List.nodup_map_iff_inj_on (List.Nodup.of_map _ moved.rowIds)]
  constructor
  · intro apart row member plain account inAccounts same
    obtain ⟨default, inRows, under, isDefault⟩ := moved.hasDefault account inAccounts
    have agree : default.billingIdentity = row.billingIdentity := by
      rw [moved.inherits default inRows isDefault account inAccounts under.symm, same,
        moved.placeholders row member plain]
    rw [apart default inRows row member agree, plain] at isDefault
    cases isDefault
  · intro free left inLeft right inRight agree
    have account : ∀ row ∈ rows, row.isDefault = true → ∃ account ∈ accounts,
        account.id = row.accountId ∧ row.billingIdentity = account.billingIdentity := by
      intro row member isDefault
      obtain ⟨account, inAccounts, same⟩ := List.mem_map.mp (moved.rowAccount row member)
      exact ⟨account, inAccounts, same,
        moved.inherits row member isDefault account inAccounts same⟩
    have inTable : ∀ row ∈ rows, row.toProject ∈ rows.map (·.toProject) := fun row member =>
      List.mem_map.mpr ⟨row, member, rfl⟩
    cases leftDefault : left.isDefault with
    | true =>
        obtain ⟨owner, inOwner, leftUnder, leftIdentity⟩ := account left inLeft leftDefault
        cases rightDefault : right.isDefault with
        | true =>
            obtain ⟨other, inOther, rightUnder, rightIdentity⟩ :=
              account right inRight rightDefault
            have same : owner = other := by
              apply List.inj_on_of_nodup_map identities inOwner inOther
              rw [← leftIdentity, ← rightIdentity, agree]
            have under : left.accountId = right.accountId := by
              rw [← leftUnder, ← rightUnder, same]
            have sameProject := default_unique moved.oneDefault (inTable left inLeft)
              (inTable right inRight) under leftDefault rightDefault
            exact List.inj_on_of_nodup_map moved.rowIds inLeft inRight
              (congrArg Project.id sameProject)
        | false =>
            refine absurd ?_ (free right inRight rightDefault owner inOwner)
            rw [← leftIdentity, agree, moved.placeholders right inRight rightDefault]
    | false =>
        cases rightDefault : right.isDefault with
        | true =>
            obtain ⟨owner, inOwner, _, rightIdentity⟩ := account right inRight rightDefault
            refine absurd ?_ (free left inLeft leftDefault owner inOwner)
            rw [← rightIdentity, ← agree, moved.placeholders left inLeft leftDefault]
        | false =>
            rw [moved.placeholders left inLeft leftDefault,
              moved.placeholders right inRight rightDefault] at agree
            exact List.inj_on_of_nodup_map moved.rowIds inLeft inRight
              ((String.append_right_inj "legacy-").mp agree)

theorem carry_identities_eq {rows : List (Billed String)} (ids : (rows.map (·.id)).Nodup)
    (move : Project → Project) (keeps : ∀ project, (move project).id = project.id) :
    carryIdentities rows ((rows.map (·.toProject)).map move) = rows.map fun row =>
      { toProject := move row.toProject, billingIdentity := row.billingIdentity } := by
  rw [carryIdentities, List.map_map, List.filterMap_map, ← List.filterMap_eq_map]
  apply List.filterMap_congr
  intro row member
  have found := find_of_nodup (fun row : Billed String => row.id) ids member
    (keeps row.toProject).symm
  simp only [Function.comp_apply]
  rw [found]
  rfl

theorem unique_row {rows : List (Billed String)} (ids : (rows.map (·.id)).Nodup)
    (property : Project → Prop)
    (unique : ∃! project, project ∈ rows.map (·.toProject) ∧ property project) :
    ∃! row, row ∈ rows ∧ property row.toProject := by
  obtain ⟨project, ⟨listed, holds⟩, only⟩ := unique
  obtain ⟨row, member, rfl⟩ := List.mem_map.mp listed
  refine ⟨row, ⟨member, holds⟩, ?_⟩
  rintro other ⟨inRows, alsoHolds⟩
  have sameProject := only other.toProject ⟨List.mem_map.mpr ⟨other, inRows, rfl⟩, alsoHolds⟩
  exact List.inj_on_of_nodup_map ids inRows member (congrArg Project.id sameProject)

section Rekeying

variable {Collated : Type} [LinearOrder Collated] (collate : String → Collated)
variable {tables : Tables} {renames : List (String × String)}

theorem indexed_some {after : Tables} (kept : indexed tables = some after) : after = tables := by
  rw [indexed] at kept
  split_ifs at kept
  exact (Option.some.inj kept).symm

theorem rekey_free {now : Int} {after : Tables}
    (commits : rekeyAccounts collate now renames tables = some after) :
    (renameKeys renames (tables.accounts.map Account.id)).isSome = true := by
  simp only [rekeyAccounts] at commits
  obtain ⟨moved, isMoved, rest⟩ := Option.bind_eq_some_iff.mp commits
  obtain ⟨promoted, isPromoted, rest⟩ := Option.bind_eq_some_iff.mp rest
  obtain ⟨renamed, isRenamed, _⟩ := Option.bind_eq_some_iff.mp rest
  rw [indexed_some isPromoted, indexed_some isMoved, renameAccounts] at isRenamed
  split_ifs at isRenamed with free
  exact free

theorem rekeyed_account (constraints : Constraints tables)
    (clean : CleanRenames collate tables renames) {project : Project}
    (member : project ∈ tables.projects) :
    (rekeyedProject collate tables renames project).accountId =
      (ownerOf collate tables project.accountId).getD project.accountId := by
  cases owner : ownerOf collate tables project.accountId with
  | some subject => exact rekeyed_owned constraints clean member owner
  | none =>
      rw [rekeyed_memberless constraints clean member ((owner_none_iff collate _).mp owner)]
      rfl

theorem rekeyed_one_default (constraints : Constraints tables)
    (clean : CleanRenames collate tables renames)
    (hasDefault : ∀ account ∈ tables.accounts, ∃ project ∈ tables.projects,
      project.accountId = account.id ∧ project.isDefault = true)
    {id : String}
    (left : (id ∈ tables.accounts.map Account.id ∧ memberless tables id) ∨
      ∃ account ∈ tables.accounts, ownerOf collate tables account.id = some id) :
    ∃! project, project ∈ tables.projects.map (rekeyedProject collate tables renames) ∧
      project.accountId = id ∧ project.isDefault = true := by
  rcases left with ⟨present, ownerless⟩ | ⟨account, inAccounts, owned⟩
  · obtain ⟨account, inAccounts, rfl⟩ := List.mem_map.mp present
    obtain ⟨default, member, under, isDefault⟩ := hasDefault account inAccounts
    have stays : rekeyedProject collate tables renames default = default :=
      rekeyed_memberless constraints clean member (under ▸ ownerless)
    refine ⟨default, ⟨List.mem_map.mpr ⟨default, member, stays⟩, under, isDefault⟩, ?_⟩
    rintro _ ⟨listed, alsoUnder, alsoDefault⟩
    obtain ⟨other, inProjects, rfl⟩ := List.mem_map.mp listed
    have account := rekeyed_account collate constraints clean inProjects
    rw [alsoUnder] at account
    cases owner : ownerOf collate tables other.accountId with
    | some subject =>
        rw [owner, Option.getD_some] at account
        rw [← account] at owner
        exact absurd ownerless (owner_not_memberless constraints clean owner present)
    | none =>
        have otherless := (owner_none_iff collate _).mp owner
        rw [rekeyed_memberless constraints clean inProjects otherless] at alsoUnder alsoDefault ⊢
        exact default_unique constraints.oneDefault inProjects member
          (alsoUnder.trans under.symm) alsoDefault isDefault
  · obtain ⟨default, member, under, _⟩ := hasDefault account inAccounts
    have ownedDefault : ownerOf collate tables default.accountId = some id := under ▸ owned
    exact one_default_left constraints clean owned member
      (rekeyed_owned constraints clean member ownedDefault)

end Rekeying

section Deployment

variable {Collated : Type} [LinearOrder Collated] (collate : String → Collated) (draws : Draws)
variable (unmarked : Unmarked)

def bareIds : List String :=
  (unmarked.accounts.map BilledAccount.id).filter fun id =>
    unmarked.projects.all fun project => project.accountId ≠ id

/-- The project that takes an account's identity: its oldest one, or its new one. -/
def heirOf (accountId : String) : String :=
  (oldestOf collate (unmarkedProjects unmarked.projects) accountId).getD
    (draws.generated accountId)

/-- The account that the projects of an account end under. -/
def homeAfter (accountId : String) : String :=
  (ownerOf collate (billedTables collate draws unmarked []) accountId).getD accountId

/-- The only collisions that abort the migrations do not happen. -/
structure Uncontested : Prop where
  generatedDistinct : ((bareIds unmarked).map draws.generated).Nodup
  generatedFree : ∀ id ∈ bareIds unmarked,
    draws.generated id ∉ unmarked.projects.map PlainProject.id
  placeholdersFree : ∀ project ∈ unmarked.projects,
    heirOf collate draws unmarked project.accountId ≠ project.id →
      ∀ account ∈ unmarked.accounts, account.billingIdentity ≠ placeholder project.id
  subjectsFree : (renameKeys (renamesOf collate draws (billedTables collate draws unmarked []))
    (unmarked.accounts.map BilledAccount.id)).isSome = true

/-- Where the identities of the accounts are once the accounts are re-keyed. -/
structure IdentitiesKept (after : Migrated) : Prop where
  projects : after.projects.map (·.id) = unmarked.projects.map PlainProject.id ++
    (bareIds unmarked).map draws.generated
  inherited : ∀ account ∈ unmarked.accounts, ∃ row ∈ after.projects,
    row.id = heirOf collate draws unmarked account.id ∧
      row.billingIdentity = account.billingIdentity ∧
        row.accountId = homeAfter collate draws unmarked account.id
  replaced : ∀ project ∈ unmarked.projects,
    heirOf collate draws unmarked project.accountId ≠ project.id → ∃ row ∈ after.projects,
      row.id = project.id ∧ row.billingIdentity = placeholder project.id ∧
        row.accountId = homeAfter collate draws unmarked project.accountId
  distinct : (after.projects.map (·.billingIdentity)).Nodup
  oneDefault : ∀ id ∈ after.accounts.map Account.id,
    ∃! row, row ∈ after.projects ∧ row.accountId = id ∧ row.isDefault = true

def billedRows : List (Billed String) :=
  movedRows draws.insertedAt draws.generated (markedAccounts collate draws unmarked)
    (markedProjects collate unmarked)

variable {unmarked}

theorem marked_account_mem {account : BilledAccount} (member : account ∈ unmarked.accounts) :
    ∃ marked ∈ markedAccounts collate draws unmarked,
      marked.id = account.id ∧ marked.billingIdentity = account.billingIdentity := by
  have listed : (account.id, account.billingIdentity) ∈
      (markedAccounts collate draws unmarked).map fun account =>
        (account.id, account.billingIdentity) := by
    rw [marked_account_pairs]
    exact List.mem_map.mpr ⟨account, member, rfl⟩
  obtain ⟨marked, inside, same⟩ := List.mem_map.mp listed
  exact ⟨marked, inside, congrArg Prod.fst same, congrArg Prod.snd same⟩

theorem marked_account_origin {marked : MarkedAccount}
    (member : marked ∈ markedAccounts collate draws unmarked) :
    ∃ account ∈ unmarked.accounts,
      account.id = marked.id ∧ account.billingIdentity = marked.billingIdentity := by
  have listed : (marked.id, marked.billingIdentity) ∈
      unmarked.accounts.map fun account => (account.id, account.billingIdentity) := by
    rw [← marked_account_pairs collate draws]
    exact List.mem_map.mpr ⟨marked, member, rfl⟩
  obtain ⟨account, inside, same⟩ := List.mem_map.mp listed
  exact ⟨account, inside, congrArg Prod.fst same, congrArg Prod.snd same⟩

theorem dropped_ids :
    (dropIdentities (markedAccounts collate draws unmarked)).map Account.id =
      unmarked.accounts.map BilledAccount.id := by
  rw [dropIdentities, List.map_map]
  exact marked_account_ids collate draws

variable (constraints : LegacyConstraints unmarked)
include constraints

theorem missing_ids :
    (projectless (inheritIdentities (markedAccounts collate draws unmarked)
        (markedProjects collate unmarked)) (markedAccounts collate draws unmarked)).map (·.id) =
      bareIds unmarked := by
  rw [bareIds, ← marked_account_ids collate draws, List.filter_map, projectless,
    marked_projects_eq collate constraints, inheritIdentities, unmarkedProjects]
  simp only [List.all_map]
  rfl

theorem missing_generated :
    ((projectless (inheritIdentities (markedAccounts collate draws unmarked)
        (markedProjects collate unmarked)) (markedAccounts collate draws unmarked)).map
          fun account => draws.generated account.id) = (bareIds unmarked).map draws.generated := by
  rw [← missing_ids collate draws constraints, List.map_map]
  rfl

theorem marked_projects_ids :
    (markedProjects collate unmarked).map Project.id =
      unmarked.projects.map PlainProject.id := by
  rw [marked_projects_eq collate constraints, unmarkedProjects, List.map_map, List.map_map]
  rfl

theorem fresh_ids_iff :
    FreshIds draws.generated (markedAccounts collate draws unmarked)
        (markedProjects collate unmarked) ↔
      ((bareIds unmarked).map draws.generated).Nodup ∧ ∀ id ∈ bareIds unmarked,
        draws.generated id ∉ unmarked.projects.map PlainProject.id := by
  have each : (∀ account ∈ projectless (inheritIdentities (markedAccounts collate draws unmarked)
        (markedProjects collate unmarked)) (markedAccounts collate draws unmarked),
      draws.generated account.id ∉ (markedProjects collate unmarked).map Project.id) ↔
        ∀ id ∈ bareIds unmarked, draws.generated id ∉ unmarked.projects.map PlainProject.id := by
    rw [← missing_ids collate draws constraints, marked_projects_ids collate constraints,
      List.forall_mem_map]
  constructor
  · rintro ⟨distinct, free⟩
    rw [missing_generated collate draws constraints] at distinct
    exact ⟨distinct, each.mp free⟩
  · rintro ⟨distinct, free⟩
    refine ⟨?_, each.mpr free⟩
    rw [missing_generated collate draws constraints]
    exact distinct

theorem default_iff_heir {row : Billed String} (member : row ∈ billedRows collate draws unmarked) :
    row.isDefault = true ↔ heirOf collate draws unmarked row.accountId = row.id := by
  rcases mem_moved_rows.mp member with ⟨project, inside, rfl⟩ | ⟨account, missing, rfl⟩
  · rw [marked_projects_eq collate constraints] at inside
    obtain ⟨plain, inPlain, rfl⟩ := List.mem_map.mp inside
    obtain ⟨oldest, _, _, found⟩ := oldest_of_member collate inPlain
    simp only [markedProject, heirOf, found, Option.getD_some, decide_eq_true_eq,
      Option.some.injEq]
  · have none : oldestOf collate (unmarkedProjects unmarked.projects) account.id = none := by
      rw [oldest_none_iff]
      intro project inPlain
      apply (mem_missing.mp missing).2 (markedProject collate _ project)
      rw [marked_projects_eq collate constraints]
      exact List.mem_map.mpr ⟨project, inPlain, rfl⟩
    simp only [newRow, heirOf, none, Option.getD_none]

theorem row_of_project {project : PlainProject} (member : project ∈ unmarked.projects) :
    ∃ row ∈ billedRows collate draws unmarked,
      row.id = project.id ∧ row.accountId = project.accountId := by
  have listed : markedProject collate (unmarkedProjects unmarked.projects)
      ⟨project.id, project.accountId, false, project.createdAt⟩ ∈
        markedProjects collate unmarked := by
    rw [marked_projects_eq collate constraints]
    exact List.mem_map.mpr ⟨_, List.mem_map.mpr ⟨project, member, rfl⟩, rfl⟩
  exact ⟨_, mem_moved_rows.mpr (Or.inl ⟨_, listed, rfl⟩), rfl, rfl⟩

theorem project_of_row {row : Billed String} (member : row ∈ billedRows collate draws unmarked)
    (plain : row.isDefault = false) :
    ∃ project ∈ unmarked.projects, project.id = row.id ∧ project.accountId = row.accountId := by
  rcases mem_moved_rows.mp member with ⟨project, inside, rfl⟩ | ⟨account, missing, rfl⟩
  · rw [marked_projects_eq collate constraints] at inside
    obtain ⟨_, inPlain, rfl⟩ := List.mem_map.mp inside
    obtain ⟨project, inProjects, rfl⟩ := List.mem_map.mp inPlain
    exact ⟨project, inProjects, rfl, rfl⟩
  · cases plain

theorem rows_moved
    (fresh : FreshIds draws.generated (markedAccounts collate draws unmarked)
      (markedProjects collate unmarked)) :
    IdentitiesMoved (markedAccounts collate draws unmarked)
      (billedRows collate draws unmarked) :=
  identities_moved (defaults_marked collate draws constraints) fresh

theorem billed_constraints
    (moved : IdentitiesMoved (markedAccounts collate draws unmarked)
      (billedRows collate draws unmarked)) :
    Constraints (billedTables collate draws unmarked (billedRows collate draws unmarked)) := by
  constructor
  · simp only [billedTables, dropped_ids]
    exact constraints.accountIds
  · simp only [billedTables, List.map_map]
    exact moved.rowIds
  · simp only [billedTables, dropped_ids]
    intro project member
    obtain ⟨row, inRows, rfl⟩ := List.mem_map.mp member
    rw [← marked_account_ids collate draws]
    exact moved.rowAccount row inRows
  · simp only [billedTables, dropped_ids]
    exact constraints.membershipAccount
  · exact moved.oneDefault

theorem placeholders_free_iff :
    (∀ row ∈ billedRows collate draws unmarked, row.isDefault = false →
        ∀ account ∈ markedAccounts collate draws unmarked,
          account.billingIdentity ≠ placeholder row.id) ↔
      ∀ project ∈ unmarked.projects,
        heirOf collate draws unmarked project.accountId ≠ project.id →
          ∀ account ∈ unmarked.accounts, account.billingIdentity ≠ placeholder project.id := by
  constructor
  · intro free project member other account inAccounts
    obtain ⟨row, inRows, sameId, sameAccount⟩ :=
      row_of_project collate draws constraints member
    obtain ⟨marked, inMarked, _, identity⟩ := marked_account_mem collate draws inAccounts
    have plain : row.isDefault = false := by
      rw [← Bool.not_eq_true, default_iff_heir collate draws constraints inRows, sameId,
        sameAccount]
      exact other
    rw [← identity, ← sameId]
    exact free row inRows plain marked inMarked
  · intro free row inRows plain marked inMarked
    obtain ⟨project, member, sameId, sameAccount⟩ :=
      project_of_row collate draws constraints inRows plain
    obtain ⟨account, inAccounts, _, identity⟩ := marked_account_origin collate draws inMarked
    rw [← identity, ← sameId]
    apply free project member _ account inAccounts
    rw [sameAccount, sameId, Ne, ← default_iff_heir collate draws constraints inRows, plain]
    exact Bool.false_ne_true

theorem migrate_eq_some_iff {after : Migrated} :
    migrate collate draws unmarked = some after ↔
      FreshIds draws.generated (markedAccounts collate draws unmarked)
          (markedProjects collate unmarked) ∧
        ((billedRows collate draws unmarked).map (·.billingIdentity)).Nodup ∧
          ∃ rekeyed, rekeyAccounts collate draws.rekeyedAt
              (renamesOf collate draws (billedTables collate draws unmarked
                (billedRows collate draws unmarked)))
              (billedTables collate draws unmarked (billedRows collate draws unmarked)) =
                some rekeyed ∧
            after =
              { accounts := rekeyed.accounts
                projects := carryIdentities (billedRows collate draws unmarked) rekeyed.projects
                memberships := rekeyed.memberships
                projectMembers := rekeyed.projectMembers
                tokens := rekeyed.tokens } := by
  have marked := defaults_marked collate draws constraints
  rw [migrate, defaultIndexed, if_pos marked.oneDefault, Option.bind_some]
  constructor
  · intro commits
    obtain ⟨rows, isMoved, rest⟩ := Option.bind_eq_some_iff.mp commits
    obtain ⟨fresh, distinct, rfl⟩ := (move_identities_eq_some_iff marked).mp isMoved
    obtain ⟨rekeyed, isRekeyed, rfl⟩ := Option.map_eq_some_iff.mp rest
    exact ⟨fresh, distinct, rekeyed, isRekeyed, rfl⟩
  · rintro ⟨fresh, distinct, rekeyed, isRekeyed, rfl⟩
    rw [(move_identities_eq_some_iff marked).mpr ⟨fresh, distinct, rfl⟩, Option.bind_some]
    exact Option.map_eq_some_iff.mpr ⟨rekeyed, isRekeyed, rfl⟩

theorem migrate_commits_iff :
    (migrate collate draws unmarked).isSome = true ↔ Uncontested collate draws unmarked := by
  have marked := defaults_marked collate draws constraints
  constructor
  · intro commits
    obtain ⟨after, isAfter⟩ := Option.isSome_iff_exists.mp commits
    obtain ⟨fresh, distinct, rekeyed, isRekeyed, _⟩ :=
      (migrate_eq_some_iff collate draws constraints).mp isAfter
    have moved := rows_moved collate draws constraints fresh
    obtain ⟨generatedDistinct, generatedFree⟩ :=
      (fresh_ids_iff collate draws constraints).mp fresh
    refine ⟨generatedDistinct, generatedFree, ?_, ?_⟩
    · exact (placeholders_free_iff collate draws constraints).mp
        ((identities_nodup_iff moved marked.identities).mp distinct)
    · have free := rekey_free collate isRekeyed
      simp only [billedTables, dropped_ids] at free
      exact free
  · intro uncontested
    have fresh := (fresh_ids_iff collate draws constraints).mpr
      ⟨uncontested.generatedDistinct, uncontested.generatedFree⟩
    have moved := rows_moved collate draws constraints fresh
    have distinct := (identities_nodup_iff moved marked.identities).mpr
      ((placeholders_free_iff collate draws constraints).mpr uncontested.placeholdersFree)
    have clean : CleanRenames collate
        (billedTables collate draws unmarked (billedRows collate draws unmarked))
        (renamesOf collate draws (billedTables collate draws unmarked
          (billedRows collate draws unmarked))) := by
      refine ⟨draws.scanned _, ?_⟩
      simp only [billedTables, dropped_ids]
      exact uncontested.subjectsFree
    obtain ⟨rekeyed, isRekeyed, _⟩ :=
      rekey_some (billed_constraints collate draws constraints moved) clean draws.rekeyedAt
    exact Option.isSome_iff_exists.mpr ⟨_, (migrate_eq_some_iff collate draws constraints).mpr
      ⟨fresh, distinct, rekeyed, isRekeyed, rfl⟩⟩

theorem rekeyed_rows {after : Migrated} (commits : migrate collate draws unmarked = some after) :
    ∃ renames, CleanRenames collate (billedTables collate draws unmarked
          (billedRows collate draws unmarked)) renames ∧
      after.projects = (billedRows collate draws unmarked).map (fun row =>
        { toProject := rekeyedProject collate (billedTables collate draws unmarked
            (billedRows collate draws unmarked)) renames row.toProject
          billingIdentity := row.billingIdentity }) ∧
      after.accounts = ((billedTables collate draws unmarked
            (billedRows collate draws unmarked)).accounts.map
          (renamedAccount draws.rekeyedAt renames)).filter (fun account =>
        account.id ∉ mergedAccounts (accountSurvivorMap collate (billedTables collate draws
          unmarked (billedRows collate draws unmarked)))) := by
  obtain ⟨fresh, _, rekeyed, isRekeyed, rfl⟩ :=
    (migrate_eq_some_iff collate draws constraints).mp commits
  have moved := rows_moved collate draws constraints fresh
  have clean : CleanRenames collate _ _ := ⟨draws.scanned _, rekey_free collate isRekeyed⟩
  obtain ⟨same, isSame, projects, accounts, _⟩ :=
    rekey_some (billed_constraints collate draws constraints moved) clean draws.rekeyedAt
  cases isRekeyed.symm.trans isSame
  refine ⟨_, clean, ?_, accounts⟩
  rw [projects]
  exact carry_identities_eq moved.rowIds _ fun _ => rfl

theorem migrated_keeps {after : Migrated} (commits : migrate collate draws unmarked = some after) :
    IdentitiesKept collate draws unmarked after := by
  obtain ⟨fresh, distinct, _⟩ := (migrate_eq_some_iff collate draws constraints).mp commits
  have moved := rows_moved collate draws constraints fresh
  have inOrder := billed_constraints collate draws constraints moved
  obtain ⟨renames, clean, projects, accounts⟩ := rekeyed_rows collate draws constraints commits
  have inTables : ∀ row ∈ billedRows collate draws unmarked, row.toProject ∈
      (billedTables collate draws unmarked (billedRows collate draws unmarked)).projects :=
    fun row member => List.mem_map.mpr ⟨row, member, rfl⟩
  constructor
  · rw [projects, List.map_map, ← marked_projects_ids collate constraints,
      ← missing_generated collate draws constraints]
    exact moved_row_ids
  · intro account member
    obtain ⟨marked, inMarked, sameId, identity⟩ := marked_account_mem collate draws member
    obtain ⟨row, inRows, under, isDefault⟩ := moved.hasDefault marked inMarked
    rw [projects]
    refine ⟨_, List.mem_map.mpr ⟨row, inRows, rfl⟩, ?_, ?_, ?_⟩
    · rw [← sameId, ← under]
      exact ((default_iff_heir collate draws constraints inRows).mp isDefault).symm
    · rw [← identity]
      exact moved.inherits row inRows isDefault marked inMarked under.symm
    · rw [← sameId, ← under]
      exact rekeyed_account collate inOrder clean (inTables row inRows)
  · intro project member other
    obtain ⟨row, inRows, sameId, sameAccount⟩ :=
      row_of_project collate draws constraints member
    have plain : row.isDefault = false := by
      rw [← Bool.not_eq_true, default_iff_heir collate draws constraints inRows, sameId,
        sameAccount]
      exact other
    rw [projects]
    refine ⟨_, List.mem_map.mpr ⟨row, inRows, rfl⟩, sameId, ?_, ?_⟩
    · rw [← sameId]
      exact moved.placeholders row inRows plain
    · rw [← sameAccount]
      exact rekeyed_account collate inOrder clean (inTables row inRows)
  · rw [projects, List.map_map]
    exact distinct
  · intro id left
    rw [accounts, account_ids_left inOrder clean] at left
    have hasDefault : ∀ account ∈ (billedTables collate draws unmarked
        (billedRows collate draws unmarked)).accounts, ∃ project ∈ (billedTables collate draws
          unmarked (billedRows collate draws unmarked)).projects,
            project.accountId = account.id ∧ project.isDefault = true := by
      intro account member
      obtain ⟨marked, inMarked, rfl⟩ := List.mem_map.mp member
      obtain ⟨row, inRows, under, isDefault⟩ := moved.hasDefault marked inMarked
      exact ⟨row.toProject, inTables row inRows, under, isDefault⟩
    have unique := rekeyed_one_default collate inOrder clean hasDefault left
    rw [projects]
    apply unique_row _ fun project => project.accountId = id ∧ project.isDefault = true
    · rw [List.map_map]
      rw [billedTables, List.map_map] at unique
      exact unique
    · rw [List.map_map]
      exact moved.rowIds

end Deployment

/-- The migrations commit exactly where nothing collides. Every billing identity is then
carried by one project of whoever owned its account, and every account that is left has
one default project. -/
theorem identities_outlive_accounts {Collated : Type} [LinearOrder Collated]
    (collate : String → Collated) (draws : Draws) {unmarked : Unmarked}
    (constraints : LegacyConstraints unmarked) :
    ((migrate collate draws unmarked).isSome = true ↔ Uncontested collate draws unmarked) ∧
      ∀ after, migrate collate draws unmarked = some after →
        IdentitiesKept collate draws unmarked after :=
  ⟨migrate_commits_iff collate draws constraints,
    fun _ commits => migrated_keeps collate draws constraints commits⟩


/-- Alice owns two accounts, of which the second has no project; the third has no members. -/
def legacySample : Unmarked where
  accounts := [⟨"a1", "acme", 1, 1⟩, ⟨"a2", "side", 2, 2⟩, ⟨"a3", "left", 3, 3⟩]
  projects := [⟨"p1", "a1", 5⟩, ⟨"p2", "a1", 4⟩, ⟨"p3", "a3", 6⟩]
  memberships := [⟨"a1", "bob", .member, 1⟩, ⟨"a1", "alice", .owner, 2⟩, ⟨"a2", "alice", .owner, 3⟩]
  tokens := [⟨"t1", "a2"⟩]

def sampleDraws : Draws where
  correctedAt := 7
  insertedAt := 8
  rekeyedAt := 9
  generated := fun id => "new-" ++ id
  scan := id
  scanned := fun _ => List.Perm.refl _

theorem legacy_sample_constraints : LegacyConstraints legacySample where
  accountIds := by decide
  identities := by decide
  projectIds := by decide
  projectAccount := by decide
  membershipAccount := by decide

/-- Both identities of Alice end under her subject, the second on the new project. -/
theorem alice_keeps_identities :
    ∃ after, migrate codePoints sampleDraws legacySample = some after ∧
      IdentitiesKept codePoints sampleDraws legacySample after ∧
        after.projects.map (fun row => (row.id, row.accountId, row.billingIdentity)) =
          [("p1", "alice", "legacy-p1"), ("p2", "alice", "acme"), ("p3", "a3", "left"),
            ("new-a2", "alice", "side")] := by
  have commits : (migrate codePoints sampleDraws legacySample).isSome = true := by
    decide +kernel
  obtain ⟨after, isAfter⟩ := Option.isSome_iff_exists.mp commits
  refine ⟨after, isAfter, (identities_outlive_accounts codePoints sampleDraws
    legacy_sample_constraints).2 after isAfter, ?_⟩
  have shown : (migrate codePoints sampleDraws legacySample).map (fun after =>
      after.projects.map fun row => (row.id, row.accountId, row.billingIdentity)) =
        some [("p1", "alice", "legacy-p1"), ("p2", "alice", "acme"), ("p3", "a3", "left"),
          ("new-a2", "alice", "side")] := by
    decide +kernel
  rw [isAfter] at shown
  exact Option.some.inj shown

end LightbridgeAuthz.Migrations.BillingIdentities

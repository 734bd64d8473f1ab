import LightbridgeAuthz.Library.KeyRenames
import Mathlib.Data.List.Dedup
import Mathlib.Data.List.Lex
import Mathlib.Data.List.MinMax
import Mathlib.Data.List.Pairwise
import Mathlib.Data.Prod.Lex

/-!
# Accounts are re-keyed by their owner's subject

One transaction gives every account with members the subject of its owner as its id.
Three temporary tables are computed before anything is written; accounts of one
subject are merged into a survivor, which is then renamed. The statements follow
the migration's order. Accounts without members are left alone.
-/

namespace LightbridgeAuthz.Migrations.AccountRekeying

open Library.KeyRenames

set_option autoImplicit false

structure Account where
  id : String
  isDefault : Bool
  createdAt : Int
  updatedAt : Int
  deriving DecidableEq, Repr

structure Project where
  id : String
  accountId : String
  isDefault : Bool
  createdAt : Int
  deriving DecidableEq, Repr

inductive MembershipRole where
  | owner
  | admin
  | member
  deriving DecidableEq, Repr

structure AccountMembership where
  accountId : String
  subject : String
  role : MembershipRole
  createdAt : Int
  deriving DecidableEq, Repr

structure ProjectMember where
  projectId : String
  accountId : String
  deriving DecidableEq, Repr

structure ExchangeRefreshToken where
  id : String
  accountId : String
  deriving DecidableEq, Repr

structure Tables where
  accounts : List Account
  projects : List Project
  memberships : List AccountMembership
  projectMembers : List ProjectMember
  tokens : List ExchangeRefreshToken
  deriving DecidableEq, Repr

def Dated (Collated : Type) : Type := Int × Collated

def Ranked (Collated : Type) : Type := Bool × Dated Collated

instance datedOrder {Collated : Type} [order : LinearOrder Collated] :
    LinearOrder (Dated Collated) :=
  @Prod.Lex.instLinearOrder Int Collated Int.instLinearOrder order

instance rankedOrder {Collated : Type} [LinearOrder Collated] : LinearOrder (Ranked Collated) :=
  @Prod.Lex.instLinearOrder Bool (Dated Collated) Bool.linearOrder datedOrder

section Statements

-- The order of text in the database's collation.
variable {Collated : Type} [LinearOrder Collated] (collate : String → Collated)

/-- `(role = 'owner') DESC, created_at ASC, subject ASC`. -/
def ownerKey (membership : AccountMembership) : Ranked Collated :=
  (decide (membership.role ≠ .owner), (membership.createdAt, collate membership.subject))

def ownerOf (tables : Tables) (accountId : String) : Option String :=
  ((tables.memberships.filter fun membership => membership.accountId = accountId).argmin
    (ownerKey collate)).map AccountMembership.subject

/-- `account_owning_subject`: the account and its owner. -/
def accountOwningSubject (tables : Tables) : List (String × String) :=
  (tables.memberships.map AccountMembership.accountId).dedup.filterMap fun accountId =>
    (ownerOf collate tables accountId).map fun subject => (accountId, subject)

/-- `is_default DESC, created_at ASC, id ASC`. -/
def survivorKey (account : Account) : Ranked Collated :=
  (!account.isDefault, (account.createdAt, collate account.id))

def survivorOf (tables : Tables) (subject : String) : Option String :=
  ((tables.accounts.filter fun account =>
      (accountOwningSubject collate tables).lookup account.id = some subject).argmin
    (survivorKey collate)).map Account.id

/-- `subject_survivor_account`: the subject and the account that survives. -/
def subjectSurvivorAccount (tables : Tables) : List (String × String) :=
  ((accountOwningSubject collate tables).map Prod.snd).dedup.filterMap fun subject =>
    (survivorOf collate tables subject).map fun survivor => (subject, survivor)

/-- `account_survivor_map`: every account with members and its survivor. -/
def accountSurvivorMap (tables : Tables) : List (String × String) :=
  (accountOwningSubject collate tables).filterMap fun owned =>
    ((subjectSurvivorAccount collate tables).lookup owned.2).map fun survivor =>
      (owned.1, survivor)

/-- The survivor of an account that is not its own. -/
def movedTo (survivors : List (String × String)) (accountId : String) : Option String :=
  (survivors.lookup accountId).filter fun survivor => survivor ≠ accountId

def clearMovedDefaults (survivors : List (String × String)) (projects : List Project) :
    List Project :=
  projects.map fun project =>
    if (movedTo survivors project.accountId).isSome then { project with isDefault := false }
    else project

def reparent (survivors : List (String × String)) (projects : List Project) : List Project :=
  projects.map fun project =>
    { project with
      accountId := (movedTo survivors project.accountId).getD project.accountId }

/-- `created_at ASC, id ASC`. -/
def projectKey (project : Project) : Dated Collated :=
  (project.createdAt, collate project.id)

/-- The earliest project of an account without a default one. -/
def promotedOf (projects : List Project) (accountId : String) : Option String :=
  if projects.any fun project => project.accountId = accountId && project.isDefault then none
  else ((projects.filter fun project => project.accountId = accountId).argmin
    (projectKey collate)).map Project.id

def promote (survivorIds : List String) (projects : List Project) : List Project :=
  projects.map fun project =>
    if project.id ∈ survivorIds.filterMap (promotedOf collate projects) then
      { project with isDefault := true }
    else project

/-- The accounts that the statement renames, and their new ids. -/
def dueRenames (survivors : List (String × String)) (accounts : List Account) :
    List (String × String) :=
  accounts.filterMap fun account =>
    (((survivors.find? fun pair => pair.2 = account.id).map Prod.fst).filter fun subject =>
      subject ≠ account.id).map fun subject => (account.id, subject)

def renamedAccount (now : Int) (renames : List (String × String)) (account : Account) : Account :=
  match renames.lookup account.id with
  | some id => { account with id := id, updatedAt := now }
  | none => account

/-- The ids change row by row, in the order of the scan, and the references follow. -/
def renameAccounts (now : Int) (renames : List (String × String)) (tables : Tables) :
    Option Tables :=
  if (renameKeys renames (tables.accounts.map Account.id)).isSome then
    some
      { accounts := tables.accounts.map (renamedAccount now renames)
        projects := tables.projects.map fun project =>
          { project with accountId := cascade renames project.accountId }
        memberships := tables.memberships.map fun membership =>
          { membership with accountId := cascade renames membership.accountId }
        projectMembers := tables.projectMembers.map fun row =>
          { row with accountId := cascade renames row.accountId }
        tokens := tables.tokens }
  else none

def mergedAccounts (survivors : List (String × String)) : List String :=
  (survivors.filter fun pair => pair.1 ≠ pair.2).map Prod.fst

/-- The deletion cascades, and the trigger on memberships removes the account of a
deleted membership where it is still there without any other. -/
def deleteAccounts (gone : List String) (tables : Tables) : Tables :=
  let accounts := tables.accounts.filter fun account => account.id ∉ gone
  let projects := tables.projects.filter fun project => project.accountId ∉ gone
  let memberships := tables.memberships.filter fun membership => membership.accountId ∉ gone
  let deletedProjects := (tables.projects.filter fun project => project.accountId ∈ gone).map
    Project.id
  let unmembered := ((tables.memberships.filter fun membership => membership.accountId ∈ gone).map
    AccountMembership.accountId).filter fun accountId =>
      memberships.all fun membership => membership.accountId ≠ accountId
  { accounts := accounts.filter fun account => account.id ∉ unmembered
    projects := projects
    memberships := memberships
    projectMembers := tables.projectMembers.filter fun row =>
      row.accountId ∉ gone ∧ row.projectId ∉ deletedProjects
    tokens := tables.tokens }

def remapTokens (owning : List (String × String)) (tokens : List ExchangeRefreshToken) :
    List ExchangeRefreshToken :=
  tokens.map fun token =>
    { token with accountId := (owning.lookup token.accountId).getD token.accountId }

def apart (left right : Project) : Prop :=
  ¬ (left.accountId = right.accountId ∧ left.isDefault = true ∧ right.isDefault = true)

instance : DecidableRel apart := fun _ _ => inferInstanceAs (Decidable (¬ _))

instance : Std.Symm apart where
  symm _ _ separate := fun ⟨same, right, left⟩ => separate ⟨same.symm, left, right⟩

/-- `projects_account_id_default_uidx`. -/
def defaultsDistinct (projects : List Project) : Prop := projects.Pairwise apart

instance (projects : List Project) : Decidable (defaultsDistinct projects) :=
  inferInstanceAs (Decidable (List.Pairwise _ _))

/-- A statement aborts where it leaves two default projects in one account. -/
def indexed (tables : Tables) : Option Tables :=
  if defaultsDistinct tables.projects then some tables else none

/-- The whole transaction, with the renames in one order; `none` where it aborts. -/
def rekeyAccounts (now : Int) (renames : List (String × String)) (tables : Tables) :
    Option Tables :=
  let owning := accountOwningSubject collate tables
  let survivors := subjectSurvivorAccount collate tables
  let survivorMap := accountSurvivorMap collate tables
  let cleared := { tables with projects := clearMovedDefaults survivorMap tables.projects }
  (indexed { cleared with projects := reparent survivorMap cleared.projects }).bind fun moved =>
    (indexed { moved with
        projects := promote collate (survivors.map Prod.snd) moved.projects }).bind fun promoted =>
      (renameAccounts now renames promoted).bind fun renamed =>
        (indexed renamed).map fun renamed =>
          let left := deleteAccounts (mergedAccounts survivorMap) renamed
          { left with tokens := remapTokens owning left.tokens }

end Statements

/-- The constraints on the tables before the migration. -/
structure Constraints (tables : Tables) : Prop where
  accountIds : (tables.accounts.map Account.id).Nodup
  projectIds : (tables.projects.map Project.id).Nodup
  projectAccount : ∀ project ∈ tables.projects,
    project.accountId ∈ tables.accounts.map Account.id
  membershipAccount : ∀ membership ∈ tables.memberships,
    membership.accountId ∈ tables.accounts.map Account.id
  oneDefault : defaultsDistinct tables.projects

def memberless (tables : Tables) (accountId : String) : Prop :=
  ∀ membership ∈ tables.memberships, membership.accountId ≠ accountId

/-- `after` are the tables that re-keying `tables` by their owners has to give. -/
structure OwnershipPreserved {Collated : Type} [LinearOrder Collated]
    (collate : String → Collated) (tables after : Tables) : Prop where
  projectsKept : after.projects.map Project.id = tables.projects.map Project.id
  projectsOwned : ∀ project ∈ tables.projects, ∀ subject,
    ownerOf collate tables project.accountId = some subject →
      ∃ moved ∈ after.projects, moved.id = project.id ∧ moved.accountId = subject
  memberlessProjects : ∀ project ∈ tables.projects,
    memberless tables project.accountId → project ∈ after.projects
  memberlessAccounts : ∀ account ∈ tables.accounts,
    memberless tables account.id → account ∈ after.accounts
  accountsDistinct : (after.accounts.map Account.id).Nodup
  accountsLeft : ∀ id, id ∈ after.accounts.map Account.id ↔
    (id ∈ tables.accounts.map Account.id ∧ memberless tables id) ∨
      ∃ account ∈ tables.accounts, ownerOf collate tables account.id = some id
  ownersApart : ∀ id ∈ tables.accounts.map Account.id, memberless tables id →
    ∀ account ∈ tables.accounts, ownerOf collate tables account.id ≠ some id
  defaults : ∀ account ∈ tables.accounts, ∀ subject,
    ownerOf collate tables account.id = some subject →
      (∃ project ∈ after.projects, project.accountId = subject) →
        ∃! project, project ∈ after.projects ∧ project.accountId = subject ∧
          project.isDefault = true
  tokens : after.tokens = tables.tokens.map fun token =>
    { token with accountId := (ownerOf collate tables token.accountId).getD token.accountId }

section Temporary

variable {Collated : Type} [LinearOrder Collated] (collate : String → Collated)
variable {tables : Tables}

theorem owner_none_iff (accountId : String) :
    ownerOf collate tables accountId = none ↔ memberless tables accountId := by
  simp [ownerOf, memberless, List.filter_eq_nil_iff]

theorem owning_nodup (tables : Tables) :
    ((accountOwningSubject collate tables).map Prod.fst).Nodup := by
  apply pairs_nodup id (ownerOf collate tables)
  rw [List.map_id]
  exact List.nodup_dedup _

theorem owning_iff (accountId subject : String) :
    (accountOwningSubject collate tables).lookup accountId = some subject ↔
      ownerOf collate tables accountId = some subject := by
  have distinct : (((tables.memberships.map AccountMembership.accountId).dedup).map id).Nodup := by
    rw [List.map_id]
    exact List.nodup_dedup _
  refine (lookup_pairs id (ownerOf collate tables) distinct accountId subject).trans ?_
  constructor
  · rintro ⟨account, _, rfl, owned⟩
    exact owned
  · intro owned
    refine ⟨accountId, List.mem_dedup.mpr ?_, rfl, owned⟩
    by_contra absent
    have none : ownerOf collate tables accountId = none := by
      rw [owner_none_iff]
      intro membership member same
      exact absent (List.mem_map.mpr ⟨membership, member, same⟩)
    rw [none] at owned
    cases owned

theorem owning_lookup (accountId : String) :
    (accountOwningSubject collate tables).lookup accountId = ownerOf collate tables accountId :=
  Option.ext (owning_iff collate accountId)

theorem survivor_some {subject survivor : String}
    (found : survivorOf collate tables subject = some survivor) :
    survivor ∈ tables.accounts.map Account.id ∧
      ownerOf collate tables survivor = some subject := by
  obtain ⟨account, least, rfl⟩ := Option.map_eq_some_iff.mp found
  obtain ⟨member, owned⟩ := List.mem_filter.mp (List.argmin_mem least)
  exact ⟨List.mem_map.mpr ⟨account, member, rfl⟩,
    (owning_iff collate _ _).mp (of_decide_eq_true owned)⟩

theorem survivor_of_owned {accountId subject : String}
    (present : accountId ∈ tables.accounts.map Account.id)
    (owned : ownerOf collate tables accountId = some subject) :
    ∃ survivor, survivorOf collate tables subject = some survivor := by
  obtain ⟨account, member, rfl⟩ := List.mem_map.mp present
  cases found : survivorOf collate tables subject with
  | some survivor => exact ⟨survivor, rfl⟩
  | none =>
      rw [survivorOf, Option.map_eq_none_iff, List.argmin_eq_none] at found
      have candidate : account ∈ tables.accounts.filter fun account =>
          (accountOwningSubject collate tables).lookup account.id = some subject :=
        List.mem_filter.mpr ⟨member, decide_eq_true ((owning_iff collate _ _).mpr owned)⟩
      rw [found] at candidate
      cases candidate

theorem survivors_iff (subject survivor : String) :
    (subject, survivor) ∈ subjectSurvivorAccount collate tables ↔
      survivorOf collate tables subject = some survivor := by
  refine (mem_pairs id (survivorOf collate tables) _ subject survivor).trans ?_
  constructor
  · rintro ⟨owner, _, rfl, found⟩
    exact found
  · intro found
    have owned := (owning_iff collate _ _).mpr (survivor_some collate found).2
    refine ⟨subject, List.mem_dedup.mpr (List.mem_map.mpr ⟨(survivor, subject), ?_, rfl⟩), rfl,
      found⟩
    exact (lookup_iff_of_nodup (owning_nodup collate tables) _ _).mp owned

theorem survivors_lookup (subject survivor : String) :
    (subjectSurvivorAccount collate tables).lookup subject = some survivor ↔
      survivorOf collate tables subject = some survivor := by
  rw [← survivors_iff]
  apply lookup_iff_of_nodup
  apply pairs_nodup id (survivorOf collate tables)
  rw [List.map_id]
  exact List.nodup_dedup _

theorem survivor_map_iff (accountId survivor : String) :
    (accountId, survivor) ∈ accountSurvivorMap collate tables ↔
      ∃ subject, ownerOf collate tables accountId = some subject ∧
        survivorOf collate tables subject = some survivor := by
  refine (mem_pairs Prod.fst
    (fun owned => (subjectSurvivorAccount collate tables).lookup owned.2) _ accountId
      survivor).trans ?_
  simp only [survivors_lookup]
  constructor
  · rintro ⟨⟨owned, subject⟩, member, rfl, found⟩
    refine ⟨subject, ?_, found⟩
    rw [← owning_iff, lookup_iff_of_nodup (owning_nodup collate tables)]
    exact member
  · rintro ⟨subject, owned, found⟩
    refine ⟨(accountId, subject), ?_, rfl, found⟩
    rwa [← lookup_iff_of_nodup (owning_nodup collate tables), owning_iff]

theorem survivor_map_lookup (accountId survivor : String) :
    (accountSurvivorMap collate tables).lookup accountId = some survivor ↔
      ∃ subject, ownerOf collate tables accountId = some subject ∧
        survivorOf collate tables subject = some survivor := by
  rw [← survivor_map_iff]
  apply lookup_iff_of_nodup
  exact pairs_nodup Prod.fst
    (fun owned => (subjectSurvivorAccount collate tables).lookup owned.2)
    (owning_nodup collate tables)

/-- The account under which an account's projects stand before the renames. -/
def homeOf (tables : Tables) (accountId : String) : String :=
  ((accountSurvivorMap collate tables).lookup accountId).getD accountId

theorem home_of_memberless {accountId : String}
    (ownerless : ownerOf collate tables accountId = none) :
    homeOf collate tables accountId = accountId := by
  have absent : (accountSurvivorMap collate tables).lookup accountId = none := by
    rw [Option.eq_none_iff_forall_ne_some]
    intro survivor looked
    obtain ⟨subject, owned, _⟩ := (survivor_map_lookup collate _ _).mp looked
    rw [ownerless] at owned
    cases owned
  rw [homeOf, absent, Option.getD_none]

theorem home_of_owned {accountId subject : String}
    (present : accountId ∈ tables.accounts.map Account.id)
    (owned : ownerOf collate tables accountId = some subject) :
    survivorOf collate tables subject = some (homeOf collate tables accountId) := by
  obtain ⟨survivor, found⟩ := survivor_of_owned collate present owned
  have looked := (survivor_map_lookup collate accountId survivor).mpr ⟨subject, owned, found⟩
  rw [homeOf, looked, Option.getD_some]
  exact found

theorem home_owner {accountId : String} (present : accountId ∈ tables.accounts.map Account.id) :
    homeOf collate tables accountId ∈ tables.accounts.map Account.id ∧
      ownerOf collate tables (homeOf collate tables accountId) =
        ownerOf collate tables accountId := by
  cases owner : ownerOf collate tables accountId with
  | none =>
      rw [home_of_memberless collate owner]
      exact ⟨present, owner⟩
  | some subject =>
      exact survivor_some collate (home_of_owned collate present owner)

theorem moved_to_eq (tables : Tables) (accountId : String) :
    (movedTo (accountSurvivorMap collate tables) accountId).getD accountId =
        homeOf collate tables accountId ∧
      ((movedTo (accountSurvivorMap collate tables) accountId).isSome = true ↔
        homeOf collate tables accountId ≠ accountId) := by
  unfold movedTo homeOf
  cases (accountSurvivorMap collate tables).lookup accountId with
  | none => simp
  | some survivor =>
      by_cases own : survivor = accountId
      · simp [own, Option.filter]
      · simp [own, Option.filter]

theorem due_iff (id subject : String) :
    (id, subject) ∈ dueRenames (subjectSurvivorAccount collate tables) tables.accounts ↔
      survivorOf collate tables subject = some id ∧ subject ≠ id := by
  refine (mem_pairs Account.id _ tables.accounts id subject).trans ?_
  simp only [Option.filter_eq_some_iff, Option.map_eq_some_iff]
  constructor
  · rintro ⟨account, _, rfl, ⟨⟨named, survivor⟩, found, rfl⟩, apart⟩
    have same : survivor = account.id := by simpa using List.find?_some found
    subst same
    exact ⟨(survivors_iff collate _ _).mp (List.mem_of_find?_eq_some found), by simpa using apart⟩
  · rintro ⟨found, apart⟩
    obtain ⟨present, owned⟩ := survivor_some collate found
    obtain ⟨account, member, rfl⟩ := List.mem_map.mp present
    refine ⟨account, member, rfl, ?_, by simpa using apart⟩
    have listed := (survivors_iff collate _ _).mpr found
    obtain ⟨⟨named, survivor⟩, first⟩ : ∃ pair,
        (subjectSurvivorAccount collate tables).find? (fun pair => pair.2 = account.id) =
          some pair :=
      Option.isSome_iff_exists.mp (List.find?_isSome.mpr ⟨_, listed, decide_eq_true rfl⟩)
    have same : survivor = account.id := by simpa using List.find?_some first
    subst same
    have also := (survivors_iff collate _ _).mp (List.mem_of_find?_eq_some first)
    have alsoOwned := (survivor_some collate also).2
    rw [owned] at alsoOwned
    exact ⟨_, first, (Option.some.inj alsoOwned).symm⟩

variable {renames : List (String × String)}

theorem due_olds (constraints : Constraints tables)
    (due : renames.Perm (dueRenames (subjectSurvivorAccount collate tables) tables.accounts)) :
    (renames.map Prod.fst).Nodup :=
  (due.map Prod.fst).nodup_iff.mpr (pairs_nodup Account.id _ constraints.accountIds)

theorem due_lookup (constraints : Constraints tables)
    (due : renames.Perm (dueRenames (subjectSurvivorAccount collate tables) tables.accounts))
    (id subject : String) :
    renames.lookup id = some subject ↔
      survivorOf collate tables subject = some id ∧ subject ≠ id := by
  rw [lookup_iff_of_nodup (due_olds collate constraints due), due.mem_iff, due_iff]

theorem renamed_survivor (constraints : Constraints tables)
    (due : renames.Perm (dueRenames (subjectSurvivorAccount collate tables) tables.accounts))
    {id subject : String} (found : survivorOf collate tables subject = some id) :
    renamed renames id = subject := by
  unfold renamed
  by_cases own : subject = id
  · subst own
    cases looked : renames.lookup subject with
    | none => rfl
    | some other =>
        obtain ⟨also, apart⟩ := (due_lookup collate constraints due _ _).mp looked
        have owned := (survivor_some collate found).2
        rw [(survivor_some collate also).2] at owned
        exact absurd (Option.some.inj owned) apart
  · rw [(due_lookup collate constraints due id subject).mpr ⟨found, own⟩, Option.getD_some]

theorem renamed_other (constraints : Constraints tables)
    (due : renames.Perm (dueRenames (subjectSurvivorAccount collate tables) tables.accounts))
    {id : String} (other : ∀ subject, survivorOf collate tables subject ≠ some id) :
    renames.lookup id = none := by
  rw [Option.eq_none_iff_forall_ne_some]
  intro subject looked
  exact other subject ((due_lookup collate constraints due _ _).mp looked).1

end Temporary

section Projects

variable {Collated : Type} [LinearOrder Collated] (collate : String → Collated)
variable {tables : Tables}

/-- A project after the re-parenting: it keeps its flag if its account survives. -/
def settled (tables : Tables) (project : Project) : Project :=
  { project with
    accountId := homeOf collate tables project.accountId
    isDefault := project.isDefault &&
      decide (homeOf collate tables project.accountId = project.accountId) }

theorem reparent_eq (tables : Tables) :
    reparent (accountSurvivorMap collate tables)
        (clearMovedDefaults (accountSurvivorMap collate tables) tables.projects) =
      tables.projects.map (settled collate tables) := by
  rw [reparent, clearMovedDefaults, List.map_map]
  apply List.map_congr_left
  intro project _
  obtain ⟨home, moves⟩ := moved_to_eq collate tables project.accountId
  by_cases stays : homeOf collate tables project.accountId = project.accountId
  · have unmoved : ¬ (movedTo (accountSurvivorMap collate tables) project.accountId).isSome = true :=
      fun moved => moves.mp moved stays
    simp [settled, home, unmoved, stays]
  · have moved := moves.mpr stays
    simp [settled, home, moved, stays]

theorem project_eq_of_id (constraints : Constraints tables) {left right : Project}
    (inLeft : left ∈ tables.projects) (inRight : right ∈ tables.projects)
    (same : left.id = right.id) : left = right :=
  List.inj_on_of_nodup_map constraints.projectIds inLeft inRight same

theorem one_default (constraints : Constraints tables) {left right : Project}
    (inLeft : left ∈ tables.projects) (inRight : right ∈ tables.projects)
    (same : left.accountId = right.accountId) (leftDefault : left.isDefault = true)
    (rightDefault : right.isDefault = true) : left = right := by
  by_contra other
  exact constraints.oneDefault.forall inLeft inRight other ⟨same, leftDefault, rightDefault⟩

theorem promoted_of_some {projects : List Project} {accountId id : String}
    (chosen : promotedOf collate projects accountId = some id) :
    (∀ project ∈ projects, project.accountId = accountId → project.isDefault = false) ∧
      ∃ project ∈ projects, project.accountId = accountId ∧ project.id = id := by
  unfold promotedOf at chosen
  split_ifs at chosen with has
  constructor
  · intro project member same
    by_contra default
    apply has
    rw [List.any_eq_true]
    exact ⟨project, member, by simp [same, default]⟩
  · obtain ⟨project, least, rfl⟩ := Option.map_eq_some_iff.mp chosen
    obtain ⟨member, same⟩ := List.mem_filter.mp (List.argmin_mem least)
    exact ⟨project, member, of_decide_eq_true same, rfl⟩

theorem promoted_of_exists {projects : List Project} {project : Project}
    (member : project ∈ projects)
    (none : ∀ other ∈ projects, other.accountId = project.accountId → other.isDefault = false) :
    ∃ id, promotedOf collate projects project.accountId = some id := by
  unfold promotedOf
  have without : ¬ (projects.any fun other =>
      other.accountId = project.accountId && other.isDefault) = true := by
    rw [List.any_eq_true]
    rintro ⟨other, inProjects, both⟩
    rw [Bool.and_eq_true] at both
    rw [none other inProjects (of_decide_eq_true both.1)] at both
    exact absurd both.2 (by simp)
  rw [if_neg without]
  cases least : (projects.filter fun other => other.accountId = project.accountId).argmin
      (projectKey collate) with
  | some first => exact ⟨first.id, rfl⟩
  | none =>
      have empty := List.argmin_eq_none.mp least
      have inside : project ∈ projects.filter fun other => other.accountId = project.accountId :=
        List.mem_filter.mpr ⟨member, decide_eq_true rfl⟩
      rw [empty] at inside
      cases inside

/-- The projects that are made default, one in each survivor that has none. -/
def promotedIds (tables : Tables) : List String :=
  ((subjectSurvivorAccount collate tables).map Prod.snd).filterMap
    (promotedOf collate (tables.projects.map (settled collate tables)))

def flagged (tables : Tables) (project : Project) : Bool :=
  (settled collate tables project).isDefault || decide (project.id ∈ promotedIds collate tables)

def promotedProject (tables : Tables) (project : Project) : Project :=
  { project with
    accountId := homeOf collate tables project.accountId
    isDefault := flagged collate tables project }

theorem promote_eq (tables : Tables) :
    promote collate ((subjectSurvivorAccount collate tables).map Prod.snd)
        (tables.projects.map (settled collate tables)) =
      tables.projects.map (promotedProject collate tables) := by
  rw [promote, List.map_map]
  apply List.map_congr_left
  intro project _
  have same : (settled collate tables project).id = project.id := rfl
  have listed : ((subjectSurvivorAccount collate tables).map Prod.snd).filterMap
      (promotedOf collate (tables.projects.map (settled collate tables))) =
        promotedIds collate tables := rfl
  simp only [Function.comp_apply, same, listed]
  by_cases chosen : project.id ∈ promotedIds collate tables
  · rw [if_pos chosen]
    simp [promotedProject, flagged, chosen, settled]
  · rw [if_neg chosen]
    simp [promotedProject, flagged, chosen, settled]

theorem promoted_home (constraints : Constraints tables) {project : Project}
    (member : project ∈ tables.projects) (chosen : project.id ∈ promotedIds collate tables) :
    (∃ subject,
      survivorOf collate tables subject = some (homeOf collate tables project.accountId)) ∧
      promotedOf collate (tables.projects.map (settled collate tables))
        (homeOf collate tables project.accountId) = some project.id := by
  obtain ⟨survivor, listed, promoted⟩ := List.mem_filterMap.mp chosen
  obtain ⟨⟨subject, account⟩, inSurvivors, rfl⟩ := List.mem_map.mp listed
  obtain ⟨other, inSettled, atHome, sameId⟩ := (promoted_of_some collate promoted).2
  obtain ⟨origin, inProjects, rfl⟩ := List.mem_map.mp inSettled
  have same := project_eq_of_id constraints inProjects member sameId
  subst same
  have home : homeOf collate tables origin.accountId = account := atHome
  rw [home]
  exact ⟨⟨subject, (survivors_iff collate _ _).mp inSurvivors⟩, promoted⟩

theorem settled_default {project : Project}
    (default : (settled collate tables project).isDefault = true) :
    project.isDefault = true ∧ homeOf collate tables project.accountId = project.accountId := by
  simpa [settled] using default

theorem flagged_unique (constraints : Constraints tables) {left right : Project}
    (inLeft : left ∈ tables.projects) (inRight : right ∈ tables.projects)
    (same : homeOf collate tables left.accountId = homeOf collate tables right.accountId)
    (leftFlagged : flagged collate tables left = true)
    (rightFlagged : flagged collate tables right = true) : left = right := by
  have excluded : ∀ first ∈ tables.projects, ∀ second ∈ tables.projects,
      homeOf collate tables first.accountId = homeOf collate tables second.accountId →
      (settled collate tables first).isDefault = true →
      second.id ∈ promotedIds collate tables → False := by
    intro first inFirst second inSecond sameHome default chosen
    have none := (promoted_of_some collate
      (promoted_home collate constraints inSecond chosen).2).1
    rw [none (settled collate tables first) (List.mem_map.mpr ⟨first, inFirst, rfl⟩) sameHome]
      at default
    cases default
  simp only [flagged, Bool.or_eq_true, decide_eq_true_eq] at leftFlagged rightFlagged
  obtain leftDefault | leftChosen := leftFlagged
  · obtain rightDefault | rightChosen := rightFlagged
    · obtain ⟨leftIs, leftStays⟩ := settled_default collate leftDefault
      obtain ⟨rightIs, rightStays⟩ := settled_default collate rightDefault
      rw [leftStays, rightStays] at same
      exact one_default constraints inLeft inRight same leftIs rightIs
    · exact (excluded left inLeft right inRight same leftDefault rightChosen).elim
  · obtain rightDefault | rightChosen := rightFlagged
    · exact (excluded right inRight left inLeft same.symm rightDefault leftChosen).elim
    · have leftPromoted := (promoted_home collate constraints inLeft leftChosen).2
      have rightPromoted := (promoted_home collate constraints inRight rightChosen).2
      rw [same, rightPromoted] at leftPromoted
      exact project_eq_of_id constraints inLeft inRight (Option.some.inj leftPromoted).symm

theorem flagged_exists (constraints : Constraints tables) {project : Project} {subject : String}
    (member : project ∈ tables.projects)
    (owned : ownerOf collate tables project.accountId = some subject) :
    ∃ default ∈ tables.projects,
      homeOf collate tables default.accountId = homeOf collate tables project.accountId ∧
        flagged collate tables default = true := by
  by_cases has : ∃ default ∈ tables.projects,
      homeOf collate tables default.accountId = homeOf collate tables project.accountId ∧
        (settled collate tables default).isDefault = true
  · obtain ⟨default, inProjects, atHome, isDefault⟩ := has
    exact ⟨default, inProjects, atHome, by simp [flagged, isDefault]⟩
  · have none : ∀ other ∈ tables.projects.map (settled collate tables),
        other.accountId = (settled collate tables project).accountId →
          other.isDefault = false := by
      intro other inSettled atHome
      obtain ⟨origin, inProjects, rfl⟩ := List.mem_map.mp inSettled
      by_contra default
      exact has ⟨origin, inProjects, atHome, by simpa using default⟩
    obtain ⟨id, promoted⟩ := promoted_of_exists collate
      (List.mem_map.mpr ⟨project, member, rfl⟩) none
    obtain ⟨chosen, inSettled, atHome, isId⟩ := (promoted_of_some collate promoted).2
    obtain ⟨origin, inProjects, rfl⟩ := List.mem_map.mp inSettled
    have found := home_of_owned collate (constraints.projectAccount project member) owned
    refine ⟨origin, inProjects, atHome, ?_⟩
    have listed : origin.id ∈ promotedIds collate tables := by
      refine List.mem_filterMap.mpr ⟨homeOf collate tables project.accountId, ?_, ?_⟩
      · exact List.mem_map.mpr ⟨(subject, _), (survivors_iff collate _ _).mpr found, rfl⟩
      · rw [show origin.id = id from isId]
        exact promoted
    simp [flagged, listed]

theorem distinct_of_map (constraints : Constraints tables) (move : Project → Project)
    (separate : ∀ left ∈ tables.projects, ∀ right ∈ tables.projects,
      (move left).accountId = (move right).accountId → (move left).isDefault = true →
        (move right).isDefault = true → left = right) :
    defaultsDistinct (tables.projects.map move) := by
  unfold defaultsDistinct
  rw [List.pairwise_map]
  refine List.Pairwise.imp_of_mem ?_ (List.Nodup.of_map _ constraints.projectIds)
  rintro left right inLeft inRight other ⟨same, leftDefault, rightDefault⟩
  exact other (separate left inLeft right inRight same leftDefault rightDefault)

theorem settled_distinct (constraints : Constraints tables) :
    defaultsDistinct (tables.projects.map (settled collate tables)) := by
  apply distinct_of_map constraints
  intro left inLeft right inRight same leftDefault rightDefault
  exact flagged_unique collate constraints inLeft inRight same (by simp [flagged, leftDefault])
    (by simp [flagged, rightDefault])

theorem promoted_distinct (constraints : Constraints tables) :
    defaultsDistinct (tables.projects.map (promotedProject collate tables)) := by
  apply distinct_of_map constraints
  intro left inLeft right inRight same leftDefault rightDefault
  exact flagged_unique collate constraints inLeft inRight same leftDefault rightDefault

end Projects

section Result

variable {Collated : Type} [LinearOrder Collated] (collate : String → Collated)
variable {tables : Tables} {renames : List (String × String)}

theorem owner_present (constraints : Constraints tables) {accountId subject : String}
    (owned : ownerOf collate tables accountId = some subject) :
    accountId ∈ tables.accounts.map Account.id := by
  obtain ⟨membership, least, _⟩ := Option.map_eq_some_iff.mp owned
  obtain ⟨member, same⟩ := List.mem_filter.mp (List.argmin_mem least)
  rw [← of_decide_eq_true same]
  exact constraints.membershipAccount membership member

theorem merged_iff (accountId : String) :
    accountId ∈ mergedAccounts (accountSurvivorMap collate tables) ↔
      ∃ subject survivor, ownerOf collate tables accountId = some subject ∧
        survivorOf collate tables subject = some survivor ∧ accountId ≠ survivor := by
  simp only [mergedAccounts, List.mem_map, List.mem_filter, Prod.exists, exists_and_right,
    exists_eq_right, survivor_map_iff, decide_eq_true_eq]
  constructor
  · rintro ⟨survivor, ⟨subject, owned, found⟩, other⟩
    exact ⟨subject, survivor, owned, found, other⟩
  · rintro ⟨subject, survivor, owned, found, other⟩
    exact ⟨survivor, ⟨subject, owned, found⟩, other⟩

/-- What the renames of one run are: those that are due, in some order, without a
collision. -/
structure CleanRenames (tables : Tables) (renames : List (String × String)) : Prop where
  due : renames.Perm (dueRenames (subjectSurvivorAccount collate tables) tables.accounts)
  free : (renameKeys renames (tables.accounts.map Account.id)).isSome = true

variable {collate}

theorem renames_present (clean : CleanRenames collate tables renames) :
    ∀ pair ∈ renames, pair.1 ∈ tables.accounts.map Account.id := by
  intro pair member
  have found := ((due_iff collate _ _).mp (clean.due.mem_iff.mp member)).1
  exact (survivor_some collate found).1

theorem clean_follows (constraints : Constraints tables)
    (clean : CleanRenames collate tables renames) :
    ((tables.accounts.map Account.id).map (renamed renames)).Nodup ∧
      ∀ id ∈ tables.accounts.map Account.id, cascade renames id = renamed renames id := by
  obtain ⟨after, success⟩ := Option.isSome_iff_exists.mp clean.free
  obtain ⟨isAfter, distinct, follows⟩ := rename_keys_some constraints.accountIds
    (due_olds collate constraints clean.due) (renames_present clean) success
  exact ⟨isAfter ▸ distinct, follows⟩

theorem renamed_merged_iff (constraints : Constraints tables)
    (clean : CleanRenames collate tables renames) {id : String}
    (present : id ∈ tables.accounts.map Account.id) :
    renamed renames id ∈ mergedAccounts (accountSurvivorMap collate tables) ↔
      id ∈ mergedAccounts (accountSurvivorMap collate tables) := by
  by_cases survives : ∃ subject, survivorOf collate tables subject = some id
  · obtain ⟨subject, found⟩ := survives
    have owned := (survivor_some collate found).2
    have named := renamed_survivor collate constraints clean.due found
    constructor
    · intro merged
      rw [named] at merged
      obtain ⟨other, survivor, otherOwned, otherFound, apartIds⟩ := (merged_iff collate _).mp merged
      have unnamed : renamed renames subject = subject := by
        have none : renames.lookup subject = none := by
          apply renamed_other collate constraints clean.due
          intro third thirdFound
          have thirdOwned := (survivor_some collate thirdFound).2
          rw [otherOwned] at thirdOwned
          rw [Option.some.inj thirdOwned] at otherFound
          rw [otherFound] at thirdFound
          exact apartIds (Option.some.inj thirdFound).symm
        rw [renamed, none, Option.getD_none]
      have subjectPresent := owner_present collate constraints otherOwned
      have same : id = subject :=
        List.inj_on_of_nodup_map (clean_follows constraints clean).1 present subjectPresent
          (named.trans unnamed.symm)
      rw [same]
      exact merged
    · intro merged
      obtain ⟨other, survivor, otherOwned, otherFound, apartIds⟩ := (merged_iff collate _).mp merged
      rw [owned] at otherOwned
      rw [← Option.some.inj otherOwned, found] at otherFound
      exact absurd (Option.some.inj otherFound) apartIds
  · have none := renamed_other collate constraints clean.due (not_exists.mp survives)
    rw [renamed, none, Option.getD_none]

theorem home_not_merged {id : String}
    (present : id ∈ tables.accounts.map Account.id) :
    homeOf collate tables id ∉ mergedAccounts (accountSurvivorMap collate tables) := by
  rw [merged_iff]
  rintro ⟨subject, survivor, owned, found, other⟩
  rw [(home_owner collate present).2] at owned
  rw [home_of_owned collate present owned] at found
  exact other (Option.some.inj found)

theorem renamed_account_id (now : Int) (account : Account) :
    (renamedAccount now renames account).id = renamed renames account.id := by
  unfold renamedAccount renamed
  cases renames.lookup account.id <;> rfl

theorem indexed_of {tables : Tables} (distinct : defaultsDistinct tables.projects) :
    indexed tables = some tables := if_pos distinct

def rekeyedProject (collate : String → Collated) (tables : Tables)
    (renames : List (String × String)) (project : Project) : Project :=
  { project with
    accountId := renamed renames (homeOf collate tables project.accountId)
    isDefault := flagged collate tables project }

theorem rekey_some (constraints : Constraints tables)
    (clean : CleanRenames collate tables renames) (now : Int) :
    ∃ after, rekeyAccounts collate now renames tables = some after ∧
      after.projects = tables.projects.map (rekeyedProject collate tables renames) ∧
      after.accounts = (tables.accounts.map (renamedAccount now renames)).filter (fun account =>
        account.id ∉ mergedAccounts (accountSurvivorMap collate tables)) ∧
      after.tokens = tables.tokens.map fun token =>
        { token with
          accountId := (ownerOf collate tables token.accountId).getD token.accountId } := by
  obtain ⟨distinctIds, follows⟩ := clean_follows constraints clean
  have homes : ∀ project ∈ tables.projects,
      homeOf collate tables project.accountId ∈ tables.accounts.map Account.id := by
    intro project member
    exact (home_owner collate (constraints.projectAccount project member)).1
  have cascaded : (tables.projects.map (promotedProject collate tables)).map
      (fun project => { project with accountId := cascade renames project.accountId }) =
        tables.projects.map (rekeyedProject collate tables renames) := by
    rw [List.map_map]
    apply List.map_congr_left
    intro project member
    have followed := follows _ (homes project member)
    simp [promotedProject, rekeyedProject, followed]
  have distinct : defaultsDistinct
      (tables.projects.map (rekeyedProject collate tables renames)) := by
    apply distinct_of_map constraints
    intro left inLeft right inRight same leftDefault rightDefault
    have sameHome := List.inj_on_of_nodup_map distinctIds (homes left inLeft)
      (homes right inRight) same
    exact flagged_unique collate constraints inLeft inRight sameHome leftDefault rightDefault
  simp only [rekeyAccounts, reparent_eq]
  rw [indexed_of (by exact settled_distinct collate constraints)]
  simp only [Option.bind_some, promote_eq]
  rw [indexed_of (by exact promoted_distinct collate constraints)]
  simp only [Option.bind_some, renameAccounts, clean.free, if_true, cascaded]
  rw [indexed_of (by exact distinct)]
  simp only [Option.map_some]
  refine ⟨_, rfl, ?_, ?_, ?_⟩
  · apply List.filter_eq_self.mpr
    intro project member
    obtain ⟨origin, inProjects, rfl⟩ := List.mem_map.mp member
    apply decide_eq_true
    intro merged
    have atHome := (renamed_merged_iff constraints clean (homes origin inProjects)).mp merged
    exact home_not_merged (constraints.projectAccount origin inProjects) atHome
  · apply List.filter_eq_self.mpr
    intro account member
    obtain ⟨_, kept⟩ := List.mem_filter.mp member
    apply decide_eq_true
    intro unmembered
    obtain ⟨inGone, _⟩ := List.mem_filter.mp unmembered
    obtain ⟨membership, deleted, same⟩ := List.mem_map.mp inGone
    have gone := of_decide_eq_true (List.mem_filter.mp deleted).2
    rw [same] at gone
    exact of_decide_eq_true kept gone
  · simp only [remapTokens, deleteAccounts, owning_lookup]

theorem memberless_not_survivor {id : String} (ownerless : memberless tables id)
    (subject : String) : survivorOf collate tables subject ≠ some id := by
  intro found
  have owned := (survivor_some collate found).2
  rw [(owner_none_iff collate id).mpr ownerless] at owned
  cases owned

theorem memberless_not_merged {id : String} (ownerless : memberless tables id) :
    id ∉ mergedAccounts (accountSurvivorMap collate tables) := by
  rw [merged_iff]
  rintro ⟨subject, survivor, owned, _⟩
  rw [(owner_none_iff collate id).mpr ownerless] at owned
  cases owned

theorem rekeyed_owned (constraints : Constraints tables)
    (clean : CleanRenames collate tables renames) {project : Project} {subject : String}
    (member : project ∈ tables.projects)
    (owned : ownerOf collate tables project.accountId = some subject) :
    (rekeyedProject collate tables renames project).accountId = subject :=
  renamed_survivor collate constraints clean.due
    (home_of_owned collate (constraints.projectAccount project member) owned)

theorem rekeyed_memberless (constraints : Constraints tables)
    (clean : CleanRenames collate tables renames) {project : Project}
    (member : project ∈ tables.projects) (ownerless : memberless tables project.accountId) :
    rekeyedProject collate tables renames project = project := by
  have home := home_of_memberless collate ((owner_none_iff collate _).mpr ownerless)
  have unnamed : renamed renames project.accountId = project.accountId := by
    have none := renamed_other collate constraints clean.due
      (memberless_not_survivor ownerless)
    rw [renamed, none, Option.getD_none]
  have unchosen : project.id ∉ promotedIds collate tables := by
    intro chosen
    obtain ⟨subject, found⟩ := (promoted_home collate constraints member chosen).1
    rw [home] at found
    exact memberless_not_survivor ownerless subject found
  simp [rekeyedProject, home, unnamed, flagged, settled, unchosen]

theorem account_ids_left (constraints : Constraints tables)
    (clean : CleanRenames collate tables renames) (now : Int) (id : String) :
    id ∈ ((tables.accounts.map (renamedAccount now renames)).filter fun account =>
        account.id ∉ mergedAccounts (accountSurvivorMap collate tables)).map Account.id ↔
      (id ∈ tables.accounts.map Account.id ∧ memberless tables id) ∨
        ∃ account ∈ tables.accounts, ownerOf collate tables account.id = some id := by
  constructor
  · intro left
    obtain ⟨_, kept, rfl⟩ := List.mem_map.mp left
    obtain ⟨inRenamed, stays⟩ := List.mem_filter.mp kept
    obtain ⟨account, member, rfl⟩ := List.mem_map.mp inRenamed
    have present : account.id ∈ tables.accounts.map Account.id :=
      List.mem_map.mpr ⟨account, member, rfl⟩
    have unmerged : account.id ∉ mergedAccounts (accountSurvivorMap collate tables) := by
      have after := of_decide_eq_true stays
      rw [renamed_account_id, renamed_merged_iff constraints clean present] at after
      exact after
    rw [renamed_account_id]
    cases owner : ownerOf collate tables account.id with
    | none =>
        have ownerless := (owner_none_iff collate _).mp owner
        have none := renamed_other collate constraints clean.due
          (memberless_not_survivor ownerless)
        rw [renamed, none, Option.getD_none]
        exact Or.inl ⟨present, ownerless⟩
    | some subject =>
        obtain ⟨survivor, found⟩ := survivor_of_owned collate present owner
        have own : account.id = survivor := by
          by_contra other
          exact unmerged ((merged_iff collate _).mpr ⟨subject, survivor, owner, found, other⟩)
        rw [← own] at found
        rw [renamed_survivor collate constraints clean.due found]
        exact Or.inr ⟨account, member, owner⟩
  · have stays : ∀ account ∈ tables.accounts,
        account.id ∉ mergedAccounts (accountSurvivorMap collate tables) →
          renamed renames account.id = id →
            id ∈ ((tables.accounts.map (renamedAccount now renames)).filter fun account =>
              account.id ∉ mergedAccounts (accountSurvivorMap collate tables)).map Account.id := by
      intro account member unmerged named
      have present : account.id ∈ tables.accounts.map Account.id :=
        List.mem_map.mpr ⟨account, member, rfl⟩
      refine List.mem_map.mpr ⟨renamedAccount now renames account, ?_, ?_⟩
      · refine List.mem_filter.mpr ⟨List.mem_map.mpr ⟨account, member, rfl⟩, decide_eq_true ?_⟩
        rw [renamed_account_id, renamed_merged_iff constraints clean present]
        exact unmerged
      · rw [renamed_account_id, named]
    rintro (⟨present, ownerless⟩ | ⟨account, member, owned⟩)
    · obtain ⟨account, member, rfl⟩ := List.mem_map.mp present
      apply stays account member (memberless_not_merged ownerless)
      have none := renamed_other collate constraints clean.due
        (memberless_not_survivor ownerless)
      rw [renamed, none, Option.getD_none]
    · have present : account.id ∈ tables.accounts.map Account.id :=
        List.mem_map.mpr ⟨account, member, rfl⟩
      have found := home_of_owned collate present owned
      obtain ⟨survivor, inAccounts, isHome⟩ :=
        List.mem_map.mp (home_owner collate present).1
      apply stays survivor inAccounts
      · rw [isHome]
        exact home_not_merged present
      · rw [isHome]
        exact renamed_survivor collate constraints clean.due found

theorem owner_not_memberless (constraints : Constraints tables)
    (clean : CleanRenames collate tables renames) {accountId subject : String}
    (owned : ownerOf collate tables accountId = some subject)
    (present : subject ∈ tables.accounts.map Account.id) : ¬ memberless tables subject := by
  intro ownerless
  obtain ⟨survivor, found⟩ :=
    survivor_of_owned collate (owner_present collate constraints owned) owned
  have none := renamed_other collate constraints clean.due (memberless_not_survivor ownerless)
  have same : renamed renames survivor = renamed renames subject := by
    rw [renamed_survivor collate constraints clean.due found]
    simp [renamed, none]
  have isSurvivor := List.inj_on_of_nodup_map (clean_follows constraints clean).1
    (survivor_some collate found).1 present same
  rw [isSurvivor] at found
  exact memberless_not_survivor ownerless subject found

theorem under_owner (constraints : Constraints tables)
    (clean : CleanRenames collate tables renames) {accountId subject : String}
    (owned : ownerOf collate tables accountId = some subject) {project : Project}
    (member : project ∈ tables.projects)
    (under : (rekeyedProject collate tables renames project).accountId = subject) :
    ownerOf collate tables project.accountId = some subject := by
  cases owner : ownerOf collate tables project.accountId with
  | some other => rw [← under, rekeyed_owned constraints clean member owner]
  | none =>
      have ownerless := (owner_none_iff collate _).mp owner
      have present := constraints.projectAccount project member
      rw [rekeyed_memberless constraints clean member ownerless] at under
      rw [under] at present ownerless
      exact absurd ownerless (owner_not_memberless constraints clean owned present)

theorem one_default_left (constraints : Constraints tables)
    (clean : CleanRenames collate tables renames) {accountId subject : String}
    (owned : ownerOf collate tables accountId = some subject) {project : Project}
    (member : project ∈ tables.projects)
    (under : (rekeyedProject collate tables renames project).accountId = subject) :
    ∃! default, default ∈ tables.projects.map (rekeyedProject collate tables renames) ∧
      default.accountId = subject ∧ default.isDefault = true := by
  have home : ∀ other ∈ tables.projects,
      (rekeyedProject collate tables renames other).accountId = subject →
        survivorOf collate tables subject = some (homeOf collate tables other.accountId) := by
    intro other inProjects atSubject
    exact home_of_owned collate (constraints.projectAccount other inProjects)
      (under_owner constraints clean owned inProjects atSubject)
  obtain ⟨default, inProjects, sameHome, isDefault⟩ := flagged_exists collate constraints member
    (under_owner constraints clean owned member under)
  have atSubject : (rekeyedProject collate tables renames default).accountId = subject := by
    rw [← under]
    exact congrArg (renamed renames) sameHome
  refine ⟨rekeyedProject collate tables renames default,
    ⟨List.mem_map.mpr ⟨default, inProjects, rfl⟩, atSubject, isDefault⟩, ?_⟩
  rintro _ ⟨also, alsoAt, alsoDefault⟩
  obtain ⟨other, inOther, rfl⟩ := List.mem_map.mp also
  have alsoHome := home other inOther alsoAt
  rw [home default inProjects atSubject] at alsoHome
  rw [flagged_unique collate constraints inOther inProjects (Option.some.inj alsoHome).symm
    alsoDefault isDefault]

end Result

/-- Where no id is taken, the migration commits, in whatever order it renames the
accounts, and keeps the ownership of everything. -/
theorem rekeying_preserves_ownership {Collated : Type} [LinearOrder Collated]
    (collate : String → Collated) (now : Int) {tables : Tables}
    {renames : List (String × String)} (constraints : Constraints tables)
    (due : renames.Perm (dueRenames (subjectSurvivorAccount collate tables) tables.accounts))
    (free : (renameKeys renames (tables.accounts.map Account.id)).isSome = true) :
    ∃ after, rekeyAccounts collate now renames tables = some after ∧
      OwnershipPreserved collate tables after := by
  have clean : CleanRenames collate tables renames := ⟨due, free⟩
  obtain ⟨after, commits, projects, accounts, tokens⟩ := rekey_some constraints clean now
  refine ⟨after, commits, ?_⟩
  constructor
  · rw [projects, List.map_map]
    rfl
  · intro project member subject owned
    rw [projects]
    exact ⟨rekeyedProject collate tables renames project,
      List.mem_map.mpr ⟨project, member, rfl⟩, rfl, rekeyed_owned constraints clean member owned⟩
  · intro project member ownerless
    rw [projects]
    exact List.mem_map.mpr
      ⟨project, member, rekeyed_memberless constraints clean member ownerless⟩
  · intro account member ownerless
    rw [accounts]
    have none := renamed_other collate constraints due (memberless_not_survivor ownerless)
    have same : renamedAccount now renames account = account := by
      simp only [renamedAccount, none]
    refine List.mem_filter.mpr ⟨List.mem_map.mpr ⟨account, member, same⟩, decide_eq_true ?_⟩
    exact memberless_not_merged ownerless
  · rw [accounts]
    have renamedIds : (tables.accounts.map (renamedAccount now renames)).map Account.id =
        (tables.accounts.map Account.id).map (renamed renames) := by
      simp only [List.map_map, Function.comp_def, renamed_account_id]
    refine List.Nodup.sublist (List.filter_sublist.map Account.id) ?_
    rw [renamedIds]
    exact (clean_follows constraints clean).1
  · rw [accounts]
    exact account_ids_left constraints clean now
  · intro id present ownerless account _ owned
    exact owner_not_memberless constraints clean owned present ownerless
  · rintro account _ subject owned ⟨project, inAfter, under⟩
    rw [projects] at inAfter ⊢
    obtain ⟨origin, member, rfl⟩ := List.mem_map.mp inAfter
    exact one_default_left constraints clean owned member under
  · exact tokens

/-- The collation `C`. -/
def codePoints (text : String) : List Nat := text.toList.map Char.toNat

/-- Alice owns two accounts, of which the second survives without a default project; the
third account has no members. -/
def sampleTables : Tables where
  accounts := [⟨"a1", false, 1, 1⟩, ⟨"a2", true, 2, 2⟩, ⟨"a3", false, 3, 3⟩]
  projects := [⟨"p1", "a1", true, 1⟩, ⟨"p2", "a1", false, 2⟩, ⟨"p3", "a3", true, 3⟩]
  memberships := [⟨"a1", "bob", .member, 1⟩, ⟨"a1", "alice", .owner, 2⟩, ⟨"a2", "alice", .admin, 3⟩]
  projectMembers := [⟨"p2", "a2"⟩]
  tokens := [⟨"t1", "a1"⟩, ⟨"t2", "a3"⟩]

theorem sample_constraints : Constraints sampleTables where
  accountIds := by decide
  projectIds := by decide
  projectAccount := by decide
  membershipAccount := by decide
  oneDefault := by decide

theorem rekeying_preserves_ownership_sample :
    ∃ after, rekeyAccounts codePoints 9 [("a2", "alice")] sampleTables = some after ∧
      OwnershipPreserved codePoints sampleTables after := by
  apply rekeying_preserves_ownership codePoints 9 sample_constraints
  · have due : dueRenames (subjectSurvivorAccount codePoints sampleTables) sampleTables.accounts =
        [("a2", "alice")] := by decide +kernel
    rw [due]
  · decide +kernel

/-- An account without members whose one project is not its default. -/
def orphanTables : Tables where
  accounts := [⟨"a1", false, 1, 1⟩]
  projects := [⟨"p1", "a1", false, 1⟩]
  memberships := []
  projectMembers := []
  tokens := []

/-- The migration leaves it as it is. -/
theorem orphan_left_without_default :
    Constraints orphanTables ∧
      ∃ after, rekeyAccounts codePoints 9 [] orphanTables = some after ∧
        after.accounts.map Account.id = ["a1"] ∧
        ∃ project ∈ after.projects, project.accountId = "a1" ∧
          ∀ other ∈ after.projects, other.isDefault = false := by
  refine ⟨⟨by decide, by decide, by decide, by decide, by decide⟩, orphanTables, ?_, ?_⟩
  · decide +kernel
  · decide

end LightbridgeAuthz.Migrations.AccountRekeying

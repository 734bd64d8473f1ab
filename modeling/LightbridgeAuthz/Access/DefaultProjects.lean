import LightbridgeAuthz.Library.EventRun
import LightbridgeAuthz.Library.RowVersions

/-!
# The default project of an account

The statements that write `projects.is_default`, as transactions of READ COMMITTED
that take one step at a time: `model.Project.create` with the trigger before its
insert and the check of its reference, `model.Project.delete`, the three statements
of `set_default_project` and `DELETE FROM accounts` with its cascade. The rosters
change as they like in between. A transaction that cannot go on waits; any
transaction may abort.
-/

namespace LightbridgeAuthz.Access.DefaultProjects

open Library.EventRun Library.CallSlots Library.RowVersions

set_option autoImplicit false

structure ProjectKey where
  id : String
  accountId : String
  deriving DecidableEq, Repr

/-- A row of `projects`; its value is `is_default`. -/
abbrev ProjectRow := Row ProjectKey Bool

/-- `projects_pkey`. -/
def primaryKey (key : ProjectKey) (_ : Bool) : Option String :=
  some key.id

/-- `projects_account_id_default_uidx`. -/
def defaultIndex (key : ProjectKey) (isDefault : Bool) : Option String :=
  if isDefault then some key.accountId else none

/-- Where a transaction stands: the statement, or the part of one, that comes next. -/
inductive Point where
  | createScan (id account : String)
  | createInsert (id account : String) (isDefault : Bool)
  | createReference (account : String)
  | commitCreate (account : String)
  | deleteScan (id owner : String)
  | deleteRow (position : Nat)
  | commitDelete
  | selectProject (subject id : String)
  | demoteScan (account id : String) (selected : Nat)
  | demoteRows (account id : String) (selected : Nat) (remaining : List Nat)
  | promoteScan (account id : String) (selected : Nat)
  | promoteRow (account : String) (selected position : Nat)
  | commitDefault (account : String) (selected position : Nat)
  | lockAccount (account : String)
  | cascadeScan (account : String)
  | cascadeRows (account : String) (remaining : List Nat)
  | commitAccountDeletion (account : String)
  | ended (committed : Bool)
  deriving DecidableEq, Repr

/-- `deleting` and `sharing` are the row locks on `accounts`: `FOR UPDATE` and
`FOR KEY SHARE`. A transaction is named by the slot of its call. -/
structure World where
  rows : List ProjectRow
  accounts : List String
  deleting : List (Nat × String)
  sharing : List (Nat × String)
  members : List (Nat × String)
  calls : List Point
  deriving DecidableEq, Repr

def World.goto (world : World) (tx : Nat) (point : Point) : World :=
  { world with calls := world.calls.set tx point }

def dropLocks (tx : Nat) (locks : List (Nat × String)) : List (Nat × String) :=
  locks.filter fun lock => lock.1 != tx

def World.commit (world : World) (tx : Nat) : World :=
  { world with
    rows := world.rows.map (Row.commit tx)
    deleting := dropLocks tx world.deleting
    sharing := dropLocks tx world.sharing
    calls := world.calls.set tx (.ended true) }

def World.abort (world : World) (tx : Nat) : World :=
  { world with
    rows := world.rows.map (Row.abort tx)
    deleting := dropLocks tx world.deleting
    sharing := dropLocks tx world.sharing
    calls := world.calls.set tx (.ended false) }

def World.write (world : World) (tx position : Nat) (row : ProjectRow)
    (version : Option Bool) : World :=
  { world with rows := world.rows.set position (row.write tx version) }

def World.insert (world : World) (tx : Nat) (key : ProjectKey) (isDefault : Bool) : World :=
  { world with rows := world.rows ++ [freshRow tx key isDefault] }

def rowsWhere (rows : List ProjectRow) (select : Nat → ProjectRow → Bool) : List Nat :=
  (List.range rows.length).filter fun position => rows[position]?.any (select position)

def rowWhere (rows : List ProjectRow) (select : Nat → ProjectRow → Bool) : Option Nat :=
  (List.range rows.length).find? fun position => rows[position]?.any (select position)

def lockedIn (locks : List (Nat × String)) (account : String) : Bool :=
  locks.any fun lock => lock.2 == account

/-- `NOT EXISTS (SELECT 1 FROM projects WHERE account_id = NEW.account_id)`. -/
def isFirstProject (rows : List ProjectRow) (tx : Nat) (account : String) : Bool :=
  !rows.any fun row => row.key.accountId == account && (row.visible tx).isSome

def createInsert (world : World) (tx : Nat) (id account : String) (isDefault : Bool) :
    Option World :=
  let own := world.rows.length
  match indexCheck primaryKey tx own (some id) world.rows,
      indexCheck defaultIndex tx own (defaultIndex ⟨id, account⟩ isDefault) world.rows with
  | .violation, _ => some (world.abort tx)
  | .wait, _ => none
  | .free, .violation => some (world.abort tx)
  | .free, .wait => none
  | .free, .free =>
      some ((world.insert tx ⟨id, account⟩ isDefault).goto tx (.createReference account))

/-- The foreign key takes a share lock on the account, which has to be there. -/
def createReference (world : World) (tx : Nat) (account : String) : Option World :=
  if lockedIn world.deleting account then none
  else if account ∈ world.accounts then
    some ({ world with sharing := (tx, account) :: world.sharing }.goto tx
      (.commitCreate account))
  else some (world.abort tx)

/-- The policy of the deletion: the owner's project, and not the default one. -/
def deletable (tx : Nat) (id owner : String) (_ : Nat) (row : ProjectRow) : Bool :=
  row.key.id == id && row.key.accountId == owner && row.visible tx == some false

def deleteScan (world : World) (tx : Nat) (id owner : String) : World :=
  match rowWhere world.rows (deletable tx id owner) with
  | none => world.abort tx
  | some position => world.goto tx (.deleteRow position)

/-- The row is checked again when its lock is free. -/
def deleteRow (world : World) (tx position : Nat) : Option World :=
  match world.rows[position]? with
  | none => some (world.abort tx)
  | some row =>
      if row.busy tx then none
      else if row.visible tx = some false then
        some ((world.write tx position row none).goto tx .commitDelete)
      else some (world.abort tx)

/-- The account's owner and whoever is on the roster of the project see it. -/
def selectable (world : World) (tx : Nat) (subject id : String) (position : Nat)
    (row : ProjectRow) : Bool :=
  row.key.id == id && (row.visible tx).isSome &&
    (row.key.accountId == subject || world.members.contains (position, subject))

def selectProject (world : World) (tx : Nat) (subject id : String) : World :=
  match rowWhere world.rows (selectable world tx subject id) with
  | none => world.abort tx
  | some selected =>
      match world.rows[selected]? with
      | none => world.abort tx
      | some row => world.goto tx (.demoteScan row.key.accountId id selected)

/-- `WHERE account_id = $2 AND is_default = true AND id != $3`. -/
def demotable (tx : Nat) (account id : String) (_ : Nat) (row : ProjectRow) : Bool :=
  row.key.accountId == account && row.visible tx == some true && row.key.id != id

def demoteRow (world : World) (tx : Nat) (account id : String) (selected position : Nat)
    (remaining : List Nat) : Option World :=
  match world.rows[position]? with
  | none => some (world.goto tx (.demoteRows account id selected remaining))
  | some row =>
      if row.busy tx then none
      else if row.visible tx = some true then
        some ((world.write tx position row (some false)).goto tx
          (.demoteRows account id selected remaining))
      else some (world.goto tx (.demoteRows account id selected remaining))

/-- `UPDATE projects SET is_default = true … WHERE id = $2`. -/
def promotable (tx : Nat) (id : String) (_ : Nat) (row : ProjectRow) : Bool :=
  row.key.id == id && (row.visible tx).isSome

/-- `fetch_one` fails where there is no row. -/
def promoteScan (world : World) (tx : Nat) (account id : String) (selected : Nat) : World :=
  match rowWhere world.rows (promotable tx id) with
  | none => world.abort tx
  | some position => world.goto tx (.promoteRow account selected position)

def promoteRow (world : World) (tx : Nat) (account : String) (selected position : Nat) :
    Option World :=
  match world.rows[position]? with
  | none => some (world.abort tx)
  | some row =>
      if row.busy tx then none
      else if (row.visible tx).isNone then some (world.abort tx)
      else
        match indexCheck defaultIndex tx position (defaultIndex row.key true) world.rows with
        | .violation => some (world.abort tx)
        | .wait => none
        | .free =>
            some ((world.write tx position row (some true)).goto tx
              (.commitDefault account selected position))

/-- `DELETE FROM accounts` has to wait for every lock on the row. -/
def lockAccount (world : World) (tx : Nat) (account : String) : Option World :=
  if lockedIn world.deleting account || lockedIn world.sharing account then none
  else if account ∈ world.accounts then
    some ({ world with deleting := (tx, account) :: world.deleting }.goto tx
      (.cascadeScan account))
  else some (world.abort tx)

def cascaded (tx : Nat) (account : String) (_ : Nat) (row : ProjectRow) : Bool :=
  row.key.accountId == account && (row.visible tx).isSome

def cascadeRow (world : World) (tx : Nat) (account : String) (position : Nat)
    (remaining : List Nat) : Option World :=
  match world.rows[position]? with
  | none => some (world.goto tx (.cascadeRows account remaining))
  | some row =>
      if row.busy tx then none
      else if (row.visible tx).isSome then
        some ((world.write tx position row none).goto tx (.cascadeRows account remaining))
      else some (world.goto tx (.cascadeRows account remaining))

def removeAccount (world : World) (account : String) : World :=
  { world with accounts := world.accounts.filter (· != account) }

def advance (world : World) (tx : Nat) : Point → Option World
  | .createScan id account =>
      some (world.goto tx (.createInsert id account (isFirstProject world.rows tx account)))
  | .createInsert id account isDefault => createInsert world tx id account isDefault
  | .createReference account => createReference world tx account
  | .commitCreate _ => some (world.commit tx)
  | .deleteScan id owner => some (deleteScan world tx id owner)
  | .deleteRow position => deleteRow world tx position
  | .commitDelete => some (world.commit tx)
  | .selectProject subject id => some (selectProject world tx subject id)
  | .demoteScan account id selected =>
      some (world.goto tx (.demoteRows account id selected
        (rowsWhere world.rows (demotable tx account id))))
  | .demoteRows account id selected (position :: remaining) =>
      demoteRow world tx account id selected position remaining
  | .demoteRows account id selected [] =>
      some (world.goto tx (.promoteScan account id selected))
  | .promoteScan account id selected => some (promoteScan world tx account id selected)
  | .promoteRow account selected position => promoteRow world tx account selected position
  | .commitDefault _ _ _ => some (world.commit tx)
  | .lockAccount account => lockAccount world tx account
  | .cascadeScan account =>
      some (world.goto tx (.cascadeRows account (rowsWhere world.rows (cascaded tx account))))
  | .cascadeRows account (position :: remaining) => cascadeRow world tx account position remaining
  | .cascadeRows account [] => some (world.goto tx (.commitAccountDeletion account))
  | .commitAccountDeletion account => some (removeAccount (world.commit tx) account)
  | .ended _ => none

/-- `roster` sets who is on the rosters, by the place of the project. -/
inductive Event where
  | advance (tx : Nat)
  | abort (tx : Nat)
  | roster (members : List (Nat × String))
  deriving DecidableEq, Repr

def Point.hasEnded : Point → Bool
  | .ended _ => true
  | _ => false

def step (world : World) : Event → Option World
  | .advance tx => (world.calls[tx]?).bind (advance world tx)
  | .abort tx =>
      (world.calls[tx]?).bind fun point =>
        if point.hasEnded then none else some (world.abort tx)
  | .roster members => some { world with members := members }

def Point.isRequest : Point → Bool
  | .createScan _ _ | .deleteScan _ _ | .selectProject _ _ | .lockAccount _ => true
  | _ => false

def HasProject (rows : List ProjectRow) (account : String) : Prop :=
  ∃ position key isDefault, committedAt rows position = some (key, isDefault) ∧
    key.accountId = account

def IsDefault (rows : List ProjectRow) (account : String) (position : Nat) : Prop :=
  ∃ key, committedAt rows position = some (key, true) ∧ key.accountId = account

/-- Every account that has at least one project has exactly one default project. -/
def OneDefault (rows : List ProjectRow) : Prop :=
  ∀ account, HasProject rows account → ∃! position, IsDefault rows account position

end LightbridgeAuthz.Access.DefaultProjects

import LightbridgeAuthz.Sessions.AuthorizedPairs
import LightbridgeAuthz.Sessions.FinalRevocation

/-!
# Retrying a refresh that failed

A refresh spends the presented token in its first statement and inserts the
successor in its last, with no transaction around the two. A call that fails in
between has spent the token and stored no other, and its retry is taken for a
replay. Only a failure of the first statement that the database has not
committed can be retried. Between the statements of the call and of its retry the
others do to the table what they like, as long as they leave the presented token
alone.
-/

namespace LightbridgeAuthz.Sessions.RefreshRetries

open Library.EventRun Library.KeyedRows Library.ChronoTime
open Access.Tenancy RefreshTokens TokenGrants SessionCalls SessionSteps RefreshChains
open AuthorizedPairs FinalRevocation

set_option autoImplicit false

/-- A turn of a refresh: its next statement, over the tenants that it finds, or
what the others make of the table. -/
inductive Turn where
  | statement (tenancy : TenancyDb) (input : StepInput)
  | others (tokens : List RefreshTokenRow)

def isStatement : Turn → Bool
  | .statement .. => true
  | .others _ => false

def turnStep (config : SessionConfig) (state : List RefreshTokenRow × RefreshCall) :
    Turn → Option (List RefreshTokenRow × RefreshCall)
  | .statement tenancy input => refreshMove config tenancy state.1 input state.2
  | .others tokens => if hasReturned state.2.point then none else some (tokens, state.2)

def LeavesToken (hash : String) (state : List RefreshTokenRow × RefreshCall) : Turn → Prop
  | .statement .. => True
  | .others tokens => findKey tokenHash tokens hash = findKey tokenHash state.1 hash

/-- What fails in the first statement of a refresh, the consuming `UPDATE`. -/
def firstFault : List Turn → Option Fault
  | [] => none
  | .statement _ input :: _ => input.fault
  | .others _ :: rest => firstFault rest

def presentedHash (config : SessionConfig) (request : RefreshRequest) : String :=
  config.hashApiKey (request.refreshToken.getD "")

/-- An unexpired token, presented by the client it was issued to, of a chain within
its cap. -/
structure Presentable (config : SessionConfig) (request : RefreshRequest) (now : Int)
    (row : RefreshTokenRow) : Prop where
  hash : row.tokenHash = presentedHash config request
  active : row.status = .active
  client : row.clientId = request.client.clientId
  unexpired : now < row.expiresAt
  capped : now < row.chainExpiresAt

/-- A refresh with a token in order that was answered `server_error`. -/
structure FailedCall (config : SessionConfig) where
  request : RefreshRequest
  now : Int
  row : RefreshTokenRow
  presentable : Presentable config request now row
  tokens : List RefreshTokenRow
  found : findKey tokenHash tokens (presentedHash config request) = some row
  turns : List Turn
  undisturbed : Meets (turnStep config) (LeavesToken (presentedHash config request))
    (tokens, arriveRefresh request now) turns
  after : List RefreshTokenRow
  ended : RefreshCall
  ran : runFrom (turnStep config) (tokens, arriveRefresh request now) turns = some (after, ended)
  description : String
  answered : ended.point = .returned (.error (.oauth "server_error" description))

/-- The `INSERT` of a successor meets no stored row. -/
def insertFits (tokens : List RefreshTokenRow) : RefreshPoint → Bool
  | .insert _ successor _ => (createExchangeRefreshToken tokens successor).isOk
  | _ => true

/-- A turn that meets no failure and finds the session authorized. -/
def Served (config : SessionConfig) (request : RefreshRequest) (row : RefreshTokenRow)
    (authorization : ResolvedContext × Project) (state : List RefreshTokenRow × RefreshCall) :
    Turn → Prop
  | .statement tenancy input =>
      Undisturbed input ∧ revalidate tenancy row.subject row.projectId = some authorization ∧
        insertFits state.1 state.2.point = true
  | .others tokens =>
      findKey tokenHash tokens (presentedHash config request) =
        findKey tokenHash state.1 (presentedHash config request)

instance (input : StepInput) : Decidable (Undisturbed input) :=
  decidable_of_iff (input.fault = none ∧ input.accessSigned = true ∧ input.idSigned = true)
    ⟨fun sound => ⟨sound.1, sound.2.1, sound.2.2⟩,
      fun sound => ⟨sound.noFault, sound.accessSigned, sound.idSigned⟩⟩

instance decidableServed (config : SessionConfig) (request : RefreshRequest)
    (row : RefreshTokenRow) (authorization : ResolvedContext × Project)
    (state : List RefreshTokenRow × RefreshCall) :
    ∀ turn, Decidable (Served config request row authorization state turn)
  | .statement _ _ => inferInstanceAs (Decidable (_ ∧ _ ∧ _))
  | .others _ => inferInstanceAs (Decidable (_ = _))

/-- A retry of the call while its token and its chain would still be good. Its
statements are at most seven. -/
structure Retry {config : SessionConfig} (failed : FailedCall config) where
  later : Int
  unexpired : later < failed.row.expiresAt
  capped : later < failed.row.chainExpiresAt
  successorEnds : (afterSeconds later config.refreshTtlSeconds.toInt).isSome
  authorization : ResolvedContext × Project
  turns : List Turn
  enough : 7 ≤ turns.countP isStatement
  served : Meets (turnStep config) (Served config failed.request failed.row authorization)
    (failed.after, arriveRefresh failed.request later) turns

def Retry.outcome {config : SessionConfig} {failed : FailedCall config} (retry : Retry failed) :
    List RefreshTokenRow × RefreshCall :=
  driveFrom (turnStep config) (failed.after, arriveRefresh failed.request retry.later) retry.turns

/-- The retry is answered with tokens, and the chain lives on. -/
def Retry.Succeeds {config : SessionConfig} {failed : FailedCall config} (retry : Retry failed) :
    Prop :=
  (∃ response, retry.outcome.2.point = .returned (.ok response)) ∧
    ∃ row ∈ retry.outcome.1, activeIn failed.row.chainId row = true

/-- The retry is taken for a replay, and no token of the chain is left. -/
def Retry.KillsChain {config : SessionConfig} {failed : FailedCall config}
    (retry : Retry failed) : Prop :=
  retry.outcome.2.point = .returned (.error invalidGrant) ∧
    ∀ row ∈ retry.outcome.1, activeIn failed.row.chainId row = false

section Failed

variable {config : SessionConfig} {request : RefreshRequest} {now : Int} {row : RefreshTokenRow}
  {tokens : List RefreshTokenRow}

theorem turn_of_returned {state : List RefreshTokenRow × RefreshCall}
    (ended : hasReturned state.2.point = true) (turn : Turn) : turnStep config state turn = none := by
  cases turn with
  | statement tenancy input =>
      cases point : state.2.point with
      | returned answer => simp only [turnStep, refreshMove, point]
      | _ =>
          rw [point] at ended
          cases ended
  | others tokens => simp only [turnStep, ended, if_true]

theorem run_of_returned {state last : List RefreshTokenRow × RefreshCall} {turns : List Turn}
    (ended : hasReturned state.2.point = true)
    (ran : runFrom (turnStep config) state turns = some last) : last = state := by
  cases turns with
  | nil => exact (Option.some.inj ran).symm
  | cons turn rest =>
      obtain ⟨next, stepped, -⟩ := run_cons_some ran
      rw [turn_of_returned ended] at stepped
      cases stepped

theorem consume_presentable (presentable : Presentable config request now row)
    (found : findKey tokenHash tokens (presentedHash config request) = some row) :
    consumeExchangeRefreshToken tokens (presentedHash config request) now =
      (updateKey tokenHash tokens (presentedHash config request) (rotated now),
        some (rotated now row)) := by
  unfold consumeExchangeRefreshToken
  rw [found]
  exact if_pos ⟨presentable.active, presentable.unexpired⟩

theorem found_rotated (now : Int)
    (found : findKey tokenHash tokens (presentedHash config request) = some row) :
    findKey tokenHash (updateKey tokenHash tokens (presentedHash config request) (rotated now))
      (presentedHash config request) = some (rotated now row) :=
  find_key_update_same (rotated now) found (find_key_some found).2

theorem unconsumed_before {call : RefreshCall} (sound : RefreshSound config call)
    (before : call.point = .consume ∨ ∃ chainId, call.point = .cascade chainId) :
    call.consumed = none := by
  have knows := sound.knows
  rcases before with point | ⟨chainId, point⟩
  · simp only [RefreshKnows, point] at knows
    exact knows.1
  · simp only [RefreshKnows, point] at knows
    exact knows.1

theorem arrive_unrefused (unrefused : refreshRefusal request = none) :
    arriveRefresh request now = ⟨request, now, none, false, .consume⟩ := by
  simp only [arriveRefresh, unrefused]

/-- The token is spent, by a call that is past its first statement. -/
structure Spent (config : SessionConfig) (request : RefreshRequest) (row : RefreshTokenRow)
    (state : List RefreshTokenRow × RefreshCall) : Prop where
  found : findKey tokenHash state.1 (presentedHash config request) = some row
  sound : RefreshSound config state.2
  consumed : state.2.consumed.isSome

theorem turn_spent {state next : List RefreshTokenRow × RefreshCall} {turn : Turn}
    (spent : Spent config request row state)
    (leaves : LeavesToken (presentedHash config request) state turn)
    (stepped : turnStep config state turn = some next) : Spent config request row next := by
  obtain ⟨taken, isTaken⟩ := Option.isSome_iff_exists.mp spent.consumed
  have pastFirst : ¬ (state.2.point = .consume ∨ ∃ chainId, state.2.point = .cascade chainId) := by
    intro before
    rw [unconsumed_before spent.sound before] at isTaken
    cases isTaken
  obtain ⟨table, call⟩ := state
  obtain ⟨written, moved⟩ := next
  cases turn with
  | others tokens =>
      simp only [turnStep] at stepped
      split at stepped
      · cases stepped
      · cases stepped
        exact ⟨Eq.trans leaves spent.found, spent.sound, spent.consumed⟩
  | statement tenancy input =>
      have sound := refresh_sound spent.sound stepped
      cases refresh_effect spent.sound stepped with
      | read consumed stored => exact ⟨spent.found, sound, consumed ▸ spent.consumed⟩
      | consumed point found active consumed stored => exact absurd (Or.inl point) pastFirst
      | cascaded point consumed stored => exact absurd (Or.inr ⟨_, point⟩) pastFirst
      | inserted point fresh consumed stored =>
          exact ⟨find_key_append_of_some spent.found, sound, consumed ▸ spent.consumed⟩

theorem first_statement {tenancy : TenancyDb} {input : StepInput} {moved : RefreshCall}
    {written : List RefreshTokenRow} (unrefused : refreshRefusal request = none)
    (presentable : Presentable config request now row)
    (found : findKey tokenHash tokens (presentedHash config request) = some row)
    (ran : refreshMove config tenancy tokens input (arriveRefresh request now) =
      some (written, moved)) :
    (input.fault = some ⟨false⟩ ∧ written = tokens ∧ hasReturned moved.point = true) ∨
      (input.fault ≠ some ⟨false⟩ ∧ Spent config request (rotated now row) (written, moved)) := by
  have sound := refresh_sound (arrive_refresh_sound config request now) ran
  have consumes := consume_presentable presentable found
  have spends : ∀ consumed : moved.consumed = some (rotated now row),
      written = updateKey tokenHash tokens (presentedHash config request) (rotated now) →
      Spent config request (rotated now row) (written, moved) := by
    intro consumed isWritten
    subst isWritten
    exact ⟨found_rotated now found, sound, by rw [consumed]; rfl⟩
  rw [arrive_unrefused unrefused] at ran
  simp only [refreshMove, RefreshCall.presented] at ran
  change consumeExchangeRefreshToken tokens (config.hashApiKey (request.refreshToken.getD "")) now =
    _ at consumes
  rw [consumes] at ran
  cases faulty : input.fault with
  | none =>
      rw [faulty] at ran
      obtain ⟨rfl, rfl⟩ := Prod.mk.inj (Option.some.inj ran)
      exact .inr ⟨by simp, spends (after_consume_fields _ _).1 rfl⟩
  | some fault =>
      obtain ⟨committed⟩ := fault
      rw [faulty] at ran
      cases committed with
      | false =>
          obtain ⟨rfl, rfl⟩ := Prod.mk.inj (Option.some.inj ran)
          exact .inl ⟨rfl, rfl, rfl⟩
      | true =>
          obtain ⟨rfl, rfl⟩ := Prod.mk.inj (Option.some.inj ran)
          exact .inr ⟨by simp, spends rfl rfl⟩

/-- A call with a token in order has spent it when it returns, unless its `UPDATE`
was lost. -/
theorem returned_spent {last : List RefreshTokenRow × RefreshCall} {turns : List Turn}
    (unrefused : refreshRefusal request = none)
    (presentable : Presentable config request now row)
    (found : findKey tokenHash tokens (presentedHash config request) = some row)
    (undisturbed : Meets (turnStep config) (LeavesToken (presentedHash config request))
      (tokens, arriveRefresh request now) turns)
    (ran : runFrom (turnStep config) (tokens, arriveRefresh request now) turns = some last)
    (ended : hasReturned last.2.point = true) :
    (firstFault turns = some ⟨false⟩ ∧
        findKey tokenHash last.1 (presentedHash config request) = some row) ∨
      (firstFault turns ≠ some ⟨false⟩ ∧
        findKey tokenHash last.1 (presentedHash config request) = some (rotated now row)) := by
  induction turns generalizing tokens with
  | nil =>
      rw [← Option.some.inj ran, arrive_unrefused unrefused] at ended
      cases ended
  | cons turn rest ih =>
      obtain ⟨⟨written, moved⟩, stepped, tail⟩ := run_cons_some ran
      obtain ⟨leaves, later⟩ := meets_cons_some undisturbed stepped
      cases turn with
      | others changed =>
          simp only [turnStep, arrive_unrefused unrefused, hasReturned] at stepped
          obtain ⟨rfl, rfl⟩ := Prod.mk.inj (Option.some.inj stepped)
          rw [← arrive_unrefused unrefused] at later tail
          exact ih (Eq.trans leaves found) later tail
      | statement tenancy input =>
          rcases first_statement unrefused presentable found stepped with
            ⟨lost, rfl, isOver⟩ | ⟨kept, spent⟩
          · rw [run_of_returned isOver tail]
            exact .inl ⟨lost, found⟩
          · refine .inr ⟨kept, ?_⟩
            exact (run_preserves_of_meets (Spent config request (rotated now row))
              (fun _ _ _ still leaves moves => turn_spent still leaves moves) spent later
              tail).found

end Failed

/-- How many statements a refresh has before it, at most. -/
def statementsLeft : RefreshPoint → Nat
  | .consume => 7
  | .context _ => 6
  | .project .. => 5
  | .account .. => 4
  | .budgetTier .. => 3
  | .quotaTier .. => 2
  | .insert .. => 1
  | .detectReuse => 2
  | .cascade _ => 1
  | .returned _ => 0

section Retried

variable {config : SessionConfig} {request : RefreshRequest} {later : Int} {row : RefreshTokenRow}
  {authorization : ResolvedContext × Project}

theorem answer_of_none_left {point : RefreshPoint} (isOver : statementsLeft point = 0) :
    ∃ answer, point = .returned answer := by
  cases point with
  | returned answer => exact ⟨answer, rfl⟩
  | _ => cases isOver

theorem returned_of_none_left {point : RefreshPoint} (isOver : statementsLeft point = 0) :
    hasReturned point = true := by
  obtain ⟨answer, rfl⟩ := answer_of_none_left isOver
  rfl

theorem revalidate_some {tenancy : TenancyDb} {subject projectId : String}
    (authorized : revalidate tenancy subject projectId = some authorization) :
    resolveContext tenancy subject projectId = .ok authorization.1 ∧
      (getProjectById tenancy authorization.1.projectId).filter
        (fun project => project.status == .active) = some authorization.2 ∧
      ∃ account, (getAccountById tenancy authorization.1.accountId).filter
        (fun account => account.status == .active) = some account := by
  unfold revalidate at authorized
  split at authorized
  · cases authorized
  · rename_i context resolved
    obtain ⟨project, found, isPair⟩ := Option.bind_eq_some_iff.mp authorized
    obtain ⟨account, owned, isPair⟩ := Option.map_eq_some_iff.mp isPair
    subst isPair
    exact ⟨resolved, found, account, owned⟩

/-- Where a retry with a live token stands as long as nothing fails. -/
def OnCourse (config : SessionConfig) (request : RefreshRequest) (later : Int)
    (row : RefreshTokenRow) (authorization : ResolvedContext × Project)
    (state : List RefreshTokenRow × RefreshCall) : Prop :=
  (state.2.request = request ∧ state.2.now = later) ∧
    match state.2.point with
    | .consume => findKey tokenHash state.1 (presentedHash config request) = some row
    | .context taken => taken = rotated later row
    | .project taken context => taken = rotated later row ∧ context = authorization.1
    | .account taken context project =>
        taken = rotated later row ∧ (context, project) = authorization
    | .budgetTier taken context project =>
        taken = rotated later row ∧ (context, project) = authorization
    | .quotaTier taken context project _ =>
        taken = rotated later row ∧ (context, project) = authorization
    | .insert _ successor _ => successor.chainId = row.chainId
    | .returned answer =>
        (∃ response, answer = .ok response) ∧
          ∃ live ∈ state.1, activeIn row.chainId live = true
    | .detectReuse => False
    | .cascade _ => False

/-- Where a retry with a spent token stands as long as nothing fails. -/
def Replaying (config : SessionConfig) (request : RefreshRequest) (row : RefreshTokenRow)
    (state : List RefreshTokenRow × RefreshCall) : Prop :=
  state.2.request = request ∧
    match state.2.point with
    | .consume => findKey tokenHash state.1 (presentedHash config request) = some row
    | .detectReuse => findKey tokenHash state.1 (presentedHash config request) = some row
    | .cascade chainId => chainId = row.chainId
    | .returned answer =>
        answer = .error invalidGrant ∧ ∀ live ∈ state.1, activeIn row.chainId live = false
    | _ => False

/-- A turn that is enabled, keeps the invariant and, if it is a statement, comes
off the number that is left. -/
def Onward (config : SessionConfig) (invariant : List RefreshTokenRow × RefreshCall → Prop)
    (state : List RefreshTokenRow × RefreshCall) (turn : Turn) : Prop :=
  ∃ next, turnStep config state turn = some next ∧ invariant next ∧
    statementsLeft next.2.point + (if isStatement turn then 1 else 0) ≤
      statementsLeft state.2.point

theorem others_onward {invariant : List RefreshTokenRow × RefreshCall → Prop}
    {state : List RefreshTokenRow × RefreshCall} {tokens : List RefreshTokenRow}
    (left : 0 < statementsLeft state.2.point) (kept : invariant (tokens, state.2)) :
    Onward config invariant state (.others tokens) := by
  refine ⟨(tokens, state.2), ?_, kept, Nat.le_refl _⟩
  cases point : state.2.point with
  | returned answer =>
      rw [point] at left
      cases left
  | _ => simp only [turnStep, point, hasReturned, Bool.false_eq_true, if_false]

theorem mint_refresh_fits {call : RefreshCall} {taken : RefreshTokenRow} {mint : MintContext}
    {input : StepInput} (sound : Undisturbed input)
    (successorEnds : (afterSeconds call.now config.refreshTtlSeconds.toInt).isSome) :
    ∃ successor response, successor.chainId = taken.chainId ∧
      mintRefresh config call taken mint input =
        { call with point := .insert taken successor response } := by
  obtain ⟨expiresAt, isEnd⟩ := Option.isSome_iff_exists.mp successorEnds
  unfold mintRefresh
  rw [if_neg (by simp [sound.accessSigned]), if_neg (by simp [sound.idSigned]), isEnd]
  exact ⟨_, _, rfl, rfl⟩

theorem statement_onward {invariant : List RefreshTokenRow × RefreshCall → Prop}
    {tokens written : List RefreshTokenRow} {call moved : RefreshCall} {tenancy : TenancyDb}
    {input : StepInput} {before : RefreshPoint} (point : call.point = before)
    (ran : refreshMove config tenancy tokens input call = some (written, moved))
    (fewer : statementsLeft moved.point < statementsLeft before)
    (kept : invariant (written, moved)) :
    Onward config invariant (tokens, call) (.statement tenancy input) := by
  subst point
  exact ⟨(written, moved), ran, kept, fewer⟩

theorem after_consume_fits {call : RefreshCall}
    (presentable : Presentable config call.request call.now row) :
    afterConsume call (rotated call.now row) =
      { call with
        consumed := some (rotated call.now row), point := .context (rotated call.now row) } := by
  have sameClient : ¬ (rotated call.now row).clientId ≠ call.request.client.clientId :=
    not_not_intro presentable.client
  have beforeEnd : ¬ (rotated call.now row).chainExpiresAt ≤ call.now :=
    Int.not_le.mpr presentable.capped
  unfold afterConsume
  rw [if_neg sameClient, if_neg beforeEnd]

section Moves

variable {tokens : List RefreshTokenRow} {call : RefreshCall} {tenancy : TenancyDb}
  {input : StepInput}

theorem consume_move (point : call.point = .consume) (sound : Undisturbed input)
    (presentable : Presentable config call.request call.now row)
    (live : findKey tokenHash tokens (presentedHash config call.request) = some row) :
    refreshMove config tenancy tokens input call =
      some (updateKey tokenHash tokens (presentedHash config call.request) (rotated call.now),
        { call with
          consumed := some (rotated call.now row), point := .context (rotated call.now row) }) := by
  have consumes := consume_presentable presentable live
  simp only [presentedHash] at consumes
  rw [← after_consume_fits presentable]
  simp only [refreshMove, point, sound.noFault, RefreshCall.presented, consumes, presentedHash]

theorem insert_move {taken : RefreshTokenRow} {successor : NewRefreshToken}
    {response : TokenResponse} (point : call.point = .insert taken successor response)
    (sound : Undisturbed input) (fits : insertFits tokens call.point = true) :
    ∃ written,
      refreshMove config tenancy tokens input call =
          some (written, { call with stored := true, point := .returned (.ok response) }) ∧
        ∃ live ∈ written, activeIn successor.chainId live = true := by
  rw [point] at fits
  cases created : createExchangeRefreshToken tokens successor with
  | error error =>
      simp only [insertFits, created] at fits
      cases fits
  | ok written =>
      refine ⟨written, by simp only [refreshMove, point, sound.noFault, created], ?_⟩
      refine ⟨successor.toRow, ?_, ?_⟩
      · rw [(create_ok created).1]
        exact List.mem_append_right _ (List.mem_singleton_self _)
      · rw [activeIn, show successor.toRow.chainId = successor.chainId from rfl, BEq.rfl]
        rfl

theorem consume_spent_move (point : call.point = .consume) (sound : Undisturbed input)
    (spent : row.status = .rotated)
    (found : findKey tokenHash tokens (presentedHash config call.request) = some row) :
    refreshMove config tenancy tokens input call =
      some (tokens, { call with point := .detectReuse }) := by
  have dead : ¬ (row.status = .active ∧ call.now < row.expiresAt) := by
    rintro ⟨active, -⟩
    rw [spent] at active
    cases active
  have consumes : consumeExchangeRefreshToken tokens
      (config.hashApiKey (call.request.refreshToken.getD "")) call.now = (tokens, none) := by
    rw [presentedHash] at found
    unfold consumeExchangeRefreshToken
    rw [found]
    exact if_neg dead
  simp only [refreshMove, point, sound.noFault, RefreshCall.presented, consumes]

end Moves

theorem course_statement {tokens : List RefreshTokenRow} {call : RefreshCall}
    {tenancy : TenancyDb} {input : StepInput}
    (presentable : Presentable config call.request call.now row)
    (successorEnds : (afterSeconds call.now config.refreshTtlSeconds.toInt).isSome)
    (course : OnCourse config call.request call.now row authorization (tokens, call))
    (sound : Undisturbed input)
    (authorized : revalidate tenancy row.subject row.projectId = some authorization)
    (fits : insertFits tokens call.point = true) (left : 0 < statementsLeft call.point) :
    Onward config (OnCourse config call.request call.now row authorization) (tokens, call)
      (.statement tenancy input) := by
  obtain ⟨resolved, found, account, owned⟩ := revalidate_some authorized
  have stands := course.2
  cases point : call.point with
  | consume =>
      simp only [point] at stands
      apply statement_onward point (consume_move point sound presentable stands)
        (Nat.lt_succ_self 6)
      exact ⟨⟨rfl, rfl⟩, rfl⟩
  | context taken =>
      simp only [point] at stands
      subst stands
      have ran : refreshMove config tenancy tokens input call =
          some (tokens,
            { call with point := .project (rotated call.now row) authorization.1 }) := by
        have resolves : resolveContext tenancy (rotated call.now row).subject
            (rotated call.now row).projectId = .ok authorization.1 := resolved
        simp only [refreshMove, point, sound.noFault, resolves]
      apply statement_onward point ran (Nat.lt_succ_self 5)
      exact ⟨⟨rfl, rfl⟩, rfl, rfl⟩
  | project taken context =>
      simp only [point] at stands
      obtain ⟨rfl, rfl⟩ := stands
      have ran : refreshMove config tenancy tokens input call =
          some (tokens,
            { call with
              point := .account (rotated call.now row) authorization.1 authorization.2 }) := by
        simp only [refreshMove, point, sound.noFault, found]
      apply statement_onward point ran (Nat.lt_succ_self 4)
      exact ⟨⟨rfl, rfl⟩, rfl, rfl⟩
  | account taken context project =>
      simp only [point] at stands
      obtain ⟨rfl, rfl⟩ := stands
      have ran : refreshMove config tenancy tokens input call =
          some (tokens,
            { call with point := .budgetTier (rotated call.now row) context project }) := by
        simp only [refreshMove, point, sound.noFault, owned]
      apply statement_onward point ran (Nat.lt_succ_self 3)
      exact ⟨⟨rfl, rfl⟩, rfl, rfl⟩
  | budgetTier taken context project =>
      simp only [point] at stands
      have ran : refreshMove config tenancy tokens input call =
          some (tokens,
            { call with point := .quotaTier taken context project input.budgetTier }) := by
        simp only [refreshMove, point]
      apply statement_onward point ran (Nat.lt_succ_self 2)
      exact ⟨⟨rfl, rfl⟩, stands⟩
  | quotaTier taken context project budgetTier =>
      simp only [point] at stands
      obtain ⟨successor, response, sameChain, mints⟩ :=
        @mint_refresh_fits config call taken
          ⟨context, project.allowedModels, project.modelPolicy, budgetTier,
            projectMemberQuotaTier tenancy context.projectId taken.subject⟩ input sound
          successorEnds
      have ran : refreshMove config tenancy tokens input call =
          some (tokens, { call with point := .insert taken successor response }) := by
        simp only [refreshMove, point, sound.noFault, mints]
      apply statement_onward point ran (Nat.lt_succ_self 1)
      rw [stands.1] at sameChain
      exact ⟨⟨rfl, rfl⟩, sameChain⟩
  | insert taken successor response =>
      simp only [point] at stands
      obtain ⟨written, ran, alive⟩ := insert_move point sound fits
      apply statement_onward point ran (Nat.lt_succ_self 0)
      rw [stands] at alive
      exact ⟨⟨rfl, rfl⟩, ⟨response, rfl⟩, alive⟩
  | detectReuse =>
      rw [point] at stands
      exact stands.elim
  | cascade chainId =>
      rw [point] at stands
      exact stands.elim
  | returned answer =>
      rw [point] at left
      cases left

theorem cascade_none_live (chainId : String) (stored : RefreshTokenRow) :
    activeIn chainId (revokedIf (fun row => row.chainId == chainId) stored) = false := by
  by_cases ofChain : (stored.chainId == chainId) = true
  · have dead := @revoked_if_silent (fun row => row.chainId == chainId) stored ofChain
    simpa [activeIn] using fun _ => dead
  · simp [activeIn, revokedIf, ofChain]

theorem replay_statement {tokens : List RefreshTokenRow} {call : RefreshCall}
    {tenancy : TenancyDb} {input : StepInput} (spent : row.status = .rotated)
    (replaying : Replaying config call.request row (tokens, call)) (sound : Undisturbed input)
    (left : 0 < statementsLeft call.point) :
    Onward config (Replaying config call.request row) (tokens, call)
      (.statement tenancy input) := by
  have stands := replaying.2
  cases point : call.point with
  | consume =>
      simp only [point] at stands
      apply statement_onward point (consume_spent_move point sound spent stands)
      · show 2 < 7
        omega
      · exact ⟨rfl, stands⟩
  | detectReuse =>
      simp only [point] at stands
      have ran : refreshMove config tenancy tokens input call =
          some (tokens, { call with point := .cascade row.chainId }) := by
        rw [presentedHash] at stands
        simp only [refreshMove, point, sound.noFault, RefreshCall.presented,
          findExchangeRefreshTokenByHash, stands, spent, if_true]
      apply statement_onward point ran (Nat.lt_succ_self 1)
      exact ⟨rfl, rfl⟩
  | cascade chainId =>
      simp only [point] at stands
      have ran : refreshMove config tenancy tokens input call =
          some (revokeExchangeRefreshTokenChain tokens row.chainId, call.refuse invalidGrant) := by
        simp only [refreshMove, point, sound.noFault, stands]
      apply statement_onward point ran (Nat.lt_succ_self 0)
      refine ⟨rfl, rfl, ?_⟩
      intro live member
      obtain ⟨was, -, rfl⟩ := List.mem_map.mp member
      exact cascade_none_live row.chainId was
  | returned answer =>
      rw [point] at left
      cases left
  | _ =>
      rw [point] at stands
      exact stands.elim

theorem course_onward (presentable : Presentable config request later row)
    (successorEnds : (afterSeconds later config.refreshTtlSeconds.toInt).isSome)
    {state : List RefreshTokenRow × RefreshCall} {turn : Turn}
    (course : OnCourse config request later row authorization state)
    (served : Served config request row authorization state turn)
    (left : 0 < statementsLeft state.2.point) :
    Onward config (OnCourse config request later row authorization) state turn := by
  cases turn with
  | statement tenancy input =>
      obtain ⟨tokens, call⟩ := state
      obtain ⟨sound, authorized, fits⟩ := served
      obtain ⟨rfl, rfl⟩ := course.1
      exact course_statement presentable successorEnds course sound authorized fits left
  | others changed =>
      apply others_onward left
      refine ⟨course.1, ?_⟩
      have stands := course.2
      cases point : state.2.point with
      | consume =>
          simp only [point] at stands ⊢
          exact Eq.trans served stands
      | returned answer =>
          rw [point] at left
          cases left
      | detectReuse =>
          rw [point] at stands
          exact stands
      | cascade chainId =>
          rw [point] at stands
          exact stands
      | _ => simpa only [point] using stands

theorem replay_onward {session : RefreshTokenRow} (spent : row.status = .rotated)
    {state : List RefreshTokenRow × RefreshCall} {turn : Turn}
    (replaying : Replaying config request row state)
    (served : Served config request session authorization state turn)
    (left : 0 < statementsLeft state.2.point) :
    Onward config (Replaying config request row) state turn := by
  cases turn with
  | statement tenancy input =>
      obtain ⟨tokens, call⟩ := state
      obtain rfl := replaying.1
      exact replay_statement spent replaying served.1 left
  | others changed =>
      apply others_onward left
      refine ⟨replaying.1, ?_⟩
      have stands := replaying.2
      cases point : state.2.point with
      | consume =>
          simp only [point] at stands ⊢
          exact Eq.trans served stands
      | detectReuse =>
          simp only [point] at stands ⊢
          exact Eq.trans served stands
      | cascade chainId => simpa only [point] using stands
      | returned answer =>
          rw [point] at left
          cases left
      | _ =>
          rw [point] at stands
          exact stands

end Retried

section Retries

variable {config : SessionConfig} {failed : FailedCall config}

theorem failed_unrefused (failed : FailedCall config) : refreshRefusal failed.request = none := by
  cases refusal : refreshRefusal failed.request with
  | none => rfl
  | some error =>
      have isOver : hasReturned (arriveRefresh failed.request failed.now).point = true := by
        simp only [arriveRefresh, refusal, hasReturned]
      have same := run_of_returned isOver failed.ran
      have answered := failed.answered
      have isRefused : failed.ended = arriveRefresh failed.request failed.now :=
        congrArg Prod.snd same
      simp only [isRefused, arriveRefresh, refusal, RefreshPoint.returned.injEq,
        Except.error.injEq] at answered
      subst answered
      unfold refreshRefusal at refusal
      split_ifs at refusal <;> simp at refusal

theorem failed_cases (failed : FailedCall config) :
    (firstFault failed.turns = some ⟨false⟩ ∧
        findKey tokenHash failed.after (presentedHash config failed.request) = some failed.row) ∨
      (firstFault failed.turns ≠ some ⟨false⟩ ∧
        findKey tokenHash failed.after (presentedHash config failed.request) =
          some (rotated failed.now failed.row)) := by
  have isOver : hasReturned failed.ended.point = true := by
    rw [failed.answered]
    rfl
  exact returned_spent (failed_unrefused failed) failed.presentable failed.found
    failed.undisturbed failed.ran isOver

theorem retry_of_live (retry : Retry failed)
    (live : findKey tokenHash failed.after (presentedHash config failed.request) =
      some failed.row) : retry.Succeeds := by
  have presentable : Presentable config failed.request retry.later failed.row :=
    { failed.presentable with unexpired := retry.unexpired, capped := retry.capped }
  have arrives := @arrive_unrefused failed.request retry.later (failed_unrefused failed)
  have start : OnCourse config failed.request retry.later failed.row retry.authorization
      (failed.after, arriveRefresh failed.request retry.later) := by
    rw [arrives]
    exact ⟨⟨rfl, rfl⟩, live⟩
  obtain ⟨⟨-, stands⟩, isOver⟩ := drive_finishes
    (OnCourse config failed.request retry.later failed.row retry.authorization)
    (fun state => statementsLeft state.2.point) isStatement
    (fun state turn course served left =>
      course_onward presentable retry.successorEnds course served left)
    (fun state _ isOver => turn_of_returned (returned_of_none_left isOver))
    start retry.served (by rw [arrives]; exact retry.enough)
  obtain ⟨answer, returned⟩ := answer_of_none_left isOver
  rw [returned] at stands
  obtain ⟨⟨response, isOk⟩, alive⟩ := stands
  exact ⟨⟨response, isOk ▸ returned⟩, alive⟩

theorem retry_of_spent (retry : Retry failed)
    (spent : findKey tokenHash failed.after (presentedHash config failed.request) =
      some (rotated failed.now failed.row)) : retry.KillsChain := by
  have arrives := @arrive_unrefused failed.request retry.later (failed_unrefused failed)
  have start : Replaying config failed.request (rotated failed.now failed.row)
      (failed.after, arriveRefresh failed.request retry.later) := by
    rw [arrives]
    exact ⟨rfl, spent⟩
  obtain ⟨⟨-, stands⟩, isOver⟩ := drive_finishes
    (Replaying config failed.request (rotated failed.now failed.row))
    (fun state => statementsLeft state.2.point) isStatement
    (fun state turn replaying served left => replay_onward rfl replaying served left)
    (fun state _ isOver => turn_of_returned (returned_of_none_left isOver))
    start retry.served (by rw [arrives]; exact retry.enough)
  obtain ⟨answer, returned⟩ := answer_of_none_left isOver
  rw [returned] at stands
  obtain ⟨isRefused, dead⟩ := stands
  exact ⟨isRefused ▸ returned, dead⟩

/-- The retry of a failed refresh succeeds just when the call failed to take the
token in the first place. Otherwise it kills the chain. -/
theorem retry_succeeds_iff (failed : FailedCall config) (retry : Retry failed) :
    (retry.Succeeds ↔ firstFault failed.turns = some ⟨false⟩) ∧
      (firstFault failed.turns ≠ some ⟨false⟩ → retry.KillsChain) := by
  rcases failed_cases failed with ⟨lost, live⟩ | ⟨kept, spent⟩
  · exact ⟨iff_of_true (retry_of_live retry live) lost, fun kept => absurd lost kept⟩
  · have kills := retry_of_spent retry spent
    refine ⟨iff_of_false ?_ kept, fun _ => kills⟩
    rintro ⟨⟨response, succeeded⟩, -⟩
    rw [kills.1] at succeeded
    cases succeeded

end Retries

def liveRow : RefreshTokenRow := { sampleRow with status := .active, lastUsedAt := none }

def heldRequest : RefreshRequest := ⟨sampleClient, some "s0"⟩

theorem live_row_presentable : Presentable sampleConfig heldRequest 60000000 liveRow where
  hash := rfl
  active := rfl
  client := rfl
  unexpired := by decide
  capped := by decide

def plainTurn (id secret : String) : Turn := .statement sampleTenancy (sampleInput id secret)

/-- A statement that fails before the database commits it. -/
def lostTurn : Turn := .statement sampleTenancy { sampleInput "t1" "s1" with fault := some ⟨false⟩ }

/-- The token is taken, and the first read after it fails. -/
def failedRead : FailedCall sampleConfig where
  request := heldRequest
  now := 60000000
  row := liveRow
  presentable := live_row_presentable
  tokens := [liveRow]
  found := rfl
  turns := [plainTurn "t1" "s1", lostTurn]
  undisturbed := ⟨trivial, trivial, trivial⟩
  after := [rotated 60000000 liveRow]
  ended := ⟨heldRequest, 60000000, some (rotated 60000000 liveRow), false,
    .returned (.error contextFailed)⟩
  ran := by rfl
  description := "context resolution failed"
  answered := rfl

/-- The `UPDATE` itself is lost. -/
def failedUpdate : FailedCall sampleConfig where
  request := heldRequest
  now := 60000000
  row := liveRow
  presentable := live_row_presentable
  tokens := [liveRow]
  found := rfl
  turns := [lostTurn]
  undisturbed := ⟨trivial, trivial⟩
  after := [liveRow]
  ended := ⟨heldRequest, 60000000, none, false,
    .returned (.error (.oauth "server_error" "refresh token rotation failed"))⟩
  ran := by rfl
  description := "refresh token rotation failed"
  answered := rfl

def retryRead : Retry failedRead where
  later := 120000000
  unexpired := by decide
  capped := by decide
  successorEnds := by decide
  authorization := (⟨"alice", "p1"⟩, ⟨"p1", "alice", .active, true, none, .allowAll⟩)
  turns := List.replicate 7 (plainTurn "t2" "s2")
  enough := by decide
  served := by decide +kernel

def retryUpdate : Retry failedUpdate where
  later := 120000000
  unexpired := by decide
  capped := by decide
  successorEnds := by decide
  authorization := (⟨"alice", "p1"⟩, ⟨"p1", "alice", .active, true, none, .allowAll⟩)
  turns := List.replicate 7 (plainTurn "t2" "s2")
  enough := by decide
  served := by decide +kernel

/-- The retry of the lost `UPDATE` succeeds, that of the failed read does not. -/
theorem lost_update_retries :
    retryUpdate.Succeeds ∧ ¬ retryRead.Succeeds ∧ retryRead.KillsChain := by
  have kept : firstFault failedRead.turns ≠ some ⟨false⟩ := by decide
  obtain ⟨succeeds_iff, kills⟩ := retry_succeeds_iff failedRead retryRead
  exact ⟨(retry_succeeds_iff failedUpdate retryUpdate).1.mpr rfl,
    fun succeeds => kept (succeeds_iff.mp succeeds), kills kept⟩

/-- A read that fails once costs the session: its retry kills the chain. -/
theorem failed_read_kills_session :
    (¬ ∀ (config : SessionConfig) (failed : FailedCall config) (retry : Retry failed),
        retry.Succeeds) ∧
      retryRead.KillsChain := by
  have kills : retryRead.KillsChain :=
    retry_of_spent retryRead rfl
  refine ⟨fun claimed => ?_, kills⟩
  obtain ⟨⟨response, succeeded⟩, -⟩ := claimed sampleConfig failedRead retryRead
  rw [kills.1] at succeeded
  cases succeeded

end LightbridgeAuthz.Sessions.RefreshRetries

import LightbridgeAuthz.Sessions.SessionCalls

/-!
# What a step of a session call does

Of the statements of an exchange one writes the table, of those of a refresh
three do. For each the effect on the table and on what the call has consumed and
stored is stated once, and what a call knows at each of its points is kept by
its steps.
-/

namespace LightbridgeAuthz.Sessions.SessionSteps

open Library.EventRun Library.KeyedRows Library.ChronoTime
open Access.Tenancy RefreshTokens TokenGrants SessionCalls

set_option autoImplicit false

/-- What a statement of a refresh does to the table. -/
inductive RefreshEffect (config : SessionConfig) (tokens : List RefreshTokenRow)
    (call : RefreshCall) : List RefreshTokenRow → RefreshCall → Prop where
  | read {moved : RefreshCall} (consumed : moved.consumed = call.consumed)
      (stored : moved.stored = call.stored) : RefreshEffect config tokens call tokens moved
  | consumed {row : RefreshTokenRow} {moved : RefreshCall} (point : call.point = .consume)
      (found : findKey tokenHash tokens (config.hashApiKey call.presented) = some row)
      (active : row.status = .active) (consumed : moved.consumed = some (rotated call.now row))
      (stored : moved.stored = call.stored) :
      RefreshEffect config tokens call
        (updateKey tokenHash tokens (config.hashApiKey call.presented) (rotated call.now)) moved
  | cascaded {chainId : String} {moved : RefreshCall} (point : call.point = .cascade chainId)
      (consumed : moved.consumed = call.consumed) (stored : moved.stored = call.stored) :
      RefreshEffect config tokens call (revokeExchangeRefreshTokenChain tokens chainId) moved
  | inserted {row : RefreshTokenRow} {successor : NewRefreshToken} {response : TokenResponse}
      {moved : RefreshCall} (point : call.point = .insert row successor response)
      (fresh : ∀ old ∈ tokens, tokenHash old ≠ some successor.tokenHash)
      (consumed : moved.consumed = call.consumed) (stored : moved.stored = true) :
      RefreshEffect config tokens call (tokens ++ [successor.toRow]) moved

/-- What a statement of an exchange does to the table. -/
inductive ExchangeEffect (config : SessionConfig) (tokens : List RefreshTokenRow)
    (call : ExchangeCall) : List RefreshTokenRow → ExchangeCall → Prop where
  | read {moved : ExchangeCall} (born : moved.born = call.born) :
      ExchangeEffect config tokens call tokens moved
  | stored {now createdAt : Int} {id : String} {token : RefreshToken} {response : TokenResponse}
      {new : NewRefreshToken} {moved : ExchangeCall}
      (point : call.point = .store now token response)
      (isNew : storedToken config.time config.hashApiKey token id createdAt = some new)
      (fresh : ∀ old ∈ tokens, tokenHash old ≠ some new.tokenHash)
      (born : moved.born = some (now, new.toRow)) :
      ExchangeEffect config tokens call (tokens ++ [new.toRow]) moved

theorem create_ok {tokens written : List RefreshTokenRow} {new : NewRefreshToken}
    (created : createExchangeRefreshToken tokens new = .ok written) :
    written = tokens ++ [new.toRow] ∧ ∀ old ∈ tokens, tokenHash old ≠ some new.tokenHash := by
  unfold createExchangeRefreshToken at created
  split_ifs at created with _ taken
  exact ⟨(Except.ok.inj created).symm, apart_of_not_conflicts taken new.tokenHash rfl⟩

theorem consume_cases (tokens : List RefreshTokenRow) (hash : String) (now : Int) :
    consumeExchangeRefreshToken tokens hash now = (tokens, none) ∨
      ∃ row, findKey tokenHash tokens hash = some row ∧ row.status = .active ∧
        consumeExchangeRefreshToken tokens hash now =
          (updateKey tokenHash tokens hash (rotated now), some (rotated now row)) := by
  unfold consumeExchangeRefreshToken
  split
  · exact Or.inl rfl
  · rename_i row found
    split_ifs with live
    · exact Or.inr ⟨row, found, live.1, rfl⟩
    · exact Or.inl rfl

theorem after_consume_fields (call : RefreshCall) (row : RefreshTokenRow) :
    (afterConsume call row).consumed = some row ∧ (afterConsume call row).stored = call.stored := by
  unfold afterConsume
  split_ifs <;> exact ⟨rfl, rfl⟩

theorem mint_refresh_cases (config : SessionConfig) (call : RefreshCall) (row : RefreshTokenRow)
    (mint : MintContext) (input : StepInput) :
    (∃ error, mintRefresh config call row mint input = call.refuse error) ∨
      ∃ expiresAt, mintRefresh config call row mint input =
        { call with
          point := .insert row
            (successorToken config call.request.client.clientId row mint.context call.now
              expiresAt input)
            (refreshResponse config call.request.client.clientId row mint call.now input) } := by
  unfold mintRefresh
  split
  · exact Or.inl ⟨_, rfl⟩
  · split
    · exact Or.inl ⟨_, rfl⟩
    · split
      · exact Or.inl ⟨_, rfl⟩
      · exact Or.inr ⟨_, rfl⟩

theorem mint_exchange_cases (config : SessionConfig) (call : ExchangeCall) (info : TokenInfo)
    (mint : MintContext) (now : Int) (input : StepInput) :
    (∃ error, mintExchange config call info mint now input = call.refuse error) ∨
      (∃ scopes, mintExchange config call info mint now input =
        { call with
          point := .returned (.ok (exchangeResponse config call.request.client.clientId info mint
            scopes now none input)) }) ∨
      ∃ scopes chainExpiresAt expiresAt, config.chainEnd now = some chainExpiresAt ∧
        mintExchange config call info mint now input =
          { call with
            point := .store now
              (firstToken config call.request.client.clientId info mint.context
                (scopeToString scopes) chainExpiresAt expiresAt input)
              (exchangeResponse config call.request.client.clientId info mint scopes now
                (some input.secret) input) } := by
  unfold mintExchange
  dsimp only
  split
  · exact Or.inl ⟨_, rfl⟩
  · split
    · exact Or.inl ⟨_, rfl⟩
    · split
      · split
        · rename_i chainExpiresAt expiresAt isEnd _
          exact Or.inr (Or.inr ⟨_, chainExpiresAt, expiresAt, isEnd, rfl⟩)
        · exact Or.inl ⟨_, rfl⟩
      · exact Or.inr (Or.inl ⟨_, rfl⟩)

structure SameSession (left right : RefreshTokenRow) : Prop where
  chainId : left.chainId = right.chainId
  chainExpiresAt : left.chainExpiresAt = right.chainExpiresAt
  subject : left.subject = right.subject
  projectId : left.projectId = right.projectId
  clientId : left.clientId = right.clientId
  scope : left.scope = right.scope
  email : left.email = right.email
  emailVerified : left.emailVerified = right.emailVerified
  authTime : left.authTime = right.authTime

theorem same_session_refl (row : RefreshTokenRow) : SameSession row row :=
  ⟨rfl, rfl, rfl, rfl, rfl, rfl, rfl, rfl, rfl⟩

theorem same_session_symm {left right : RefreshTokenRow} (same : SameSession left right) :
    SameSession right left :=
  ⟨same.chainId.symm, same.chainExpiresAt.symm, same.subject.symm, same.projectId.symm,
    same.clientId.symm, same.scope.symm, same.email.symm, same.emailVerified.symm,
    same.authTime.symm⟩

theorem same_session_trans {left middle right : RefreshTokenRow}
    (front : SameSession left middle) (back : SameSession middle right) :
    SameSession left right :=
  ⟨front.chainId.trans back.chainId, front.chainExpiresAt.trans back.chainExpiresAt,
    front.subject.trans back.subject, front.projectId.trans back.projectId,
    front.clientId.trans back.clientId, front.scope.trans back.scope,
    front.email.trans back.email, front.emailVerified.trans back.emailVerified,
    front.authTime.trans back.authTime⟩

/-- A refresh that has consumed its token and may still insert the successor. -/
structure Holds (call : RefreshCall) (row : RefreshTokenRow) : Prop where
  consumed : call.consumed = some row
  unstored : call.stored = false
  client : row.clientId = call.request.client.clientId
  capped : call.now < row.chainExpiresAt

theorem holds_at {call : RefreshCall} {row : RefreshTokenRow} (holds : Holds call row)
    (point : RefreshPoint) : Holds { call with point := point } row :=
  ⟨holds.consumed, holds.unstored, holds.client, holds.capped⟩

def RefreshKnows (config : SessionConfig) (call : RefreshCall) : Prop :=
  match call.point with
  | .consume => call.consumed = none ∧ call.stored = false
  | .detectReuse => call.consumed = none ∧ call.stored = false
  | .cascade _ => call.consumed = none ∧ call.stored = false
  | .context row => Holds call row
  | .project row context => Holds call row ∧ context.projectId = row.projectId
  | .account row context _ => Holds call row ∧ context.projectId = row.projectId
  | .budgetTier row context _ => Holds call row ∧ context.projectId = row.projectId
  | .quotaTier row context _ _ => Holds call row ∧ context.projectId = row.projectId
  | .insert row successor response =>
      Holds call row ∧ SameSession row successor.toRow ∧
        response.accessToken.expiresAt = config.accessEnd call.now
  | .returned (.error _) => call.consumed = none → call.stored = false
  | .returned (.ok response) =>
      ∃ row, call.consumed = some row ∧ call.stored = true ∧ call.now < row.chainExpiresAt ∧
        response.accessToken.expiresAt = config.accessEnd call.now

structure RefreshSound (config : SessionConfig) (call : RefreshCall) : Prop where
  presented : ∀ row, call.consumed = some row → row.tokenHash = config.hashApiKey call.presented
  knows : RefreshKnows config call

section Refresh

variable {config : SessionConfig} {tenancy : TenancyDb} {tokens written : List RefreshTokenRow}
  {input : StepInput} {call moved : RefreshCall}

theorem consume_effect (sound : RefreshSound config call) (point : call.point = .consume)
    (ran : refreshMove config tenancy tokens input call = some (written, moved)) :
    RefreshEffect config tokens call written moved := by
  have unconsumed : call.consumed = none := by
    have knows := sound.knows
    simp only [RefreshKnows, point] at knows
    exact knows.1
  simp only [refreshMove, point] at ran
  rcases consume_cases tokens (config.hashApiKey call.presented) call.now with
    same | ⟨row, found, active, consumes⟩
  · rw [same] at ran
    split at ran
    · cases ran
      exact .read rfl rfl
    · cases ran
      exact .read unconsumed.symm rfl
    · cases ran
      exact .read rfl rfl
  · rw [consumes] at ran
    split at ran
    · cases ran
      exact .read rfl rfl
    · cases ran
      exact .consumed point found active rfl rfl
    · cases ran
      exact .consumed point found active (after_consume_fields _ _).1 (after_consume_fields _ _).2

theorem insert_cases {row : RefreshTokenRow} {successor : NewRefreshToken}
    {response : TokenResponse} (point : call.point = .insert row successor response)
    (ran : refreshMove config tenancy tokens input call = some (written, moved)) :
    (((createExchangeRefreshToken tokens successor).isOk = false ∨ input.fault = some ⟨false⟩) ∧
        written = tokens ∧ moved = call.refuse persistenceFailed) ∨
      (createExchangeRefreshToken tokens successor = .ok written ∧ input.fault ≠ some ⟨false⟩ ∧
        (moved = { call.refuse persistenceFailed with stored := true } ∨
          moved = { call with stored := true, point := .returned (.ok response) })) := by
  simp only [refreshMove, point] at ran
  split at ran
  · rename_i isError
    cases ran
    exact Or.inl ⟨Or.inl (by rw [isError]; rfl), rfl, rfl⟩
  · rename_i lost
    cases ran
    exact Or.inl ⟨Or.inr lost, rfl, rfl⟩
  · rename_i created committed
    cases ran
    exact Or.inr ⟨created, by simp [committed], Or.inl rfl⟩
  · rename_i created answered
    cases ran
    exact Or.inr ⟨created, by simp [answered], Or.inr rfl⟩

theorem insert_effect {row : RefreshTokenRow} {successor : NewRefreshToken}
    {response : TokenResponse} (point : call.point = .insert row successor response)
    (ran : refreshMove config tenancy tokens input call = some (written, moved)) :
    RefreshEffect config tokens call written moved := by
  rcases insert_cases point ran with ⟨_, isWritten, isMoved⟩ | ⟨created, _, isMoved⟩
  · subst isWritten isMoved
    exact .read rfl rfl
  · obtain ⟨isWritten, fresh⟩ := create_ok created
    subst isWritten
    rcases isMoved with isMoved | isMoved <;> subst isMoved <;> exact .inserted point fresh rfl rfl

theorem refresh_effect (sound : RefreshSound config call)
    (ran : refreshMove config tenancy tokens input call = some (written, moved)) :
    RefreshEffect config tokens call written moved := by
  cases point : call.point with
  | consume => exact consume_effect sound point ran
  | insert row successor response => exact insert_effect point ran
  | cascade chainId =>
      simp only [refreshMove, point] at ran
      split at ran
      · cases ran
        exact .read rfl rfl
      · cases ran
        exact .cascaded point rfl rfl
  | quotaTier row context project budgetTier =>
      simp only [refreshMove, point] at ran
      split at ran
      · cases ran
        exact .read rfl rfl
      · cases ran
        rcases mint_refresh_cases config call row _ input with ⟨error, refused⟩ | ⟨_, minted⟩
        · rw [refused]
          exact .read rfl rfl
        · rw [minted]
          exact .read rfl rfl
  | budgetTier row context project =>
      simp only [refreshMove, point] at ran
      cases ran
      exact .read rfl rfl
  | returned answer =>
      simp only [refreshMove, point] at ran
      cases ran
  | _ =>
      simp only [refreshMove, point] at ran
      repeat' split at ran
      all_goals
        cases ran
        exact .read rfl rfl

theorem refuse_sound (presented : ∀ row, call.consumed = some row →
      row.tokenHash = config.hashApiKey call.presented)
    (paired : call.consumed = none → call.stored = false) (error : TokenError) :
    RefreshSound config (call.refuse error) :=
  ⟨presented, paired⟩

theorem holds_refuse_sound (sound : RefreshSound config call) {row : RefreshTokenRow}
    (holds : Holds call row) (error : TokenError) : RefreshSound config (call.refuse error) :=
  refuse_sound sound.presented (fun _ => holds.unstored) error

theorem consumed_hash {row : RefreshTokenRow} {hash : String} (now : Int)
    (found : findKey tokenHash tokens hash = some row) : (rotated now row).tokenHash = hash :=
  Option.some.inj (find_key_some found).2

theorem after_consume_sound {row : RefreshTokenRow} (unstored : call.stored = false)
    (hash : row.tokenHash = config.hashApiKey call.presented) :
    RefreshSound config (afterConsume call row) := by
  have presented : ∀ found, some row = some found →
      found.tokenHash = config.hashApiKey call.presented := by
    intro found isFound
    rw [← Option.some.inj isFound]
    exact hash
  unfold afterConsume
  split
  · exact ⟨presented, fun _ => unstored⟩
  · rename_i sameClient
    split
    · exact ⟨presented, fun _ => unstored⟩
    · rename_i beforeEnd
      exact ⟨presented, ⟨rfl, unstored, not_not.mp sameClient, Int.not_le.mp beforeEnd⟩⟩

theorem consume_sound (sound : RefreshSound config call) (point : call.point = .consume)
    (ran : refreshMove config tenancy tokens input call = some (written, moved)) :
    RefreshSound config moved := by
  have fresh : call.consumed = none ∧ call.stored = false := by
    have knows := sound.knows
    simpa only [RefreshKnows, point] using knows
  simp only [refreshMove, point] at ran
  rcases consume_cases tokens (config.hashApiKey call.presented) call.now with
    same | ⟨row, found, active, consumes⟩
  · rw [same] at ran
    split at ran
    · cases ran
      exact refuse_sound sound.presented (fun _ => fresh.2) _
    · cases ran
      exact ⟨fun _ isRow => (Option.some_ne_none _ isRow.symm).elim, fun _ => fresh.2⟩
    · cases ran
      exact ⟨sound.presented, fresh⟩
  · have hash := consumed_hash call.now found
    rw [consumes] at ran
    split at ran
    · cases ran
      exact refuse_sound sound.presented (fun _ => fresh.2) _
    · cases ran
      refine ⟨fun found isFound => ?_, fun _ => fresh.2⟩
      rw [← Option.some.inj isFound]
      exact hash
    · cases ran
      exact after_consume_sound fresh.2 hash

theorem mint_refresh_sound (sound : RefreshSound config call) {row : RefreshTokenRow}
    (holds : Holds call row) {mint : MintContext}
    (sameProject : mint.context.projectId = row.projectId) (input : StepInput) :
    RefreshSound config (mintRefresh config call row mint input) := by
  rcases mint_refresh_cases config call row mint input with ⟨error, refused⟩ | ⟨_, minted⟩
  · rw [refused]
    exact holds_refuse_sound sound holds error
  · rw [minted]
    refine ⟨sound.presented, holds_at holds _, ?_, rfl⟩
    exact ⟨rfl, rfl, rfl, sameProject.symm, holds.client, rfl, rfl, rfl, rfl⟩

theorem insert_sound (sound : RefreshSound config call) {row : RefreshTokenRow}
    {successor : NewRefreshToken} {response : TokenResponse}
    (point : call.point = .insert row successor response)
    (ran : refreshMove config tenancy tokens input call = some (written, moved)) :
    RefreshSound config moved := by
  have knows := sound.knows
  simp only [RefreshKnows, point] at knows
  obtain ⟨holds, _, expires⟩ := knows
  rcases insert_cases point ran with ⟨_, _, isMoved⟩ | ⟨_, _, isMoved | isMoved⟩
  · rw [isMoved]
    exact holds_refuse_sound sound holds _
  · rw [isMoved]
    refine ⟨sound.presented, fun unconsumed => ?_⟩
    have consumed := holds.consumed
    rw [show call.consumed = none from unconsumed] at consumed
    cases consumed
  · rw [isMoved]
    exact ⟨sound.presented, row, holds.consumed, rfl, holds.capped, expires⟩

theorem refresh_sound (sound : RefreshSound config call)
    (ran : refreshMove config tenancy tokens input call = some (written, moved)) :
    RefreshSound config moved := by
  have knows := sound.knows
  cases point : call.point with
  | consume => exact consume_sound sound point ran
  | insert row successor response => exact insert_sound sound point ran
  | detectReuse =>
      simp only [RefreshKnows, point] at knows
      simp only [refreshMove, point] at ran
      split at ran
      · split at ran
        · cases ran
          exact ⟨sound.presented, knows⟩
        · cases ran
          exact refuse_sound sound.presented (fun _ => knows.2) _
      · cases ran
        exact refuse_sound sound.presented (fun _ => knows.2) _
  | cascade chainId =>
      simp only [RefreshKnows, point] at knows
      simp only [refreshMove, point] at ran
      split at ran
      · cases ran
        exact refuse_sound sound.presented (fun _ => knows.2) _
      · cases ran
        exact refuse_sound sound.presented (fun _ => knows.2) _
  | context row =>
      simp only [RefreshKnows, point] at knows
      simp only [refreshMove, point] at ran
      split at ran
      · cases ran
        exact holds_refuse_sound sound knows _
      · split at ran
        · cases ran
          exact holds_refuse_sound sound knows _
        · rename_i context resolved
          cases ran
          obtain ⟨_, _, _, isContext⟩ := resolve_context_ok resolved
          exact ⟨sound.presented, holds_at knows _, congrArg ResolvedContext.projectId isContext⟩
  | project row context =>
      simp only [RefreshKnows, point] at knows
      simp only [refreshMove, point] at ran
      split at ran
      · cases ran
        exact holds_refuse_sound sound knows.1 _
      · split at ran
        · cases ran
          exact holds_refuse_sound sound knows.1 _
        · cases ran
          exact ⟨sound.presented, holds_at knows.1 _, knows.2⟩
  | account row context project =>
      simp only [RefreshKnows, point] at knows
      simp only [refreshMove, point] at ran
      split at ran
      · cases ran
        exact holds_refuse_sound sound knows.1 _
      · split at ran
        · cases ran
          exact holds_refuse_sound sound knows.1 _
        · cases ran
          exact ⟨sound.presented, holds_at knows.1 _, knows.2⟩
  | budgetTier row context project =>
      simp only [RefreshKnows, point] at knows
      simp only [refreshMove, point] at ran
      cases ran
      exact ⟨sound.presented, holds_at knows.1 _, knows.2⟩
  | quotaTier row context project budgetTier =>
      simp only [RefreshKnows, point] at knows
      simp only [refreshMove, point] at ran
      split at ran
      · cases ran
        exact holds_refuse_sound sound knows.1 _
      · cases ran
        exact mint_refresh_sound sound knows.1 knows.2 input
  | returned answer =>
      simp only [refreshMove, point] at ran
      cases ran

end Refresh

/-- What an exchange knows: the token it is about to store is the first of a
chain that ends at the cap, counted from the call's clock reading. -/
structure ExchangeSound (config : SessionConfig) (call : ExchangeCall) : Prop where
  storing : ∀ now token response, call.point = .store now token response →
    (∃ clientId info context scope chainExpiresAt expiresAt input,
      config.chainEnd now = some chainExpiresAt ∧
        token = firstToken config clientId info context scope chainExpiresAt expiresAt input) ∧
    response.accessToken.expiresAt = config.accessEnd now
  answered : ∀ now row response, call.born = some (now, row) →
    call.point = .returned (.ok response) →
    response.accessToken.expiresAt = config.accessEnd now
  capped : ∀ now row, call.born = some (now, row) →
    config.chainEnd now = some row.chainExpiresAt
  unborn : (∀ answer, call.point ≠ .returned answer) → call.born = none

theorem first_token_stored {config : SessionConfig} (faithful : config.time.Faithful)
    {clientId : String} {info : TokenInfo} {context : ResolvedContext} {scope : Option String}
    {chainExpiresAt expiresAt createdAt : Int} {input : StepInput} {id : String}
    {new : NewRefreshToken}
    (stored : storedToken config.time config.hashApiKey
      (firstToken config clientId info context scope chainExpiresAt expiresAt input) id createdAt =
        some new) :
    new.chainExpiresAt = chainExpiresAt := by
  unfold storedToken at stored
  split at stored
  · rename_i chainId read _ isRead
    cases stored
    apply faithful
    cases verified : info.emailVerified <;> cases time : info.authTime <;>
      simpa [firstToken, refreshIdentity, Identity.get, List.lookup_cons, verified, time] using isRead
  · cases stored

theorem stored_chain {time : Rfc3339} {hashApiKey : String → String} {token : RefreshToken}
    {id : String} {createdAt : Int} {new : NewRefreshToken}
    (stored : storedToken time hashApiKey token id createdAt = some new) :
    token.identity.get "chain_id" = some new.chainId := by
  unfold storedToken at stored
  split at stored
  · rename_i isChain _
    cases stored
    exact isChain
  · cases stored

theorem first_token_chain (config : SessionConfig) (clientId : String) (info : TokenInfo)
    (context : ResolvedContext) (scope : Option String) (chainExpiresAt expiresAt : Int)
    (input : StepInput) :
    (firstToken config clientId info context scope chainExpiresAt expiresAt input).identity.get
      "chain_id" = some input.chainId := by
  cases verified : info.emailVerified <;> cases time : info.authTime <;>
    simp [firstToken, refreshIdentity, Identity.get, List.lookup_cons, verified, time]

section Exchange

variable {config : SessionConfig} {tenancy : TenancyDb} {tokens written : List RefreshTokenRow}
  {clock : Int} {input : StepInput} {call moved : ExchangeCall}

theorem store_cases {now : Int} {token : RefreshToken} {response : TokenResponse}
    (point : call.point = .store now token response)
    (ran : exchangeMove config tenancy tokens clock input call = some (written, moved)) :
    (written = tokens ∧ moved = call.refuse persistenceFailed) ∨
      ∃ new, storedToken config.time config.hashApiKey token input.rowId clock = some new ∧
        createExchangeRefreshToken tokens new = .ok written ∧
        (moved = { call.refuse persistenceFailed with born := some (now, new.toRow) } ∨
          moved =
            { call with born := some (now, new.toRow), point := .returned (.ok response) }) := by
  simp only [exchangeMove, point] at ran
  split at ran
  · cases ran
    exact Or.inl ⟨rfl, rfl⟩
  · rename_i new isNew
    split at ran
    · cases ran
      exact Or.inl ⟨rfl, rfl⟩
    · cases ran
      exact Or.inl ⟨rfl, rfl⟩
    · rename_i created _
      cases ran
      exact Or.inr ⟨new, isNew, created, Or.inl rfl⟩
    · rename_i created _
      cases ran
      exact Or.inr ⟨new, isNew, created, Or.inr rfl⟩

theorem store_effect {now : Int} {token : RefreshToken} {response : TokenResponse}
    (point : call.point = .store now token response)
    (ran : exchangeMove config tenancy tokens clock input call = some (written, moved)) :
    ExchangeEffect config tokens call written moved := by
  rcases store_cases point ran with ⟨isWritten, isMoved⟩ | ⟨new, isNew, created, isMoved⟩
  · subst isWritten isMoved
    exact .read rfl
  · obtain ⟨isWritten, fresh⟩ := create_ok created
    subst isWritten
    rcases isMoved with isMoved | isMoved <;> subst isMoved <;>
      exact .stored point isNew fresh rfl

theorem exchange_effect
    (ran : exchangeMove config tenancy tokens clock input call = some (written, moved)) :
    ExchangeEffect config tokens call written moved := by
  cases point : call.point with
  | store now token response => exact store_effect point ran
  | quotaTier info context allowedModels modelPolicy now budgetTier =>
      simp only [exchangeMove, point] at ran
      split at ran
      · cases ran
        exact .read rfl
      · cases ran
        rcases mint_exchange_cases config call info _ now input with
          ⟨error, refused⟩ | ⟨_, minted⟩ | ⟨_, _, _, _, minted⟩
        · rw [refused]
          exact .read rfl
        · rw [minted]
          exact .read rfl
        · rw [minted]
          exact .read rfl
  | returned answer =>
      simp only [exchangeMove, point] at ran
      cases ran
  | _ =>
      simp only [exchangeMove, point] at ran
      repeat' split at ran
      all_goals
        cases ran
        exact .read rfl

theorem unborn_sound (unborn : call.born = none)
    (elsewhere : ∀ now token response, call.point ≠ .store now token response) :
    ExchangeSound config call where
  storing := fun now token response point => absurd point (elsewhere now token response)
  answered := fun now row response born => by
    rw [unborn] at born
    cases born
  capped := fun now row born => by
    rw [unborn] at born
    cases born
  unborn := fun _ => unborn

theorem mint_exchange_sound (unborn : call.born = none) (info : TokenInfo) (mint : MintContext)
    (now : Int) : ExchangeSound config (mintExchange config call info mint now input) := by
  rcases mint_exchange_cases config call info mint now input with
    ⟨error, refused⟩ | ⟨scopes, minted⟩ | ⟨scopes, chainExpiresAt, expiresAt, isEnd, minted⟩
  · rw [refused]
    exact unborn_sound unborn (by simp [ExchangeCall.refuse])
  · rw [minted]
    exact unborn_sound unborn (by simp)
  · rw [minted]
    constructor
    · intro reading token response point
      cases point
      exact ⟨⟨_, info, mint.context, _, chainExpiresAt, expiresAt, input, isEnd, rfl⟩, rfl⟩
    · intro reading row response _ point
      cases point
    · intro reading row born
      rw [show call.born = some (reading, row) from born] at unborn
      cases unborn
    · exact fun _ => unborn

theorem store_sound (faithful : config.time.Faithful) (sound : ExchangeSound config call)
    {now : Int} {token : RefreshToken} {response : TokenResponse}
    (point : call.point = .store now token response)
    (ran : exchangeMove config tenancy tokens clock input call = some (written, moved)) :
    ExchangeSound config moved := by
  have unborn : call.born = none := sound.unborn (by simp [point])
  obtain ⟨⟨_, _, _, _, _, _, _, isEnd, isToken⟩, expires⟩ := sound.storing now token response point
  rcases store_cases point ran with ⟨_, isMoved⟩ | ⟨new, isNew, _, isMoved⟩
  · rw [isMoved]
    exact unborn_sound unborn (by simp [ExchangeCall.refuse])
  · have capped : ∀ reading row, some (now, new.toRow) = some (reading, row) →
        config.chainEnd reading = some row.chainExpiresAt := by
      intro reading row isBorn
      cases isBorn
      rw [isToken] at isNew
      rw [isEnd, ← first_token_stored faithful isNew]
      rfl
    rcases isMoved with isMoved | isMoved
    · rw [isMoved]
      exact
        { storing := fun _ _ _ atStore => by cases atStore
          answered := fun _ _ _ _ atAnswer => by cases atAnswer
          capped := capped
          unborn := fun unanswered => absurd rfl (unanswered _) }
    · rw [isMoved]
      exact
        { storing := fun _ _ _ atStore => by cases atStore
          answered := fun _ _ _ isBorn atAnswer => by
            cases isBorn
            cases atAnswer
            exact expires
          capped := capped
          unborn := fun unanswered => absurd rfl (unanswered _) }

theorem exchange_sound (faithful : config.time.Faithful) (sound : ExchangeSound config call)
    (ran : exchangeMove config tenancy tokens clock input call = some (written, moved)) :
    ExchangeSound config moved := by
  cases point : call.point with
  | store now token response => exact store_sound faithful sound point ran
  | returned answer =>
      simp only [exchangeMove, point] at ran
      cases ran
  | quotaTier info context allowedModels modelPolicy now budgetTier =>
      have unborn : call.born = none := sound.unborn (by simp [point])
      simp only [exchangeMove, point] at ran
      split at ran
      · cases ran
        exact unborn_sound unborn (by simp [ExchangeCall.refuse])
      · cases ran
        exact mint_exchange_sound unborn info _ now
  | _ =>
      have unborn : call.born = none := sound.unborn (by simp [point])
      simp only [exchangeMove, point] at ran
      repeat' split at ran
      all_goals
        cases ran
        exact unborn_sound unborn (by simp [ExchangeCall.refuse])

end Exchange

theorem arrive_exchange_sound (config : SessionConfig) (request : ExchangeRequest) :
    ExchangeSound config (arriveExchange config request) := by
  apply unborn_sound rfl
  intro now token response
  unfold arriveExchange
  dsimp only
  split <;> simp

theorem arrive_refresh_sound (config : SessionConfig) (request : RefreshRequest) (now : Int) :
    RefreshSound config (arriveRefresh request now) := by
  refine ⟨fun row isRow => (Option.some_ne_none _ isRow.symm).elim, ?_⟩
  cases refusal : refreshRefusal request <;> simp [RefreshKnows, arriveRefresh, refusal]

/-- What an event does, seen from the table and the list of calls. -/
inductive SessionOutcome (config : SessionConfig) (world : SessionWorld) :
    SessionEvent → SessionWorld → Prop where
  | surroundings {event : SessionEvent} (tenancy : TenancyDb) (clock : Int) :
      SessionOutcome config world event { world with tenancy := tenancy, clock := clock }
  | exchangeArrived (request : ExchangeRequest) :
      SessionOutcome config world (.exchange request)
        { world with calls := world.calls ++ [.exchange (arriveExchange config request)] }
  | refreshArrived (request : RefreshRequest) :
      SessionOutcome config world (.refresh request)
        { world with calls := world.calls ++ [.refresh (arriveRefresh request world.clock)] }
  | exchanged {caller : Nat} {input : StepInput} {call moved : ExchangeCall}
      {written : List RefreshTokenRow} (was : world.calls[caller]? = some (.exchange call))
      (ran : exchangeMove config world.tenancy world.tokens world.clock input call =
        some (written, moved)) :
      SessionOutcome config world (.advance caller input)
        { world with tokens := written, calls := world.calls.set caller (.exchange moved) }
  | refreshed {caller : Nat} {input : StepInput} {call moved : RefreshCall}
      {written : List RefreshTokenRow} (was : world.calls[caller]? = some (.refresh call))
      (ran : refreshMove config world.tenancy world.tokens input call = some (written, moved)) :
      SessionOutcome config world (.advance caller input)
        { world with tokens := written, calls := world.calls.set caller (.refresh moved) }
  | revoked {event : SessionEvent} (selects : RefreshTokenRow → Bool)
      (isRevocation : (∃ token clientId, event = .revokeToken token clientId) ∨
        ∃ subject, event = .revokeSessions subject ∧ selects = fun row => row.subject == subject) :
      SessionOutcome config world event
        { world with tokens := world.tokens.map (revokedIf selects) }

theorem session_outcome {config : SessionConfig} {world next : SessionWorld}
    {event : SessionEvent} (stepped : sessionStep config world event = some next) :
    SessionOutcome config world event next := by
  cases event with
  | tick elapsed =>
      cases stepped
      exact .surroundings _ _
  | changeTenancy tenancy =>
      cases stepped
      exact .surroundings _ _
  | exchange request =>
      cases stepped
      exact .exchangeArrived request
  | refresh request =>
      cases stepped
      exact .refreshArrived request
  | advance caller input =>
      simp only [sessionStep] at stepped
      split at stepped
      · rename_i call was
        obtain ⟨⟨written, moved⟩, ran, isNext⟩ := Option.map_eq_some_iff.mp stepped
        cases isNext
        exact .exchanged was ran
      · rename_i call was
        obtain ⟨⟨written, moved⟩, ran, isNext⟩ := Option.map_eq_some_iff.mp stepped
        cases isNext
        exact .refreshed was ran
      · cases stepped
  | revokeToken token clientId =>
      cases stepped
      exact .revoked _ (Or.inl ⟨token, clientId, rfl⟩)
  | revokeSessions subject =>
      cases stepped
      exact .revoked _ (Or.inr ⟨subject, rfl, rfl⟩)

theorem step_calls {config : SessionConfig} {world next : SessionWorld} {event : SessionEvent}
    (onExchange : ExchangeCall → Prop) (onRefresh : RefreshCall → Prop)
    (stepped : sessionStep config world event = some next)
    (exchangeArrives : ∀ request, onExchange (arriveExchange config request))
    (refreshArrives : ∀ request, onRefresh (arriveRefresh request world.clock))
    (exchangeMoves : ∀ input call written moved, onExchange call →
      exchangeMove config world.tenancy world.tokens world.clock input call =
        some (written, moved) → onExchange moved)
    (refreshMoves : ∀ input call written moved, onRefresh call →
      refreshMove config world.tenancy world.tokens input call = some (written, moved) →
        onRefresh moved)
    (exchanges : ∀ call, .exchange call ∈ world.calls → onExchange call)
    (refreshes : ∀ call, .refresh call ∈ world.calls → onRefresh call) :
    (∀ call, .exchange call ∈ next.calls → onExchange call) ∧
      ∀ call, .refresh call ∈ next.calls → onRefresh call := by
  cases session_outcome stepped with
  | surroundings tenancy clock => exact ⟨exchanges, refreshes⟩
  | exchangeArrived request =>
      constructor <;> intro call member <;> rcases List.mem_append.mp member with old | new
      · exact exchanges call old
      · cases List.mem_singleton.mp new
        exact exchangeArrives request
      · exact refreshes call old
      · cases List.mem_singleton.mp new
  | refreshArrived request =>
      constructor <;> intro call member <;> rcases List.mem_append.mp member with old | new
      · exact exchanges call old
      · cases List.mem_singleton.mp new
      · exact refreshes call old
      · cases List.mem_singleton.mp new
        exact refreshArrives request
  | exchanged was ran =>
      constructor <;> intro call member <;>
        rcases List.mem_or_eq_of_mem_set member with old | isMoved
      · exact exchanges call old
      · cases isMoved
        exact exchangeMoves _ _ _ _ (exchanges _ (List.mem_of_getElem? was)) ran
      · exact refreshes call old
      · cases isMoved
  | refreshed was ran =>
      constructor <;> intro call member <;>
        rcases List.mem_or_eq_of_mem_set member with old | isMoved
      · exact exchanges call old
      · cases isMoved
      · exact refreshes call old
      · cases isMoved
        exact refreshMoves _ _ _ _ (refreshes _ (List.mem_of_getElem? was)) ran
  | revoked selects isRevocation => exact ⟨exchanges, refreshes⟩

def RefreshesSound (config : SessionConfig) (world : SessionWorld) : Prop :=
  ∀ call, .refresh call ∈ world.calls → RefreshSound config call

def ExchangesSound (config : SessionConfig) (world : SessionWorld) : Prop :=
  ∀ call, .exchange call ∈ world.calls → ExchangeSound config call

theorem step_refreshes_sound {config : SessionConfig} {world next : SessionWorld}
    {event : SessionEvent} (sound : RefreshesSound config world)
    (stepped : sessionStep config world event = some next) : RefreshesSound config next :=
  (step_calls (fun _ => True) (RefreshSound config) stepped (fun _ => trivial)
    (fun request => arrive_refresh_sound config request world.clock)
    (fun _ _ _ _ _ _ => trivial) (fun _ _ _ _ held ran => refresh_sound held ran)
    (fun _ _ => trivial) sound).2

theorem step_exchanges_sound {config : SessionConfig} (faithful : config.time.Faithful)
    {world next : SessionWorld} {event : SessionEvent} (sound : ExchangesSound config world)
    (stepped : sessionStep config world event = some next) : ExchangesSound config next :=
  (step_calls (ExchangeSound config) (fun _ => True) stepped
    (fun request => arrive_exchange_sound config request) (fun _ => trivial)
    (fun _ _ _ _ held ran => exchange_sound faithful held ran) (fun _ _ _ _ _ _ => trivial)
    sound (fun _ _ => trivial)).1

end LightbridgeAuthz.Sessions.SessionSteps

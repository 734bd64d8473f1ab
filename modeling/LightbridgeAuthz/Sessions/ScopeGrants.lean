import LightbridgeAuthz.Sessions.AbsoluteCap

/-!
# Scopes from the exchange to the last refresh

An exchange cuts the requested scopes down to the server's and the client's lists,
joins what is left into one text and stores it with the first token of a chain,
if `offline_access` is among it. Every rotation copies the text, and every
refresh splits it again. Over whole runs the text of a chain stays the one of its
exchange, and splitting it gives the scopes that were granted.
-/

namespace LightbridgeAuthz.Sessions.ScopeGrants

open Budget.Domain (isWhitespace)
open Library.CallSlots Library.EventRun Library.KeyedRows
open Library.SpacedWords (IsWord)
open Access.Tenancy RefreshTokens TokenGrants SessionCalls SessionSteps RefreshChains AbsoluteCap

set_option autoImplicit false

def grantedTo (config : SessionConfig) (request : ExchangeRequest) : List String :=
  grantScopes request.scope config.allowedScopes request.client.scopes

/-- The scope is on the server's list and on the client's. -/
def allowedBy (config : SessionConfig) (clientScopes : List String) (scope : String) : Bool :=
  config.allowedScopes.contains scope && clientScopes.contains scope

section Grants

variable {config : SessionConfig} {clientScopes : List String} {requested : Option String}

theorem grant_of_words (asked : splitWhitespace (requested.getD "") ≠ []) :
    grantScopes requested config.allowedScopes clientScopes =
      (splitWhitespace (requested.getD "")).filter (allowedBy config clientScopes) := by
  unfold grantScopes
  dsimp only
  rw [if_neg asked, List.filter_filter]
  apply List.filter_congr
  intro scope _
  exact Bool.and_comm _ _

theorem grant_of_no_words (silent : splitWhitespace (requested.getD "") = []) :
    grantScopes requested config.allowedScopes clientScopes =
      (config.allowedScopes.filter (· ≠ offlineAccessScope)).filter clientScopes.contains := by
  unfold grantScopes
  dsimp only
  rw [if_pos silent]

theorem offline_granted
    (offline : offlineAccessScope ∈ grantScopes requested config.allowedScopes clientScopes) :
    IsWordOf offlineAccessScope (requested.getD "") ∧ offlineAccessScope ∈ config.allowedScopes ∧
      offlineAccessScope ∈ clientScopes := by
  by_cases silent : splitWhitespace (requested.getD "") = []
  · rw [grant_of_no_words silent] at offline
    simp at offline
  · rw [grant_of_words silent] at offline
    obtain ⟨word, allowed⟩ := List.mem_filter.mp offline
    obtain ⟨onServer, onClient⟩ := Bool.and_eq_true_iff.mp allowed
    exact ⟨mem_split_whitespace.mp word, by simpa using onServer, by simpa using onClient⟩

theorem granted_words
    (offline : offlineAccessScope ∈ grantScopes requested config.allowedScopes clientScopes) :
    ∀ scope ∈ grantScopes requested config.allowedScopes clientScopes,
      IsWord isWhitespace scope.toList := by
  have asked : splitWhitespace (requested.getD "") ≠ [] := by
    intro silent
    have word := mem_split_whitespace.mpr (offline_granted offline).1
    rw [silent] at word
    cases word
  intro scope granted
  rw [grant_of_words asked] at granted
  exact (mem_split_whitespace.mp (List.mem_filter.mp granted).1).1

theorem split_scope_to_string {scopes : List String}
    (areWords : ∀ scope ∈ scopes, IsWord isWhitespace scope.toList) :
    splitWhitespace ((scopeToString scopes).getD "") = scopes := by
  unfold scopeToString
  split_ifs with isEmpty
  · rw [isEmpty]
    decide
  · rw [Option.getD_some, split_whitespace_intercalate areWords]

end Grants

/-- The answer carries the scope, and an ID token or none. -/
structure AnsweredWith (scope : Option String) (openid : Bool) (response : TokenResponse) :
    Prop where
  ofResponse : response.scope = scope
  ofToken : response.accessToken.scope = scope
  idToken : response.idToken.isSome = openid

def exchangeAnswer (call : ExchangeCall) : Option TokenResponse :=
  match call.point with
  | .store _ _ response => some response
  | .returned (.ok response) => some response
  | _ => none

def refreshAnswer (call : RefreshCall) : Option TokenResponse :=
  match call.point with
  | .insert _ _ response => some response
  | .returned (.ok response) => some response
  | _ => none

/-- The answer of an exchange and the token it stores say what was granted. -/
structure ExchangeScoped (config : SessionConfig) (call : ExchangeCall) : Prop where
  answer : ∀ response, exchangeAnswer call = some response →
    AnsweredWith (scopeToString (grantedTo config call.request))
      ((grantedTo config call.request).contains openidScope) response
  storing : ∀ now token response, call.point = .store now token response →
    offlineAccessScope ∈ grantedTo config call.request ∧
      token.scope = (scopeToString (grantedTo config call.request)).getD ""
  stored : ∀ now row, call.born = some (now, row) →
    offlineAccessScope ∈ grantedTo config call.request ∧
      row.scope = scopeToString (grantedTo config call.request)
  settled : ∀ now row, call.born = some (now, row) → ∃ answer, call.point = .returned answer

/-- The answer of a refresh says what the consumed row says. -/
def RefreshScoped (call : RefreshCall) : Prop :=
  ∀ response, refreshAnswer call = some response →
    ∃ row, call.consumed = some row ∧ AnsweredWith row.scope (openidGranted row) response

section Exchange

variable {config : SessionConfig} {tenancy : TenancyDb} {tokens written : List RefreshTokenRow}
  {clock : Int} {input : StepInput} {call moved : ExchangeCall}

theorem exchange_response_answered (config : SessionConfig) (clientId : String) (info : TokenInfo)
    (mint : MintContext) (scopes : List String) (now : Int) (refreshToken : Option String)
    (input : StepInput) :
    AnsweredWith (scopeToString scopes) (scopes.contains openidScope)
      (exchangeResponse config clientId info mint scopes now refreshToken input) := by
  refine ⟨rfl, rfl, ?_⟩
  unfold exchangeResponse
  dsimp only
  split_ifs with openid
  · exact openid.symm
  · exact (Bool.eq_false_iff.mpr openid).symm

theorem unborn_scoped (unborn : call.born = none)
    (answer : ∀ response, exchangeAnswer call = some response →
      AnsweredWith (scopeToString (grantedTo config call.request))
        ((grantedTo config call.request).contains openidScope) response)
    (storing : ∀ now token response, call.point = .store now token response →
      offlineAccessScope ∈ grantedTo config call.request ∧
        token.scope = (scopeToString (grantedTo config call.request)).getD "") :
    ExchangeScoped config call where
  answer := answer
  storing := storing
  stored := fun now row isBorn => by
    rw [unborn] at isBorn
    cases isBorn
  settled := fun now row isBorn => by
    rw [unborn] at isBorn
    cases isBorn

theorem known_unborn (known : ExchangeScoped config call)
    (underway : ∀ answer, call.point ≠ .returned answer) : call.born = none := by
  cases isBorn : call.born with
  | none => rfl
  | some pair =>
      obtain ⟨answer, returned⟩ := known.settled _ _ isBorn
      exact absurd returned (underway answer)

theorem unanswered_scoped (unborn : call.born = none) (unanswered : exchangeAnswer call = none) :
    ExchangeScoped config call := by
  apply unborn_scoped unborn
  · intro response answered
    rw [unanswered] at answered
    cases answered
  · intro now token response point
    simp only [exchangeAnswer, point] at unanswered
    cases unanswered

theorem mint_exchange_scoped (unborn : call.born = none) (info : TokenInfo) (mint : MintContext)
    (now : Int) : ExchangeScoped config (mintExchange config call info mint now input) := by
  unfold mintExchange
  dsimp only
  split
  · exact unanswered_scoped unborn rfl
  · split
    · exact unanswered_scoped unborn rfl
    · split
      · rename_i offline
        split
        · refine unborn_scoped unborn ?_ ?_
          · intro response answered
            obtain rfl := Option.some.inj answered
            exact exchange_response_answered ..
          · intro reading token response point
            obtain ⟨rfl, rfl, rfl⟩ := ExchangePoint.store.inj point
            exact ⟨List.contains_iff_mem.mp offline, rfl⟩
        · exact unanswered_scoped unborn rfl
      · refine unborn_scoped unborn ?_ ?_
        · intro response answered
          obtain rfl := Option.some.inj answered
          exact exchange_response_answered ..
        · intro reading token response point
          cases point

theorem stored_scope {time : Rfc3339} {hashApiKey : String → String} {token : RefreshToken}
    {id : String} {createdAt : Int} {new : NewRefreshToken}
    (stored : storedToken time hashApiKey token id createdAt = some new) :
    new.scope = if token.scope = "" then none else some token.scope := by
  unfold storedToken at stored
  split at stored
  · obtain rfl := Option.some.inj stored
    rfl
  · cases stored

theorem column_scope {scopes : List String}
    (areWords : ∀ scope ∈ scopes, IsWord isWhitespace scope.toList) :
    (if (scopeToString scopes).getD "" = "" then none else some ((scopeToString scopes).getD "")) =
      scopeToString scopes := by
  have split := split_scope_to_string areWords
  split_ifs with isEmpty
  · rw [isEmpty, show splitWhitespace "" = [] by decide] at split
    rw [← split]
    rfl
  · cases joined : scopeToString scopes with
    | none =>
        rw [joined] at isEmpty
        exact absurd rfl isEmpty
    | some text => rfl

theorem store_scoped (known : ExchangeScoped config call) {now : Int} {token : RefreshToken}
    {response : TokenResponse} (point : call.point = .store now token response)
    (ran : exchangeMove config tenancy tokens clock input call = some (written, moved)) :
    ExchangeScoped config moved := by
  obtain ⟨offline, isScope⟩ := known.storing now token response point
  have answered := known.answer response (by simp only [exchangeAnswer, point])
  have unborn : call.born = none := known_unborn known (by simp [point])
  rcases store_cases point ran with ⟨-, rfl⟩ | ⟨new, isNew, -, isMoved⟩
  · exact unanswered_scoped unborn rfl
  · have column : new.toRow.scope = scopeToString (grantedTo config call.request) := by
      have areWords : ∀ scope ∈ grantedTo config call.request,
          IsWord isWhitespace scope.toList := granted_words offline
      have kept := stored_scope isNew
      rw [isScope, column_scope areWords] at kept
      exact kept
    have stores : ∀ reading row, some (now, new.toRow) = some (reading, row) →
        offlineAccessScope ∈ grantedTo config call.request ∧
          row.scope = scopeToString (grantedTo config call.request) := by
      intro reading row isBorn
      obtain ⟨-, rfl⟩ := Prod.mk.inj (Option.some.inj isBorn)
      exact ⟨offline, column⟩
    rcases isMoved with rfl | rfl
    · exact
        { answer := fun _ minted => by cases minted
          storing := fun _ _ _ atStore => by cases atStore
          stored := stores
          settled := fun _ _ _ => ⟨_, rfl⟩ }
    · refine
        { answer := ?_
          storing := fun _ _ _ atStore => by cases atStore
          stored := stores
          settled := fun _ _ _ => ⟨_, rfl⟩ }
      intro other minted
      obtain rfl := Option.some.inj minted
      exact answered

theorem exchange_scoped (known : ExchangeScoped config call)
    (ran : exchangeMove config tenancy tokens clock input call = some (written, moved)) :
    ExchangeScoped config moved := by
  cases point : call.point with
  | store now token response => exact store_scoped known point ran
  | returned answer =>
      simp only [exchangeMove, point] at ran
      cases ran
  | quotaTier info context allowedModels modelPolicy now budgetTier =>
      have unborn : call.born = none := known_unborn known (by simp [point])
      simp only [exchangeMove, point] at ran
      split at ran
      · cases ran
        exact unanswered_scoped unborn rfl
      · cases ran
        exact mint_exchange_scoped unborn info _ now
  | _ =>
      have unborn : call.born = none := known_unborn known (by simp [point])
      simp only [exchangeMove, point] at ran
      repeat' split at ran
      all_goals
        cases ran
        exact unanswered_scoped unborn rfl

theorem arrive_exchange_scoped (config : SessionConfig) (request : ExchangeRequest) :
    ExchangeScoped config (arriveExchange config request) := by
  apply unanswered_scoped rfl
  unfold exchangeAnswer arriveExchange
  dsimp only
  cases exchangeRefusal config request <;> rfl

end Exchange

section Refresh

variable {config : SessionConfig} {tenancy : TenancyDb} {tokens written : List RefreshTokenRow}
  {input : StepInput} {call moved : RefreshCall}

theorem refresh_unanswered (unanswered : refreshAnswer call = none) : RefreshScoped call := by
  intro response answered
  rw [unanswered] at answered
  cases answered

theorem refresh_response_answered (config : SessionConfig) (clientId : String)
    (row : RefreshTokenRow) (mint : MintContext) (now : Int) (input : StepInput) :
    AnsweredWith row.scope (openidGranted row)
      (refreshResponse config clientId row mint now input) := by
  refine ⟨rfl, rfl, ?_⟩
  unfold refreshResponse
  dsimp only
  split_ifs with openid
  · exact openid.symm
  · exact (Bool.eq_false_iff.mpr openid).symm

theorem after_consume_unanswered (call : RefreshCall) (row : RefreshTokenRow) :
    refreshAnswer (afterConsume call row) = none := by
  unfold afterConsume
  split_ifs <;> rfl

theorem mint_refresh_scoped {row : RefreshTokenRow} (consumed : call.consumed = some row)
    (mint : MintContext) : RefreshScoped (mintRefresh config call row mint input) := by
  rcases mint_refresh_cases config call row mint input with ⟨error, refused⟩ | ⟨expiresAt, minted⟩
  · rw [refused]
    exact refresh_unanswered rfl
  · rw [minted]
    intro response answered
    obtain rfl := Option.some.inj answered
    exact ⟨row, consumed, refresh_response_answered ..⟩

theorem refresh_scoped (sound : RefreshSound config call) (known : RefreshScoped call)
    (ran : refreshMove config tenancy tokens input call = some (written, moved)) :
    RefreshScoped moved := by
  have knows := sound.knows
  cases point : call.point with
  | insert row successor response =>
      rcases insert_cases point ran with ⟨-, -, rfl⟩ | ⟨-, -, rfl | rfl⟩
      · exact refresh_unanswered rfl
      · exact refresh_unanswered rfl
      · intro other answered
        obtain rfl := Option.some.inj answered
        exact known response (by simp only [refreshAnswer, point])
  | quotaTier row context project budgetTier =>
      simp only [RefreshKnows, point] at knows
      simp only [refreshMove, point] at ran
      split at ran
      · cases ran
        exact refresh_unanswered rfl
      · cases ran
        exact mint_refresh_scoped knows.1.consumed _
  | consume =>
      simp only [refreshMove, point] at ran
      repeat' split at ran
      · cases ran
        exact refresh_unanswered rfl
      · cases ran
        exact refresh_unanswered rfl
      · cases ran
        exact refresh_unanswered (after_consume_unanswered _ _)
      · cases ran
        exact refresh_unanswered rfl
  | returned answer =>
      simp only [refreshMove, point] at ran
      cases ran
  | _ =>
      simp only [refreshMove, point] at ran
      repeat' split at ran
      all_goals
        cases ran
        exact refresh_unanswered rfl

theorem arrive_refresh_scoped (request : RefreshRequest) (now : Int) :
    RefreshScoped (arriveRefresh request now) := by
  apply refresh_unanswered
  unfold refreshAnswer arriveRefresh
  dsimp only
  cases refreshRefusal request <;> rfl

end Refresh

structure CallsScoped (config : SessionConfig) (world : SessionWorld) : Prop where
  exchanges : ∀ call, .exchange call ∈ world.calls → ExchangeScoped config call
  refreshes : ∀ call, .refresh call ∈ world.calls → RefreshSound config call ∧ RefreshScoped call

/-- Each stored token continues the session of a token that was there at the start,
or of one that an exchange has stored. -/
def Descended (start world : SessionWorld) : Prop :=
  ∀ row ∈ world.tokens, (∃ old ∈ start.tokens, SameSession old row) ∨
    ∃ call now first, .exchange call ∈ world.calls ∧ call.born = some (now, first) ∧
      SameSession first row

section Run

variable {config : SessionConfig} {start world next : SessionWorld} {event : SessionEvent}

theorem step_calls_scoped (known : CallsScoped config world)
    (stepped : sessionStep config world event = some next) :
    CallsScoped config next := by
  obtain ⟨exchanges, refreshes⟩ := step_calls (ExchangeScoped config)
    (fun call => RefreshSound config call ∧ RefreshScoped call) stepped
    (fun request => arrive_exchange_scoped config request)
    (fun request =>
      ⟨arrive_refresh_sound config request world.clock, arrive_refresh_scoped request world.clock⟩)
    (fun _ _ _ _ held ran => exchange_scoped held ran)
    (fun _ _ _ _ held ran => ⟨refresh_sound held.1 ran, refresh_scoped held.1 held.2 ran⟩)
    known.exchanges known.refreshes
  exact ⟨exchanges, refreshes⟩

theorem born_stays (known : CallsScoped config world)
    (stepped : sessionStep config world event = some next) {call : ExchangeCall}
    (member : .exchange call ∈ world.calls) {now : Int} {first : RefreshTokenRow}
    (isBorn : call.born = some (now, first)) : .exchange call ∈ next.calls := by
  obtain ⟨answer, returned⟩ := (known.exchanges call member).settled now first isBorn
  obtain ⟨slot, there⟩ := List.mem_iff_getElem?.mp member
  cases session_outcome stepped with
  | surroundings tenancy clock => exact member
  | exchangeArrived request => exact List.mem_append_left _ member
  | refreshArrived request => exact List.mem_append_left _ member
  | @exchanged caller input other moved written was ran =>
      have elsewhere : slot ≠ caller := by
        rintro rfl
        rw [there] at was
        cases was
        simp only [exchangeMove, returned] at ran
        cases ran
      have stays := slot_set_of_some there caller (.exchange moved)
      rw [if_neg elsewhere] at stays
      exact List.mem_of_getElem? stays
  | @refreshed caller input other moved written was ran =>
      have elsewhere : slot ≠ caller := by
        rintro rfl
        rw [there] at was
        cases was
      have stays := slot_set_of_some there caller (.refresh moved)
      rw [if_neg elsewhere] at stays
      exact List.mem_of_getElem? stays
  | revoked selects isRevocation => exact member

theorem kept_origin {tokens : List RefreshTokenRow} {change : RefreshTokenRow → RefreshTokenRow}
    (kept : ∀ row, RowKept row (change row)) {row : RefreshTokenRow}
    (member : row ∈ tokens.map change) : ∃ old ∈ tokens, SameSession old row := by
  obtain ⟨old, isOld, rfl⟩ := List.mem_map.mp member
  exact ⟨old, isOld, (kept old).session⟩

theorem row_origin (sound : ChainsSound config world)
    (stepped : sessionStep config world event = some next) {row : RefreshTokenRow}
    (member : row ∈ next.tokens) :
    (∃ old ∈ world.tokens, SameSession old row) ∨
      ∃ call now, .exchange call ∈ next.calls ∧ call.born = some (now, row) := by
  have same : ∀ stored ∈ world.tokens, ∃ old ∈ world.tokens, SameSession old stored :=
    fun stored isStored => ⟨stored, isStored, same_session_refl stored⟩
  cases session_outcome stepped with
  | surroundings tenancy clock => exact .inl (same row member)
  | exchangeArrived request => exact .inl (same row member)
  | refreshArrived request => exact .inl (same row member)
  | @exchanged caller input before moved written was ran =>
      cases exchange_effect ran with
      | read born => exact .inl (same row member)
      | stored point isNew fresh born =>
          rcases List.mem_append.mp member with old | isFirst
          · exact .inl (same row old)
          · rw [List.mem_singleton.mp isFirst]
            have there := slot_set_of_some was caller (.exchange moved)
            rw [if_pos rfl] at there
            exact .inr ⟨moved, _, List.mem_of_getElem? there, born⟩
  | refreshed was ran =>
      have isCall := List.mem_of_getElem? was
      cases refresh_effect (sound.refreshes _ isCall) ran with
      | read consumed stored => exact .inl (same row member)
      | consumed point found active consumed stored =>
          refine .inl (kept_origin ?_ member)
          intro stored
          split_ifs
          · exact rotated_kept _ stored
          · exact row_kept_refl stored
      | cascaded point consumed stored => exact .inl (kept_origin (revoked_kept _) member)
      | inserted point fresh consumed stored =>
          rcases List.mem_append.mp member with old | isSuccessor
          · exact .inl (same row old)
          · rw [List.mem_singleton.mp isSuccessor]
            exact .inl (successor_parent sound isCall point).2.2
  | revoked selects isRevocation => exact .inl (kept_origin (revoked_kept selects) member)

theorem step_descended (sound : ChainsSound config world) (known : CallsScoped config world)
    (descended : Descended start world) (stepped : sessionStep config world event = some next) :
    Descended start next := by
  intro row member
  rcases row_origin sound stepped member with ⟨old, isOld, session⟩ | ⟨call, now, isCall, isBorn⟩
  · rcases descended old isOld with ⟨first, isFirst, before⟩ | ⟨call, now, first, isCall, isBorn, before⟩
    · exact .inl ⟨first, isFirst, same_session_trans before session⟩
    · exact .inr ⟨call, now, first, born_stays known stepped isCall isBorn, isBorn,
        same_session_trans before session⟩
  · exact .inr ⟨call, now, row, isCall, isBorn, same_session_refl row⟩

end Run

/-- What is left of a grant in the chain that it opened: every row carries its
text, and every refresh decides and answers as the exchange did. -/
structure ChainScoped (config : SessionConfig) (world : SessionWorld) (request : ExchangeRequest)
    (first : RefreshTokenRow) : Prop where
  rows : ∀ row ∈ world.tokens, row.chainId = first.chainId →
    row.scope = scopeToString (grantedTo config request) ∧
      splitWhitespace (row.scope.getD "") = grantedTo config request
  refreshes : ∀ refresh row, .refresh refresh ∈ world.calls → refresh.consumed = some row →
    row.chainId = first.chainId →
      openidGranted row = (grantedTo config request).contains openidScope ∧
        ∀ response, refreshAnswer refresh = some response →
          AnsweredWith (scopeToString (grantedTo config request))
            ((grantedTo config request).contains openidScope) response

structure ScopesKept (config : SessionConfig) (start world : SessionWorld) : Prop where
  requested : ∀ requested clientScopes, splitWhitespace (requested.getD "") ≠ [] →
    grantScopes requested config.allowedScopes clientScopes =
      (splitWhitespace (requested.getD "")).filter (allowedBy config clientScopes)
  unrequested : ∀ requested clientScopes, splitWhitespace (requested.getD "") = [] →
    grantScopes requested config.allowedScopes clientScopes =
      (config.allowedScopes.filter (· ≠ offlineAccessScope)).filter clientScopes.contains
  descended : Descended start world
  offline : ∀ call now first, .exchange call ∈ world.calls → call.born = some (now, first) →
    IsWordOf offlineAccessScope (call.request.scope.getD "") ∧
      offlineAccessScope ∈ config.allowedScopes ∧ offlineAccessScope ∈ call.request.client.scopes
  answered : ∀ call response, .exchange call ∈ world.calls → exchangeAnswer call = some response →
    AnsweredWith (scopeToString (grantedTo config call.request))
      ((grantedTo config call.request).contains openidScope) response
  chains : ∀ call now first, .exchange call ∈ world.calls → call.born = some (now, first) →
    ChainScoped config world call.request first

theorem chain_scoped {config : SessionConfig} {world : SessionWorld}
    (sound : ChainsSound config world) (known : CallsScoped config world) {call : ExchangeCall}
    (isCall : .exchange call ∈ world.calls) {now : Int} {first : RefreshTokenRow}
    (isBorn : call.born = some (now, first)) : ChainScoped config world call.request first := by
  obtain ⟨offline, column⟩ := (known.exchanges call isCall).stored now first isBorn
  have split : splitWhitespace ((scopeToString (grantedTo config call.request)).getD "") =
      grantedTo config call.request := split_scope_to_string (granted_words offline)
  have rows : ∀ row ∈ world.tokens, row.chainId = first.chainId →
      row.scope = scopeToString (grantedTo config call.request) := by
    intro row member ofChain
    rw [← (chain_session sound isCall isBorn member ofChain).scope, column]
  refine ⟨fun row member ofChain => ⟨rows row member ofChain, ?_⟩, ?_⟩
  · rw [rows row member ofChain, split]
  · intro refresh row isRefresh consumed ofChain
    obtain ⟨stored, isStored, -, session, -⟩ := sound.spent refresh row isRefresh consumed
    have text : row.scope = scopeToString (grantedTo config call.request) := by
      rw [session.scope]
      exact rows stored isStored (session.chainId.symm.trans ofChain)
    have openid : openidGranted row = (grantedTo config call.request).contains openidScope := by
      rw [openidGranted, text, split]
    refine ⟨openid, fun response answered => ?_⟩
    obtain ⟨taken, isTaken, answers⟩ := (known.refreshes refresh isRefresh).2 response answered
    obtain rfl := Option.some.inj (consumed.symm.trans isTaken)
    rwa [text, openid] at answers

theorem start_calls_scoped {config : SessionConfig} {start : SessionWorld}
    (starts : SessionStart start) : CallsScoped config start where
  exchanges := fun call member => by
    rw [starts.idle] at member
    cases member
  refreshes := fun call member => by
    rw [starts.idle] at member
    cases member

/-- In every state of every run: an exchange grants exactly what is requested and
allowed, a token is stored only where `offline_access` is among it, and each
refresh of a chain has the scope and the openid decision of its exchange. -/
theorem scopes_exact_and_kept (config : SessionConfig) (start : SessionWorld)
    (starts : SessionStart start) (events : List SessionEvent)
    (new : Meets (sessionStep config) (fun world event => newChainId world event = true) start
      events)
    (last : SessionWorld) (ran : runFrom (sessionStep config) start events = some last) :
    ScopesKept config start last := by
  have kept : (ChainsSound config last ∧ CallsScoped config last) ∧ Descended start last :=
    run_preserves_of_meets
      (fun world => (ChainsSound config world ∧ CallsScoped config world) ∧ Descended start world)
      (fun world event next holds isNew stepped =>
        ⟨⟨step_chains_sound holds.1.1 isNew stepped, step_calls_scoped holds.1.2 stepped⟩,
          step_descended holds.1.1 holds.1.2 holds.2 stepped⟩)
      ⟨⟨start_chains_sound starts, start_calls_scoped starts⟩,
        fun row member => .inl ⟨row, member, same_session_refl row⟩⟩ new ran
  obtain ⟨⟨sound, known⟩, descended⟩ := kept
  exact
    { requested := fun _ _ asked => grant_of_words asked
      unrequested := fun _ _ silent => grant_of_no_words silent
      descended := descended
      offline := fun call now first isCall isBorn =>
        offline_granted ((known.exchanges call isCall).stored now first isBorn).1
      answered := fun call response isCall answered =>
        (known.exchanges call isCall).answer response answered
      chains := fun _ _ _ isCall isBorn => chain_scoped sound known isCall isBorn }

/-- An exchange that asks for both scopes, and a refresh of its token. -/
def openidRefreshed : List SessionEvent :=
  .exchange { sampleExchange with scope := some " openid  offline_access" } ::
    advances 0 "c1" "s0" 6 ++ [.tick 60000000, .refresh ⟨sampleClient, some "s0"⟩] ++
    advances 1 "t1" "s1" 7

/-- The exchange and the refresh of a run of two calls, the token that the first
has stored, the one that the second has taken and its answer. -/
def bothCalls (world : SessionWorld) :
    Option (ExchangeCall × Int × RefreshTokenRow × RefreshCall × RefreshTokenRow ×
      TokenResponse) :=
  match world.calls with
  | [.exchange call, .refresh refresh] =>
      call.born.bind fun born => refresh.consumed.bind fun row =>
        (refreshAnswer refresh).map fun response => (call, born.1, born.2, refresh, row, response)
  | _ => none

theorem both_calls_some {world : SessionWorld} {call : ExchangeCall} {now : Int}
    {first row : RefreshTokenRow} {refresh : RefreshCall} {response : TokenResponse}
    (both : bothCalls world = some (call, now, first, refresh, row, response)) :
    .exchange call ∈ world.calls ∧ call.born = some (now, first) ∧
      .refresh refresh ∈ world.calls ∧ refresh.consumed = some row ∧
      refreshAnswer refresh = some response := by
  unfold bothCalls at both
  split at both
  · rename_i calls
    obtain ⟨born, isBorn, taken⟩ := Option.bind_eq_some_iff.mp both
    obtain ⟨found, consumed, answers⟩ := Option.bind_eq_some_iff.mp taken
    obtain ⟨answer, answered, same⟩ := Option.map_eq_some_iff.mp answers
    cases same
    simp [calls, isBorn, consumed, answered]
  · cases both

/-- A chain that is granted `openid` and rotated once: the refresh answers with the
scopes of the exchange and an ID token. -/
theorem openid_refreshed_kept :
    ∃ last call now first refresh row response,
      runFrom (sessionStep sampleConfig) sampleWorld openidRefreshed = some last ∧
      bothCalls last = some (call, now, first, refresh, row, response) ∧
      AnsweredWith (some "openid offline_access") true response := by
  have reached : reaches (sessionStep sampleConfig) sampleWorld openidRefreshed
      (fun world => (bothCalls world).any fun found =>
        found.2.2.2.2.1.chainId == found.2.2.1.chainId &&
          decide (grantedTo sampleConfig found.1.request = ["openid", "offline_access"])) =
      true := by
    decide +kernel
  obtain ⟨last, ran, found⟩ := exists_of_reaches reached
  obtain ⟨⟨call, now, first, refresh, row, response⟩, both, checked⟩ :=
    (Option.any_eq_true _ _).mp found
  obtain ⟨sameChain, granted⟩ := Bool.and_eq_true_iff.mp checked
  have isGranted : grantedTo sampleConfig call.request = ["openid", "offline_access"] :=
    of_decide_eq_true granted
  obtain ⟨isCall, isBorn, isRefresh, consumed, answered⟩ := both_calls_some both
  have kept := scopes_exact_and_kept sampleConfig sampleWorld sample_world_starts
    openidRefreshed (by decide +kernel) last ran
  have answers := ((kept.chains call now first isCall isBorn).refreshes refresh row isRefresh
    consumed (eq_of_beq sameChain)).2 response answered
  rw [isGranted] at answers
  exact ⟨last, call, now, first, refresh, row, response, ran, both, answers⟩

end LightbridgeAuthz.Sessions.ScopeGrants

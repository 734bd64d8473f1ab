import LightbridgeAuthz.ApiKeys.KeyTable
import LightbridgeAuthz.Sessions.AbsoluteCap
import Mathlib.Data.List.DropRight

/-!
# Who is authorized

Three sequences of queries decide whether a subject may act on a project: the
exchange grant's, the refresh grant's and introspection's. Over one database, with
every check of the request passed and no storage error, the exchange asks for
ownership or membership only; the other two ask for the status of the project and
of its account as well. An exchange can name a project only by an id that trimming
leaves alone, or as the subject's default.
-/

namespace LightbridgeAuthz.Sessions.AuthorizedPairs

open Library.EventRun Library.KeyedRows Library.ChronoTime
open Budget.Domain (isWhitespace isBlank)
open Access.Tenancy RefreshTokens TokenGrants SessionCalls SessionSteps RefreshChains AbsoluteCap
open ApiKeys.KeyTable (serves)

set_option autoImplicit false

structure ExchangeClaims where
  sub : String
  projectId : Option String
  apiKeyId : Option String
  azp : Option String
  deriving DecidableEq, Repr

def isApiKeyShaped (claims : ExchangeClaims) (configuredApiKeyAudience : Option String) : Bool :=
  match claims.azp with
  | none => true
  | some azp => some azp == configuredApiKeyAudience

/-- `decoded` is what the verification of signature and expiry leaves. -/
def verifySelfIssuedToken (audience : Option String) (decoded : Option ExchangeClaims) :
    Option ExchangeClaims :=
  decoded.filter fun claims => !isApiKeyShaped claims audience

structure ExchangeTokenContext where
  sessionId : Option String
  accountId : String
  project : Project
  role : Option ProjectRole
  quotaTier : Option String
  deriving DecidableEq

def resolveExchangeTokenContext (audience : Option String) (tenancy : TenancyDb)
    (decoded : Option ExchangeClaims) : Option ExchangeTokenContext :=
  match verifySelfIssuedToken audience decoded with
  | none => none
  | some claims =>
      match claims.projectId.filter fun projectId => !isBlank projectId with
      | none => none
      | some projectId =>
          match resolveContext tenancy claims.sub projectId with
          | .error _ => none
          | .ok context =>
              match getProjectById tenancy context.projectId with
              | none => none
              | some project =>
                  if project.status ≠ .active then none
                  else
                    match getAccountById tenancy context.accountId with
                    | none => none
                    | some account =>
                        if account.status ≠ .active then none
                        else some
                          { sessionId := claims.apiKeyId
                            accountId := context.accountId
                            project := project
                            role := projectMemberRole tenancy context.projectId claims.sub
                            quotaTier :=
                              projectMemberQuotaTier tenancy context.projectId claims.sub }

/-- What `access_token_extra` writes into a token that introspection reads. -/
def claimsOf (token : AccessToken) : ExchangeClaims where
  sub := token.owner.subject
  projectId := some token.projectId
  apiKeyId := some token.sessionId
  azp := some token.azp

def forPair (subject projectId : String) (token : AccessToken) : Bool :=
  token.owner.subject == subject && token.projectId == projectId

def exchangeMinted (call : ExchangeCall) : Option AccessToken :=
  match call.point with
  | .store _ _ response => some response.accessToken
  | .returned (.ok response) => some response.accessToken
  | _ => none

structure Undisturbed (input : StepInput) : Prop where
  noFault : input.fault = none
  accessSigned : input.accessSigned = true
  idSigned : input.idSigned = true

/-- An exchange and a refresh for one pair, with every check of their requests
passed, and a token for the pair. The exchange's statements from the check of its
project up to the mint are four, those of the refresh five. -/
structure Setting (config : SessionConfig) (audience : Option String)
    (subject projectId : String) where
  clock : Int
  tokens : List RefreshTokenRow
  request : ExchangeRequest
  accepted : exchangeRefusal config request = none
  arrival : StepInput
  info : TokenInfo
  validated : exchangeSubject request arrival.bearer = .ok info
  lookup : StepInput
  lookupSound : Undisturbed lookup
  infoSubject : info.sub = subject
  exchangeInputs : List StepInput
  exchangeStatements : exchangeInputs.length = 4
  exchangeSound : ∀ input ∈ exchangeInputs, Undisturbed input
  chainEnds : (config.chainEnd clock).isSome
  tokenEnds : (afterSeconds clock config.refreshTtlSeconds.toInt).isSome
  refresh : RefreshCall
  row : RefreshTokenRow
  refreshAt : refresh.point = .context row
  rowSubject : row.subject = subject
  rowProject : row.projectId = projectId
  refreshInputs : List StepInput
  refreshStatements : refreshInputs.length = 5
  refreshSound : ∀ input ∈ refreshInputs, Undisturbed input
  successorEnds : (afterSeconds refresh.now config.refreshTtlSeconds.toInt).isSome
  token : AccessToken
  ofPair : forPair subject projectId token = true
  notApiKey : isApiKeyShaped (claimsOf token) audience = false

/-- The statements of one exchange over a database that does not change. -/
def exchangeAlone (config : SessionConfig) (tenancy : TenancyDb) (clock : Int)
    (state : List RefreshTokenRow × ExchangeCall) (input : StepInput) :
    Option (List RefreshTokenRow × ExchangeCall) :=
  exchangeMove config tenancy state.1 clock input state.2

/-- The statements of one refresh over a database that does not change. -/
def refreshAlone (config : SessionConfig) (tenancy : TenancyDb)
    (state : List RefreshTokenRow × RefreshCall) (input : StepInput) :
    Option (List RefreshTokenRow × RefreshCall) :=
  refreshMove config tenancy state.1 input state.2

section Pair

variable {config : SessionConfig} {audience : Option String} {subject projectId : String}

/-- The setting's request, with what it names as its project. -/
def Setting.naming (setting : Setting config audience subject projectId)
    (named : Option String) : ExchangeRequest :=
  { setting.request with projectId := named }

/-- From the arrival to the mint. A request that names no project looks up the
default one. -/
def Setting.exchangeRun (setting : Setting config audience subject projectId)
    (named : Option String) : List StepInput :=
  match requestedProjectId (setting.naming named) with
  | some _ => setting.arrival :: setting.exchangeInputs
  | none => setting.arrival :: setting.lookup :: setting.exchangeInputs

def Setting.mintsNaming (setting : Setting config audience subject projectId)
    (tenancy : TenancyDb) (named : Option String) : Bool :=
  (exchangeMinted (driveFrom (exchangeAlone config tenancy setting.clock)
    (setting.tokens, arriveExchange config (setting.naming named))
    (setting.exchangeRun named)).2).any (forPair subject projectId)

/-- The exchange grant mints an access token for the pair, if asked for it in the
right way. -/
def Setting.ExchangeMints (setting : Setting config audience subject projectId)
    (tenancy : TenancyDb) : Prop :=
  ∃ named, setting.mintsNaming tenancy named = true

/-- The refresh grant re-validates the pair and mints an access token for it. -/
def Setting.refreshMints (setting : Setting config audience subject projectId)
    (tenancy : TenancyDb) : Bool :=
  (mintedToken (driveFrom (refreshAlone config tenancy) (setting.tokens, setting.refresh)
    setting.refreshInputs).2).any (forPair subject projectId)

/-- Introspection of the pair's token answers `active: true`. -/
def Setting.introspectsActive (setting : Setting config audience subject projectId)
    (tenancy : TenancyDb) : Bool :=
  (resolveExchangeTokenContext audience tenancy (some (claimsOf setting.token))).isSome

theorem sees_project_iff {tenancy : TenancyDb} {subject projectId : String} :
    seesProject tenancy subject projectId = true ↔
      ∃ context, resolveContext tenancy subject projectId = .ok context := by
  unfold seesProject
  rw [Option.any_eq_true]
  constructor
  · rintro ⟨project, found, may⟩
    exact ⟨_, resolve_context_of_sees found may⟩
  · rintro ⟨context, resolved⟩
    obtain ⟨project, found, may, _⟩ := resolve_context_ok resolved
    exact ⟨project, found, may⟩

theorem mint_exchange_minted {call : ExchangeCall} {info : TokenInfo} {mint : MintContext}
    {now : Int} {input : StepInput} (sound : Undisturbed input)
    (chainEnds : (config.chainEnd now).isSome)
    (tokenEnds : (afterSeconds now config.refreshTtlSeconds.toInt).isSome) :
    ∃ token, exchangeMinted (mintExchange config call info mint now input) = some token ∧
      token.owner.subject = info.sub ∧ token.projectId = mint.context.projectId := by
  obtain ⟨chainEnd, isChainEnd⟩ := Option.isSome_iff_exists.mp chainEnds
  obtain ⟨tokenEnd, isTokenEnd⟩ := Option.isSome_iff_exists.mp tokenEnds
  unfold mintExchange
  dsimp only
  rw [if_neg (by simp [sound.accessSigned]), if_neg (by simp [sound.idSigned])]
  split
  · rw [isChainEnd, isTokenEnd]
    exact ⟨_, rfl, rfl, rfl⟩
  · exact ⟨_, rfl, rfl, rfl⟩

theorem exchange_over {tenancy : TenancyDb} {clock : Int} {tokens : List RefreshTokenRow}
    {call : ExchangeCall} (error : TokenError) (inputs : List StepInput) :
    driveFrom (exchangeAlone config tenancy clock) (tokens, call.refuse error) inputs =
      (tokens, call.refuse error) :=
  drive_of_stuck (fun _ => rfl) inputs

theorem not_sees_of_error {tenancy : TenancyDb} {subject projectId : String}
    {error : AccessError} (unresolved : resolveContext tenancy subject projectId = .error error) :
    ¬ seesProject tenancy subject projectId = true := by
  intro sees
  obtain ⟨context, resolved⟩ := sees_project_iff.mp sees
  rw [unresolved] at resolved
  cases resolved

theorem exchange_minted {tenancy : TenancyDb} {clock : Int} {tokens : List RefreshTokenRow}
    {call : ExchangeCall} {info : TokenInfo} {context : ResolvedContext}
    {first second third fourth : StepInput} (point : call.point = .context info projectId)
    (resolved : resolveContext tenancy info.sub projectId = .ok context)
    (firstSound : Undisturbed first) (fourthSound : Undisturbed fourth)
    (chainEnds : (config.chainEnd clock).isSome)
    (tokenEnds : (afterSeconds clock config.refreshTtlSeconds.toInt).isSome) :
    ∃ token, exchangeMinted (driveFrom (exchangeAlone config tenancy clock) (tokens, call)
        [first, second, third, fourth]).2 = some token ∧
      token.owner.subject = info.sub ∧ token.projectId = context.projectId := by
  have resolves : exchangeAlone config tenancy clock (tokens, call) first =
      some (tokens, { call with point := .modelAccess info context }) := by
    simp only [exchangeAlone, exchangeMove, point, firstSound.noFault, resolved]
  rw [drive_cons_some resolves, drive_cons_some rfl, drive_cons_some rfl]
  have mints : ∀ allowedModels modelPolicy budgetTier, exchangeAlone config tenancy clock
      (tokens, { call with
        point := .quotaTier info context allowedModels modelPolicy clock budgetTier }) fourth =
      some (tokens, mintExchange config { call with
          point := .quotaTier info context allowedModels modelPolicy clock budgetTier } info
        ⟨context, allowedModels, modelPolicy, budgetTier,
          projectMemberQuotaTier tenancy context.projectId info.sub⟩ clock fourth) := by
    intro allowedModels modelPolicy budgetTier
    simp only [exchangeAlone, exchangeMove, fourthSound.noFault]
  rw [drive_cons_some (mints _ _ _)]
  exact mint_exchange_minted fourthSound chainEnds tokenEnds

theorem context_mints_iff (setting : Setting config audience subject projectId)
    (tenancy : TenancyDb) {call : ExchangeCall} {asked : String}
    (point : call.point = .context setting.info asked) :
    ((exchangeMinted (driveFrom (exchangeAlone config tenancy setting.clock)
        (setting.tokens, call) setting.exchangeInputs).2).any
          (forPair subject projectId)) = true ↔
      asked = projectId ∧ seesProject tenancy subject projectId = true := by
  obtain ⟨first, second, third, fourth, isInputs⟩ :=
    List.length_eq_four.mp setting.exchangeStatements
  have sound := setting.exchangeSound
  rw [isInputs] at sound
  have firstSound : Undisturbed first := sound first (by simp)
  rw [isInputs]
  cases resolved : resolveContext tenancy subject asked with
  | error error =>
      have refused : exchangeAlone config tenancy setting.clock (setting.tokens, call) first =
          some (setting.tokens, call.refuse notAMember) := by
        simp only [exchangeAlone, exchangeMove, point, firstSound.noFault,
          setting.infoSubject, resolved]
      rw [drive_cons_some refused, exchange_over]
      refine iff_of_false (by simp [exchangeMinted, ExchangeCall.refuse]) ?_
      rintro ⟨isAsked, sees⟩
      rw [isAsked] at resolved
      exact not_sees_of_error resolved sees
  | ok context =>
      obtain ⟨_, _, _, isContext⟩ := resolve_context_ok resolved
      rw [← setting.infoSubject] at resolved
      obtain ⟨token, minted, owner, project⟩ := exchange_minted point resolved firstSound
        (sound fourth (by simp)) setting.chainEnds setting.tokenEnds
      rw [setting.infoSubject] at owner resolved
      rw [isContext] at project
      rw [minted]
      have sees := sees_project_iff.mpr ⟨context, resolved⟩
      by_cases isAsked : asked = projectId
      · rw [isAsked] at project sees
        simp [forPair, owner, project, isAsked, sees]
      · simp [forPair, owner, project, isAsked]

theorem mints_naming_iff (setting : Setting config audience subject projectId)
    (tenancy : TenancyDb) (named : Option String) :
    setting.mintsNaming tenancy named = true ↔
      (requestedProjectId (setting.naming named)).or
          (findDefaultProjectId tenancy subject) = some projectId ∧
        seesProject tenancy subject projectId = true := by
  have accepted : exchangeRefusal config (setting.naming named) = none := setting.accepted
  have validated : exchangeSubject (setting.naming named) setting.arrival.bearer =
      .ok setting.info := setting.validated
  unfold Setting.mintsNaming Setting.exchangeRun
  cases requested : requestedProjectId (setting.naming named) with
  | some asked =>
      have names : exchangeAlone config tenancy setting.clock
          (setting.tokens, arriveExchange config (setting.naming named)) setting.arrival =
          some (setting.tokens,
            { request := setting.naming named, born := none
              point := .context setting.info asked }) := by
        simp only [exchangeAlone, exchangeMove, arriveExchange, accepted, validated, requested]
      dsimp only
      rw [drive_cons_some names, context_mints_iff setting tenancy rfl]
      simp
  | none =>
      have defaults : exchangeAlone config tenancy setting.clock
          (setting.tokens, arriveExchange config (setting.naming named)) setting.arrival =
          some (setting.tokens,
            { request := setting.naming named, born := none
              point := .defaultProject setting.info }) := by
        simp only [exchangeAlone, exchangeMove, arriveExchange, accepted, validated, requested]
      dsimp only
      rw [drive_cons_some defaults]
      cases found : findDefaultProjectId tenancy subject with
      | none =>
          have refused : exchangeAlone config tenancy setting.clock
              (setting.tokens, ⟨setting.naming named, none, .defaultProject setting.info⟩)
              setting.lookup = some (setting.tokens, ExchangeCall.refuse
                ⟨setting.naming named, none, .defaultProject setting.info⟩ notAMember) := by
            simp only [exchangeAlone, exchangeMove, setting.lookupSound.noFault,
              setting.infoSubject, found]
          rw [drive_cons_some refused, exchange_over]
          simp [exchangeMinted, ExchangeCall.refuse]
      | some asked =>
          have looksUp : exchangeAlone config tenancy setting.clock
              (setting.tokens, ⟨setting.naming named, none, .defaultProject setting.info⟩)
              setting.lookup = some (setting.tokens,
                { request := setting.naming named, born := none
                  point := .context setting.info asked }) := by
            simp only [exchangeAlone, exchangeMove, setting.lookupSound.noFault,
              setting.infoSubject, found]
          rw [drive_cons_some looksUp, context_mints_iff setting tenancy rfl]
          simp

theorem trim_trim (text : String) : trim (trim text) = trim text := by
  have front : ∀ chars : List Char,
      ((chars.dropWhile isWhitespace).rdropWhile isWhitespace).dropWhile isWhitespace =
        (chars.dropWhile isWhitespace).rdropWhile isWhitespace := by
    intro chars
    rw [List.dropWhile_eq_self_iff]
    intro nonEmpty
    have kept := List.rdropWhile_prefix isWhitespace (chars.dropWhile isWhitespace)
    rw [kept.getElem nonEmpty]
    exact List.dropWhile_get_zero_not isWhitespace chars _
  have back := List.rdropWhile_idempotent isWhitespace (text.toList.dropWhile isWhitespace)
  simp only [trim, String.toList_ofList]
  have frontKept := front text.toList
  unfold List.rdropWhile at frontKept back
  rw [frontKept, back]

/-- Some request asks for the project: by its id, which trimming leaves alone, or
as the subject's default. -/
def Askable (tenancy : TenancyDb) (subject projectId : String) : Prop :=
  (trim projectId = projectId ∧ projectId ≠ "") ∨
    findDefaultProjectId tenancy subject = some projectId

theorem exchange_mints_iff (setting : Setting config audience subject projectId)
    (tenancy : TenancyDb) :
    setting.ExchangeMints tenancy ↔
      Askable tenancy subject projectId ∧ seesProject tenancy subject projectId = true := by
  unfold Setting.ExchangeMints
  constructor
  · rintro ⟨named, mints⟩
    obtain ⟨asks, sees⟩ := (mints_naming_iff setting tenancy named).mp mints
    refine ⟨?_, sees⟩
    rcases Option.or_eq_some_iff.mp asks with names | ⟨_, isDefault⟩
    · obtain ⟨isMapped, nonEmpty⟩ := Option.filter_eq_some_iff.mp names
      obtain ⟨text, _, isTrimmed⟩ := Option.map_eq_some_iff.mp isMapped
      rw [← isTrimmed] at nonEmpty ⊢
      exact Or.inl ⟨trim_trim text, of_decide_eq_true nonEmpty⟩
    · exact Or.inr isDefault
  · rintro ⟨askable, sees⟩
    rcases askable with ⟨trimmed, named⟩ | isDefault
    · refine ⟨some projectId, (mints_naming_iff setting tenancy _).mpr ⟨?_, sees⟩⟩
      simp [requestedProjectId, Setting.naming, trimmed, named]
    · refine ⟨none, (mints_naming_iff setting tenancy _).mpr ⟨?_, sees⟩⟩
      simp [requestedProjectId, Setting.naming, isDefault]

/-- The re-validation of a refresh: its three queries as one. -/
def revalidate (tenancy : TenancyDb) (subject projectId : String) :
    Option (ResolvedContext × Project) :=
  match resolveContext tenancy subject projectId with
  | .error _ => none
  | .ok context =>
      ((getProjectById tenancy context.projectId).filter
        fun project => project.status == .active).bind fun project =>
          ((getAccountById tenancy context.accountId).filter
            fun account => account.status == .active).map fun _ => (context, project)

theorem revalidate_iff {tenancy : TenancyDb} :
    (revalidate tenancy subject projectId).isSome = true ↔
      seesProject tenancy subject projectId = true ∧ serves tenancy projectId = true := by
  cases resolved : resolveContext tenancy subject projectId with
  | error error =>
      simp [revalidate, resolved, not_sees_of_error resolved]
  | ok context =>
      obtain ⟨project, found, _, isContext⟩ := resolve_context_ok resolved
      have sees := sees_project_iff.mpr ⟨context, resolved⟩
      subst isContext
      by_cases active : project.status = .active
      · cases owned : getAccountById tenancy project.accountId with
        | none =>
            simp [revalidate, resolved, serves, found, owned, Option.filter_some, active]
        | some account =>
            by_cases accountActive : account.status = .active
            · simp [revalidate, resolved, serves, found, owned, Option.filter_some, active,
                accountActive, sees]
            · simp [revalidate, resolved, serves, found, owned, Option.filter_some, active,
                accountActive]
      · simp [revalidate, resolved, serves, found, Option.filter_some, active]

theorem revalidated_project {tenancy : TenancyDb} {context : ResolvedContext} {project : Project}
    (outcome : revalidate tenancy subject projectId = some (context, project)) :
    context.projectId = projectId := by
  unfold revalidate at outcome
  split at outcome
  · cases outcome
  · rename_i resolvedContext resolved
    obtain ⟨_, _, _, isContext⟩ := resolve_context_ok resolved
    obtain ⟨_, _, isPair⟩ := Option.bind_eq_some_iff.mp outcome
    obtain ⟨_, _, isPair⟩ := Option.map_eq_some_iff.mp isPair
    cases isPair
    rw [isContext]

theorem refresh_over {tenancy : TenancyDb} {tokens : List RefreshTokenRow} {call : RefreshCall}
    (error : TokenError) (inputs : List StepInput) :
    driveFrom (refreshAlone config tenancy) (tokens, call.refuse error) inputs =
      (tokens, call.refuse error) :=
  drive_of_stuck (fun _ => rfl) inputs

theorem mint_refresh_minted {call : RefreshCall} {row : RefreshTokenRow} {mint : MintContext}
    {input : StepInput} (sound : Undisturbed input)
    (successorEnds : (afterSeconds call.now config.refreshTtlSeconds.toInt).isSome) :
    ∃ token, mintedToken (mintRefresh config call row mint input) = some token ∧
      token.owner.subject = row.subject ∧ token.projectId = mint.context.projectId := by
  obtain ⟨expiresAt, isEnd⟩ := Option.isSome_iff_exists.mp successorEnds
  unfold mintRefresh
  rw [if_neg (by simp [sound.accessSigned]), if_neg (by simp [sound.idSigned]), isEnd]
  exact ⟨_, rfl, rfl, rfl⟩

theorem revalidated_minted {tenancy : TenancyDb} {tokens : List RefreshTokenRow}
    {call : RefreshCall} {row : RefreshTokenRow} {context : ResolvedContext} {project : Project}
    {fourth fifth : StepInput} (point : call.point = .budgetTier row context project)
    (fifthSound : Undisturbed fifth)
    (successorEnds : (afterSeconds call.now config.refreshTtlSeconds.toInt).isSome) :
    ∃ token, mintedToken (driveFrom (refreshAlone config tenancy) (tokens, call)
        [fourth, fifth]).2 = some token ∧
      token.owner.subject = row.subject ∧ token.projectId = context.projectId := by
  have tiers : refreshAlone config tenancy (tokens, call) fourth =
      some (tokens, { call with point := .quotaTier row context project fourth.budgetTier }) := by
    simp only [refreshAlone, refreshMove, point]
  rw [drive_cons_some tiers]
  have mints : refreshAlone config tenancy
      (tokens, { call with point := .quotaTier row context project fourth.budgetTier }) fifth =
      some (tokens, mintRefresh config
        { call with point := .quotaTier row context project fourth.budgetTier } row
        ⟨context, project.allowedModels, project.modelPolicy, fourth.budgetTier,
          projectMemberQuotaTier tenancy context.projectId row.subject⟩ fifth) := by
    simp only [refreshAlone, refreshMove, fifthSound.noFault]
  rw [drive_cons_some mints]
  exact mint_refresh_minted fifthSound successorEnds

theorem revalidation_statements {tenancy : TenancyDb} {tokens : List RefreshTokenRow}
    {call : RefreshCall} {row : RefreshTokenRow} {first second third : StepInput}
    (point : call.point = .context row) (firstSound : Undisturbed first)
    (secondSound : Undisturbed second) (thirdSound : Undisturbed third)
    (rest : List StepInput) :
    driveFrom (refreshAlone config tenancy) (tokens, call) (first :: second :: third :: rest) =
      match revalidate tenancy row.subject row.projectId with
      | none => (tokens, call.refuse invalidGrant)
      | some (context, project) =>
          driveFrom (refreshAlone config tenancy)
            (tokens, { call with point := .budgetTier row context project }) rest := by
  cases resolved : resolveContext tenancy row.subject row.projectId with
  | error error =>
      have refused : refreshAlone config tenancy (tokens, call) first =
          some (tokens, call.refuse invalidGrant) := by
        simp only [refreshAlone, refreshMove, point, firstSound.noFault, resolved]
      rw [drive_cons_some refused, refresh_over]
      simp only [revalidate, resolved]
  | ok context =>
      have resolves : refreshAlone config tenancy (tokens, call) first =
          some (tokens, { call with point := .project row context }) := by
        simp only [refreshAlone, refreshMove, point, firstSound.noFault, resolved]
      rw [drive_cons_some resolves]
      cases lookedUp : (getProjectById tenancy context.projectId).filter
          (fun project => project.status == .active) with
      | none =>
          have refused : refreshAlone config tenancy
              (tokens, { call with point := .project row context }) second =
              some (tokens, call.refuse invalidGrant) := by
            simp only [refreshAlone, refreshMove, secondSound.noFault, lookedUp,
              RefreshCall.refuse]
          rw [drive_cons_some refused, refresh_over]
          simp only [revalidate, resolved, lookedUp, Option.bind_none]
      | some project =>
          have finds : refreshAlone config tenancy
              (tokens, { call with point := .project row context }) second =
              some (tokens, { call with point := .account row context project }) := by
            simp only [refreshAlone, refreshMove, secondSound.noFault, lookedUp]
          rw [drive_cons_some finds]
          cases owned : (getAccountById tenancy context.accountId).filter
              (fun account => account.status == .active) with
          | none =>
              have refused : refreshAlone config tenancy
                  (tokens, { call with point := .account row context project }) third =
                  some (tokens, call.refuse invalidGrant) := by
                simp only [refreshAlone, refreshMove, thirdSound.noFault, owned,
                  RefreshCall.refuse]
              rw [drive_cons_some refused, refresh_over]
              simp only [revalidate, resolved, lookedUp, owned, Option.bind_some, Option.map_none]
          | some account =>
              have passes : refreshAlone config tenancy
                  (tokens, { call with point := .account row context project }) third =
                  some (tokens, { call with point := .budgetTier row context project }) := by
                simp only [refreshAlone, refreshMove, thirdSound.noFault, owned]
              rw [drive_cons_some passes]
              simp only [revalidate, resolved, lookedUp, owned, Option.bind_some, Option.map_some]

theorem refresh_mints_iff (setting : Setting config audience subject projectId)
    (tenancy : TenancyDb) :
    setting.refreshMints tenancy = true ↔
      seesProject tenancy subject projectId = true ∧ serves tenancy projectId = true := by
  obtain ⟨first, rest, isInputs⟩ :=
    List.exists_cons_of_length_eq_add_one setting.refreshStatements
  have fourLeft := setting.refreshStatements
  rw [isInputs, List.length_cons, Nat.add_right_cancel_iff] at fourLeft
  obtain ⟨second, third, fourth, fifth, isRest⟩ := List.length_eq_four.mp fourLeft
  rw [isRest] at isInputs
  have sound := setting.refreshSound
  rw [isInputs] at sound
  unfold Setting.refreshMints
  rw [isInputs, revalidation_statements setting.refreshAt (sound first (by simp))
    (sound second (by simp)) (sound third (by simp)), setting.rowSubject, setting.rowProject,
    ← revalidate_iff]
  cases outcome : revalidate tenancy subject projectId with
  | none => simp [mintedToken, RefreshCall.refuse]
  | some pair =>
      obtain ⟨context, project⟩ := pair
      have ofPair : context.projectId = projectId := revalidated_project outcome
      obtain ⟨token, minted, owner, ofProject⟩ :=
        @revalidated_minted config tenancy setting.tokens
          { setting.refresh with point := .budgetTier setting.row context project }
          setting.row context project fourth fifth rfl (sound fifth (by simp))
          setting.successorEnds
      refine iff_of_true ?_ rfl
      dsimp only
      rw [minted]
      simp [forPair, owner, setting.rowSubject, ofProject, ofPair]

theorem introspects_active_iff (setting : Setting config audience subject projectId)
    (tenancy : TenancyDb) :
    setting.introspectsActive tenancy = true ↔
      (seesProject tenancy subject projectId = true ∧ serves tenancy projectId = true) ∧
        isBlank projectId = false := by
  have ofPair := setting.ofPair
  simp only [forPair, Bool.and_eq_true, beq_iff_eq] at ofPair
  obtain ⟨ofSubject, ofProject⟩ := ofPair
  have verified : verifySelfIssuedToken audience (some (claimsOf setting.token)) =
      some (claimsOf setting.token) := by
    simp [verifySelfIssuedToken, Option.filter_some, setting.notApiKey]
  rw [← revalidate_iff]
  unfold Setting.introspectsActive resolveExchangeTokenContext
  rw [verified]
  cases blank : isBlank projectId with
  | true => simp [claimsOf, ofProject, Option.filter_some, blank]
  | false =>
      cases resolved : resolveContext tenancy subject projectId with
      | error error =>
          simp [claimsOf, ofSubject, ofProject, Option.filter_some, blank, resolved, revalidate]
      | ok context =>
          cases found : getProjectById tenancy context.projectId with
          | none =>
              simp [claimsOf, ofSubject, ofProject, Option.filter_some, blank, resolved, revalidate,
                found]
          | some project =>
              cases owned : getAccountById tenancy context.accountId with
              | none =>
                  by_cases active : project.status = .active <;>
                    simp [claimsOf, ofSubject, ofProject, Option.filter_some, blank, resolved,
                      revalidate, found, owned, active]
              | some account =>
                  by_cases active : project.status = .active <;>
                    by_cases accountActive : account.status = .active <;>
                      simp [claimsOf, ofSubject, ofProject, Option.filter_some, blank, resolved,
                        revalidate, found, owned, active, accountActive]

def Suspended (tenancy : TenancyDb) (projectId : String) : Prop :=
  ∃ project, getProjectById tenancy projectId = some project ∧
    (project.status = .suspended ∨
      ∃ account, getAccountById tenancy project.accountId = some account ∧
        account.status = .suspended)

theorem not_suspended_of_serves {tenancy : TenancyDb} (serving : serves tenancy projectId = true) :
    ¬ Suspended tenancy projectId := by
  rintro ⟨project, found, suspended⟩
  simp only [serves, found, Option.any_some, Bool.and_eq_true, beq_iff_eq,
    Option.any_eq_true] at serving
  obtain ⟨active, account, owned, accountActive⟩ := serving
  rcases suspended with isSuspended | ⟨other, isOther, isSuspended⟩
  · rw [active] at isSuspended
    cases isSuspended
  · cases owned.symm.trans isOther
    rw [accountActive] at isSuspended
    cases isSuspended

/-- The two grants and introspection agree on the pair, and no grant mints for a
suspended project or account. -/
structure GrantsAgree (setting : Setting config audience subject projectId)
    (tenancy : TenancyDb) : Prop where
  grants : setting.ExchangeMints tenancy ↔ setting.refreshMints tenancy = true
  introspection : setting.refreshMints tenancy = true ↔ setting.introspectsActive tenancy = true
  noneSuspended : Suspended tenancy projectId →
    ¬ setting.ExchangeMints tenancy ∧ ¬ setting.refreshMints tenancy = true

/-- For every database and every pair, the three agree if and only if the subject
does not see the project, or the project can be asked for, has an id that is not
blank and is active with its account, or it cannot be asked for and is not active
with its account. -/
theorem grants_agree_iff (config : SessionConfig) (audience : Option String)
    (subject projectId : String) (setting : Setting config audience subject projectId)
    (tenancy : TenancyDb) :
    GrantsAgree setting tenancy ↔
      seesProject tenancy subject projectId = false ∨
        (serves tenancy projectId = true ∧ isBlank projectId = false ∧
          Askable tenancy subject projectId) ∨
        (serves tenancy projectId = false ∧ ¬ Askable tenancy subject projectId) := by
  have exchange := exchange_mints_iff setting tenancy
  have refresh := refresh_mints_iff setting tenancy
  have introspection := introspects_active_iff setting tenancy
  constructor
  · intro agree
    cases sees : seesProject tenancy subject projectId with
    | false => exact Or.inl rfl
    | true =>
        right
        cases serving : serves tenancy projectId with
        | true =>
            have refreshed := refresh.mpr ⟨sees, serving⟩
            have asked := exchange.mp (agree.grants.mpr refreshed)
            have active := introspection.mp (agree.introspection.mp refreshed)
            exact Or.inl ⟨rfl, active.2, asked.1⟩
        | false =>
            refine Or.inr ⟨rfl, ?_⟩
            intro askable
            have refreshed := agree.grants.mp (exchange.mpr ⟨askable, sees⟩)
            have active := (refresh.mp refreshed).2
            rw [serving] at active
            cases active
  · rintro (unseen | ⟨serving, named, askable⟩ | ⟨idle, unaskable⟩)
    · have noSight : ¬ seesProject tenancy subject projectId = true := by simp [unseen]
      refine ⟨?_, ?_, fun _ => ⟨?_, ?_⟩⟩
      · rw [exchange, refresh]
        exact ⟨fun minted => absurd minted.2 noSight, fun authorized => absurd authorized.1 noSight⟩
      · rw [refresh, introspection]
        exact ⟨fun authorized => absurd authorized.1 noSight, fun active => active.1⟩
      · rw [exchange]
        exact fun minted => noSight minted.2
      · rw [refresh]
        exact fun authorized => noSight authorized.1
    · refine ⟨?_, ?_, fun suspended => absurd suspended (not_suspended_of_serves serving)⟩
      · rw [exchange, refresh]
        exact ⟨fun minted => ⟨minted.2, serving⟩, fun authorized => ⟨askable, authorized.1⟩⟩
      · rw [refresh, introspection]
        exact ⟨fun authorized => ⟨authorized, named⟩, fun active => active.1⟩
    · have notServing : ¬ serves tenancy projectId = true := by simp [idle]
      refine ⟨?_, ?_, fun _ => ⟨?_, ?_⟩⟩
      · rw [exchange, refresh]
        exact ⟨fun minted => absurd minted.1 unaskable,
          fun authorized => absurd authorized.2 notServing⟩
      · rw [refresh, introspection]
        exact ⟨fun authorized => absurd authorized.2 notServing, fun active => active.1⟩
      · rw [exchange]
        exact fun minted => unaskable minted.1
      · rw [refresh]
        exact fun authorized => notServing authorized.2

end Pair

def sampleInfo : TokenInfo := ⟨"alice", ["cli"], none, none, none, none⟩

def sampleRow : RefreshTokenRow where
  id := "t0"
  subject := "alice"
  accountId := "alice"
  projectId := "p1"
  clientId := "cli"
  tokenHash := "hash of s0"
  scope := some "offline_access"
  status := .rotated
  email := none
  emailVerified := none
  authTime := none
  chainId := "c1"
  chainExpiresAt := 3600000000
  createdAt := 0
  expiresAt := 1800000000
  lastUsedAt := some 0

def sampleSetting : Setting sampleConfig (some "api-keys") "alice" "p1" where
  clock := 0
  tokens := []
  request := sampleExchange
  accepted := by decide
  arrival := sampleInput "c1" "s0"
  info := sampleInfo
  validated := by decide
  lookup := sampleInput "c1" "s0"
  lookupSound := ⟨rfl, rfl, rfl⟩
  infoSubject := rfl
  exchangeInputs := List.replicate 4 (sampleInput "c1" "s0")
  exchangeStatements := rfl
  exchangeSound := fun input member => by
    rw [List.eq_of_mem_replicate member]
    exact ⟨rfl, rfl, rfl⟩
  chainEnds := by decide
  tokenEnds := by decide
  refresh := ⟨⟨sampleClient, some "s0"⟩, 0, some sampleRow, false, .context sampleRow⟩
  row := sampleRow
  refreshAt := rfl
  rowSubject := rfl
  rowProject := rfl
  refreshInputs := List.replicate 5 (sampleInput "t1" "s1")
  refreshStatements := rfl
  refreshSound := fun input member => by
    rw [List.eq_of_mem_replicate member]
    exact ⟨rfl, rfl, rfl⟩
  successorEnds := by decide
  token := mintAccessToken sampleConfig ⟨"alice", none, none⟩ "cli" "session"
    ⟨⟨"alice", "p1"⟩, none, .allowAll, "free", none⟩ none 0
  ofPair := by decide
  notApiKey := by decide

def suspendedTenancy : TenancyDb :=
  { sampleTenancy with projects := [⟨"p1", "alice", .suspended, true, none, .allowAll⟩] }

/-- The exchange grant mints a token for a suspended project. -/
theorem exchange_mints_for_suspended_project :
    ¬ ∀ (config : SessionConfig) (audience : Option String) (subject projectId : String)
        (setting : Setting config audience subject projectId) (tenancy : TenancyDb),
        GrantsAgree setting tenancy := by
  intro claimed
  have agree := claimed sampleConfig (some "api-keys") "alice" "p1" sampleSetting suspendedTenancy
  have mints : sampleSetting.mintsNaming suspendedTenancy (some "p1") = true := by
    decide +kernel
  exact (agree.noneSuspended ⟨_, rfl, Or.inl rfl⟩).1 ⟨_, mints⟩

end LightbridgeAuthz.Sessions.AuthorizedPairs

import LightbridgeAuthz.Access.TenancyOps
import LightbridgeAuthz.Sessions.AuthorizedPairs
import Mathlib.Data.List.Induction

/-!
# Quota tiers of exchange sessions

An exchange, a refresh and the introspection of an exchange token all ask in one
statement whether the subject may act on the project and in a later one for the
subject's tier there. The second answers `none` for a row without a tier and for
no row at all. If the row goes between the two, the answer is a session without a
ceiling for someone who had one and has now no standing. It is consistent when
the subject still stands on the project at the second statement.
-/

namespace LightbridgeAuthz.Sessions.QuotaAnswers

open Library.EventRun Library.KeyedRows
open Budget.Domain (isBlank)
open Access.Tenancy RefreshTokens TokenGrants SessionCalls SessionSteps RefreshChains
open AbsoluteCap AuthorizedPairs
open Access.TenancyOps (RosterWrite applyRosterWrite)

set_option autoImplicit false

/-- Where `resolve_exchange_token_context` stands: the next statement to run. -/
inductive IntrospectPoint where
  | context (claims : ExchangeClaims) (projectId : String)
  | project (claims : ExchangeClaims) (context : ResolvedContext)
  | account (claims : ExchangeClaims) (context : ResolvedContext) (project : Project)
  | role (claims : ExchangeClaims) (context : ResolvedContext) (project : Project)
  | quotaTier (claims : ExchangeClaims) (context : ResolvedContext) (project : Project)
      (role : Option ProjectRole)
  | answered (claims : ExchangeClaims) (context : ResolvedContext)
      (answer : ExchangeTokenContext)
  | inactive
  | failed

def startIntrospection (audience : Option String) (decoded : Option ExchangeClaims) :
    IntrospectPoint :=
  match verifySelfIssuedToken audience decoded with
  | none => .inactive
  | some claims =>
      match claims.projectId.filter fun projectId => !isBlank projectId with
      | none => .inactive
      | some projectId => .context claims projectId

def introspectMove (tenancy : TenancyDb) (input : StepInput) :
    IntrospectPoint → Option IntrospectPoint
  | .context claims projectId =>
      match input.fault with
      | some _ => some .failed
      | none =>
          match resolveContext tenancy claims.sub projectId with
          | .error _ => some .inactive
          | .ok context => some (.project claims context)
  | .project claims context =>
      match input.fault with
      | some _ => some .failed
      | none =>
          match getProjectById tenancy context.projectId with
          | none => some .inactive
          | some project =>
              if project.status ≠ .active then some .inactive
              else some (.account claims context project)
  | .account claims context project =>
      match input.fault with
      | some _ => some .failed
      | none =>
          match getAccountById tenancy context.accountId with
          | none => some .inactive
          | some account =>
              if account.status ≠ .active then some .inactive
              else some (.role claims context project)
  | .role claims context project =>
      match input.fault with
      | some _ => some .failed
      | none =>
          some (.quotaTier claims context project
            (projectMemberRole tenancy context.projectId claims.sub))
  | .quotaTier claims context project role =>
      match input.fault with
      | some _ => some .failed
      | none =>
          some (.answered claims context
            { sessionId := claims.apiKeyId
              accountId := context.accountId
              project := project
              role := role
              quotaTier := projectMemberQuotaTier tenancy context.projectId claims.sub })
  | .answered _ _ _ => none
  | .inactive => none
  | .failed => none

inductive PlaneCall where
  | exchange (call : ExchangeCall)
  | refresh (call : RefreshCall)
  | introspect (point : IntrospectPoint)

structure QuotaWorld where
  tenancy : TenancyDb
  tokens : List RefreshTokenRow
  clock : Int
  call : PlaneCall

/-- A step of the call, or the write of another subject's roster operation. -/
inductive QuotaEvent where
  | tick (elapsed : Nat)
  | roster (projectId target : String) (write : RosterWrite)
  | advance (input : StepInput)

def planeMove (config : SessionConfig) (world : QuotaWorld) (input : StepInput) :
    Option (List RefreshTokenRow × PlaneCall) :=
  match world.call with
  | .exchange call =>
      (exchangeMove config world.tenancy world.tokens world.clock input call).map
        fun moved => (moved.1, .exchange moved.2)
  | .refresh call =>
      (refreshMove config world.tenancy world.tokens input call).map
        fun moved => (moved.1, .refresh moved.2)
  | .introspect point =>
      (introspectMove world.tenancy input point).map fun moved =>
        (world.tokens, .introspect moved)

def quotaStep (config : SessionConfig) (world : QuotaWorld) : QuotaEvent → Option QuotaWorld
  | .tick elapsed => some { world with clock := world.clock + elapsed }
  | .roster projectId target write =>
      match applyRosterWrite world.tenancy projectId target write with
      | .error _ => some world
      | .ok tenancy => some { world with tenancy := tenancy }
  | .advance input =>
      (planeMove config world input).map fun moved =>
        { world with tokens := moved.1, call := moved.2 }

/-- Whom a minted token or an active answer is about, and the tier it carries. -/
structure QuotaAnswer where
  subject : String
  projectId : String
  tier : Option String
  deriving DecidableEq, Repr

def tokenAnswer (token : AccessToken) : QuotaAnswer :=
  ⟨token.owner.subject, token.projectId, token.quotaTier⟩

def introspectAnswer : IntrospectPoint → Option QuotaAnswer
  | .answered claims context answer => some ⟨claims.sub, context.projectId, answer.quotaTier⟩
  | _ => none

/-- The token that the call has minted, returned or not, or its active answer. -/
def quotaAnswer : PlaneCall → Option QuotaAnswer
  | .exchange call => (exchangeMinted call).map tokenAnswer
  | .refresh call => (mintedToken call).map tokenAnswer
  | .introspect point => introspectAnswer point

def readsTier : PlaneCall → Option (String × String)
  | .exchange ⟨_, _, .quotaTier info context _ _ _ _⟩ => some (info.sub, context.projectId)
  | .refresh ⟨_, _, _, _, .quotaTier row context _ _⟩ => some (row.subject, context.projectId)
  | .introspect (.quotaTier claims context _ _) => some (claims.sub, context.projectId)
  | _ => none

/-- The subject is the project's account, or has a row on its roster without a
tier. -/
def unbounded (tenancy : TenancyDb) (subject projectId : String) : Bool :=
  (getProjectById tenancy projectId).any (fun project => project.accountId == subject) ||
    (memberRow tenancy projectId subject).any fun member => member.quotaTier.isNone

/-- The statement about to run reads the tier of a subject who has no standing on
the project any more. -/
def outrunByRemoval (world : QuotaWorld) : QuotaEvent → Bool
  | .advance _ =>
      match readsTier world.call with
      | none => false
      | some (subject, projectId) => !seesProject world.tenancy subject projectId
  | _ => false

def introspectionResult : IntrospectPoint → Option ExchangeTokenContext
  | .answered _ _ answer => some answer
  | _ => none

theorem introspection_alone (audience : Option String) (tenancy : TenancyDb)
    (decoded : Option ExchangeClaims) {inputs : List StepInput} (statements : inputs.length = 5)
    (sound : ∀ input ∈ inputs, input.fault = none) :
    introspectionResult (driveFrom (fun point input => introspectMove tenancy input point)
        (startIntrospection audience decoded) inputs) =
      resolveExchangeTokenContext audience tenancy decoded := by
  obtain ⟨first, rest, isInputs⟩ := List.exists_cons_of_length_eq_add_one statements
  rw [isInputs, List.length_cons, Nat.add_right_cancel_iff] at statements
  obtain ⟨second, third, fourth, fifth, isRest⟩ := List.length_eq_four.mp statements
  subst isRest isInputs
  have firstSound : first.fault = none := sound first (by simp)
  have secondSound : second.fault = none := sound second (by simp)
  have thirdSound : third.fault = none := sound third (by simp)
  have fourthSound : fourth.fault = none := sound fourth (by simp)
  have fifthSound : fifth.fault = none := sound fifth (by simp)
  unfold startIntrospection resolveExchangeTokenContext
  simp only [driveFrom, List.foldl]
  cases verifySelfIssuedToken audience decoded with
  | none => rfl
  | some claims =>
      cases named : claims.projectId.filter fun projectId => !isBlank projectId with
      | none => simp [named, introspectMove, introspectionResult]
      | some projectId =>
          simp only [named, introspectMove, firstSound]
          cases resolveContext tenancy claims.sub projectId with
          | error error => rfl
          | ok context =>
              simp only [secondSound, Option.getD_some]
              cases getProjectById tenancy context.projectId with
              | none => rfl
              | some project =>
                  by_cases suspended : project.status ≠ .active
                  · simp [suspended, introspectionResult]
                  · simp only [suspended, if_false, Option.getD_some, thirdSound]
                    cases getAccountById tenancy context.accountId with
                    | none => rfl
                    | some account =>
                        by_cases frozen : account.status ≠ .active
                        · simp [frozen, introspectionResult]
                        · simp [frozen, introspectionResult, fourthSound, fifthSound]

section Reads

variable {config : SessionConfig} {subject projectId : String}

theorem mint_exchange_answer {call : ExchangeCall} {info : TokenInfo} {mint : MintContext}
    {now : Int} {input : StepInput} {token : AccessToken}
    (minted : exchangeMinted (mintExchange config call info mint now input) = some token) :
    tokenAnswer token = ⟨info.sub, mint.context.projectId, mint.quotaTier⟩ := by
  unfold mintExchange at minted
  dsimp only at minted
  split at minted
  · cases minted
  · split at minted
    · cases minted
    · split at minted
      · split at minted
        · cases minted
          rfl
        · cases minted
      · cases minted
        rfl

theorem exchange_move_answer {tenancy : TenancyDb} {tokens written : List RefreshTokenRow}
    {clock : Int} {input : StepInput} {call next : ExchangeCall} {token : AccessToken}
    (moved : exchangeMove config tenancy tokens clock input call = some (written, next))
    (minted : exchangeMinted next = some token) :
    exchangeMinted call = some token ∨
      ∃ subject projectId, readsTier (.exchange call) = some (subject, projectId) ∧
        tokenAnswer token =
          ⟨subject, projectId, projectMemberQuotaTier tenancy projectId subject⟩ := by
  obtain ⟨request, born, point⟩ := call
  cases point with
  | validate =>
      simp only [exchangeMove] at moved
      split at moved
      · cases moved
        cases minted
      · split at moved <;> cases moved <;> cases minted
  | defaultProject info =>
      simp only [exchangeMove] at moved
      split at moved
      · cases moved
        cases minted
      · split at moved <;> cases moved <;> cases minted
  | context info target =>
      simp only [exchangeMove] at moved
      split at moved
      · cases moved
        cases minted
      · split at moved <;> cases moved <;> cases minted
  | modelAccess info context =>
      cases moved
      cases minted
  | budgetTier info context allowedModels modelPolicy now =>
      cases moved
      cases minted
  | quotaTier info context allowedModels modelPolicy now budgetTier =>
      simp only [exchangeMove] at moved
      split at moved
      · cases moved
        cases minted
      · cases moved
        exact Or.inr ⟨info.sub, context.projectId, rfl, mint_exchange_answer minted⟩
  | store now stored response =>
      simp only [exchangeMove] at moved
      split at moved
      · cases moved
        cases minted
      · split at moved
        · cases moved
          cases minted
        · cases moved
          cases minted
        · cases moved
          cases minted
        · cases moved
          exact Or.inl minted
  | returned answer => cases moved

theorem mint_refresh_answer {call : RefreshCall} {row : RefreshTokenRow} {mint : MintContext}
    {input : StepInput} {token : AccessToken}
    (minted : mintedToken (mintRefresh config call row mint input) = some token) :
    tokenAnswer token = ⟨row.subject, mint.context.projectId, mint.quotaTier⟩ := by
  unfold mintRefresh at minted
  split at minted
  · cases minted
  · split at minted
    · cases minted
    · split at minted
      · cases minted
      · cases minted
        rfl

theorem refresh_move_answer {tenancy : TenancyDb} {tokens written : List RefreshTokenRow}
    {input : StepInput} {call next : RefreshCall} {token : AccessToken}
    (moved : refreshMove config tenancy tokens input call = some (written, next))
    (minted : mintedToken next = some token) :
    mintedToken call = some token ∨
      ∃ subject projectId, readsTier (.refresh call) = some (subject, projectId) ∧
        tokenAnswer token =
          ⟨subject, projectId, projectMemberQuotaTier tenancy projectId subject⟩ := by
  obtain ⟨request, now, consumed, isStored, point⟩ := call
  cases point with
  | consume =>
      simp only [refreshMove] at moved
      split at moved
      · cases moved
        cases minted
      · cases moved
        cases minted
      · split at moved
        · cases moved
          unfold afterConsume at minted
          split_ifs at minted <;> cases minted
        · cases moved
          cases minted
  | detectReuse =>
      simp only [refreshMove] at moved
      split at moved
      · split_ifs at moved <;> cases moved <;> cases minted
      · cases moved
        cases minted
  | cascade chainId =>
      simp only [refreshMove] at moved
      split at moved <;> cases moved <;> cases minted
  | context row =>
      simp only [refreshMove] at moved
      split at moved
      · cases moved
        cases minted
      · split at moved <;> cases moved <;> cases minted
  | project row context =>
      simp only [refreshMove] at moved
      split at moved
      · cases moved
        cases minted
      · split at moved <;> cases moved <;> cases minted
  | account row context project =>
      simp only [refreshMove] at moved
      split at moved
      · cases moved
        cases minted
      · split at moved <;> cases moved <;> cases minted
  | budgetTier row context project =>
      cases moved
      cases minted
  | quotaTier row context project budgetTier =>
      simp only [refreshMove] at moved
      split at moved
      · cases moved
        cases minted
      · cases moved
        exact Or.inr ⟨row.subject, context.projectId, rfl, mint_refresh_answer minted⟩
  | insert row successor response =>
      simp only [refreshMove] at moved
      split at moved
      · cases moved
        cases minted
      · cases moved
        cases minted
      · cases moved
        cases minted
      · cases moved
        exact Or.inl minted
  | returned answer => cases moved

theorem introspect_move_answer {tenancy : TenancyDb} {input : StepInput}
    {point next : IntrospectPoint} {answer : QuotaAnswer}
    (moved : introspectMove tenancy input point = some next)
    (answered : introspectAnswer next = some answer) :
    ∃ subject projectId, readsTier (.introspect point) = some (subject, projectId) ∧
      answer = ⟨subject, projectId, projectMemberQuotaTier tenancy projectId subject⟩ := by
  cases point with
  | context claims target =>
      simp only [introspectMove] at moved
      split at moved
      · cases moved
        cases answered
      · split at moved <;> cases moved <;> cases answered
  | project claims context =>
      simp only [introspectMove] at moved
      split at moved
      · cases moved
        cases answered
      · split at moved
        · cases moved
          cases answered
        · split_ifs at moved <;> cases moved <;> cases answered
  | account claims context project =>
      simp only [introspectMove] at moved
      split at moved
      · cases moved
        cases answered
      · split at moved
        · cases moved
          cases answered
        · split_ifs at moved <;> cases moved <;> cases answered
  | role claims context project =>
      simp only [introspectMove] at moved
      split at moved <;> cases moved <;> cases answered
  | quotaTier claims context project role =>
      simp only [introspectMove] at moved
      split at moved
      · cases moved
        cases answered
      · cases moved
        cases answered
        exact ⟨claims.sub, context.projectId, rfl, rfl⟩
  | answered claims context stored => cases moved
  | inactive => cases moved
  | failed => cases moved

theorem quota_answer_origin {world next : QuotaWorld} {event : QuotaEvent}
    {answer : QuotaAnswer} (stepped : quotaStep config world event = some next)
    (answered : quotaAnswer next.call = some answer) :
    quotaAnswer world.call = some answer ∨
      ∃ input subject projectId, event = .advance input ∧
        readsTier world.call = some (subject, projectId) ∧
        answer = ⟨subject, projectId, projectMemberQuotaTier world.tenancy projectId subject⟩ := by
  cases event with
  | tick elapsed =>
      cases stepped
      exact Or.inl answered
  | roster target member write =>
      simp only [quotaStep] at stepped
      split at stepped <;> cases stepped <;> exact Or.inl answered
  | advance input =>
      obtain ⟨moved, planeMoved, isNext⟩ := Option.map_eq_some_iff.mp stepped
      subst isNext
      unfold planeMove at planeMoved
      split at planeMoved
      · rename_i call isCall
        rw [isCall]
        obtain ⟨⟨written, after⟩, callMoved, isMoved⟩ := Option.map_eq_some_iff.mp planeMoved
        subst isMoved
        obtain ⟨token, minted, isAnswer⟩ := Option.map_eq_some_iff.mp answered
        rcases exchange_move_answer callMoved minted with before | ⟨who, target, reads, tier⟩
        · refine Or.inl ?_
          simp only [quotaAnswer, before, Option.map_some, isAnswer]
        · exact Or.inr ⟨input, who, target, rfl, reads, isAnswer ▸ tier⟩
      · rename_i call isCall
        rw [isCall]
        obtain ⟨⟨written, after⟩, callMoved, isMoved⟩ := Option.map_eq_some_iff.mp planeMoved
        subst isMoved
        obtain ⟨token, minted, isAnswer⟩ := Option.map_eq_some_iff.mp answered
        rcases refresh_move_answer callMoved minted with before | ⟨who, target, reads, tier⟩
        · refine Or.inl ?_
          simp only [quotaAnswer, before, Option.map_some, isAnswer]
        · exact Or.inr ⟨input, who, target, rfl, reads, isAnswer ▸ tier⟩
      · rename_i point isCall
        rw [isCall]
        obtain ⟨after, pointMoved, isMoved⟩ := Option.map_eq_some_iff.mp planeMoved
        subst isMoved
        obtain ⟨who, target, reads, tier⟩ := introspect_move_answer pointMoved answered
        exact Or.inr ⟨input, who, target, rfl, reads, tier⟩

theorem unbounded_of_sees {tenancy : TenancyDb}
    (sees : seesProject tenancy subject projectId = true)
    (untiered : projectMemberQuotaTier tenancy projectId subject = none) :
    unbounded tenancy subject projectId = true := by
  obtain ⟨project, found, standing⟩ := Access.TenancyOps.sees_project_iff.mp sees
  unfold unbounded
  rcases standing with owns | onRoster
  · simp [found, owns]
  · obtain ⟨member, row⟩ := Option.isSome_iff_exists.mp onRoster
    have noTier : member.quotaTier = none := by
      simpa [projectMemberQuotaTier, row] using untiered
    simp [row, noTier]

/-- If the subject still stands on the project whenever their tier is read, then a
token or an active answer without a tier has a state of the database during the
call in which the subject was the project's account or had a row without a
tier. -/
theorem quota_answer_consistent {start last : QuotaWorld} {events : List QuotaEvent}
    (fresh : quotaAnswer start.call = none)
    (met : Meets (quotaStep config) (fun world event => outrunByRemoval world event = false)
      start events)
    (ran : runFrom (quotaStep config) start events = some last)
    (answered : quotaAnswer last.call = some ⟨subject, projectId, none⟩) :
    ∃ front back middle, events = front ++ back ∧
      runFrom (quotaStep config) start front = some middle ∧
      unbounded middle.tenancy subject projectId = true := by
  induction events using List.reverseRecOn generalizing last with
  | nil =>
      have same : start = last := by simpa [runFrom] using ran
      rw [← same, fresh] at answered
      cases answered
  | append_singleton front event ih =>
      obtain ⟨middle, before, tail⟩ := run_append_some ran
      obtain ⟨next, stepped, rest⟩ := run_cons_some tail
      have isLast : next = last := by simpa [runFrom] using rest
      subst isLast
      obtain ⟨metBefore, metLast⟩ := meets_append_some met before
      rcases quota_answer_origin stepped answered with
        earlier | ⟨input, who, target, isAdvance, reads, isAnswer⟩
      · obtain ⟨first, second, state, isFront, reached, free⟩ := ih metBefore before earlier
        exact ⟨first, second ++ [event], state, by simp [isFront], reached, free⟩
      · refine ⟨front, [event], middle, rfl, before, ?_⟩
        obtain ⟨isWho, isTarget, untiered⟩ := QuotaAnswer.mk.inj isAnswer
        subst isWho isTarget isAdvance
        have sees : seesProject middle.tenancy subject projectId = true := by
          have kept := metLast.1
          simpa [outrunByRemoval, reads] using kept
        exact unbounded_of_sees sees untiered.symm

end Reads

/-- Alice is bounded by a tier on a project of another account, and exchanges her
token for a session there. -/
def boundedMember : QuotaWorld where
  tenancy :=
    { accounts := [⟨"owner", .active⟩, ⟨"alice", .active⟩]
      projects := [⟨"shared", "owner", .active, false, none, .allowAll⟩]
      members := [⟨"shared", "alice", .member, some "small"⟩] }
  tokens := []
  clock := 0
  call := .exchange (arriveExchange sampleConfig
    { sampleExchange with projectId := some "shared", scope := some "openid" })

def statements (count : Nat) : List QuotaEvent :=
  List.replicate count (.advance (sampleInput "c1" "s0"))

def removedBeforeTier : List QuotaEvent :=
  statements 4 ++ [.roster "shared" "alice" .delete] ++ statements 1

/-- The tier is taken off the row instead: there is a state without a tier. -/
def clearedBeforeTier : List QuotaEvent :=
  statements 4 ++ [.roster "shared" "alice" (.setTier none)] ++ statements 1

theorem cleared_tier_consistent :
    ∃ last, runFrom (quotaStep sampleConfig) boundedMember clearedBeforeTier = some last ∧
      quotaAnswer last.call = some ⟨"alice", "shared", none⟩ ∧
      ∃ front back middle, clearedBeforeTier = front ++ back ∧
        runFrom (quotaStep sampleConfig) boundedMember front = some middle ∧
        unbounded middle.tenancy "alice" "shared" = true := by
  have passed : reaches (quotaStep sampleConfig) boundedMember clearedBeforeTier
      (fun last => quotaAnswer last.call == some ⟨"alice", "shared", none⟩) = true := by
    decide +kernel
  obtain ⟨last, ran, ends⟩ := exists_of_reaches passed
  have answered : quotaAnswer last.call = some ⟨"alice", "shared", none⟩ := beq_iff_eq.mp ends
  refine ⟨last, ran, answered, ?_⟩
  refine quota_answer_consistent rfl ?_ ran answered
  decide +kernel

/-- The exchange mints a token without a tier, and in no state during the call was
Alice the project's account or on its roster without a tier. -/
theorem removed_member_gets_unbounded_token :
    quotaAnswer boundedMember.call = none ∧
      ∃ last, runFrom (quotaStep sampleConfig) boundedMember removedBeforeTier = some last ∧
        quotaAnswer last.call = some ⟨"alice", "shared", none⟩ ∧
        ∀ front back middle, removedBeforeTier = front ++ back →
          runFrom (quotaStep sampleConfig) boundedMember front = some middle →
          unbounded middle.tenancy "alice" "shared" = false := by
  have passed : reaches (quotaStep sampleConfig) boundedMember removedBeforeTier
      (fun last => quotaAnswer last.call == some ⟨"alice", "shared", none⟩ &&
        !unbounded last.tenancy "alice" "shared") = true := by
    decide +kernel
  have along : Meets (quotaStep sampleConfig)
      (fun world _ => unbounded world.tenancy "alice" "shared" = false)
      boundedMember removedBeforeTier := by
    decide +kernel
  obtain ⟨last, ran, ends⟩ := exists_of_reaches passed
  obtain ⟨answered, bounded⟩ := Bool.and_eq_true_iff.mp ends
  refine ⟨rfl, last, ran, beq_iff_eq.mp answered, ?_⟩
  intro front back middle isRun reached
  cases back with
  | nil =>
      rw [List.append_nil] at isRun
      rw [← isRun, ran] at reached
      cases reached
      simpa using bounded
  | cons event rest =>
      rw [isRun] at along
      exact (meets_append_some along reached).2.1

end LightbridgeAuthz.Sessions.QuotaAnswers

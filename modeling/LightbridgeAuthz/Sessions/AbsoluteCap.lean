import LightbridgeAuthz.Sessions.RefreshChains

/-!
# The absolute cap of a session

The deadline of a chain is fixed by the exchange that opens it. It reaches the
first row as text and every later row as a copy, so at every instant of every
run all rows of the chain carry it, and a refresh that reads the clock at or
after it returns nothing.
-/

namespace LightbridgeAuthz.Sessions.AbsoluteCap

open Library.EventRun Library.KeyedRows Library.ChronoTime
open RefreshTokens TokenGrants SessionCalls SessionSteps RefreshChains

set_option autoImplicit false

/-- `b + max(0, refresh_absolute_ttl_seconds)`. -/
def capAt (config : SessionConfig) (birth : Int) : Int :=
  birth + max 0 config.refreshAbsoluteTtlSeconds.toInt * 1000000

/-- `max(0, access_ttl_seconds)`. -/
def accessLife (config : SessionConfig) : Int := max 0 config.accessTtlSeconds.toInt * 1000000

def OnChain (config : SessionConfig) (world : SessionWorld) (chainId : String)
    (call : RefreshCall) : Prop :=
  ∃ row ∈ world.tokens, row.tokenHash = config.hashApiKey call.presented ∧ row.chainId = chainId

def mintedToken (call : RefreshCall) : Option AccessToken :=
  match call.point with
  | .insert _ _ response => some response.accessToken
  | .returned (.ok response) => some response.accessToken
  | _ => none

theorem chain_end_eq {config : SessionConfig} {birth deadline : Int}
    (isEnd : config.chainEnd birth = some deadline) : deadline = capAt config birth :=
  after_seconds_some isEnd

theorem answered_minted {call : RefreshCall} (answered : Answered call) :
    ∃ token, mintedToken call = some token := by
  obtain ⟨response, point⟩ := answered
  exact ⟨response.accessToken, by simp only [mintedToken, point]⟩

theorem minted_before_deadline {config : SessionConfig} {call : RefreshCall}
    (sound : RefreshSound config call) {token : AccessToken}
    (minted : mintedToken call = some token) :
    ∃ row, call.consumed = some row ∧ call.now < row.chainExpiresAt ∧
      token.expiresAt = config.accessEnd call.now := by
  have knows := sound.knows
  unfold mintedToken at minted
  split at minted
  · rename_i row successor response point
    cases minted
    simp only [RefreshKnows, point] at knows
    exact ⟨row, knows.1.consumed, knows.1.capped, knows.2.2⟩
  · rename_i response point
    cases minted
    simp only [RefreshKnows, point] at knows
    obtain ⟨row, consumed, _, capped, expires⟩ := knows
    exact ⟨row, consumed, capped, expires⟩
  · cases minted

section Chain

variable {config : SessionConfig} {world : SessionWorld} {call : ExchangeCall} {birth : Int}
  {first : RefreshTokenRow}

theorem chain_session (sound : ChainsSound config world)
    (isCall : .exchange call ∈ world.calls) (isBorn : call.born = some (birth, first))
    {row : RefreshTokenRow} (member : row ∈ world.tokens)
    (ofChain : row.chainId = first.chainId) : SameSession first row := by
  obtain ⟨stored, isStored, session⟩ := sound.born call birth first isCall isBorn
  have same : stored.chainId = row.chainId := session.chainId.symm.trans ofChain.symm
  exact same_session_trans session (sound.oneSession stored isStored row member same)

theorem chain_deadline (sound : ChainsSound config world)
    (exchanges : ExchangesSound config world) (isCall : .exchange call ∈ world.calls)
    (isBorn : call.born = some (birth, first)) {row : RefreshTokenRow}
    (member : row ∈ world.tokens) (ofChain : row.chainId = first.chainId) :
    row.chainExpiresAt = capAt config birth := by
  rw [← (chain_session sound isCall isBorn member ofChain).chainExpiresAt]
  exact chain_end_eq ((exchanges call isCall).capped birth first isBorn)

theorem consumed_deadline (sound : ChainsSound config world)
    (exchanges : ExchangesSound config world) (isCall : .exchange call ∈ world.calls)
    (isBorn : call.born = some (birth, first)) {refresh : RefreshCall}
    (isRefresh : .refresh refresh ∈ world.calls)
    (onChain : OnChain config world first.chainId refresh) {row : RefreshTokenRow}
    (consumed : refresh.consumed = some row) : row.chainExpiresAt = capAt config birth := by
  obtain ⟨held, isHeld, heldHash, ofChain⟩ := onChain
  obtain ⟨stored, isStored, storedHash, session, _⟩ :=
    sound.spent refresh row isRefresh consumed
  have presented := (sound.refreshes refresh isRefresh).presented row consumed
  have same : stored = held :=
    unique_keys_eq sound.uniqueHashes isStored isHeld (congrArg some (storedHash.trans presented))
      (congrArg some heldHash)
  subst same
  exact session.chainExpiresAt.trans
    (chain_deadline sound exchanges isCall isBorn isStored ofChain)

end Chain

theorem start_exchanges_sound {config : SessionConfig} {start : SessionWorld}
    (starts : SessionStart start) : ExchangesSound config start := by
  intro call member
  rw [starts.idle] at member
  cases member

/-- In every state of every run and for every chain that an exchange has opened:
its rows are of one session and carry the cap, no refresh on it whose clock reads
the cap or later is answered with tokens, and no access token minted from it
outlives the cap by more than the life of an access token. -/
theorem absolute_session_cap (config : SessionConfig) (faithful : config.time.Faithful)
    (start : SessionWorld) (starts : SessionStart start) (events : List SessionEvent)
    (new : Meets (sessionStep config) (fun world event => newChainId world event = true) start
      events)
    (last : SessionWorld) (ran : runFrom (sessionStep config) start events = some last)
    (call : ExchangeCall) (isCall : .exchange call ∈ last.calls) (birth : Int)
    (first : RefreshTokenRow) (isBorn : call.born = some (birth, first)) :
    (∀ row ∈ last.tokens, row.chainId = first.chainId →
      SameSession first row ∧ row.chainExpiresAt = capAt config birth) ∧
    (∀ refresh, .refresh refresh ∈ last.calls → OnChain config last first.chainId refresh →
      (capAt config birth ≤ refresh.now → ¬ Answered refresh) ∧
      ∀ token, mintedToken refresh = some token →
        token.expiresAt ≤ capAt config birth + accessLife config) ∧
    ∀ response, call.point = .returned (.ok response) →
      response.accessToken.expiresAt ≤ capAt config birth + accessLife config := by
  have sound : ChainsSound config last := reachable_chains_sound starts new ran
  have exchanges : ExchangesSound config last :=
    run_preserves (ExchangesSound config)
      (fun _ _ _ sound stepped => step_exchanges_sound faithful sound stepped)
      (start_exchanges_sound starts) ran
  refine ⟨?_, ?_, ?_⟩
  · intro row member ofChain
    exact ⟨chain_session sound isCall isBorn member ofChain,
      chain_deadline sound exchanges isCall isBorn member ofChain⟩
  · intro refresh isRefresh onChain
    have before : ∀ token, mintedToken refresh = some token →
        refresh.now < capAt config birth ∧ token.expiresAt = config.accessEnd refresh.now := by
      intro token minted
      obtain ⟨row, consumed, capped, expires⟩ :=
        minted_before_deadline (sound.refreshes refresh isRefresh) minted
      rw [consumed_deadline sound exchanges isCall isBorn isRefresh onChain consumed] at capped
      exact ⟨capped, expires⟩
    refine ⟨fun late answered => ?_, fun token minted => ?_⟩
    · obtain ⟨token, minted⟩ := answered_minted answered
      have inTime := (before token minted).1
      omega
    · obtain ⟨inTime, expires⟩ := before token minted
      rw [expires, SessionConfig.accessEnd, accessLife]
      omega
  · intro response point
    have expires := (exchanges call isCall).answered birth first response isBorn point
    rw [expires, SessionConfig.accessEnd, accessLife, capAt]
    omega

theorem sample_time_faithful : sampleTime.Faithful := by
  intro instant read parsed
  by_cases isInstant : instant = 3600000000
  · simp only [sampleTime, if_pos isInstant] at parsed
    rw [isInstant]
    exact (Option.some.inj parsed).symm
  · simp [sampleTime, isInstant] at parsed

/-- The first token that the exchange in the first slot has stored. -/
def firstBorn (world : SessionWorld) : Option (Int × RefreshTokenRow) :=
  match world.calls.head? with
  | some (.exchange call) => call.born
  | _ => none

theorem first_born_call {world : SessionWorld} {birth : Int} {first : RefreshTokenRow}
    (isBorn : firstBorn world = some (birth, first)) :
    ∃ call, .exchange call ∈ world.calls ∧ call.born = some (birth, first) := by
  unfold firstBorn at isBorn
  split at isBorn
  · rename_i call isHead
    exact ⟨call, List.mem_of_mem_head? isHead, isBorn⟩
  · cases isBorn

/-- A chain born at the epoch and rotated once. -/
theorem rotated_chain_capped :
    ∃ last birth first, runFrom (sessionStep sampleConfig) sampleWorld racingRefreshes = some last ∧
      firstBorn last = some (birth, first) ∧
      (last.tokens.countP fun row => row.chainId == first.chainId) = 2 ∧
      ∀ row ∈ last.tokens, row.chainId = first.chainId →
        row.chainExpiresAt = capAt sampleConfig birth := by
  have reached : reaches (sessionStep sampleConfig) sampleWorld racingRefreshes
      (fun world => (firstBorn world).any fun pair =>
        (world.tokens.countP fun row => row.chainId == pair.2.chainId) == 2) = true := by
    decide +kernel
  obtain ⟨last, ran, found⟩ := exists_of_reaches reached
  obtain ⟨⟨birth, first⟩, isFirst, two⟩ := (Option.any_eq_true _ _).mp found
  obtain ⟨call, isCall, isBorn⟩ := first_born_call isFirst
  have capped := absolute_session_cap sampleConfig sample_time_faithful sampleWorld
    sample_world_starts racingRefreshes (by decide +kernel) last ran call isCall birth first isBorn
  exact ⟨last, birth, first, ran, isFirst, beq_iff_eq.mp two,
    fun row member ofChain => (capped.1 row member ofChain).2⟩

end LightbridgeAuthz.Sessions.AbsoluteCap

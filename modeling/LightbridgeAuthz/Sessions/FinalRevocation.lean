import LightbridgeAuthz.Sessions.RefreshChains

/-!
# When a revocation is final

The cascade and the kill switch flip the tokens that are active at that instant.
A refresh that has consumed its token before and inserts the successor afterwards
puts an active token into the revoked chain. No other step does: after a
revocation a chain stays without an active token exactly as long as no refresh
that was in flight on it at the revocation commits its insert.
-/

namespace LightbridgeAuthz.Sessions.FinalRevocation

open Library.EventRun Library.KeyedRows Library.CallSlots
open Access.Tenancy RefreshTokens TokenGrants SessionCalls SessionSteps RefreshChains

set_option autoImplicit false

def hasReturned : RefreshPoint → Bool
  | .returned _ => true
  | _ => false

/-- The call has consumed a token of the chain and is not over. -/
def inFlight (chainId : String) : SessionCall → Bool
  | .exchange _ => false
  | .refresh call =>
      !hasReturned call.point && call.consumed.any fun row => row.chainId == chainId

/-- The statement revokes the chain: the cascade for it, or the kill switch for a
subject that has a token in it. -/
def revokesChain (world : SessionWorld) (chainId : String) : SessionEvent → Bool
  | .advance caller input =>
      match world.calls[caller]? with
      | some (.refresh { point := .cascade revoked, .. }) =>
          revoked == chainId && input.fault != some ⟨false⟩
      | _ => false
  | .revokeSessions subject =>
      world.tokens.any fun row => row.chainId == chainId && row.subject == subject
  | _ => false

/-- The step is the `INSERT` of a refresh's successor, and it commits. -/
def insertsSuccessor (world : SessionWorld) (caller : Nat) (input : StepInput) : Bool :=
  match world.calls[caller]? with
  | some (.refresh { point := .insert _ successor _, .. }) =>
      (createExchangeRefreshToken world.tokens successor).isOk && input.fault != some ⟨false⟩
  | _ => false

/-- A refresh that was in flight on the chain at the revocation inserts its
successor. -/
def overtakes (revokedAt : SessionWorld) (chainId : String) (world : SessionWorld) :
    SessionEvent → Bool
  | .advance caller input =>
      revokedAt.calls[caller]?.any (inFlight chainId) && insertsSuccessor world caller input
  | _ => false

section Step

variable {config : SessionConfig} {world next : SessionWorld} {event : SessionEvent}
  {chainId : String}

theorem in_flight_iff {call : RefreshCall} :
    inFlight chainId (.refresh call) = true ↔
      hasReturned call.point = false ∧ ∃ row, call.consumed = some row ∧ row.chainId = chainId := by
  simp [inFlight, Option.any_eq_true]

theorem not_returned {tenancy : TenancyDb} {tokens : List RefreshTokenRow} {input : StepInput}
    {call : RefreshCall} {outcome : List RefreshTokenRow × RefreshCall}
    (ran : refreshMove config tenancy tokens input call = some outcome) :
    hasReturned call.point = false := by
  cases point : call.point with
  | returned answer =>
      simp only [refreshMove, point] at ran
      cases ran
  | _ => rfl

theorem refresh_after (stepped : sessionStep config world event = some next) {slot : Nat}
    {call : RefreshCall} (was : world.calls[slot]? = some (.refresh call)) :
    ∃ moved, next.calls[slot]? = some (.refresh moved) ∧
      (moved = call ∨ ∃ input, event = .advance slot input ∧
        refreshMove config world.tenancy world.tokens input call = some (next.tokens, moved)) := by
  cases session_outcome stepped with
  | surroundings tenancy clock => exact ⟨call, was, Or.inl rfl⟩
  | exchangeArrived request => exact ⟨call, slot_append_of_some was _, Or.inl rfl⟩
  | refreshArrived request => exact ⟨call, slot_append_of_some was _, Or.inl rfl⟩
  | @exchanged caller input exchange moved written wasCaller ran =>
      refine ⟨call, ?_, Or.inl rfl⟩
      have elsewhere : slot ≠ caller := by
        intro same
        rw [same, wasCaller] at was
        cases was
      have after := slot_set_of_some was caller (.exchange moved)
      rwa [if_neg elsewhere] at after
  | @refreshed caller input mover moved written wasCaller ran =>
      have after := slot_set_of_some was caller (.refresh moved)
      by_cases same : slot = caller
      · subst same
        cases was.symm.trans wasCaller
        rw [if_pos rfl] at after
        exact ⟨moved, after, Or.inr ⟨input, rfl, ran⟩⟩
      · rw [if_neg same] at after
        exact ⟨call, after, Or.inl rfl⟩
  | revoked selects isRevocation => exact ⟨call, was, Or.inl rfl⟩

theorem consumed_stays (sound : ChainsSound config world)
    (stepped : sessionStep config world event = some next) {slot : Nat} {call : RefreshCall}
    (was : world.calls[slot]? = some (.refresh call)) {row : RefreshTokenRow}
    (isRow : call.consumed = some row) :
    ∃ moved, next.calls[slot]? = some (.refresh moved) ∧ moved.consumed = some row := by
  obtain ⟨moved, there, same | ⟨input, _, ran⟩⟩ := refresh_after stepped was
  · exact ⟨moved, there, by rw [same, isRow]⟩
  · refine ⟨moved, there, ?_⟩
    have isSound := sound.refreshes call (List.mem_of_getElem? was)
    generalize next.tokens = written at ran
    cases refresh_effect isSound ran with
    | read consumed stored => exact consumed.trans isRow
    | consumed point found active consumed stored =>
        have knows := isSound.knows
        simp only [RefreshKnows, point, isRow] at knows
        cases knows.1
    | cascaded point consumed stored => exact consumed.trans isRow
    | inserted point fresh consumed stored => exact consumed.trans isRow

/-- A refresh in flight on the chain was so before the step, or has taken the
chain's active token by it. -/
theorem in_flight_origin (sound : ChainsSound config world)
    (stepped : sessionStep config world event = some next) {slot : Nat} {moved : SessionCall}
    (there : next.calls[slot]? = some moved) (flies : inFlight chainId moved = true) :
    (∃ call, world.calls[slot]? = some call ∧ inFlight chainId call = true) ∨
      ∃ old ∈ world.tokens, old.chainId = chainId ∧ old.status = .active := by
  cases moved with
  | exchange moved => cases flies
  | refresh moved =>
      obtain ⟨unreturned, row, isRow, ofChain⟩ := in_flight_iff.mp flies
      rcases consumed_origin sound.refreshes stepped there isRow with
        ⟨call, was, wasRow⟩ | ⟨old, consumption⟩
      · refine Or.inl ⟨_, was, in_flight_iff.mpr ⟨?_, row, wasRow, ofChain⟩⟩
        obtain ⟨after, isAfter, same | ⟨input, _, ran⟩⟩ := refresh_after stepped was
        · cases there.symm.trans isAfter
          rw [← same]
          exact unreturned
        · exact not_returned ran
      · obtain ⟨now, isRotated, _⟩ := consumption.took
        refine Or.inr ⟨old, (find_key_some consumption.found).1, ?_, consumption.active⟩
        rw [← ofChain, isRotated]
        rfl

theorem insert_commits {caller : Nat} {input : StepInput} {call : RefreshCall}
    {row : RefreshTokenRow} {successor : NewRefreshToken} {response : TokenResponse}
    (was : world.calls[caller]? = some (.refresh call))
    (point : call.point = .insert row successor response)
    {written : List RefreshTokenRow} {moved : RefreshCall}
    (ran : refreshMove config world.tenancy world.tokens input call = some (written, moved)) :
    written = if insertsSuccessor world caller input then world.tokens ++ [successor.toRow]
      else world.tokens := by
  have isInsert : insertsSuccessor world caller input =
      ((createExchangeRefreshToken world.tokens successor).isOk &&
        input.fault != some ⟨false⟩) := by
    obtain ⟨request, now, consumed, stored, _⟩ := call
    cases point
    simp only [insertsSuccessor, was]
  rw [isInsert]
  rcases insert_cases point ran with ⟨failed | lost, isWritten, _⟩ | ⟨created, committed, _⟩
  · simp [failed, isWritten]
  · simp [lost, isWritten]
  · simp [created, committed, (create_ok created).1, Except.isOk, Except.toBool]

theorem inserting_in_flight (sound : ChainsSound config world) {call : RefreshCall}
    (member : .refresh call ∈ world.calls) {row : RefreshTokenRow}
    {successor : NewRefreshToken} {response : TokenResponse}
    (point : call.point = .insert row successor response) :
    inFlight successor.chainId (.refresh call) = true := by
  obtain ⟨holds, session, _⟩ := successor_parent sound member point
  apply in_flight_iff.mpr
  refine ⟨?_, row, holds.consumed, session.chainId⟩
  rw [point]
  rfl

theorem active_before {tokens : List RefreshTokenRow}
    {change : RefreshTokenRow → RefreshTokenRow} (kept : ∀ row, RowKept row (change row))
    {row : RefreshTokenRow} (member : row ∈ tokens.map change) (active : row.status = .active) :
    ∃ old ∈ tokens, old.chainId = row.chainId ∧ old.status = .active := by
  obtain ⟨old, isOld, isRow⟩ := List.mem_map.mp member
  subst isRow
  refine ⟨old, isOld, (kept old).session.chainId, ?_⟩
  by_contra dead
  exact (kept old).dead dead active

/-- Where an active token comes from: it stood in the table, its chain was opened
by the step, or a refresh in flight on its chain has inserted it. -/
theorem active_origin (sound : ChainsSound config world)
    (stepped : sessionStep config world event = some next) {row : RefreshTokenRow}
    (member : row ∈ next.tokens) (active : row.status = .active) :
    (∃ old ∈ world.tokens, old.chainId = row.chainId ∧ old.status = .active) ∨
      (∀ old ∈ world.tokens, old.chainId ≠ row.chainId) ∨
      ∃ caller input call, event = .advance caller input ∧
        world.calls[caller]? = some call ∧ inFlight row.chainId call = true ∧
        insertsSuccessor world caller input = true := by
  cases session_outcome stepped with
  | surroundings tenancy clock => exact Or.inl ⟨row, member, rfl, active⟩
  | exchangeArrived request => exact Or.inl ⟨row, member, rfl, active⟩
  | refreshArrived request => exact Or.inl ⟨row, member, rfl, active⟩
  | exchanged was ran =>
      cases exchange_effect ran with
      | read born => exact Or.inl ⟨row, member, rfl, active⟩
      | stored point isNew fresh born =>
          rcases List.mem_append.mp member with old | new
          · exact Or.inl ⟨row, old, rfl, active⟩
          · rw [List.mem_singleton.mp new]
            exact Or.inr (Or.inl (opened_chain sound (List.mem_of_getElem? was) point isNew))
  | @refreshed caller input call moved written was ran =>
      have isCall := List.mem_of_getElem? was
      cases refresh_effect (sound.refreshes _ isCall) ran with
      | read consumed stored => exact Or.inl ⟨row, member, rfl, active⟩
      | consumed point found live consumed stored =>
          refine Or.inl (active_before (fun old => ?_) member active)
          split_ifs
          · exact rotated_kept _ old
          · exact row_kept_refl old
      | cascaded point consumed stored =>
          exact Or.inl (active_before (revoked_kept _) member active)
      | inserted point fresh consumed stored =>
          rcases List.mem_append.mp member with old | new
          · exact Or.inl ⟨row, old, rfl, active⟩
          · rw [List.mem_singleton.mp new]
            have commits := insert_commits was point ran
            by_cases inserts : insertsSuccessor world caller input = true
            · exact Or.inr (Or.inr ⟨caller, input, _, rfl, was,
                inserting_in_flight sound isCall point, inserts⟩)
            · rw [if_neg inserts] at commits
              exact absurd commits (by simp)
  | revoked selects isRevocation =>
      exact Or.inl (active_before (revoked_kept selects) member active)

end Step

structure Silenced (config : SessionConfig) (revokedAt : SessionWorld) (chainId : String)
    (world : SessionWorld) : Prop where
  sound : ChainsSound config world
  known : ∃ row ∈ world.tokens, row.chainId = chainId
  silent : ∀ row ∈ world.tokens, row.chainId = chainId → row.status ≠ .active
  flying : ∀ (slot : Nat) call, world.calls[slot]? = some call → inFlight chainId call = true →
    revokedAt.calls[slot]?.any (inFlight chainId) = true

section Silence

variable {config : SessionConfig} {revokedAt world next : SessionWorld} {event : SessionEvent}
  {chainId : String}

theorem known_stays (sound : ChainsSound config world)
    (stepped : sessionStep config world event = some next)
    (known : ∃ row ∈ world.tokens, row.chainId = chainId) :
    ∃ row ∈ next.tokens, row.chainId = chainId := by
  obtain ⟨row, member, ofChain⟩ := known
  obtain ⟨later, isLater, kept⟩ := row_stays (step_write sound stepped) member
  exact ⟨later, isLater, kept.session.chainId.symm.trans ofChain⟩

theorem step_silenced (silenced : Silenced config revokedAt chainId world)
    (new : newChainId world event = true)
    (quiet : overtakes revokedAt chainId world event = false)
    (stepped : sessionStep config world event = some next) :
    Silenced config revokedAt chainId next := by
  obtain ⟨sound, known, silent, flying⟩ := silenced
  refine ⟨step_chains_sound sound new stepped, known_stays sound stepped known, ?_, ?_⟩
  · intro row member ofChain active
    rcases active_origin sound stepped member active with
      ⟨old, isOld, sameChain, wasActive⟩ | opened |
        ⟨caller, input, call, isEvent, was, flies, inserts⟩
    · exact silent old isOld (sameChain.trans ofChain) wasActive
    · obtain ⟨old, isOld, oldChain⟩ := known
      exact opened old isOld (oldChain.trans ofChain.symm)
    · rw [ofChain] at flies
      subst isEvent
      simp only [overtakes, flying caller call was flies, inserts] at quiet
      cases quiet
  · intro slot call there flies
    rcases in_flight_origin sound stepped there flies with
      ⟨before, was, flew⟩ | ⟨old, isOld, ofChain, active⟩
    · exact flying slot before was flew
    · exact absurd active (silent old isOld ofChain)

theorem revoked_if_silent {selects : RefreshTokenRow → Bool} {row : RefreshTokenRow}
    (selected : selects row = true) : (revokedIf selects row).status ≠ .active := by
  unfold revokedIf
  split_ifs with hit
  · exact fun active => by cases active
  · intro active
    simp [selected, active] at hit

theorem cascade_revokes {caller : Nat} {input : StepInput}
    (revokes : revokesChain world chainId (.advance caller input) = true) :
    ∃ call, world.calls[caller]? = some (.refresh call) ∧ call.point = .cascade chainId ∧
      input.fault ≠ some ⟨false⟩ := by
  unfold revokesChain at revokes
  dsimp only at revokes
  split at revokes
  · rename_i request now consumed stored revoked was
    simp only [Bool.and_eq_true, beq_iff_eq, bne_iff_ne] at revokes
    obtain ⟨isChain, committed⟩ := revokes
    subst isChain
    exact ⟨_, was, rfl, committed⟩
  · cases revokes

theorem cascade_step {caller : Nat} {input : StepInput} {call : RefreshCall}
    (was : world.calls[caller]? = some (.refresh call)) (point : call.point = .cascade chainId)
    (committed : input.fault ≠ some ⟨false⟩)
    (stepped : sessionStep config world (.advance caller input) = some next) :
    next.tokens = revokeExchangeRefreshTokenChain world.tokens chainId ∧
      next.calls = world.calls.set caller (.refresh (call.refuse invalidGrant)) := by
  simp only [sessionStep, was, refreshMove, point] at stepped
  cases stepped
  exact ⟨rfl, rfl⟩

/-- Right after the statement that revokes it a chain has no active token, and
the refreshes in flight on it are those that were before. -/
theorem revocation_silences (sound : ChainsSound config world)
    (new : newChainId world event = true)
    (known : ∃ row ∈ world.tokens, row.chainId = chainId)
    (revokes : revokesChain world chainId event = true)
    (stepped : sessionStep config world event = some next) :
    Silenced config world chainId next := by
  refine ⟨step_chains_sound sound new stepped, known_stays sound stepped known, ?_, ?_⟩
  · intro row member ofChain
    cases event with
    | advance caller input =>
        obtain ⟨call, was, point, committed⟩ := cascade_revokes revokes
        rw [(cascade_step was point committed stepped).1] at member
        obtain ⟨old, isOld, isRow⟩ := List.mem_map.mp member
        subst isRow
        rw [← (revoked_kept _ old).session.chainId] at ofChain
        exact revoked_if_silent (beq_iff_eq.mpr ofChain)
    | revokeSessions subject =>
        cases stepped
        obtain ⟨old, isOld, isRow⟩ := List.mem_map.mp member
        subst isRow
        rw [← (revoked_kept _ old).session.chainId] at ofChain
        simp only [revokesChain, List.any_eq_true, Bool.and_eq_true, beq_iff_eq] at revokes
        obtain ⟨own, isOwn, ownChain, ownSubject⟩ := revokes
        have session := sound.oneSession old isOld own isOwn (ofChain.trans ownChain.symm)
        exact revoked_if_silent (beq_iff_eq.mpr (session.subject.trans ownSubject))
    | _ => cases revokes
  · intro slot call there flies
    cases event with
    | advance caller input =>
        obtain ⟨cascading, was, point, committed⟩ := cascade_revokes revokes
        rw [(cascade_step was point committed stepped).2] at there
        rcases slot_of_set there with ⟨_, isRefused⟩ | ⟨_, stood⟩
        · rw [isRefused] at flies
          cases flies
        · simp [stood, flies]
    | revokeSessions subject =>
        cases stepped
        have stood : world.calls[slot]? = some call := there
        simp [stood, flies]
    | _ => cases revokes

/-- The refreshes that were in flight on the chain hold the token they consumed. -/
structure StillHeld (config : SessionConfig) (revokedAt : SessionWorld) (chainId : String)
    (world : SessionWorld) : Prop where
  sound : ChainsSound config world
  held : ∀ slot : Nat, revokedAt.calls[slot]?.any (inFlight chainId) = true →
    ∃ call row, world.calls[slot]? = some (.refresh call) ∧ call.consumed = some row ∧
      row.chainId = chainId

theorem start_still_held (sound : ChainsSound config world) :
    StillHeld config world chainId world := by
  refine ⟨sound, fun slot flies => ?_⟩
  obtain ⟨call, there, inChain⟩ := (Option.any_eq_true _ _).mp flies
  cases call with
  | exchange call => cases inChain
  | refresh call =>
      obtain ⟨_, row, isRow, ofChain⟩ := in_flight_iff.mp inChain
      exact ⟨call, row, there, isRow, ofChain⟩

theorem step_still_held (held : StillHeld config revokedAt chainId world)
    (new : newChainId world event = true)
    (stepped : sessionStep config world event = some next) :
    StillHeld config revokedAt chainId next := by
  refine ⟨step_chains_sound held.sound new stepped, fun slot flies => ?_⟩
  obtain ⟨call, row, there, isRow, ofChain⟩ := held.held slot flies
  obtain ⟨moved, isMoved, movedRow⟩ := consumed_stays held.sound stepped there isRow
  exact ⟨moved, row, isMoved, movedRow, ofChain⟩

theorem overtaking_revives (held : StillHeld config revokedAt chainId world)
    (overtaking : overtakes revokedAt chainId world event = true) :
    ∃ next, sessionStep config world event = some next ∧
      ∃ row ∈ next.tokens, row.chainId = chainId ∧ row.status = .active := by
  cases event with
  | advance caller input =>
      simp only [overtakes, Bool.and_eq_true] at overtaking
      obtain ⟨flew, inserts⟩ := overtaking
      obtain ⟨call, row, there, isRow, ofChain⟩ := held.held caller flew
      cases point : call.point with
      | insert parent successor response =>
          obtain ⟨holds, session, _⟩ :=
            successor_parent held.sound (List.mem_of_getElem? there) point
          cases ran : refreshMove config world.tenancy world.tokens input call with
          | none =>
              simp only [refreshMove, point] at ran
              split at ran <;> cases ran
          | some outcome =>
              obtain ⟨written, moved⟩ := outcome
              have commits := insert_commits there point ran
              rw [if_pos inserts] at commits
              refine ⟨{ world with
                  tokens := written
                  calls := world.calls.set caller (.refresh moved) }, ?_, ?_⟩
              · simp only [sessionStep, there, ran, Option.map_some]
              refine ⟨successor.toRow, ?_, ?_, rfl⟩
              · rw [commits]
                exact List.mem_concat_self
              · rw [← session.chainId, ← ofChain]
                rw [holds.consumed] at isRow
                cases isRow
                rfl
      | _ =>
          obtain ⟨request, now, consumed, stored, _⟩ := call
          cases point
          simp only [insertsSuccessor, there] at inserts
          cases inserts
  | _ => cases overtaking

end Silence

/-- At no later point of the run the chain has an active token. -/
def StaysRevoked (config : SessionConfig) (world : SessionWorld) (after : List SessionEvent)
    (chainId : String) : Prop :=
  ∀ front back last, after = front ++ back →
    runFrom (sessionStep config) world front = some last →
    ∀ row ∈ last.tokens, row.chainId = chainId → row.status ≠ .active

section Run

variable {config : SessionConfig} {revokedAt world : SessionWorld} {after : List SessionEvent}
  {chainId : String}

theorem silenced_stays_revoked (silenced : Silenced config revokedAt chainId world)
    (new : Meets (sessionStep config) (fun current event => newChainId current event = true) world
      after)
    (quiet : Meets (sessionStep config)
      (fun current event => overtakes revokedAt chainId current event = false) world after) :
    StaysRevoked config world after chainId := by
  intro front back last isAfter ran
  rw [isAfter] at new quiet
  have met := meets_and (meets_append_some new ran).1 (meets_append_some quiet ran).1
  have later : Silenced config revokedAt chainId last :=
    run_preserves_of_meets (Silenced config revokedAt chainId)
      (fun _ _ _ silenced met stepped => step_silenced silenced met.1 met.2 stepped)
      silenced met ran
  exact later.silent

theorem quiet_of_stays_revoked (held : StillHeld config revokedAt chainId world)
    (new : Meets (sessionStep config) (fun current event => newChainId current event = true) world
      after)
    (stays : StaysRevoked config world after chainId) :
    Meets (sessionStep config)
      (fun current event => overtakes revokedAt chainId current event = false) world after := by
  apply meets_of_prefixes
  intro front event back middle isAfter ran
  rw [isAfter] at new
  have later : StillHeld config revokedAt chainId middle :=
    run_preserves_of_meets (StillHeld config revokedAt chainId)
      (fun _ _ _ held new stepped => step_still_held held new stepped)
      held (meets_append_some new ran).1 ran
  cases overtaking : overtakes revokedAt chainId middle event with
  | false => rfl
  | true =>
      obtain ⟨next, stepped, row, member, ofChain, active⟩ := overtaking_revives later overtaking
      have reached : runFrom (sessionStep config) world (front ++ [event]) = some next :=
        run_append ran (by simp [runFrom, stepped])
      have isSplit : after = (front ++ [event]) ++ back := by simp [isAfter]
      exact absurd active (stays _ back next isSplit reached row member ofChain)

theorem quiet_of_none_in_flight
    (noneInFlight : ∀ call ∈ revokedAt.calls, inFlight chainId call = false) :
    Meets (sessionStep config)
      (fun current event => overtakes revokedAt chainId current event = false) world after := by
  apply meets_of_forall_mem
  intro event _ current
  cases event with
  | advance caller input =>
      cases there : revokedAt.calls[caller]? with
      | none => simp [overtakes, there]
      | some call => simp [overtakes, there, noneInFlight call (List.mem_of_getElem? there)]
  | _ => rfl

end Run

/-- In every run, a chain that a cascade or a kill switch revokes has no active
token at any later point if and only if none of the refreshes that were in flight
on it at the revocation inserts its successor later. -/
theorem revocation_final_iff (config : SessionConfig) (start : SessionWorld)
    (starts : SessionStart start) (before : List SessionEvent) (event : SessionEvent)
    (after : List SessionEvent)
    (new : Meets (sessionStep config) (fun world event => newChainId world event = true) start
      (before ++ event :: after))
    (revokedAt next : SessionWorld)
    (reached : runFrom (sessionStep config) start before = some revokedAt)
    (stepped : sessionStep config revokedAt event = some next) (chainId : String)
    (existed : ∃ row ∈ revokedAt.tokens, row.chainId = chainId)
    (revokes : revokesChain revokedAt chainId event = true) :
    StaysRevoked config next after chainId ↔
      Meets (sessionStep config)
        (fun world event => overtakes revokedAt chainId world event = false) next after := by
  obtain ⟨newBefore, newThen⟩ := meets_append_some new reached
  obtain ⟨newNow, newAfter⟩ := meets_cons_some newThen stepped
  have sound : ChainsSound config revokedAt := reachable_chains_sound starts newBefore reached
  constructor
  · intro stays
    exact quiet_of_stays_revoked (step_still_held (start_still_held sound) newNow stepped)
      newAfter stays
  · intro quiet
    exact silenced_stays_revoked (revocation_silences sound newNow existed revokes stepped)
      newAfter quiet

/-- One of two refreshes of a token has consumed it, the other has found it
rotated. -/
def beforeCascade : List SessionEvent :=
  exchangeBy 0 "c1" "s0" ++
    [.tick 60000000, .refresh ⟨sampleClient, some "s0"⟩, .refresh ⟨sampleClient, some "s0"⟩] ++
    advances 1 "t1" "s1" 1 ++ advances 2 "t2" "s2" 2

theorem revocation_run (chainId : String) {before after : List SessionEvent}
    {event : SessionEvent} {check : SessionWorld → Bool}
    (revoking : reaches (sessionStep sampleConfig) sampleWorld before (fun world =>
      (world.tokens.any fun row => row.chainId == chainId) &&
        revokesChain world chainId event) = true)
    (passed : reaches (sessionStep sampleConfig) sampleWorld (before ++ event :: after) check =
      true) :
    ∃ revokedAt next last, runFrom (sessionStep sampleConfig) sampleWorld before = some revokedAt ∧
      sessionStep sampleConfig revokedAt event = some next ∧
      runFrom (sessionStep sampleConfig) next after = some last ∧
      (∃ row ∈ revokedAt.tokens, row.chainId = chainId) ∧
      revokesChain revokedAt chainId event = true ∧ check last = true := by
  obtain ⟨last, ran, isChecked⟩ := exists_of_reaches passed
  obtain ⟨revokedAt, reached, tail⟩ := run_append_some ran
  obtain ⟨next, stepped, rest⟩ := run_cons_some tail
  obtain ⟨same, sameReached, found⟩ := exists_of_reaches revoking
  cases sameReached.symm.trans reached
  simp only [Bool.and_eq_true, List.any_eq_true, beq_iff_eq] at found
  exact ⟨revokedAt, next, last, reached, stepped, rest, found.1, found.2, isChecked⟩

/-- The first refresh inserts its successor after the cascade: the stolen chain
is alive again. -/
theorem cascade_overtaken_by_refresh :
    ¬ ∀ (config : SessionConfig) (start : SessionWorld) (before : List SessionEvent)
        (event : SessionEvent) (after : List SessionEvent) (revokedAt next : SessionWorld)
        (chainId : String), SessionStart start →
        Meets (sessionStep config) (fun world event => newChainId world event = true) start
          (before ++ event :: after) →
        runFrom (sessionStep config) start before = some revokedAt →
        sessionStep config revokedAt event = some next →
        (∃ row ∈ revokedAt.tokens, row.chainId = chainId) →
        revokesChain revokedAt chainId event = true →
        StaysRevoked config next after chainId := by
  intro claimed
  have passed : reaches (sessionStep sampleConfig) sampleWorld
      (beforeCascade ++ .advance 2 (sampleInput "t2" "s2") :: advances 1 "t1" "s1" 6)
      (fun world => world.tokens.any (activeIn "c1")) = true := by
    decide +kernel
  obtain ⟨revokedAt, next, last, reached, stepped, rest, existed, revokes, active⟩ :=
    revocation_run "c1" (by decide +kernel) passed
  have stays := claimed sampleConfig sampleWorld beforeCascade
    (.advance 2 (sampleInput "t2" "s2")) (advances 1 "t1" "s1" 6) revokedAt next "c1"
    sample_world_starts (by decide +kernel) reached stepped existed revokes
  obtain ⟨row, member, isActive⟩ := List.any_eq_true.mp active
  simp only [activeIn, Bool.and_eq_true, beq_iff_eq] at isActive
  exact stays _ [] last (List.append_nil _).symm rest row member isActive.1 isActive.2

/-- A kill switch with no refresh in flight: a later refresh of the token is
refused, and the chain stays without an active token. -/
theorem kill_switch_stays :
    ∃ revokedAt next last,
      runFrom (sessionStep sampleConfig) sampleWorld (exchangeBy 0 "c1" "s0") = some revokedAt ∧
      sessionStep sampleConfig revokedAt (.revokeSessions "alice") = some next ∧
      runFrom (sessionStep sampleConfig) next
        (.refresh ⟨sampleClient, some "s0"⟩ :: advances 1 "t1" "s1" 2) = some last ∧
      StaysRevoked sampleConfig next
        (.refresh ⟨sampleClient, some "s0"⟩ :: advances 1 "t1" "s1" 2) "c1" := by
  have passed : reaches (sessionStep sampleConfig) sampleWorld
      (exchangeBy 0 "c1" "s0" ++ .revokeSessions "alice" ::
        .refresh ⟨sampleClient, some "s0"⟩ :: advances 1 "t1" "s1" 2)
      (fun world => world.calls.length == 2) = true := by
    decide +kernel
  obtain ⟨revokedAt, next, last, reached, stepped, rest, existed, revokes, _⟩ :=
    revocation_run "c1" (by decide +kernel) passed
  refine ⟨revokedAt, next, last, reached, stepped, rest, ?_⟩
  have idle : reaches (sessionStep sampleConfig) sampleWorld (exchangeBy 0 "c1" "s0")
      (fun world => world.calls.all fun call => !inFlight "c1" call) = true := by
    decide +kernel
  obtain ⟨same, sameReached, noneInFlight⟩ := exists_of_reaches idle
  cases sameReached.symm.trans reached
  apply (revocation_final_iff sampleConfig sampleWorld sample_world_starts
    (exchangeBy 0 "c1" "s0") (.revokeSessions "alice")
    (.refresh ⟨sampleClient, some "s0"⟩ :: advances 1 "t1" "s1" 2)
    (by decide +kernel) revokedAt next reached stepped "c1" existed revokes).mpr
  exact quiet_of_none_in_flight (by simpa using noneInFlight)

end LightbridgeAuthz.Sessions.FinalRevocation

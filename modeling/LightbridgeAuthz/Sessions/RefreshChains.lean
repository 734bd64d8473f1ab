import LightbridgeAuthz.Library.CallSlots
import LightbridgeAuthz.Sessions.SessionSteps

/-!
# Rotation chains

A rotation takes the live token of a chain in one statement and puts its
successor back in another. In between the call owes the chain a token. Over any
interleaving of exchanges, refreshes and revocations a chain has at most one live
or owed token, its tokens are all of one session, and no token is consumed by two
calls.
-/

namespace LightbridgeAuthz.Sessions.RefreshChains

open Library.EventRun Library.KeyedRows Library.CallSlots
open Access.Tenancy RefreshTokens TokenGrants SessionCalls SessionSteps

set_option autoImplicit false

def activeIn (chainId : String) (row : RefreshTokenRow) : Bool :=
  row.chainId == chainId && row.status == .active

/-- The call has consumed a token of the chain and not inserted its successor,
whether or not it ever will. -/
def owes (chainId : String) : SessionCall → Bool
  | .exchange _ => false
  | .refresh call => !call.stored && call.consumed.any fun row => row.chainId == chainId

/-- The live tokens of a chain and the tokens it is owed. -/
def pending (world : SessionWorld) (chainId : String) : Nat :=
  world.tokens.countP (activeIn chainId) + world.calls.countP (owes chainId)

/-- The chain id that an exchange has generated and is about to store. -/
def chosenChain : SessionCall → Option String
  | .exchange { point := .store _ token _, .. } => token.identity.get "chain_id"
  | _ => none

/-- The next step of the call generates a chain id. -/
def choosesChain : SessionCall → Bool
  | .exchange { point := .quotaTier .., .. } => true
  | _ => false

/-- What `cuid2` promises of a chain id: it is new. -/
def newChainId (world : SessionWorld) : SessionEvent → Bool
  | .advance caller input =>
      !(world.calls[caller]?.any choosesChain) ||
        (world.tokens.all (fun row => row.chainId != input.chainId) &&
          world.calls.all (fun call => chosenChain call != some input.chainId))
  | _ => true

structure SessionStart (world : SessionWorld) : Prop where
  uniqueHashes : UniqueKeys tokenHash world.tokens
  oneLive : ∀ chainId, world.tokens.countP (activeIn chainId) ≤ 1
  oneSession : ∀ left ∈ world.tokens, ∀ right ∈ world.tokens,
    left.chainId = right.chainId → SameSession left right
  idle : world.calls = []

/-- What a statement leaves of a stored token: its hash and session, and a token
that is not live never becomes live. -/
structure RowKept (row later : RefreshTokenRow) : Prop where
  hash : later.tokenHash = row.tokenHash
  session : SameSession row later
  spent : row.status = .rotated → later.status = .rotated
  dead : row.status ≠ .active → later.status ≠ .active

theorem row_kept_refl (row : RefreshTokenRow) : RowKept row row :=
  ⟨rfl, same_session_refl row, id, id⟩

theorem rotated_kept (now : Int) (row : RefreshTokenRow) : RowKept row (rotated now row) where
  hash := rfl
  session := ⟨rfl, rfl, rfl, rfl, rfl, rfl, rfl, rfl, rfl⟩
  spent := fun _ => rfl
  dead := fun _ live => by cases live

theorem revoked_kept (selects : RefreshTokenRow → Bool) (row : RefreshTokenRow) :
    RowKept row (revokedIf selects row) := by
  unfold revokedIf
  split_ifs with hit
  · have active : row.status = .active := beq_iff_eq.mp (Bool.and_eq_true_iff.mp hit).2
    refine ⟨rfl, ⟨rfl, rfl, rfl, rfl, rfl, rfl, rfl, rfl, rfl⟩, fun spent => ?_,
      fun dead => absurd active dead⟩
    rw [active] at spent
    cases spent
  · exact row_kept_refl row

/-- What a statement does to the table. An inserted token continues the session
of a stored one, or opens a chain. -/
inductive TokenWrite (tokens : List RefreshTokenRow) : List RefreshTokenRow → Prop where
  | changed (change : RefreshTokenRow → RefreshTokenRow)
      (kept : ∀ row, RowKept row (change row)) : TokenWrite tokens (tokens.map change)
  | inserted (new : NewRefreshToken) (fresh : ∀ old ∈ tokens, tokenHash old ≠ some new.tokenHash)
      (chain : (∃ old ∈ tokens, SameSession old new.toRow) ∨
        ∀ old ∈ tokens, old.chainId ≠ new.chainId) :
      TokenWrite tokens (tokens ++ [new.toRow])

theorem unchanged_write (tokens : List RefreshTokenRow) : TokenWrite tokens tokens := by
  have written := @TokenWrite.changed tokens id row_kept_refl
  rwa [List.map_id] at written

section Write

variable {tokens written : List RefreshTokenRow}

theorem write_unique (write : TokenWrite tokens written) (unique : UniqueKeys tokenHash tokens) :
    UniqueKeys tokenHash written := by
  cases write with
  | changed change kept =>
      exact unique_keys_map unique fun row => congrArg some (kept row).hash
  | inserted new fresh chain =>
      apply unique_keys_append unique
      intro hash isHash
      cases isHash
      exact fresh

theorem row_stays (write : TokenWrite tokens written) {row : RefreshTokenRow}
    (member : row ∈ tokens) : ∃ later ∈ written, RowKept row later := by
  cases write with
  | changed change kept => exact ⟨change row, List.mem_map_of_mem member, kept row⟩
  | inserted new fresh chain => exact ⟨row, List.mem_append_left _ member, row_kept_refl row⟩

theorem write_one_session (write : TokenWrite tokens written)
    (oneSession : ∀ left ∈ tokens, ∀ right ∈ tokens,
      left.chainId = right.chainId → SameSession left right) :
    ∀ left ∈ written, ∀ right ∈ written,
      left.chainId = right.chainId → SameSession left right := by
  cases write with
  | changed change kept =>
      intro left leftMember right rightMember same
      obtain ⟨oldLeft, leftOld, isLeft⟩ := List.mem_map.mp leftMember
      obtain ⟨oldRight, rightOld, isRight⟩ := List.mem_map.mp rightMember
      subst isLeft isRight
      have leftSession := (kept oldLeft).session
      have rightSession := (kept oldRight).session
      have sameOld : oldLeft.chainId = oldRight.chainId := by
        rw [leftSession.chainId, same, rightSession.chainId]
      exact same_session_trans (same_session_symm leftSession)
        (same_session_trans (oneSession _ leftOld _ rightOld sameOld) rightSession)
  | inserted new fresh chain =>
      have joins : ∀ old ∈ tokens, old.chainId = new.toRow.chainId →
          SameSession old new.toRow := by
        intro old member same
        rcases chain with ⟨parent, stored, session⟩ | unused
        · exact same_session_trans
            (oneSession old member parent stored (same.trans session.chainId.symm)) session
        · exact absurd same (unused old member)
      intro left leftMember right rightMember same
      rcases List.mem_append.mp leftMember with leftOld | leftNew <;>
        rcases List.mem_append.mp rightMember with rightOld | rightNew
      · exact oneSession left leftOld right rightOld same
      · rw [List.mem_singleton.mp rightNew] at same ⊢
        exact joins left leftOld same
      · rw [List.mem_singleton.mp leftNew] at same ⊢
        exact same_session_symm (joins right rightOld same.symm)
      · rw [List.mem_singleton.mp leftNew, List.mem_singleton.mp rightNew]
        exact same_session_refl _

end Write

structure ChainsSound (config : SessionConfig) (world : SessionWorld) : Prop where
  refreshes : RefreshesSound config world
  uniqueHashes : UniqueKeys tokenHash world.tokens
  oneLive : ∀ chainId, pending world chainId ≤ 1
  oneSession : ∀ left ∈ world.tokens, ∀ right ∈ world.tokens,
    left.chainId = right.chainId → SameSession left right
  spent : ∀ call row, .refresh call ∈ world.calls → call.consumed = some row →
    ∃ stored ∈ world.tokens, stored.tokenHash = row.tokenHash ∧ SameSession row stored ∧
      stored.status = .rotated
  once : ∀ (left right : Nat) leftCall rightCall leftRow rightRow,
    world.calls[left]? = some (.refresh leftCall) → leftCall.consumed = some leftRow →
    world.calls[right]? = some (.refresh rightCall) → rightCall.consumed = some rightRow →
    leftRow.tokenHash = rightRow.tokenHash → left = right
  unused : ∀ call chainId, call ∈ world.calls → chosenChain call = some chainId →
    ∀ row ∈ world.tokens, row.chainId ≠ chainId
  ownChain : ∀ (left right : Nat) leftCall rightCall chainId,
    world.calls[left]? = some leftCall → chosenChain leftCall = some chainId →
    world.calls[right]? = some rightCall → chosenChain rightCall = some chainId → left = right
  born : ∀ call now row, .exchange call ∈ world.calls → call.born = some (now, row) →
    ∃ stored ∈ world.tokens, SameSession row stored

section Step

variable {config : SessionConfig} {world next : SessionWorld} {event : SessionEvent}

theorem successor_parent (sound : ChainsSound config world) {call : RefreshCall}
    (member : .refresh call ∈ world.calls) {row : RefreshTokenRow}
    {successor : NewRefreshToken} {response : TokenResponse}
    (point : call.point = .insert row successor response) :
    Holds call row ∧ SameSession row successor.toRow ∧
      ∃ old ∈ world.tokens, SameSession old successor.toRow := by
  have knows := (sound.refreshes call member).knows
  simp only [RefreshKnows, point] at knows
  obtain ⟨holds, session, _⟩ := knows
  obtain ⟨stored, isStored, _, storedSession, _⟩ := sound.spent call row member holds.consumed
  exact ⟨holds, session, stored, isStored,
    same_session_trans (same_session_symm storedSession) session⟩

theorem opened_chain (sound : ChainsSound config world) {call : ExchangeCall}
    (member : .exchange call ∈ world.calls) {now createdAt : Int} {id : String}
    {token : RefreshToken} {response : TokenResponse} {new : NewRefreshToken}
    (point : call.point = .store now token response)
    (isNew : storedToken config.time config.hashApiKey token id createdAt = some new) :
    ∀ old ∈ world.tokens, old.chainId ≠ new.chainId := by
  apply sound.unused _ new.chainId member
  obtain ⟨request, born, _⟩ := call
  cases point
  exact stored_chain isNew

theorem step_write (sound : ChainsSound config world)
    (stepped : sessionStep config world event = some next) :
    TokenWrite world.tokens next.tokens := by
  cases session_outcome stepped with
  | surroundings tenancy clock => exact unchanged_write _
  | exchangeArrived request => exact unchanged_write _
  | refreshArrived request => exact unchanged_write _
  | exchanged was ran =>
      cases exchange_effect ran with
      | read born => exact unchanged_write _
      | stored point isNew fresh born =>
          exact .inserted _ fresh
            (Or.inr (opened_chain sound (List.mem_of_getElem? was) point isNew))
  | refreshed was ran =>
      have member := List.mem_of_getElem? was
      cases refresh_effect (sound.refreshes _ member) ran with
      | read consumed stored => exact unchanged_write _
      | consumed point found active consumed stored =>
          apply TokenWrite.changed
          intro row
          split_ifs
          · exact rotated_kept _ row
          · exact row_kept_refl row
      | cascaded point consumed stored => exact .changed _ (revoked_kept _)
      | inserted point fresh consumed stored =>
          exact .inserted _ fresh (Or.inl (successor_parent sound member point).2.2)
  | revoked selects isRevocation => exact .changed _ (revoked_kept selects)

/-- A step by which the refresh in a slot consumes a token. -/
structure Consumption (world : SessionWorld) (event : SessionEvent) (next : SessionWorld)
    (slot : Nat) (row old : RefreshTokenRow) : Prop where
  caller : ∃ input, event = .advance slot input
  found : findKey tokenHash world.tokens row.tokenHash = some old
  active : old.status = .active
  took : ∃ now, row = rotated now old ∧
    next.tokens = updateKey tokenHash world.tokens row.tokenHash (rotated now)

theorem consumed_origin (sound : RefreshesSound config world)
    (stepped : sessionStep config world event = some next) {slot : Nat} {moved : RefreshCall}
    {row : RefreshTokenRow} (there : next.calls[slot]? = some (.refresh moved))
    (isRow : moved.consumed = some row) :
    (∃ call, world.calls[slot]? = some (.refresh call) ∧ call.consumed = some row) ∨
      ∃ old, Consumption world event next slot row old := by
  cases session_outcome stepped with
  | surroundings tenancy clock => exact Or.inl ⟨moved, there, isRow⟩
  | exchangeArrived request =>
      rcases slot_of_append there with old | new
      · exact Or.inl ⟨moved, old, isRow⟩
      · cases new
  | refreshArrived request =>
      rcases slot_of_append there with old | new
      · exact Or.inl ⟨moved, old, isRow⟩
      · cases new
        cases isRow
  | exchanged was ran =>
      rcases slot_of_set there with ⟨_, isMoved⟩ | ⟨_, old⟩
      · cases isMoved
      · exact Or.inl ⟨moved, old, isRow⟩
  | @refreshed caller input call after written was ran =>
      rcases slot_of_set there with ⟨isCaller, isMoved⟩ | ⟨_, old⟩
      · cases isMoved
        subst isCaller
        cases refresh_effect (sound _ (List.mem_of_getElem? was)) ran with
        | read consumed stored => exact Or.inl ⟨call, was, consumed.symm.trans isRow⟩
        | consumed point found active consumed stored =>
            have isRotated := Option.some.inj (consumed.symm.trans isRow)
            have hash := consumed_hash call.now found
            rw [isRotated] at hash
            rw [← hash] at found
            refine Or.inr ⟨_, ⟨input, rfl⟩, found, active, call.now, isRotated.symm, ?_⟩
            rw [hash]
        | cascaded point consumed stored => exact Or.inl ⟨call, was, consumed.symm.trans isRow⟩
        | inserted point fresh consumed stored =>
            exact Or.inl ⟨call, was, consumed.symm.trans isRow⟩
      · exact Or.inl ⟨moved, old, isRow⟩
  | revoked selects isRevocation => exact Or.inl ⟨moved, there, isRow⟩

theorem step_spent (sound : ChainsSound config world)
    (stepped : sessionStep config world event = some next) (call : RefreshCall)
    (row : RefreshTokenRow) (member : .refresh call ∈ next.calls)
    (isRow : call.consumed = some row) :
    ∃ stored ∈ next.tokens, stored.tokenHash = row.tokenHash ∧ SameSession row stored ∧
      stored.status = .rotated := by
  obtain ⟨slot, there⟩ := List.mem_iff_getElem?.mp member
  rcases consumed_origin sound.refreshes stepped there isRow with
    ⟨before, was, isBefore⟩ | ⟨old, consumption⟩
  · obtain ⟨stored, isStored, hash, session, spent⟩ :=
      sound.spent before row (List.mem_of_getElem? was) isBefore
    obtain ⟨later, isLater, kept⟩ := row_stays (step_write sound stepped) isStored
    exact ⟨later, isLater, kept.hash.trans hash, same_session_trans session kept.session,
      kept.spent spent⟩
  · obtain ⟨now, isRotated, isNext⟩ := consumption.took
    have found := consumption.found
    refine ⟨row, ?_, rfl, same_session_refl row, congrArg RefreshTokenRow.status isRotated⟩
    rw [isNext]
    apply mem_update_key.mpr
    refine ⟨old, (find_key_some found).1, ?_⟩
    rw [if_pos (find_key_some found).2, ← isRotated]

theorem consumption_first (sound : ChainsSound config world) {slot other : Nat}
    {row old : RefreshTokenRow} (consumption : Consumption world event next slot row old)
    {call : RefreshCall} {earlier : RefreshTokenRow}
    (was : world.calls[other]? = some (.refresh call)) (isEarlier : call.consumed = some earlier)
    (same : earlier.tokenHash = row.tokenHash) : False := by
  obtain ⟨stored, isStored, hash, _, spent⟩ :=
    sound.spent call earlier (List.mem_of_getElem? was) isEarlier
  obtain ⟨isOld, oldHash⟩ := find_key_some consumption.found
  have isFound : stored = old :=
    unique_keys_eq sound.uniqueHashes isStored isOld (congrArg some (hash.trans same)) oldHash
  have active := consumption.active
  rw [← isFound, spent] at active
  cases active

theorem step_once (sound : ChainsSound config world)
    (stepped : sessionStep config world event = some next) (left right : Nat)
    (leftCall rightCall : RefreshCall) (leftRow rightRow : RefreshTokenRow)
    (leftThere : next.calls[left]? = some (.refresh leftCall))
    (isLeft : leftCall.consumed = some leftRow)
    (rightThere : next.calls[right]? = some (.refresh rightCall))
    (isRight : rightCall.consumed = some rightRow)
    (same : leftRow.tokenHash = rightRow.tokenHash) : left = right := by
  rcases consumed_origin sound.refreshes stepped leftThere isLeft with
    ⟨leftBefore, leftWas, leftOld⟩ | ⟨_, leftNow⟩
  · rcases consumed_origin sound.refreshes stepped rightThere isRight with
      ⟨rightBefore, rightWas, rightOld⟩ | ⟨_, rightNow⟩
    · exact sound.once left right _ _ _ _ leftWas leftOld rightWas rightOld same
    · exact (consumption_first sound rightNow leftWas leftOld same).elim
  · rcases consumed_origin sound.refreshes stepped rightThere isRight with
      ⟨rightBefore, rightWas, rightOld⟩ | ⟨_, rightNow⟩
    · exact (consumption_first sound leftNow rightWas rightOld same.symm).elim
    · obtain ⟨_, isLeftCaller⟩ := leftNow.caller
      obtain ⟨_, isRightCaller⟩ := rightNow.caller
      rw [isLeftCaller] at isRightCaller
      cases isRightCaller
      rfl

theorem born_origin (stepped : sessionStep config world event = some next)
    {call : ExchangeCall} (member : .exchange call ∈ next.calls) {now : Int}
    {row : RefreshTokenRow} (isBorn : call.born = some (now, row)) :
    (∃ before, .exchange before ∈ world.calls ∧ before.born = some (now, row)) ∨
      row ∈ next.tokens := by
  cases session_outcome stepped with
  | surroundings tenancy clock => exact Or.inl ⟨call, member, isBorn⟩
  | exchangeArrived request =>
      rcases List.mem_append.mp member with old | new
      · exact Or.inl ⟨call, old, isBorn⟩
      · cases List.mem_singleton.mp new
        cases isBorn
  | refreshArrived request =>
      rcases List.mem_append.mp member with old | new
      · exact Or.inl ⟨call, old, isBorn⟩
      · cases List.mem_singleton.mp new
  | exchanged was ran =>
      rcases List.mem_or_eq_of_mem_set member with old | isMoved
      · exact Or.inl ⟨call, old, isBorn⟩
      · cases isMoved
        cases exchange_effect ran with
        | read born => exact Or.inl ⟨_, List.mem_of_getElem? was, born.symm.trans isBorn⟩
        | stored point isNew fresh born =>
            cases born.symm.trans isBorn
            exact Or.inr List.mem_concat_self
  | refreshed was ran =>
      rcases List.mem_or_eq_of_mem_set member with old | isMoved
      · exact Or.inl ⟨call, old, isBorn⟩
      · cases isMoved
  | revoked selects isRevocation => exact Or.inl ⟨call, member, isBorn⟩

theorem step_born (sound : ChainsSound config world)
    (stepped : sessionStep config world event = some next) (call : ExchangeCall) (now : Int)
    (row : RefreshTokenRow) (member : .exchange call ∈ next.calls)
    (isBorn : call.born = some (now, row)) : ∃ stored ∈ next.tokens, SameSession row stored := by
  rcases born_origin stepped member isBorn with ⟨before, was, isBefore⟩ | isStored
  · obtain ⟨stored, isStored, session⟩ := sound.born before now row was isBefore
    obtain ⟨later, isLater, kept⟩ := row_stays (step_write sound stepped) isStored
    exact ⟨later, isLater, same_session_trans session kept.session⟩
  · exact ⟨row, isStored, same_session_refl row⟩

theorem chosen_move {tenancy : TenancyDb} {tokens written : List RefreshTokenRow} {clock : Int}
    {input : StepInput} {call moved : ExchangeCall}
    (ran : exchangeMove config tenancy tokens clock input call = some (written, moved))
    {chainId : String} (chosen : chosenChain (.exchange moved) = some chainId) :
    choosesChain (.exchange call) = true ∧ chainId = input.chainId ∧ written = tokens := by
  obtain ⟨request, born, point⟩ := call
  cases point with
  | quotaTier info context allowedModels modelPolicy now budgetTier =>
      simp only [exchangeMove] at ran
      split at ran
      · cases ran
        cases chosen
      · cases ran
        refine ⟨rfl, ?_, rfl⟩
        rcases mint_exchange_cases config ⟨request, born, _⟩ info _ now input with
          ⟨error, refused⟩ | ⟨_, minted⟩ | ⟨scopes, chainExpiresAt, expiresAt, _, minted⟩
        · rw [refused] at chosen
          cases chosen
        · rw [minted] at chosen
          cases chosen
        · rw [minted] at chosen
          exact Option.some.inj (chosen.symm.trans (first_token_chain _ _ _ _ _ _ _ _))
  | returned answer => cases ran
  | _ =>
      simp only [exchangeMove] at ran
      repeat' split at ran
      all_goals
        cases ran
        cases chosen

theorem chosen_origin (stepped : sessionStep config world event = some next) {slot : Nat}
    {moved : SessionCall} {chainId : String} (there : next.calls[slot]? = some moved)
    (chosen : chosenChain moved = some chainId) :
    world.calls[slot]? = some moved ∨
      ∃ input call, event = .advance slot input ∧ world.calls[slot]? = some call ∧
        choosesChain call = true ∧ chainId = input.chainId ∧ next.tokens = world.tokens := by
  cases session_outcome stepped with
  | surroundings tenancy clock => exact Or.inl there
  | exchangeArrived request =>
      rcases slot_of_append there with old | new
      · exact Or.inl old
      · subst new
        unfold arriveExchange at chosen
        cases refusal : exchangeRefusal config request <;> simp [chosenChain, refusal] at chosen
  | refreshArrived request =>
      rcases slot_of_append there with old | new
      · exact Or.inl old
      · subst new
        cases chosen
  | @exchanged caller input call after written was ran =>
      rcases slot_of_set there with ⟨isCaller, isMoved⟩ | ⟨_, old⟩
      · subst isCaller isMoved
        obtain ⟨chooses, isChosen, kept⟩ := chosen_move ran chosen
        exact Or.inr ⟨input, _, rfl, was, chooses, isChosen, kept⟩
      · exact Or.inl old
  | refreshed was ran =>
      rcases slot_of_set there with ⟨_, isMoved⟩ | ⟨_, old⟩
      · subst isMoved
        cases chosen
      · exact Or.inl old
  | revoked selects isRevocation => exact Or.inl there

theorem refreshed_chain (sound : ChainsSound config world) {tenancy : TenancyDb}
    {input : StepInput} {call moved : RefreshCall} (isCall : .refresh call ∈ world.calls)
    {written : List RefreshTokenRow}
    (ran : refreshMove config tenancy world.tokens input call = some (written, moved))
    {row : RefreshTokenRow} (member : row ∈ written) :
    ∃ old ∈ world.tokens, old.chainId = row.chainId := by
  cases refresh_effect (sound.refreshes call isCall) ran with
  | read consumed stored => exact ⟨row, member, rfl⟩
  | consumed point found active consumed stored =>
      obtain ⟨old, isOld, isRow⟩ := mem_update_key.mp member
      refine ⟨old, isOld, ?_⟩
      rw [← isRow]
      split_ifs <;> rfl
  | cascaded point consumed stored =>
      obtain ⟨old, isOld, isRow⟩ := List.mem_map.mp member
      subst isRow
      exact ⟨old, isOld, (revoked_kept _ old).session.chainId⟩
  | inserted point fresh consumed stored =>
      rcases List.mem_append.mp member with old | new
      · exact ⟨row, old, rfl⟩
      · obtain ⟨_, _, parent, isParent, session⟩ := successor_parent sound isCall point
        rw [List.mem_singleton.mp new]
        exact ⟨parent, isParent, session.chainId⟩

theorem chain_origin (sound : ChainsSound config world)
    (stepped : sessionStep config world event = some next) {row : RefreshTokenRow}
    (member : row ∈ next.tokens) :
    (∃ old ∈ world.tokens, old.chainId = row.chainId) ∨
      ∃ caller call moved, world.calls[caller]? = some call ∧
        chosenChain call = some row.chainId ∧ next.calls = world.calls.set caller moved ∧
        chosenChain moved = none := by
  cases session_outcome stepped with
  | surroundings tenancy clock => exact Or.inl ⟨row, member, rfl⟩
  | exchangeArrived request => exact Or.inl ⟨row, member, rfl⟩
  | refreshArrived request => exact Or.inl ⟨row, member, rfl⟩
  | @exchanged caller input call moved written was ran =>
      cases exchange_effect ran with
      | read born => exact Or.inl ⟨row, member, rfl⟩
      | stored point isNew fresh born =>
          rcases List.mem_append.mp member with old | new
          · exact Or.inl ⟨row, old, rfl⟩
          · have isRow := List.mem_singleton.mp new
            refine Or.inr ⟨caller, _, _, was, ?_, rfl, ?_⟩
            · obtain ⟨request, _, _⟩ := call
              cases point
              rw [isRow]
              exact stored_chain isNew
            · cases chosen : chosenChain (.exchange moved) with
              | none => rfl
              | some chainId =>
                  have chooses := (chosen_move ran chosen).1
                  obtain ⟨request, _, _⟩ := call
                  cases point
                  cases chooses
  | refreshed was ran =>
      exact Or.inl (refreshed_chain sound (List.mem_of_getElem? was) ran member)
  | revoked selects isRevocation =>
      obtain ⟨old, isOld, isRow⟩ := List.mem_map.mp member
      subst isRow
      exact Or.inl ⟨old, isOld, (revoked_kept selects old).session.chainId⟩

theorem new_chain_id {caller : Nat} {input : StepInput}
    (new : newChainId world (.advance caller input) = true) {call : SessionCall}
    (was : world.calls[caller]? = some call) (chooses : choosesChain call = true) :
    (∀ row ∈ world.tokens, row.chainId ≠ input.chainId) ∧
      ∀ other ∈ world.calls, chosenChain other ≠ some input.chainId := by
  simpa [newChainId, was, chooses] using new

theorem step_unused (sound : ChainsSound config world) (new : newChainId world event = true)
    (stepped : sessionStep config world event = some next) (moved : SessionCall)
    (chainId : String) (member : moved ∈ next.calls) (chosen : chosenChain moved = some chainId) :
    ∀ row ∈ next.tokens, row.chainId ≠ chainId := by
  intro row isRow sameChain
  obtain ⟨slot, there⟩ := List.mem_iff_getElem?.mp member
  rcases chosen_origin stepped there chosen with was | ⟨input, call, isEvent, was, chooses,
    isChosen, kept⟩
  · rcases chain_origin sound stepped isRow with
      ⟨old, isOld, oldChain⟩ | ⟨caller, call, after, wasCaller, isChain, isCalls, past⟩
    · exact sound.unused moved chainId (List.mem_of_getElem? was) chosen old isOld
        (oldChain.trans sameChain)
    · rw [sameChain] at isChain
      have isSlot := sound.ownChain slot caller moved call chainId was chosen wasCaller isChain
      rw [isCalls] at there
      rcases slot_of_set there with ⟨_, isAfter⟩ | ⟨elsewhere, _⟩
      · rw [isAfter, past] at chosen
        cases chosen
      · exact elsewhere isSlot
  · subst isEvent
    rw [kept] at isRow
    exact (new_chain_id new was chooses).1 row isRow (sameChain.trans isChosen)

theorem step_own_chain (sound : ChainsSound config world) (new : newChainId world event = true)
    (stepped : sessionStep config world event = some next) (left right : Nat)
    (leftCall rightCall : SessionCall) (chainId : String)
    (leftThere : next.calls[left]? = some leftCall)
    (leftChosen : chosenChain leftCall = some chainId)
    (rightThere : next.calls[right]? = some rightCall)
    (rightChosen : chosenChain rightCall = some chainId) : left = right := by
  rcases chosen_origin stepped leftThere leftChosen with leftWas | ⟨leftInput, leftOld, isLeft,
    leftWas, leftChooses, isLeftChain, _⟩
  · rcases chosen_origin stepped rightThere rightChosen with rightWas | ⟨rightInput, rightOld,
      isRight, rightWas, rightChooses, isRightChain, _⟩
    · exact sound.ownChain left right _ _ chainId leftWas leftChosen rightWas rightChosen
    · subst isRight
      rw [isRightChain] at leftChosen
      exact absurd leftChosen
        ((new_chain_id new rightWas rightChooses).2 leftCall (List.mem_of_getElem? leftWas))
  · rcases chosen_origin stepped rightThere rightChosen with rightWas | ⟨rightInput, rightOld,
      isRight, rightWas, rightChooses, isRightChain, _⟩
    · subst isLeft
      rw [isLeftChain] at rightChosen
      exact absurd rightChosen
        ((new_chain_id new leftWas leftChooses).2 rightCall (List.mem_of_getElem? rightWas))
    · rw [isLeft] at isRight
      cases isRight
      rfl

theorem count_kept_le (tokens : List RefreshTokenRow)
    {change : RefreshTokenRow → RefreshTokenRow} (kept : ∀ row, RowKept row (change row))
    (chainId : String) :
    (tokens.map change).countP (activeIn chainId) ≤ tokens.countP (activeIn chainId) := by
  rw [List.countP_map]
  apply List.countP_mono_left
  intro row _ active
  simp only [Function.comp_apply, activeIn, Bool.and_eq_true, beq_iff_eq] at active ⊢
  refine ⟨(kept row).session.chainId.trans active.1, ?_⟩
  by_contra dead
  exact (kept row).dead dead active.2

theorem count_owes_same {calls : List SessionCall} {caller : Nat} {call moved : SessionCall}
    (was : calls[caller]? = some call) {chainId : String}
    (same : owes chainId moved = owes chainId call) :
    (calls.set caller moved).countP (owes chainId) = calls.countP (owes chainId) := by
  have counted := count_set was moved (owes chainId)
  rw [same] at counted
  omega

theorem count_owes_append (calls : List SessionCall) {call : SessionCall} {chainId : String}
    (owesNothing : owes chainId call = false) :
    (calls ++ [call]).countP (owes chainId) = calls.countP (owes chainId) := by
  rw [List.countP_append, List.countP_singleton, owesNothing]
  rfl

theorem owes_exchange_same (call moved : ExchangeCall) (chainId : String) :
    owes chainId (.exchange moved) = owes chainId (.exchange call) := rfl

theorem owes_refresh_same {call moved : RefreshCall} (consumed : moved.consumed = call.consumed)
    (stored : moved.stored = call.stored) (chainId : String) :
    owes chainId (.refresh moved) = owes chainId (.refresh call) := by
  simp only [owes, consumed, stored]

theorem pending_of_no_token (sound : ChainsSound config world) {chainId : String}
    (absent : ∀ row ∈ world.tokens, row.chainId ≠ chainId) : pending world chainId = 0 := by
  have noActive : world.tokens.countP (activeIn chainId) = 0 := by
    apply List.countP_eq_zero.mpr
    intro row member active
    simp only [activeIn, Bool.and_eq_true, beq_iff_eq] at active
    exact absent row member active.1
  have noDebt : world.calls.countP (owes chainId) = 0 := by
    apply List.countP_eq_zero.mpr
    intro call member owing
    cases call with
    | exchange call => cases owing
    | refresh call =>
        simp only [owes, Bool.and_eq_true, Option.any_eq_true, beq_iff_eq] at owing
        obtain ⟨_, row, isRow, isChain⟩ := owing
        obtain ⟨stored, isStored, _, session, _⟩ := sound.spent call row member isRow
        exact absent stored isStored (session.chainId.symm.trans isChain)
  unfold pending
  omega

theorem stored_pending (sound : ChainsSound config world) {caller : Nat}
    {call moved : ExchangeCall} (was : world.calls[caller]? = some (.exchange call))
    {new : NewRefreshToken} (opened : ∀ old ∈ world.tokens, old.chainId ≠ new.chainId)
    (chainId : String) :
    (world.tokens ++ [new.toRow]).countP (activeIn chainId) +
      (world.calls.set caller (.exchange moved)).countP (owes chainId) ≤ 1 := by
  have before := sound.oneLive chainId
  rw [List.countP_append, List.countP_singleton,
    count_owes_same was (owes_exchange_same call moved chainId)]
  by_cases ofChain : new.chainId = chainId
  · rw [← ofChain] at before ⊢
    have nothing := pending_of_no_token sound opened
    unfold pending at nothing
    split_ifs <;> omega
  · have other : activeIn chainId new.toRow = false := by
      simp [activeIn, NewRefreshToken.toRow, ofChain]
    unfold pending at before
    rw [other, if_neg Bool.false_ne_true]
    omega

theorem consumed_pending (sound : ChainsSound config world) {caller : Nat}
    {call moved : RefreshCall} (was : world.calls[caller]? = some (.refresh call))
    {hash : String} {row : RefreshTokenRow} {now : Int}
    (found : findKey tokenHash world.tokens hash = some row) (active : row.status = .active)
    (idle : call.consumed = none) (unstored : moved.stored = false)
    (consumed : moved.consumed = some (rotated now row)) (chainId : String) :
    (updateKey tokenHash world.tokens hash (rotated now)).countP (activeIn chainId) +
      (world.calls.set caller (.refresh moved)).countP (owes chainId) ≤ 1 := by
  have before := sound.oneLive chainId
  have tokens := count_update_key sound.uniqueHashes found (rotated now) (activeIn chainId)
  have calls := count_set was (.refresh moved) (owes chainId)
  have spent : activeIn chainId (rotated now row) = false := by simp [activeIn, rotated]
  have owedNothing : owes chainId (.refresh call) = false := by simp [owes, idle]
  have traded : owes chainId (.refresh moved) = activeIn chainId row := by
    simp [owes, activeIn, unstored, consumed, active, rotated]
  rw [spent, if_neg Bool.false_ne_true] at tokens
  rw [owedNothing, traded, if_neg Bool.false_ne_true] at calls
  unfold pending at before
  omega

theorem inserted_pending (sound : ChainsSound config world) {caller : Nat}
    {call moved : RefreshCall} (was : world.calls[caller]? = some (.refresh call))
    {row : RefreshTokenRow} (holds : Holds call row) {successor : NewRefreshToken}
    (session : SameSession row successor.toRow) (stored : moved.stored = true)
    (chainId : String) :
    (world.tokens ++ [successor.toRow]).countP (activeIn chainId) +
      (world.calls.set caller (.refresh moved)).countP (owes chainId) ≤ 1 := by
  have before := sound.oneLive chainId
  have calls := count_set was (.refresh moved) (owes chainId)
  have settled : owes chainId (.refresh moved) = false := by simp [owes, stored]
  have traded : owes chainId (.refresh call) = activeIn chainId successor.toRow := by
    simp [owes, activeIn, holds.unstored, holds.consumed, session.chainId,
      NewRefreshToken.toRow]
  rw [settled, traded, if_neg Bool.false_ne_true] at calls
  rw [List.countP_append, List.countP_singleton]
  unfold pending at before
  omega

theorem step_one_live (sound : ChainsSound config world)
    (stepped : sessionStep config world event = some next) (chainId : String) :
    pending next chainId ≤ 1 := by
  have before := sound.oneLive chainId
  unfold pending at before ⊢
  cases session_outcome stepped with
  | surroundings tenancy clock => exact before
  | exchangeArrived request =>
      rw [count_owes_append _ rfl]
      exact before
  | refreshArrived request =>
      rw [count_owes_append _ rfl]
      exact before
  | exchanged was ran =>
      cases exchange_effect ran with
      | read born =>
          rw [count_owes_same was (owes_exchange_same _ _ chainId)]
          exact before
      | stored point isNew fresh born =>
          exact stored_pending sound was
            (opened_chain sound (List.mem_of_getElem? was) point isNew) chainId
  | refreshed was ran =>
      have member := List.mem_of_getElem? was
      have knows := (sound.refreshes _ member).knows
      cases refresh_effect (sound.refreshes _ member) ran with
      | read consumed stored =>
          rw [count_owes_same was (owes_refresh_same consumed stored chainId)]
          exact before
      | consumed point found active consumed stored =>
          simp only [RefreshKnows, point] at knows
          exact consumed_pending sound was found active knows.1 (stored.trans knows.2) consumed
            chainId
      | cascaded point consumed stored =>
          rw [count_owes_same was (owes_refresh_same consumed stored chainId)]
          exact Nat.le_trans
            (Nat.add_le_add_right (count_kept_le _ (revoked_kept _) chainId) _) before
      | inserted point fresh consumed stored =>
          obtain ⟨holds, session, _⟩ := successor_parent sound member point
          exact inserted_pending sound was holds session stored chainId
  | revoked selects isRevocation =>
      exact Nat.le_trans
        (Nat.add_le_add_right (count_kept_le _ (revoked_kept selects) chainId) _) before

theorem step_chains_sound (sound : ChainsSound config world)
    (new : newChainId world event = true)
    (stepped : sessionStep config world event = some next) : ChainsSound config next where
  refreshes := step_refreshes_sound sound.refreshes stepped
  uniqueHashes := write_unique (step_write sound stepped) sound.uniqueHashes
  oneLive := step_one_live sound stepped
  oneSession := write_one_session (step_write sound stepped) sound.oneSession
  spent := step_spent sound stepped
  once := step_once sound stepped
  unused := step_unused sound new stepped
  ownChain := step_own_chain sound new stepped
  born := step_born sound stepped

end Step

theorem start_chains_sound {config : SessionConfig} {start : SessionWorld}
    (starts : SessionStart start) : ChainsSound config start := by
  obtain ⟨uniqueHashes, oneLive, oneSession, idle⟩ := starts
  refine ⟨?_, uniqueHashes, ?_, oneSession, ?_, ?_, ?_, ?_, ?_⟩
  · simp [RefreshesSound, idle]
  · simpa [pending, idle] using oneLive
  all_goals simp [idle]

theorem reachable_chains_sound {config : SessionConfig} {start last : SessionWorld}
    (starts : SessionStart start) {events : List SessionEvent}
    (new : Meets (sessionStep config) (fun world event => newChainId world event = true) start
      events)
    (ran : runFrom (sessionStep config) start events = some last) : ChainsSound config last :=
  run_preserves_of_meets (ChainsSound config)
    (fun _ _ _ sound new stepped => step_chains_sound sound new stepped)
    (start_chains_sound starts) new ran

def Answered (call : RefreshCall) : Prop :=
  ∃ response, call.point = .returned (.ok response)

theorem answered_consumed {config : SessionConfig} {call : RefreshCall}
    (sound : RefreshSound config call) (answered : Answered call) :
    ∃ row, call.consumed = some row ∧ row.tokenHash = config.hashApiKey call.presented := by
  obtain ⟨response, point⟩ := answered
  have knows := sound.knows
  simp only [RefreshKnows, point] at knows
  obtain ⟨row, consumed, _⟩ := knows
  exact ⟨row, consumed, sound.presented row consumed⟩

/-- In every state of every run, a chain has at most one live token, counting the
tokens it is owed, and a token presented in two calls is answered with a successor
in at most one of them. -/
theorem one_live_token_per_chain (config : SessionConfig) (start : SessionWorld)
    (starts : SessionStart start) (events : List SessionEvent)
    (new : Meets (sessionStep config) (fun world event => newChainId world event = true) start
      events)
    (last : SessionWorld) (ran : runFrom (sessionStep config) start events = some last) :
    (∀ chainId, pending last chainId ≤ 1) ∧
      ∀ (left right : Nat) (leftCall rightCall : RefreshCall),
        last.calls[left]? = some (.refresh leftCall) →
        last.calls[right]? = some (.refresh rightCall) →
        leftCall.presented = rightCall.presented →
        Answered leftCall → Answered rightCall → left = right := by
  have sound : ChainsSound config last := reachable_chains_sound starts new ran
  refine ⟨sound.oneLive, ?_⟩
  intro left right leftCall rightCall leftThere rightThere same leftAnswered rightAnswered
  obtain ⟨leftRow, leftConsumed, leftHash⟩ :=
    answered_consumed (sound.refreshes _ (List.mem_of_getElem? leftThere)) leftAnswered
  obtain ⟨rightRow, rightConsumed, rightHash⟩ :=
    answered_consumed (sound.refreshes _ (List.mem_of_getElem? rightThere)) rightAnswered
  have sameHash : leftRow.tokenHash = rightRow.tokenHash := by
    rw [leftHash, rightHash, same]
  exact sound.once left right _ _ _ _ leftThere leftConsumed rightThere rightConsumed sameHash

def sampleTime : Rfc3339 where
  format instant := if instant = 3600000000 then "1970-01-01T01:00:00+00:00" else ""
  parse text := if text = "1970-01-01T01:00:00+00:00" then some 3600000000 else none

def sampleConfig : SessionConfig where
  enabled := true
  accessTtlSeconds := 600
  refreshTtlSeconds := 1800
  refreshAbsoluteTtlSeconds := 3600
  allowedScopes := ["openid", "offline_access"]
  hashApiKey := fun secret => "hash of " ++ secret
  time := sampleTime

def sampleTenancy : TenancyDb where
  accounts := [⟨"alice", .active⟩]
  projects := [⟨"p1", "alice", .active, true, none, .allowAll⟩]
  members := []

def sampleClient : Client := ⟨"cli", true, true, ["openid", "offline_access"]⟩

def sampleWorld : SessionWorld := ⟨sampleTenancy, [], 0, []⟩

def sampleExchange : ExchangeRequest where
  client := sampleClient
  hasActorToken := false
  subjectTokenType := none
  requestedTokenType := none
  subjectToken := some "jwt"
  projectId := some "p1"
  scope := some "offline_access"

def sampleInput (id secret : String) : StepInput where
  fault := none
  rowId := id
  chainId := id
  sessionId := id
  secret := secret
  bearer := .active ⟨"alice", ["cli"], none, none, none, none⟩
  budgetTier := "free"
  accessSigned := true
  idSigned := true

def advances (caller : Nat) (id secret : String) (count : Nat) : List SessionEvent :=
  List.replicate count (.advance caller (sampleInput id secret))

/-- An exchange, from its arrival in a slot to its answer. -/
def exchangeBy (caller : Nat) (id secret : String) : List SessionEvent :=
  .exchange sampleExchange :: advances caller id secret 6

theorem sample_world_starts : SessionStart sampleWorld where
  uniqueHashes := unique_keys_nil
  oneLive := fun _ => Nat.zero_le 1
  oneSession := fun _ member => (List.not_mem_nil member).elim
  idle := rfl

/-- Two refreshes present the first token of a chain, and the second loses the
race. -/
def racingRefreshes : List SessionEvent :=
  exchangeBy 0 "c1" "s0" ++
    [.tick 60000000, .refresh ⟨sampleClient, some "s0"⟩, .refresh ⟨sampleClient, some "s0"⟩] ++
    advances 1 "t1" "s1" 1 ++ advances 2 "t2" "s2" 1 ++ advances 1 "t1" "s1" 6

theorem racing_refreshes_one_live :
    ∃ last, runFrom (sessionStep sampleConfig) sampleWorld racingRefreshes = some last ∧
      last.calls.length = 3 ∧ pending last "c1" = 1 ∧ ∀ chainId, pending last chainId ≤ 1 := by
  have reached : reaches (sessionStep sampleConfig) sampleWorld racingRefreshes
      (fun world => world.calls.length == 3 && pending world "c1" == 1) = true := by
    decide +kernel
  obtain ⟨last, ran, found⟩ := exists_of_reaches reached
  simp only [Bool.and_eq_true, beq_iff_eq] at found
  exact ⟨last, ran, found.1, found.2,
    (one_live_token_per_chain sampleConfig sampleWorld sample_world_starts racingRefreshes
      (by decide +kernel) last ran).1⟩

end LightbridgeAuthz.Sessions.RefreshChains

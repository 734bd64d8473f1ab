import LightbridgeAuthz.Library.CursorPages
import LightbridgeAuthz.Budget.AugmentationRequests
import Mathlib.Order.Lattice

/-!
# Listed grants and requests

The listings of the budget service, a page at a time: the grants of an account
and a caller's own requests newest first, the review queue oldest first. Each
continues from the `created_at` of the last row of a full page, so rows that
share it across the end of a page are passed over.
-/

namespace LightbridgeAuthz.Budget.ListedPages

open Library.CursorPages
open Domain GrantLedger AugmentationRequests

set_option autoImplicit false

/-- `ORDER BY created_at DESC`. -/
def newestFirst : Instant → Instantᵒᵈ := OrderDual.toDual

/-- `ORDER BY created_at ASC`. -/
def oldestFirst : Instant → Instant := id

/-- The rows of `LIST_GRANTS_SQL`, whatever the cursor. -/
def listedGrants (grants : List BudgetGrant) (budgetAccountId : String)
    (period : Option Period) : List BudgetGrant :=
  grants.filter fun row =>
    row.budgetAccountId = budgetAccountId ∧ period.all fun only => row.period = only

/-- The rows of `REQUEST_LIST_BY_BUDGET_ACCOUNT_SQL`. -/
def ownRequests (requests : List AugmentationRequest) (budgetAccountId : String) :
    List AugmentationRequest :=
  requests.filter fun row => row.budgetAccountId = budgetAccountId

/-- The rows of `REQUEST_LIST_PENDING_REVIEW_SQL`. -/
def pendingRequests (requests : List AugmentationRequest) (budgetAccountId : Option String) :
    List AugmentationRequest :=
  requests.filter fun row =>
    row.status = .pendingReview ∧ budgetAccountId.all fun only => row.budgetAccountId = only

structure ListQueries (grants : List BudgetGrant) (requests : List AugmentationRequest) where
  listGrants : ∀ budgetAccountId period,
    PageSource BudgetGrant.createdAt newestFirst (listedGrants grants budgetAccountId period)
  listByBudgetAccount : ∀ budgetAccountId,
    PageSource AugmentationRequest.createdAt newestFirst (ownRequests requests budgetAccountId)
  listPendingReview : ∀ budgetAccountId,
    PageSource AugmentationRequest.createdAt oldestFirst
      (pendingRequests requests budgetAccountId)

def clamp (value low high : Int) : Int := max low (min value high)

def defaultBudgetGrantsPageSize : Int := 20

def maxBudgetGrantsPageSize : Int := 50

def resolveBudgetGrantsPageSize (limit : Option Int) : Int :=
  match limit with
  | some requested => clamp requested 1 maxBudgetGrantsPageSize
  | none => defaultBudgetGrantsPageSize

def defaultAugmentationRequestsPageSize : Int := 20

def maxAugmentationRequestsPageSize : Int := 50

def resolveAugmentationRequestsPageSize (limit : Option Int) : Int :=
  match limit with
  | some requested => clamp requested 1 maxAugmentationRequestsPageSize
  | none => defaultAugmentationRequestsPageSize

def maxListGrantsLimit : Int := 200

def maxListRequestsLimit : Int := 200

section Procedures

variable {grants : List BudgetGrant} {requests : List AugmentationRequest}
  (queries : ListQueries grants requests)

def listGrants (budgetAccountId : String) (period : Option Period) (call : Nat)
    (before : Option Instant) (limit : Int) : List BudgetGrant :=
  (queries.listGrants budgetAccountId period).answer call before
    (clamp limit 1 maxListGrantsLimit).toNat

/-- `list_budget_grants_page` with its period parsed: `listBudgetGrants`, and
`listMyBudgetGrants` for the caller's own account. -/
def listBudgetGrantsPage (budgetAccountId : String) (period : Option Period)
    (limit : Option Int) (call : Nat) (before : Option Instant) : Page BudgetGrant Instant :=
  let pageSize := resolveBudgetGrantsPageSize limit
  let entries := listGrants queries budgetAccountId period call before pageSize
  { entries := entries
    nextCursor :=
      if entries.length = pageSize.toNat then entries.getLast?.map BudgetGrant.createdAt
      else none }

def toSchemaAugmentationRequestPage (entries : List AugmentationRequest) (pageSize : Int) :
    Page AugmentationRequest Instant where
  entries := entries
  nextCursor :=
    if entries.length = pageSize.toNat then entries.getLast?.map AugmentationRequest.createdAt
    else none

/-- `listMyAugmentationRequests`, for the caller's own account. -/
def listMyAugmentationRequests (subject : String) (limit : Option Int) (call : Nat)
    (before : Option Instant) : Page AugmentationRequest Instant :=
  let pageSize := resolveAugmentationRequestsPageSize limit
  toSchemaAugmentationRequestPage
    ((queries.listByBudgetAccount subject).answer call before
      (clamp pageSize 1 maxListRequestsLimit).toNat) pageSize

def listPendingAugmentationRequests (budgetAccountId : Option String) (limit : Option Int)
    (call : Nat) (after : Option Instant) : Page AugmentationRequest Instant :=
  let pageSize := resolveAugmentationRequestsPageSize limit
  toSchemaAugmentationRequestPage
    ((queries.listPendingReview budgetAccountId).answer call after
      (clamp pageSize 1 maxListRequestsLimit).toNat) pageSize

theorem grants_page_size (limit : Option Int) :
    clamp (resolveBudgetGrantsPageSize limit) 1 maxListGrantsLimit =
        resolveBudgetGrantsPageSize limit ∧
      0 < (resolveBudgetGrantsPageSize limit).toNat := by
  cases limit with
  | none => decide
  | some requested =>
      simp only [resolveBudgetGrantsPageSize, clamp, maxBudgetGrantsPageSize, maxListGrantsLimit]
      omega

theorem requests_page_size (limit : Option Int) :
    clamp (resolveAugmentationRequestsPageSize limit) 1 maxListRequestsLimit =
        resolveAugmentationRequestsPageSize limit ∧
      0 < (resolveAugmentationRequestsPageSize limit).toNat := by
  cases limit with
  | none => decide
  | some requested =>
      simp only [resolveAugmentationRequestsPageSize, clamp, maxAugmentationRequestsPageSize,
        maxListRequestsLimit]
      omega

theorem grants_page_eq (budgetAccountId : String) (period : Option Period) (limit : Option Int) :
    listBudgetGrantsPage queries budgetAccountId period limit =
      shownPage (queries.listGrants budgetAccountId period)
        (resolveBudgetGrantsPageSize limit).toNat := by
  funext call before
  simp only [listBudgetGrantsPage, listGrants, (grants_page_size limit).1, shownPage, cursorAfter]

theorem own_requests_page_eq (subject : String) (limit : Option Int) :
    listMyAugmentationRequests queries subject limit =
      shownPage (queries.listByBudgetAccount subject)
        (resolveAugmentationRequestsPageSize limit).toNat := by
  funext call before
  simp only [listMyAugmentationRequests, toSchemaAugmentationRequestPage,
    (requests_page_size limit).1, shownPage, cursorAfter]

theorem pending_requests_page_eq (budgetAccountId : Option String) (limit : Option Int) :
    listPendingAugmentationRequests queries budgetAccountId limit =
      shownPage (queries.listPendingReview budgetAccountId)
        (resolveAugmentationRequestsPageSize limit).toNat := by
  funext call after
  simp only [listPendingAugmentationRequests, toSchemaAugmentationRequestPage,
    (requests_page_size limit).1, shownPage, cursorAfter]

end Procedures

/-- Following the cursors ends, with rows in order that are all rows just when
no page ends between two of them of one `created_at`. -/
def PagesThrough {Row Position : Type} [LinearOrder Position] (createdAt : Row → Instant)
    (position : Instant → Position) (fetch : Nat → Option Instant → Page Row Instant)
    (rows : List Row) (pageSize : Int) : Prop :=
  ∃ shown, followCursors fetch (rows.length + 1) 0 none = some shown ∧
    shown.Pairwise (fun left right => position (createdAt left) ≤ position (createdAt right)) ∧
    (shown.Perm rows ↔ NoTieSplit createdAt position rows pageSize.toNat)

/-- Each listing pages through to all of its rows just when no page ends between
two of them of one `created_at`. -/
theorem listings_complete_iff {grants : List BudgetGrant} {requests : List AugmentationRequest}
    (queries : ListQueries grants requests) (limit : Option Int) :
    (∀ budgetAccountId period,
      PagesThrough BudgetGrant.createdAt newestFirst
        (listBudgetGrantsPage queries budgetAccountId period limit)
        (listedGrants grants budgetAccountId period) (resolveBudgetGrantsPageSize limit)) ∧
    (∀ subject,
      PagesThrough AugmentationRequest.createdAt newestFirst
        (listMyAugmentationRequests queries subject limit) (ownRequests requests subject)
        (resolveAugmentationRequestsPageSize limit)) ∧
    ∀ budgetAccountId,
      PagesThrough AugmentationRequest.createdAt oldestFirst
        (listPendingAugmentationRequests queries budgetAccountId limit)
        (pendingRequests requests budgetAccountId) (resolveAugmentationRequestsPageSize limit) := by
  refine ⟨fun budgetAccountId period => ?_, fun subject => ?_, fun budgetAccountId => ?_⟩
  · rw [grants_page_eq]
    exact walk_complete_iff _ (grants_page_size limit).2
  · rw [own_requests_page_eq]
    exact walk_complete_iff _ (requests_page_size limit).2
  · rw [pending_requests_page_eq]
    exact walk_complete_iff _ (requests_page_size limit).2

/-- A database that keeps rows of one `created_at` in the order of the table. -/
def stableQueries (grants : List BudgetGrant) (requests : List AugmentationRequest) :
    ListQueries grants requests where
  listGrants _ _ := stableSource _ _ _
  listByBudgetAccount _ := stableSource _ _ _
  listPendingReview _ := stableSource _ _ _

/-- A grant of Alice's, made in the same microsecond as every other one. -/
def tiedGrant (id : String) : BudgetGrant :=
  grantRow
    { budgetAccountId := "alice"
      accountId := "alice"
      projectId := none
      period := ⟨"2026-08", Eq.refl true⟩
      amountMicros := 6000000
      source := .selfService
      actorId := none
      reason := none
      policyRevision := none
      matchedRuleIds := none
      idempotencyKey := none
      triggerKey := none
      expiresAt := none }
    ⟨id, 5⟩

/-- Of two grants of one microsecond, pages of one row show one. -/
theorem tied_grants_not_all_listed :
    ¬ ∀ (grants : List BudgetGrant) (requests : List AugmentationRequest)
        (queries : ListQueries grants requests) (budgetAccountId : String)
        (period : Option Period) (limit : Option Int),
        ∃ fuel shown,
          followCursors (listBudgetGrantsPage queries budgetAccountId period limit) fuel 0 none =
            some shown ∧
          shown.Perm (listedGrants grants budgetAccountId period) := by
  intro claimed
  obtain ⟨fuel, shown, walked, complete⟩ :=
    claimed [tiedGrant "g1", tiedGrant "g2"] [] (stableQueries _ _) "alice" none (some 1)
  have stops : followCursors
      (listBudgetGrantsPage (stableQueries [tiedGrant "g1", tiedGrant "g2"] []) "alice" none
        (some 1)) 2 0 none = some [tiedGrant "g1"] := by
    decide
  rw [follow_cursors_agree walked stops] at complete
  exact absurd complete.length_eq (by decide)

end LightbridgeAuthz.Budget.ListedPages

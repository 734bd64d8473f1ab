import Mathlib.Data.List.Basic
import Mathlib.Data.List.Nodup
import Mathlib.Order.Lattice

/-!
# Entries in key order

An object that holds each key once and lists its entries by the rank of their
keys. Putting an entry replaces the one under its key. An object built from
entries in any order is the same object as the one built from its own listing.
-/

namespace LightbridgeAuthz.Library.SortedEntries

set_option autoImplicit false

variable {Key Rank Value Other : Type} [DecidableEq Key] [LinearOrder Rank] (rank : Key → Rank)

def put : List (Key × Value) → Key × Value → List (Key × Value)
  | [], entry => [entry]
  | first :: rest, entry =>
      if entry.1 = first.1 then entry :: rest
      else if rank entry.1 < rank first.1 then entry :: first :: rest
      else first :: put rest entry

def merge (entries further : List (Key × Value)) : List (Key × Value) :=
  further.foldl (put rank) entries

def collect (entries : List (Key × Value)) : List (Key × Value) :=
  merge rank [] entries

def SortedKeys (entries : List (Key × Value)) : Prop :=
  entries.Pairwise (fun left right => rank left.1 < rank right.1)

def onValue (change : Value → Other) (entry : Key × Value) : Key × Other :=
  (entry.1, change entry.2)

variable {rank}

theorem put_map_on_value (change : Value → Other) (entries : List (Key × Value))
    (entry : Key × Value) :
    (put rank entries entry).map (onValue change) =
      put rank (entries.map (onValue change)) (onValue change entry) := by
  induction entries with
  | nil => rfl
  | cons first rest induction =>
      simp only [put, List.map_cons, onValue]
      split
      · rfl
      · split
        · rfl
        · simpa [onValue] using induction

theorem merge_map_on_value (change : Value → Other) (entries further : List (Key × Value)) :
    (merge rank entries further).map (onValue change) =
      merge rank (entries.map (onValue change)) (further.map (onValue change)) := by
  induction further generalizing entries with
  | nil => rfl
  | cons entry further induction =>
      simp only [merge, List.foldl_cons, List.map_cons] at induction ⊢
      rw [induction, put_map_on_value]

theorem mem_put {entries : List (Key × Value)} {entry found : Key × Value}
    (member : found ∈ put rank entries entry) : found = entry ∨ found ∈ entries := by
  induction entries with
  | nil => simpa [put] using member
  | cons first rest induction =>
      simp only [put] at member
      split at member
      · rcases List.mem_cons.mp member with same | later
        · exact .inl same
        · exact .inr (List.mem_cons_of_mem _ later)
      · split at member
        · exact List.mem_cons.mp member
        · rcases List.mem_cons.mp member with same | later
          · exact .inr (by simp [same])
          · exact (induction later).imp id (List.mem_cons_of_mem _)

theorem put_sorted (injective : Function.Injective rank) {entries : List (Key × Value)}
    (sorted : SortedKeys rank entries) (entry : Key × Value) :
    SortedKeys rank (put rank entries entry) := by
  induction entries with
  | nil => exact List.pairwise_singleton _ _
  | cons first rest induction =>
      obtain ⟨head, tail⟩ := List.pairwise_cons.mp sorted
      simp only [put]
      split
      case isTrue same =>
        refine List.pairwise_cons.mpr ⟨?_, tail⟩
        intro later member
        rw [same]
        exact head later member
      case isFalse other =>
        split
        case isTrue smaller =>
          refine List.pairwise_cons.mpr ⟨?_, sorted⟩
          intro later member
          rcases List.mem_cons.mp member with same | inRest
          · rw [same]
            exact smaller
          · exact smaller.trans (head later inRest)
        case isFalse larger =>
          refine List.pairwise_cons.mpr ⟨?_, induction tail⟩
          intro later member
          rcases mem_put member with same | inRest
          · rw [same]
            exact lt_of_le_of_ne (not_lt.mp larger) (fun equal => other (injective equal.symm))
          · exact head later inRest

theorem merge_sorted (injective : Function.Injective rank) (further : List (Key × Value))
    {entries : List (Key × Value)} (sorted : SortedKeys rank entries) :
    SortedKeys rank (merge rank entries further) := by
  induction further generalizing entries with
  | nil => exact sorted
  | cons entry further induction => exact induction (put_sorted injective sorted entry)

theorem put_after {entries : List (Key × Value)} {entry : Key × Value}
    (after : ∀ earlier ∈ entries, rank earlier.1 < rank entry.1) :
    put rank entries entry = entries ++ [entry] := by
  induction entries with
  | nil => rfl
  | cons first rest induction =>
      have behind := after first (by simp)
      have other : entry.1 ≠ first.1 := fun same => by
        rw [same] at behind
        exact lt_irrefl _ behind
      rw [put, if_neg other, if_neg (not_lt.mpr behind.le),
        induction (fun earlier member => after earlier (List.mem_cons_of_mem _ member))]
      rfl

theorem merge_append_of_sorted (entries further : List (Key × Value))
    (sorted : SortedKeys rank (entries ++ further)) :
    merge rank entries further = entries ++ further := by
  induction further generalizing entries with
  | nil => simp [merge]
  | cons entry further induction =>
      have after : ∀ earlier ∈ entries, rank earlier.1 < rank entry.1 := fun earlier member =>
        (List.pairwise_append.mp sorted).2.2 earlier member entry (by simp)
      have regrouped : entries ++ entry :: further = (entries ++ [entry]) ++ further := by simp
      rw [regrouped] at sorted ⊢
      simp only [merge, List.foldl_cons]
      rw [put_after after]
      exact induction _ sorted

theorem collect_of_sorted {entries : List (Key × Value)} (sorted : SortedKeys rank entries) :
    collect rank entries = entries :=
  merge_append_of_sorted [] entries sorted

theorem collect_map_on_value (injective : Function.Injective rank) (change : Value → Other)
    (entries : List (Key × Value)) :
    collect rank ((collect rank entries).map (onValue change)) =
      collect rank (entries.map (onValue change)) := by
  have changed : (collect rank entries).map (onValue change) =
      collect rank (entries.map (onValue change)) := merge_map_on_value change [] entries
  rw [changed]
  exact collect_of_sorted (merge_sorted injective _ List.Pairwise.nil)

theorem mem_put_self (entries : List (Key × Value)) (entry : Key × Value) :
    entry ∈ put rank entries entry := by
  induction entries with
  | nil => simp [put]
  | cons first rest induction =>
      simp only [put]
      split
      · exact List.mem_cons_self
      · split
        · exact List.mem_cons_self
        · exact List.mem_cons_of_mem _ induction

theorem mem_put_of_other_key {entries : List (Key × Value)} {entry found : Key × Value}
    (member : found ∈ entries) (other : found.1 ≠ entry.1) : found ∈ put rank entries entry := by
  induction entries with
  | nil => exact absurd member List.not_mem_nil
  | cons first rest induction =>
      simp only [put]
      rcases List.mem_cons.mp member with same | inRest
      · subst same
        rw [if_neg (Ne.symm other)]
        split <;> simp
      · split
        · exact List.mem_cons_of_mem _ inRest
        · split
          · exact List.mem_cons_of_mem _ (List.mem_cons_of_mem _ inRest)
          · exact List.mem_cons_of_mem _ (induction inRest)

theorem mem_merge {entries further : List (Key × Value)} {found : Key × Value}
    (member : found ∈ merge rank entries further) : found ∈ entries ∨ found ∈ further := by
  induction further generalizing entries with
  | nil => exact .inl member
  | cons entry further induction =>
      rcases induction member with inPut | later
      · rcases mem_put inPut with same | earlier
        · exact .inr (by simp [same])
        · exact .inl earlier
      · exact .inr (List.mem_cons_of_mem _ later)

theorem mem_merge_of_new_keys {entries further : List (Key × Value)} {found : Key × Value}
    (member : found ∈ entries) (new : ∀ entry ∈ further, found.1 ≠ entry.1) :
    found ∈ merge rank entries further := by
  induction further generalizing entries with
  | nil => exact member
  | cons entry further induction =>
      exact induction (mem_put_of_other_key member (new entry (by simp)))
        (fun later inFurther => new later (List.mem_cons_of_mem _ inFurther))

theorem mem_collect_iff {entries : List (Key × Value)} (unique : (entries.map Prod.fst).Nodup)
    (found : Key × Value) : found ∈ collect rank entries ↔ found ∈ entries := by
  constructor
  · intro member
    exact (mem_merge member).resolve_left List.not_mem_nil
  · intro member
    obtain ⟨before, after, rfl⟩ := List.append_of_mem member
    have new : ∀ entry ∈ after, found.1 ≠ entry.1 := by
      intro entry inAfter same
      rw [List.map_append, List.map_cons] at unique
      have apart := (List.nodup_cons.mp (List.nodup_append.mp unique).2.1).1
      exact apart (List.mem_map.mpr ⟨entry, inAfter, same.symm⟩)
    rw [collect, merge, List.foldl_append, List.foldl_cons]
    exact mem_merge_of_new_keys (mem_put_self _ found) new

theorem collect_map_on_value_eq_iff {entries : List (Key × Value)}
    (unique : (entries.map Prod.fst).Nodup) (left right : Value → Other) :
    collect rank (entries.map (onValue left)) = collect rank (entries.map (onValue right)) ↔
      ∀ entry ∈ entries, left entry.2 = right entry.2 := by
  have keys : ∀ change : Value → Other,
      (entries.map (onValue change)).map Prod.fst = entries.map Prod.fst := by
    intro change
    rw [List.map_map]
    rfl
  constructor
  · intro same entry member
    have inLeft : onValue left entry ∈ collect rank (entries.map (onValue left)) := by
      rw [mem_collect_iff (by rw [keys]; exact unique)]
      exact List.mem_map.mpr ⟨entry, member, rfl⟩
    rw [same, mem_collect_iff (by rw [keys]; exact unique)] at inLeft
    obtain ⟨other, otherMember, equal⟩ := List.mem_map.mp inLeft
    simp only [onValue, Prod.mk.injEq] at equal
    have sameEntry : other = entry := List.inj_on_of_nodup_map unique otherMember member equal.1
    rw [sameEntry] at equal
    exact equal.2.symm
  · intro agree
    have same : entries.map (onValue left) = entries.map (onValue right) := by
      apply List.map_congr_left
      intro entry member
      simp only [onValue, agree entry member]
    rw [same]

theorem lookup_put (entries : List (Key × Value)) (entry : Key × Value) (key : Key) :
    (put rank entries entry).lookup key = if key = entry.1 then some entry.2
      else entries.lookup key := by
  induction entries with
  | nil =>
      rw [put, List.lookup_cons, List.lookup_nil]
      by_cases same : key = entry.1
      · rw [if_pos same, beq_iff_eq.mpr same]
      · rw [if_neg same, beq_eq_false_iff_ne.mpr same]
  | cons first rest induction =>
      simp only [put]
      split
      case isTrue replaced =>
        rw [List.lookup_cons, List.lookup_cons, ← replaced]
        by_cases same : key = entry.1
        · rw [if_pos same, beq_iff_eq.mpr same]
        · rw [if_neg same, beq_eq_false_iff_ne.mpr same]
      case isFalse other =>
        split
        case isTrue smaller =>
          rw [List.lookup_cons]
          by_cases same : key = entry.1
          · rw [if_pos same, beq_iff_eq.mpr same]
          · rw [if_neg same, beq_eq_false_iff_ne.mpr same]
        case isFalse larger =>
          rw [List.lookup_cons, induction, List.lookup_cons]
          by_cases isFirst : key = first.1
          · have apart : key ≠ entry.1 := fun same => other (same.symm.trans isFirst)
            simp only [beq_iff_eq.mpr isFirst, if_neg apart]
          · rw [beq_eq_false_iff_ne.mpr isFirst]

theorem lookup_merge (entries further : List (Key × Value)) (key : Key) :
    (merge rank entries further).lookup key =
      (further.reverse.lookup key).or (entries.lookup key) := by
  induction further generalizing entries with
  | nil => rfl
  | cons entry further induction =>
      have later := induction (put rank entries entry)
      rw [merge] at later
      rw [merge, List.foldl_cons, later, lookup_put, List.reverse_cons, List.lookup_append,
        List.lookup_cons, List.lookup_nil, Option.or_assoc]
      by_cases same : key = entry.1
      · rw [if_pos same, beq_iff_eq.mpr same]
        rfl
      · rw [if_neg same, beq_eq_false_iff_ne.mpr same]
        rfl

omit [DecidableEq Key] in
theorem nodup_of_sorted {entries : List (Key × Value)} (sorted : SortedKeys rank entries) :
    (entries.map Prod.fst).Nodup := by
  rw [List.nodup_iff_pairwise_ne, List.pairwise_map]
  refine sorted.imp fun {left right} smaller same => ?_
  rw [same] at smaller
  exact lt_irrefl _ smaller

end LightbridgeAuthz.Library.SortedEntries

import Mathlib.Data.List.Basic
import Mathlib.Tactic.Common

/-!
# Keys that expire

A store of keys of which each is present until an instant of its own. A
conditional write sets a key that is not present. An entry is never changed, so
the store is the list of the writes that have been made.
-/

namespace LightbridgeAuthz.Library.ExpiringKeys

set_option autoImplicit false

structure Entry (Key : Type*) where
  key : Key
  expiresAt : Int
  deriving DecidableEq, Repr

variable {Key : Type*} [DecidableEq Key]

/-- The key is present at `now`. -/
def present (entries : List (Entry Key)) (key : Key) (now : Int) : Bool :=
  entries.any fun entry => entry.key == key && decide (now < entry.expiresAt)

/-- `SET key NX PX`: the entries after the command, and whether the key was set. -/
def setIfAbsent (entries : List (Entry Key)) (key : Key) (now lifetime : Int) :
    List (Entry Key) × Bool :=
  if present entries key now then (entries, false)
  else (entries ++ [⟨key, now + lifetime⟩], true)

theorem present_iff {entries : List (Entry Key)} {key : Key} {now : Int} :
    present entries key now = true ↔
      ∃ entry ∈ entries, entry.key = key ∧ now < entry.expiresAt := by
  simp [present]

end LightbridgeAuthz.Library.ExpiringKeys

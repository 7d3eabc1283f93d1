import DrandSync.Construction.Messages

/-
This file models `HandleReSync`, the monitor of a running resync task.
Instants and durations are counts of nanoseconds.
-/

namespace Drand.Sync

/-- `RESYNC_EXPIRY_FACTOR`: a resync is renewed when no beacon came for this many periods. -/
def resyncExpiryFactor : Nat := 2

/-- `u32` multiplication of a debug build: `none` is the overflow panic. -/
def mulU32 (a b : Nat) : Option Nat := if a * b < 2 ^ 32 then some (a * b) else none

/-- `Duration::from_secs`, in nanoseconds. -/
def durationFromSecs (secs : Nat) : Nat := secs * 1000000000

/-- The resync task's `JoinHandle::is_finished` at each instant; a finished task stays finished. -/
structure ResyncTask where
  isFinished : Nat → Bool
  staysFinished : ∀ {before after : Nat}, before ≤ after → isFinished before = true →
    isFinished after = true

/-- `HandleReSync`: the task's handle, the instant of the latest beacon, the expiry window. -/
structure HandleReSync where
  handle : ResyncTask
  latestReceived : Nat
  factor : Nat

/-- `HandleReSync::new` at the instant `now`; `none` is the panic of the `u32` product. -/
def HandleReSync.new (period : Nat) (handle : ResyncTask) (now : Nat) : Option HandleReSync :=
  match mulU32 period resyncExpiryFactor with
  | none => none
  | some secs => some ⟨handle, now, durationFromSecs secs⟩

/-- `HandleReSync::is_running` at the instant `now`. Tokio's `elapsed` saturates at zero. -/
def HandleReSync.isRunning (h : HandleReSync) (now : Nat) : Bool :=
  if h.handle.isFinished now then false else decide (now - h.latestReceived < h.factor)

/-- `HandleReSync::update_last_received_time` at the instant `now`. -/
def HandleReSync.updateLastReceivedTime (h : HandleReSync) (now : Nat) : HandleReSync :=
  { h with latestReceived := now }

end Drand.Sync

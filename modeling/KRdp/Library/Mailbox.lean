/-
A mailbox for the latest value.

Values are posted one after another and only the last one counts.  A decision
settles everything posted so far: it either delivers the pending value or drops
it.  Values are named by their numbers in the order of posting, so that two equal
values stay apart.
-/

import Mathlib.Data.List.Basic
import Mathlib.Order.Basic

variable {α : Type*}

structure Mailbox (α : Type*) where
  posted : List α := []
  settled : Nat := 0
  delivered : List Nat := []

namespace Mailbox

def post (value : α) (mailbox : Mailbox α) : Mailbox α :=
  { mailbox with posted := mailbox.posted ++ [value] }

def drop (mailbox : Mailbox α) : Mailbox α :=
  { mailbox with settled := mailbox.posted.length }

/-- The number of the value posted last. -/
def last (mailbox : Mailbox α) : Nat := mailbox.posted.length - 1

def deliver (mailbox : Mailbox α) : Mailbox α :=
  { mailbox with
    settled := mailbox.posted.length
    delivered := mailbox.delivered ++ [mailbox.last] }

/-- The value posted last, unless it is settled. -/
def pending (mailbox : Mailbox α) : Option α :=
  if mailbox.settled < mailbox.posted.length then mailbox.posted.getLast? else none

structure Sound (mailbox : Mailbox α) : Prop where
  settledPosted : mailbox.settled ≤ mailbox.posted.length
  deliveredSettled : ∀ number ∈ mailbox.delivered, number < mailbox.settled
  increasing : mailbox.delivered.Pairwise (· < ·)

@[simp] theorem pending_empty : (({} : Mailbox α)).pending = none := rfl

@[simp] theorem pending_drop (mailbox : Mailbox α) : mailbox.drop.pending = none :=
  if_neg (Nat.lt_irrefl _)

@[simp] theorem pending_deliver (mailbox : Mailbox α) : mailbox.deliver.pending = none :=
  if_neg (Nat.lt_irrefl _)

theorem pending_eq_some {mailbox : Mailbox α} {value : α}
    (isPending : mailbox.pending = some value) :
    mailbox.settled < mailbox.posted.length ∧ mailbox.posted.getLast? = some value := by
  unfold pending at isPending
  split at isPending
  · rename_i unsettled
    exact ⟨unsettled, isPending⟩
  · cases isPending

/-- The pending value is the one with the last number. -/
theorem getElem?_last {mailbox : Mailbox α} {value : α}
    (isPending : mailbox.pending = some value) :
    mailbox.posted[mailbox.last]? = some value := by
  have lastEq := (pending_eq_some isPending).2
  rw [List.getLast?_eq_getElem?] at lastEq
  exact lastEq

theorem sound_empty : Sound ({} : Mailbox α) where
  settledPosted := Nat.le_refl 0
  deliveredSettled := by intro number member; cases member
  increasing := List.Pairwise.nil

namespace Sound

variable {mailbox : Mailbox α}

theorem pending_post (sound : mailbox.Sound) (value : α) :
    (mailbox.post value).pending = some value := by
  have settledPosted := sound.settledPosted
  unfold pending post
  rw [if_pos (by simp only [List.length_append, List.length_singleton]; omega)]
  exact List.getLast?_concat

theorem post (sound : mailbox.Sound) (value : α) : (mailbox.post value).Sound where
  settledPosted := by
    have settledPosted := sound.settledPosted
    simp only [Mailbox.post, List.length_append, List.length_singleton]
    omega
  deliveredSettled := sound.deliveredSettled
  increasing := sound.increasing

theorem drop (sound : mailbox.Sound) : mailbox.drop.Sound where
  settledPosted := Nat.le_refl _
  deliveredSettled := by
    intro number member
    exact Nat.lt_of_lt_of_le (sound.deliveredSettled number member) sound.settledPosted
  increasing := sound.increasing

theorem deliver (sound : mailbox.Sound) {value : α}
    (isPending : mailbox.pending = some value) : mailbox.deliver.Sound where
  settledPosted := Nat.le_refl _
  deliveredSettled := by
    have unsettled := (pending_eq_some isPending).1
    intro number member
    change number < mailbox.posted.length
    rcases List.mem_append.mp member with earlier | latest
    · have below := sound.deliveredSettled number earlier
      omega
    · have numberEq : number = mailbox.last := List.mem_singleton.mp latest
      simp only [last] at numberEq
      omega
  increasing := by
    have unsettled := (pending_eq_some isPending).1
    change (mailbox.delivered ++ [mailbox.last]).Pairwise (· < ·)
    rw [List.pairwise_append]
    refine ⟨sound.increasing, List.pairwise_singleton _ _, ?_⟩
    intro earlier earlierMember latest latestMember
    have below := sound.deliveredSettled earlier earlierMember
    have latestEq : latest = mailbox.last := List.mem_singleton.mp latestMember
    simp only [last] at latestEq
    omega

/-- No posted value is delivered twice. -/
theorem delivered_nodup (sound : mailbox.Sound) : mailbox.delivered.Nodup :=
  sound.increasing.imp Nat.ne_of_lt

end Sound

end Mailbox

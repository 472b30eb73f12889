/-!
# Words passed on

A word that tasks wait for, each under its number.  It goes to the one that has waited longest, and where nobody waits
one word is kept for the next task that asks.  A task that was given the word takes it when it asks again; one that no
longer waits passes it on.  Main statement: no word is lost when a task leaves (`leave_words`).
-/
namespace ServiceControl.Workload

structure Notify where
  /-- A word is kept. -/
  permit : Bool := false
  /-- The tasks that wait, the one that has waited longest first. -/
  waiting : List Nat := []
  /-- The tasks that have been given the word and have not taken it yet. -/
  told : List Nat := []
  deriving DecidableEq, Repr, Inhabited

namespace Notify

/-- Gives the word to one task. -/
def notifyOne (n : Notify) : Notify :=
  match n.waiting with
  | [] => { n with permit := true }
  | id :: rest => { n with waiting := rest, told := id :: n.told }

/-- A task asks for the word: it takes one that is there for it, and else it waits. -/
def ask (id : Nat) (n : Notify) : Bool × Notify :=
  if id ∈ n.told then (true, { n with told := n.told.erase id })
  else if id ∈ n.waiting then (false, n)
  else if n.permit then (true, { n with permit := false })
  else (false, { n with waiting := n.waiting ++ [id] })

/-- A task no longer waits. -/
def leave (id : Nat) (n : Notify) : Notify :=
  if id ∈ n.told then notifyOne { n with told := n.told.erase id } else { n with waiting := n.waiting.erase id }

/-- How many words there are that nobody has taken. -/
def words (n : Notify) : Nat := n.told.length + n.permit.toNat

/-- **A task that leaves takes no word with it**, unless one is kept already. -/
theorem leave_words (id : Nat) (n : Notify) (free : n.permit = false) : (n.leave id).words = n.words := by
  unfold leave
  split
  · rename_i given
    have fewer : (n.told.erase id).length + 1 = n.told.length := by
      rw [List.length_erase_of_mem given]
      exact Nat.sub_add_cancel (List.length_pos_of_mem given)
    cases hw : n.waiting with
    | nil => simpa [notifyOne, hw, words, free] using fewer
    | cons next rest => simpa [notifyOne, hw, words, free] using fewer
  · rfl

end Notify

end ServiceControl.Workload

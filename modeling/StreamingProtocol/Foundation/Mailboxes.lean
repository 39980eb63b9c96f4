import Mathlib.Data.List.Basic
import StreamingProtocol.Foundation.Runs

/-!
# Mailboxes

A sender puts messages into a mailbox, and a receiver takes them out, one after the other and in the
order in which they were put in. It takes messages as long as it accepts them: the first one that it
does not accept is the last one that it takes. It may also give up.

What has been taken is a prefix of what has been sent, and the receiver is in the state that these
messages lead to.

## Main definitions

* `Mailbox`, `Mailbox.step`, `Mailbox.Allowed`.
* `Mailbox.Kept`: the invariant.

## Main results

* `Mailbox.kept_of_reached`.
-/

/-- A receiver with the messages that it has not taken yet, and a record of all messages. -/
structure Mailbox (α τ : Type) where
  receiver : τ
  isOpen : Bool := true
  pending : List α := []
  sent : List α := []
  taken : List α := []

/-- What happens to a mailbox. -/
inductive MailboxEvent (α : Type) where
  | send (a : α)
  | take
  | quit

namespace Mailbox

open ReachedBy

variable {α τ : Type} (deliver : τ → α → τ) (accepts : τ → α → Bool)

/-- A mailbox into which nothing has been put. -/
def empty (init : τ) : Mailbox α τ := { receiver := init }

/-- A mailbox after an event. -/
def step (m : Mailbox α τ) : MailboxEvent α → Mailbox α τ
  | .send a => { m with pending := m.pending ++ [a], sent := m.sent ++ [a] }
  | .take =>
      match m.pending with
      | [] => m
      | a :: pending =>
          { m with
            receiver := deliver m.receiver a
            isOpen := accepts m.receiver a
            pending := pending
            taken := m.taken ++ [a] }
  | .quit => { m with isOpen := false }

/-- A message is taken from a mailbox that is open and holds one. -/
def Allowed (m : Mailbox α τ) : MailboxEvent α → Prop
  | .send _ | .quit => True
  | .take => m.isOpen = true ∧ m.pending ≠ []

/-- The messages are accepted, one after the other. -/
def AllAccepted (init : τ) (messages : List α) : Prop :=
  AllowedAlong deliver (fun t a => accepts t a = true) init messages

/-- What holds of a mailbox of a receiver that was in a state initially. -/
structure Kept (init : τ) (m : Mailbox α τ) : Prop where
  sent_eq : m.taken ++ m.pending = m.sent
  receiver_eq : m.taken.foldl deliver init = m.receiver
  accepted : AllAccepted deliver accepts init m.taken.dropLast
  accepted_of_isOpen : m.isOpen = true → AllAccepted deliver accepts init m.taken

variable {deliver accepts} {init : τ} {m : Mailbox α τ}

theorem allAccepted_concat_iff {messages : List α} {a : α} :
    AllAccepted deliver accepts init (messages ++ [a]) ↔
      AllAccepted deliver accepts init messages ∧
        accepts (messages.foldl deliver init) a = true := by
  unfold AllAccepted
  rw [allowedAlong_append]
  exact and_congr_right fun _ => and_iff_left trivial

theorem kept_empty : Kept deliver accepts init (empty init) :=
  ⟨rfl, rfl, trivial, fun _ => trivial⟩

theorem Kept.step (h : Kept deliver accepts init m) {e : MailboxEvent α} (he : Allowed m e) :
    Kept deliver accepts init (m.step deliver accepts e) := by
  cases e with
  | send a =>
    refine ⟨?_, h.receiver_eq, h.accepted, h.accepted_of_isOpen⟩
    show m.taken ++ (m.pending ++ [a]) = m.sent ++ [a]
    rw [← List.append_assoc, h.sent_eq]
  | take =>
    obtain ⟨hopen, hpending⟩ := he
    obtain ⟨a, pending, hcons⟩ := List.exists_cons_of_ne_nil hpending
    have hstep : m.step deliver accepts .take =
        { m with
          receiver := deliver m.receiver a
          isOpen := accepts m.receiver a
          pending := pending
          taken := m.taken ++ [a] } := by
      rw [Mailbox.step, hcons]
    have hall := h.accepted_of_isOpen hopen
    rw [hstep]
    refine ⟨?_, ?_, ?_, fun haccepts => ?_⟩
    · rw [← h.sent_eq, hcons, List.append_assoc, List.singleton_append]
    · rw [List.foldl_append, h.receiver_eq]
      rfl
    · rwa [List.dropLast_concat]
    · rw [allAccepted_concat_iff, h.receiver_eq]
      exact ⟨hall, haccepts⟩
  | quit => exact ⟨h.sent_eq, h.receiver_eq, h.accepted, nofun⟩

/-- In every state that is reached, what has been taken is a prefix of what has been sent, and all
of it but the last message has been accepted. -/
theorem kept_of_reached (h : ReachedBy (step deliver accepts) Allowed (empty init) m) :
    Kept deliver accepts init m :=
  h.invariant kept_empty fun _ _ hm he => hm.step he

/-- What has been taken is a prefix of what has been sent. -/
theorem Kept.taken_isPrefix (h : Kept deliver accepts init m) : m.taken <+: m.sent :=
  ⟨m.pending, h.sent_eq⟩

end Mailbox

import Mathlib.Data.List.Sort
import Mathlib.Logic.Relation

/-!
# A log that is replayed and then followed

Events with increasing numbers are appended to a log and delivered to a listener afterwards.
-/

/-- A log, the events not yet delivered, and what one listener has read and received. -/
structure ReplayFeed (ε : Type*) where
  log : List ε
  undelivered : List ε
  replay : Option (List ε)
  listening : Bool
  received : List ε

namespace ReplayFeed

open List
variable {ε : Type*} (number : ε → Nat) (position : Nat)

/-- The events after the position of the listener. -/
def after (events : List ε) : List ε :=
  events.filter fun event => position < number event

/-- The listener starts when what it read and what is undelivered are all later events. -/
inductive Step : ReplayFeed ε → ReplayFeed ε → Prop where
  | append {feed : ReplayFeed ε} (event : ε)
      (later : ∀ earlier ∈ feed.log, number earlier < number event) :
      Step feed { feed with
        log := feed.log ++ [event]
        undelivered := feed.undelivered ++ [event] }
  | deliver {feed : ReplayFeed ε} {event : ε} {rest : List ε}
      (oldest : feed.undelivered = event :: rest) :
      Step feed { feed with
        undelivered := rest
        received :=
          if feed.listening ∧ position < number event then feed.received ++ [event]
          else feed.received }
  | read {feed : ReplayFeed ε} (waiting : feed.listening = false) :
      Step feed { feed with replay := some (after number position feed.log) }
  | listen {feed : ReplayFeed ε} {replay : List ε}
      (waiting : feed.listening = false) (replayed : feed.replay = some replay)
      (current : after number position feed.log =
        replay ++ after number position feed.undelivered) :
      Step feed { feed with received := replay, listening := true }

/-- The listener has every event after its position that was delivered, once and in order. -/
structure Exact (feed : ReplayFeed ε) : Prop where
  numbered : feed.log.Pairwise fun first second => number first < number second
  suffix : feed.undelivered <:+ feed.log
  waiting : feed.listening = false → feed.received = []
  complete : feed.listening = true → after number position feed.log =
      feed.received ++ after number position feed.undelivered

variable {number position}

theorem Exact.step {before next : ReplayFeed ε} (exact : Exact number position before)
    (stepTo : Step number position before next) : Exact number position next := by
  cases stepTo with
  | append event later =>
    refine ⟨?_, ?_, exact.waiting, fun listening => ?_⟩
    · rw [pairwise_append]
      exact ⟨exact.numbered, pairwise_singleton _ _, by simpa using later⟩
    · obtain ⟨delivered, logEq⟩ := exact.suffix
      exact ⟨delivered, by simp [← logEq]⟩
    · have soFar := exact.complete listening
      simp only [after, filter_append] at soFar ⊢
      rw [soFar, append_assoc]
  | @deliver event rest oldest =>
    refine ⟨exact.numbered, ?_, fun waiting => ?_, fun listening => ?_⟩
    · exact (suffix_cons event rest).trans (oldest ▸ exact.suffix)
    · simpa [show before.listening = false from waiting] using exact.waiting waiting
    · have soFar := exact.complete listening
      split <;> simp_all [after]
  | read waiting => exact ⟨exact.numbered, exact.suffix, exact.waiting, exact.complete⟩
  | listen waiting replayed current =>
    exact ⟨exact.numbered, exact.suffix, fun bad => by simp at bad, fun _ => current⟩

theorem Exact.run {start last : ReplayFeed ε} (exact : Exact number position start)
    (run : Relation.ReflTransGen (Step number position) start last) :
    Exact number position last := by
  induction run with
  | refl => exact exact
  | tail _ stepTo ih => exact ih.step stepTo

theorem Exact.received_sublist {feed : ReplayFeed ε} (exact : Exact number position feed) :
    feed.received.Sublist (after number position feed.log) := by
  cases listening : feed.listening with
  | false => simp [exact.waiting listening]
  | true => exact exact.complete listening ▸ sublist_append_left _ _

theorem Exact.received_increasing {feed : ReplayFeed ε} (exact : Exact number position feed) :
    feed.received.Pairwise fun first second => number first < number second :=
  (exact.numbered.sublist filter_sublist).sublist exact.received_sublist

theorem Exact.mem_received {feed : ReplayFeed ε} (exact : Exact number position feed)
    (listening : feed.listening = true) {event : ε} (stored : event ∈ feed.log)
    (later : position < number event) (delivered : event ∉ feed.undelivered) :
    event ∈ feed.received := by
  have mem : event ∈ after number position feed.log := by
    simpa [after] using ⟨stored, later⟩
  rw [exact.complete listening, mem_append] at mem
  rcases mem with received | undelivered
  · exact received
  · exact absurd (mem_of_mem_filter undelivered) delivered

end ReplayFeed

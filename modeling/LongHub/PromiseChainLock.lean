import LongHub.InsertionMap
import LongHub.ListLemmas
import Mathlib.Order.Nat
import Mathlib.Data.Finset.Filter
import Mathlib.Data.Finset.Range
import Mathlib.Data.Nat.Find

/-!
# A lock made of promise chains

How the callers of a key take their turns, and that a chain without new callers runs dry.
-/

/-! ## A lock made of a chain of promises -/

/-- How far a caller is with its key. -/
inductive WaitPhase where
  | waiting
  | leaving
  | holding
  | finished
  deriving DecidableEq

structure ChainWaiter (κ : Type*) where
  key : κ
  previous : Option Nat
  phase : WaitPhase

/-- The callers so far, and the last caller of every key in use. -/
structure ChainLock (κ : Type*) where
  waiters : List (ChainWaiter κ)
  tails : InsertionMap κ Nat

namespace ChainLock

variable {κ : Type*} {lock after : ChainLock κ} {index other : Nat} {key : κ}

def empty : ChainLock κ := ⟨[], .empty⟩

def phaseOf (lock : ChainLock κ) (index : Nat) : Option WaitPhase :=
  lock.waiters[index]?.map ChainWaiter.phase

def isResolved (lock : ChainLock κ) : Option Nat → Bool
  | none => true
  | some index => lock.phaseOf index = some .finished

/-- Put a caller into another phase. -/
def move (lock : ChainLock κ) (index : Nat) (waiter : ChainWaiter κ) (phase : WaitPhase) :
    ChainLock κ :=
  { lock with waiters := lock.waiters.set index { waiter with phase } }

/-- Give up waiting. -/
def leave (lock : ChainLock κ) (index : Nat) : Option (ChainLock κ) := do
  let waiter ← lock.waiters[index]?
  if waiter.phase = .waiting then some (lock.move index waiter .leaving) else none

/-- Hold the key, after the promise before is resolved. -/
def acquire (lock : ChainLock κ) (index : Nat) : Option (ChainLock κ) := do
  let waiter ← lock.waiters[index]?
  if waiter.phase = .waiting && lock.isResolved waiter.previous then
    some (lock.move index waiter .holding)
  else none

variable [DecidableEq κ]

def enqueue (lock : ChainLock κ) (key : κ) : ChainLock κ where
  waiters := lock.waiters ++ [⟨key, lock.tails.get? key, .waiting⟩]
  tails := lock.tails.set key lock.waiters.length

/-- Whether a caller has nothing left to wait for. -/
def mayFinish (lock : ChainLock κ) (waiter : ChainWaiter κ) : Bool :=
  waiter.phase = .holding || waiter.phase = .leaving && lock.isResolved waiter.previous

/-- Resolve the own promise and remove the own tail. -/
def finish (lock : ChainLock κ) (index : Nat) : Option (ChainLock κ) := do
  let waiter ← lock.waiters[index]?
  if lock.mayFinish waiter then
    some { lock.move index waiter .finished with
      tails :=
        if lock.tails.get? waiter.key = some index then lock.tails.delete waiter.key
        else lock.tails }
  else none

inductive Moves (lock : ChainLock κ) : ChainLock κ → Prop where
  | stay : Moves lock lock
  | enqueue (key : κ) : Moves lock (lock.enqueue key)
  | leave {after : ChainLock κ} (index : Nat) : lock.leave index = some after → Moves lock after
  | acquire {after : ChainLock κ} (index : Nat) :
      lock.acquire index = some after → Moves lock after
  | finish {after : ChainLock κ} (index : Nat) :
      lock.finish index = some after → Moves lock after

omit [DecidableEq κ] in
theorem leave_eq_some (left : lock.leave index = some after) :
    ∃ waiter, lock.waiters[index]? = some waiter ∧ waiter.phase = .waiting ∧
      after = lock.move index waiter .leaving := by
  simp only [leave, Option.bind_eq_bind, Option.bind_eq_some_iff] at left
  obtain ⟨waiter, found, left⟩ := left
  split at left
  · next waiting => exact ⟨waiter, found, waiting, (Option.some.inj left).symm⟩
  · cases left

omit [DecidableEq κ] in
theorem acquire_eq_some (acquired : lock.acquire index = some after) :
    ∃ waiter, lock.waiters[index]? = some waiter ∧ waiter.phase = .waiting ∧
      lock.isResolved waiter.previous = true ∧ after = lock.move index waiter .holding := by
  simp only [acquire, Option.bind_eq_bind, Option.bind_eq_some_iff] at acquired
  obtain ⟨waiter, found, acquired⟩ := acquired
  split at acquired
  · next ready =>
    simp only [Bool.and_eq_true, decide_eq_true_eq] at ready
    exact ⟨waiter, found, ready.1, ready.2, (Option.some.inj acquired).symm⟩
  · cases acquired

theorem finish_eq_some (finished : lock.finish index = some after) :
    ∃ waiter, lock.waiters[index]? = some waiter ∧ lock.mayFinish waiter = true ∧
      after.waiters = lock.waiters.set index { waiter with phase := .finished } ∧
      after.tails = (if lock.tails.get? waiter.key = some index then
        lock.tails.delete waiter.key else lock.tails) := by
  simp only [finish, Option.bind_eq_bind, Option.bind_eq_some_iff] at finished
  obtain ⟨waiter, found, finished⟩ := finished
  split at finished
  · next ready =>
    cases finished
    exact ⟨waiter, found, ready, rfl, rfl⟩
  · cases finished

/-- Every earlier caller of the same key has finished. -/
def Foremost (lock : ChainLock κ) (index : Nat) (key : κ) : Prop :=
  ∀ earlier < index, ∀ waiter : ChainWaiter κ, lock.waiters[earlier]? = some waiter →
    waiter.key = key → waiter.phase = .finished

structure Chained (lock : ChainLock κ) : Prop where
  /-- The tail of a key is its last caller, who has not finished. -/
  tail : ∀ key index, lock.tails.get? key = some index →
    (∃ waiter : ChainWaiter κ, lock.waiters[index]? = some waiter ∧ waiter.key = key ∧
      waiter.phase ≠ .finished) ∧
    ∀ (later : Nat) (waiter : ChainWaiter κ), index < later → lock.waiters[later]? = some waiter →
      waiter.key ≠ key
  /-- Nobody uses a key without a tail. -/
  untailed : ∀ key, lock.tails.get? key = none → ∀ (index : Nat) (waiter : ChainWaiter κ),
    lock.waiters[index]? = some waiter → waiter.key = key → waiter.phase = .finished
  /-- A caller waits for the caller of its key just before it. -/
  waitsFor : ∀ (index : Nat) (waiter : ChainWaiter κ) (before : Nat),
    lock.waiters[index]? = some waiter → waiter.previous = some before →
    before < index ∧ (∃ earlier : ChainWaiter κ, lock.waiters[before]? = some earlier ∧
      earlier.key = waiter.key) ∧
    ∀ (between : Nat) (other : ChainWaiter κ), before < between → between < index →
      lock.waiters[between]? = some other → other.key ≠ waiter.key
  /-- A caller that waits for nobody is the foremost. -/
  first : ∀ (index : Nat) (waiter : ChainWaiter κ), lock.waiters[index]? = some waiter →
    waiter.previous = none →
    lock.Foremost index waiter.key
  /-- Who holds a key or has finished with it is the foremost. -/
  inOrder : ∀ (index : Nat) (waiter : ChainWaiter κ), lock.waiters[index]? = some waiter →
    waiter.phase = .holding ∨ waiter.phase = .finished → lock.Foremost index waiter.key

theorem chained_empty : (empty : ChainLock κ).Chained where
  tail := by simp [empty]
  untailed := by simp [empty]
  waitsFor := by simp [empty]
  first := by simp [empty]
  inOrder := by simp [empty]

variable {waiter : ChainWaiter κ}

omit [DecidableEq κ] in
theorem unfinished_of_mayFinish (ready : lock.mayFinish waiter = true) :
    waiter.phase ≠ .finished := by
  intro done
  simp [mayFinish, done] at ready

variable (chained : lock.Chained)
include chained

theorem Chained.foremost_of_resolved (found : lock.waiters[index]? = some waiter)
    (resolved : lock.isResolved waiter.previous = true) : lock.Foremost index waiter.key := by
  cases previous : waiter.previous with
  | none => exact chained.first index waiter found previous
  | some before =>
    obtain ⟨beforeIndex, ⟨earlier, earlierFound, sameKey⟩, nobody⟩ :=
      chained.waitsFor index waiter before found previous
    rw [previous, isResolved, phaseOf, earlierFound] at resolved
    have finished : earlier.phase = .finished := by simpa using resolved
    intro position isEarlier candidate candidateFound candidateKey
    rcases lt_trichotomy position before with less | same | greater
    · have order := chained.inOrder before earlier earlierFound (.inr finished)
      exact order position less candidate candidateFound (candidateKey.trans sameKey.symm)
    · subst same
      rw [earlierFound] at candidateFound
      cases candidateFound
      exact finished
    · exact absurd candidateKey (nobody position candidate greater isEarlier candidateFound)

theorem Chained.exclusive {first second : Nat} {one two : ChainWaiter κ}
    (firstFound : lock.waiters[first]? = some one)
    (secondFound : lock.waiters[second]? = some two) (sameKey : one.key = two.key)
    (firstHolds : one.phase = .holding) (secondHolds : two.phase = .holding) : first = second := by
  rcases lt_trichotomy first second with less | same | greater
  · have done := chained.inOrder second two secondFound (.inl secondHolds) first less one
      firstFound sameKey
    rw [firstHolds] at done
    cases done
  · exact same
  · have done := chained.inOrder first one firstFound (.inl firstHolds) second greater two
      secondFound sameKey.symm
    rw [secondHolds] at done
    cases done

theorem Chained.tail_isSome_iff (key : κ) : (lock.tails.get? key).isSome ↔
      ∃ (index : Nat) (waiter : ChainWaiter κ), lock.waiters[index]? = some waiter ∧
        waiter.key = key ∧ waiter.phase ≠ .finished := by
  constructor
  · intro present
    obtain ⟨index, tail⟩ := Option.isSome_iff_exists.mp present
    obtain ⟨⟨waiter, found⟩, -⟩ := chained.tail key index tail
    exact ⟨index, waiter, found⟩
  · rintro ⟨index, waiter, found, sameKey, unfinished⟩
    cases tail : lock.tails.get? key with
    | some _ => rfl
    | none => exact absurd (chained.untailed key tail index waiter found sameKey) unfinished

theorem Chained.enqueue (key : κ) : (lock.enqueue key).Chained := by
  have lookup : ∀ {index : Nat} {waiter : ChainWaiter κ},
      (lock.enqueue key).waiters[index]? = some waiter →
      lock.waiters[index]? = some waiter ∨
        index = lock.waiters.length ∧ waiter = ⟨key, lock.tails.get? key, .waiting⟩ :=
    fun found => List.getElem?_append_singleton_eq_some found
  have inRange : ∀ {index : Nat} {waiter : ChainWaiter κ},
      lock.waiters[index]? = some waiter → index < lock.waiters.length :=
    fun found => (List.getElem?_eq_some_iff.mp found).1
  have old : ∀ {index : Nat} {waiter : ChainWaiter κ}, lock.waiters[index]? = some waiter →
      (lock.enqueue key).waiters[index]? = some waiter :=
    fun found => (List.getElem?_append_left (inRange found)).trans found
  have foremost : ∀ {index : Nat} {name : κ}, index ≤ lock.waiters.length →
      lock.Foremost index name → (lock.enqueue key).Foremost index name := by
    intro index name within before earlier isEarlier waiter found sameKey
    rcases lookup found with known | ⟨new, -⟩
    · exact before earlier isEarlier waiter known sameKey
    · omega
  have tails : ∀ other, (lock.enqueue key).tails.get? other =
      if other = key then some lock.waiters.length else lock.tails.get? other := by
    intro other
    simp only [ChainLock.enqueue, InsertionMap.get?_set, eq_comm]
  exact
    { tail := by
        intro other index found
        rw [tails] at found
        split at found
        · next same =>
          subst same
          cases found
          refine ⟨⟨_, List.getElem?_concat_length, rfl, by simp⟩, ?_⟩
          intro later waiter isLater laterFound
          rcases lookup laterFound with known | ⟨new, -⟩
          · have := inRange known
            omega
          · omega
        · next differ =>
          obtain ⟨⟨waiter, waiterFound, sameKey, unfinished⟩, last⟩ :=
            chained.tail other index found
          refine ⟨⟨waiter, old waiterFound, sameKey, unfinished⟩, ?_⟩
          intro later candidate isLater laterFound
          rcases lookup laterFound with known | ⟨-, rfl⟩
          · exact last later candidate isLater known
          · exact Ne.symm differ
      untailed := by
        intro other absent index waiter found sameKey
        rw [tails] at absent
        split at absent
        · cases absent
        · next differ =>
          rcases lookup found with known | ⟨-, rfl⟩
          · exact chained.untailed other absent index waiter known sameKey
          · exact absurd sameKey.symm differ
      waitsFor := by
        intro index waiter before found previous
        rcases lookup found with known | ⟨rfl, rfl⟩
        · obtain ⟨isBefore, ⟨earlier, earlierFound, sameKey⟩, nobody⟩ :=
            chained.waitsFor index waiter before known previous
          refine ⟨isBefore, ⟨earlier, old earlierFound, sameKey⟩, ?_⟩
          intro between other afterBefore beforeIndex otherFound
          rcases lookup otherFound with otherKnown | ⟨new, -⟩
          · exact nobody between other afterBefore beforeIndex otherKnown
          · have := inRange known
            omega
        · obtain ⟨⟨earlier, earlierFound, sameKey, -⟩, last⟩ := chained.tail key before previous
          refine ⟨inRange earlierFound, ⟨earlier, old earlierFound, sameKey⟩, ?_⟩
          intro between other afterBefore beforeIndex otherFound
          rcases lookup otherFound with otherKnown | ⟨new, -⟩
          · exact last between other afterBefore otherKnown
          · omega
      first := by
        intro index waiter found previous
        rcases lookup found with known | ⟨rfl, rfl⟩
        · exact foremost (inRange known).le (chained.first index waiter known previous)
        · apply foremost le_rfl
          intro earlier _ candidate candidateFound sameKey
          exact chained.untailed key previous earlier candidate candidateFound sameKey
      inOrder := by
        intro index waiter found settled
        rcases lookup found with known | ⟨-, rfl⟩
        · exact foremost (inRange known).le (chained.inOrder index waiter known settled)
        · simp at settled }

theorem Chained.of_move {phase : WaitPhase} (stored : lock.waiters[index]? = some waiter)
    (unfinished : waiter.phase ≠ .finished)
    (waiters : after.waiters = lock.waiters.set index { waiter with phase })
    (keeps : ∀ key tail, after.tails.get? key = some tail →
      lock.tails.get? key = some tail ∧ (phase = .finished → tail ≠ index))
    (drops : ∀ key, after.tails.get? key = none →
      lock.tails.get? key = none ∨ phase = .finished ∧ lock.tails.get? key = some index)
    (order : phase = .holding ∨ phase = .finished → lock.Foremost index waiter.key) :
    after.Chained := by
  have lookup : ∀ {position : Nat} {found : ChainWaiter κ},
      after.waiters[position]? = some found →
      position = index ∧ found = { waiter with phase } ∨
        position ≠ index ∧ lock.waiters[position]? = some found := by
    intro position found here
    rw [waiters] at here
    exact List.getElem?_set_eq_some stored here
  have original : ∀ {position : Nat} {found : ChainWaiter κ},
      after.waiters[position]? = some found →
      ∃ before, lock.waiters[position]? = some before ∧ before.key = found.key ∧
        before.previous = found.previous := by
    intro position found here
    rcases lookup here with ⟨rfl, rfl⟩ | ⟨-, same⟩
    · exact ⟨waiter, stored, rfl, rfl⟩
    · exact ⟨found, same, rfl, rfl⟩
  have moved : ∀ {position : Nat} {before : ChainWaiter κ},
      lock.waiters[position]? = some before → position ≠ index →
      after.waiters[position]? = some before := by
    intro position before found differ
    rw [waiters, List.getElem?_set_ne (Ne.symm differ)]
    exact found
  have here : after.waiters[index]? = some { waiter with phase } := by
    rw [waiters, List.getElem?_set_self (List.getElem?_eq_some_iff.mp stored).1]
  have foremost : ∀ {position : Nat} {name : κ}, lock.Foremost position name →
      after.Foremost position name := by
    intro position name before earlier isEarlier candidate found sameKey
    rcases lookup found with ⟨rfl, rfl⟩ | ⟨-, same⟩
    · exact absurd (before earlier isEarlier waiter stored sameKey) unfinished
    · exact before earlier isEarlier candidate same sameKey
  exact
    { tail := by
        intro key tail present
        obtain ⟨before, notOwn⟩ := keeps key tail present
        obtain ⟨⟨last, lastFound, sameKey, lastUnfinished⟩, nobody⟩ := chained.tail key tail before
        constructor
        · by_cases own : tail = index
          · subst own
            rw [stored] at lastFound
            cases lastFound
            exact ⟨_, here, sameKey, fun done => notOwn done rfl⟩
          · exact ⟨last, moved lastFound own, sameKey, lastUnfinished⟩
        · intro later candidate isLater found
          obtain ⟨earlier, earlierFound, earlierKey, -⟩ := original found
          rw [← earlierKey]
          exact nobody later earlier isLater earlierFound
      untailed := by
        intro key absent position candidate found sameKey
        rcases lookup found with ⟨rfl, rfl⟩ | ⟨differ, same⟩
        · rcases drops key absent with before | ⟨done, -⟩
          · exact absurd (chained.untailed key before position waiter stored sameKey) unfinished
          · exact done
        · rcases drops key absent with before | ⟨done, own⟩
          · exact chained.untailed key before position candidate same sameKey
          · obtain ⟨⟨last, lastFound, lastKey, -⟩, nobody⟩ := chained.tail key index own
            rw [stored] at lastFound
            cases lastFound
            have isEarlier : position < index := by
              by_contra notEarlier
              exact nobody position candidate (by omega) same sameKey
            exact order (.inr done) position isEarlier candidate same (sameKey.trans lastKey.symm)
      waitsFor := by
        intro position candidate before found previous
        obtain ⟨unmoved, unmovedFound, sameKey, samePrevious⟩ := original found
        rw [← samePrevious] at previous
        obtain ⟨isBefore, ⟨earlier, earlierFound, earlierKey⟩, nobody⟩ :=
          chained.waitsFor position unmoved before unmovedFound previous
        rw [← sameKey]
        refine ⟨isBefore, ?_, ?_⟩
        · by_cases own : before = index
          · subst own
            rw [stored] at earlierFound
            cases earlierFound
            exact ⟨_, here, earlierKey⟩
          · exact ⟨earlier, moved earlierFound own, earlierKey⟩
        · intro between other afterBefore beforePosition otherFound
          obtain ⟨unmovedOther, otherOriginal, otherKey, -⟩ := original otherFound
          rw [← otherKey]
          exact nobody between unmovedOther afterBefore beforePosition otherOriginal
      first := by
        intro position candidate found previous
        obtain ⟨unmoved, unmovedFound, sameKey, samePrevious⟩ := original found
        rw [← sameKey]
        exact foremost (chained.first position unmoved unmovedFound (samePrevious.trans previous))
      inOrder := by
        intro position candidate found settled
        rcases lookup found with ⟨rfl, rfl⟩ | ⟨-, same⟩
        · exact foremost (order settled)
        · exact foremost (chained.inOrder position candidate same settled) }

theorem Chained.foremost_of_mayFinish (stored : lock.waiters[index]? = some waiter)
    (ready : lock.mayFinish waiter = true) :
    lock.Foremost index waiter.key := by
  simp only [mayFinish, Bool.or_eq_true, Bool.and_eq_true, decide_eq_true_eq] at ready
  rcases ready with holding | ⟨-, resolved⟩
  · exact chained.inOrder index waiter stored (.inl holding)
  · exact chained.foremost_of_resolved stored resolved

theorem Chained.finish (finished : lock.finish index = some after) : after.Chained := by
  obtain ⟨waiter, stored, ready, waiters, tails⟩ := finish_eq_some finished
  apply chained.of_move stored (unfinished_of_mayFinish ready) waiters
  · intro key tail present
    rw [tails] at present
    split at present
    · rw [InsertionMap.get?_delete] at present
      split at present
      · cases present
      · next own differ =>
        refine ⟨present, fun _ same => differ ?_⟩
        subst same
        obtain ⟨⟨last, lastFound, lastKey, -⟩, -⟩ := chained.tail key tail present
        rw [stored] at lastFound
        cases lastFound
        exact lastKey.symm
    · next foreign =>
      refine ⟨present, fun _ same => foreign ?_⟩
      subst same
      obtain ⟨⟨last, lastFound, lastKey, -⟩, -⟩ := chained.tail key tail present
      rw [stored] at lastFound
      cases lastFound
      rw [lastKey]
      exact present
  · intro key absent
    rw [tails] at absent
    split at absent
    · next own =>
      rw [InsertionMap.get?_delete] at absent
      split at absent
      · next same => exact .inr ⟨rfl, same ▸ own⟩
      · exact .inl absent
    · exact .inl absent
  · exact fun _ => chained.foremost_of_mayFinish stored ready

theorem Chained.moves (moves : lock.Moves after) : after.Chained := by
  cases moves with
  | stay => exact chained
  | enqueue key => exact chained.enqueue key
  | leave index left =>
    obtain ⟨waiter, stored, waiting, rfl⟩ := leave_eq_some left
    apply chained.of_move stored (by simp [waiting]) rfl
    · exact fun _ _ present => ⟨present, by simp⟩
    · exact fun _ absent => .inl absent
    · simp
  | acquire index acquired =>
    obtain ⟨waiter, stored, waiting, resolved, rfl⟩ := acquire_eq_some acquired
    apply chained.of_move stored (by simp [waiting]) rfl
    · exact fun _ _ present => ⟨present, by simp⟩
    · exact fun _ absent => .inl absent
    · exact fun _ => chained.foremost_of_resolved stored resolved
  | finish index finished => exact chained.finish finished

end ChainLock

/-! ## Progress of a promise chain -/

namespace ChainLock

variable {κ : Type*} [DecidableEq κ] {lock after : ChainLock κ} {index other : Nat} {key : κ}

def unfinished (lock : ChainLock κ) (key : κ) : Finset Nat :=
  (Finset.range lock.waiters.length).filter fun index =>
    lock.waiters[index]?.any fun waiter => waiter.key = key && waiter.phase ≠ .finished

theorem mem_unfinished {key : κ} : index ∈ lock.unfinished key ↔
    ∃ waiter, lock.waiters[index]? = some waiter ∧ waiter.key = key ∧ waiter.phase ≠ .finished := by
  simp only [unfinished, Finset.mem_filter, Finset.mem_range, Option.any_eq_true,
    Bool.and_eq_true, decide_eq_true_eq]
  constructor
  · rintro ⟨-, waiter, found, sameKey, open_⟩
    exact ⟨waiter, found, sameKey, open_⟩
  · rintro ⟨waiter, found, sameKey, open_⟩
    exact ⟨(List.getElem?_eq_some_iff.mp found).1, waiter, found, sameKey, open_⟩

theorem Moves.persists (moves : lock.Moves after) {waiter : ChainWaiter κ}
    (found : lock.waiters[index]? = some waiter) :
    ∃ later, after.waiters[index]? = some later ∧ later.key = waiter.key ∧
      later.previous = waiter.previous ∧ (waiter.phase = .finished → later.phase = .finished) := by
  have moved : ∀ {target : Nat} {mover : ChainWaiter κ} {phase : WaitPhase},
      lock.waiters[target]? = some mover → mover.phase ≠ .finished →
      ∃ later, (lock.waiters.set target { mover with phase })[index]? = some later ∧
        later.key = waiter.key ∧ later.previous = waiter.previous ∧
        (waiter.phase = .finished → later.phase = .finished) := by
    intro target mover phase stored open_
    by_cases own : target = index
    · subst own
      rw [stored] at found
      cases found
      refine ⟨_, List.getElem?_set_self (List.getElem?_eq_some_iff.mp stored).1, rfl, rfl, ?_⟩
      exact fun done => absurd done open_
    · exact ⟨waiter, (List.getElem?_set_ne own).trans found, rfl, rfl, id⟩
  cases moves with
  | stay => exact ⟨waiter, found, rfl, rfl, id⟩
  | enqueue key =>
    have inRange := (List.getElem?_eq_some_iff.mp found).1
    exact ⟨waiter, (List.getElem?_append_left inRange).trans found, rfl, rfl, id⟩
  | leave target left =>
    obtain ⟨mover, stored, waiting, rfl⟩ := leave_eq_some left
    exact moved stored (by simp [waiting])
  | acquire target acquired =>
    obtain ⟨mover, stored, waiting, -, rfl⟩ := acquire_eq_some acquired
    exact moved stored (by simp [waiting])
  | finish target finished =>
    obtain ⟨mover, stored, ready, waiters, -⟩ := finish_eq_some finished
    rw [waiters]
    exact moved stored (unfinished_of_mayFinish ready)

theorem Moves.isResolved (moves : lock.Moves after) {previous : Option Nat}
    (resolved : lock.isResolved previous = true) : after.isResolved previous = true := by
  cases previous with
  | none => rfl
  | some before =>
    simp only [ChainLock.isResolved, phaseOf, decide_eq_true_eq, Option.map_eq_some_iff]
      at resolved ⊢
    obtain ⟨waiter, found, done⟩ := resolved
    obtain ⟨later, laterFound, -, -, kept⟩ := moves.persists found
    exact ⟨later, laterFound, kept done⟩

/-- When nobody asks for a key, no caller is added to those who use it. -/
theorem Moves.unfinished_subset (moves : lock.Moves after)
    (nobody : ∀ waiter ∈ after.waiters, waiter.key = key → waiter.phase ≠ .waiting) :
    after.unfinished key ⊆ lock.unfinished key := by
  intro index mem
  obtain ⟨waiter, found, sameKey, open_⟩ := mem_unfinished.mp mem
  have moved : ∀ {target : Nat} {mover : ChainWaiter κ} {phase : WaitPhase},
      lock.waiters[target]? = some mover → mover.phase ≠ .finished →
      (lock.waiters.set target { mover with phase })[index]? = some waiter →
      index ∈ lock.unfinished key := by
    intro target mover phase stored moverOpen here
    rcases List.getElem?_set_eq_some stored here with ⟨rfl, rfl⟩ | ⟨-, same⟩
    · exact mem_unfinished.mpr ⟨mover, stored, sameKey, moverOpen⟩
    · exact mem_unfinished.mpr ⟨waiter, same, sameKey, open_⟩
  cases moves with
  | stay => exact mem
  | enqueue new =>
    rcases List.getElem?_append_singleton_eq_some found with known | ⟨-, rfl⟩
    · exact mem_unfinished.mpr ⟨waiter, known, sameKey, open_⟩
    · exact absurd rfl (nobody _ (List.mem_append_right _ List.mem_cons_self) sameKey)
  | leave target left =>
    obtain ⟨mover, stored, waiting, rfl⟩ := leave_eq_some left
    exact moved stored (by simp [waiting]) found
  | acquire target acquired =>
    obtain ⟨mover, stored, waiting, -, rfl⟩ := acquire_eq_some acquired
    exact moved stored (by simp [waiting]) found
  | finish target finished =>
    obtain ⟨mover, stored, ready, waiters, -⟩ := finish_eq_some finished
    rw [waiters] at found
    exact moved stored (unfinished_of_mayFinish ready) found

/-- The caller whose turn it is: nobody before it is left. -/
def IsNext (lock : ChainLock κ) (index : Nat) (key : κ) : Prop :=
  ∃ waiter, lock.waiters[index]? = some waiter ∧ waiter.key = key ∧
    lock.isResolved waiter.previous = true

theorem IsNext.moves (next : lock.IsNext index key) (moves : lock.Moves after) :
    after.IsNext index key := by
  obtain ⟨waiter, found, sameKey, resolved⟩ := next
  obtain ⟨later, laterFound, laterKey, laterPrevious, -⟩ := moves.persists found
  refine ⟨later, laterFound, laterKey.trans sameKey, ?_⟩
  rw [laterPrevious]
  exact moves.isResolved resolved

theorem Chained.exists_next (chained : lock.Chained) (present : (lock.tails.get? key).isSome) :
    ∃ index, lock.IsNext index key ∧ index ∈ lock.unfinished key := by
  classical
  have somebody : ∃ index, index ∈ lock.unfinished key := by
    obtain ⟨index, found⟩ := (chained.tail_isSome_iff key).mp present
    exact ⟨index, mem_unfinished.mpr found⟩
  obtain ⟨waiter, found, sameKey, open_⟩ := mem_unfinished.mp (Nat.find_spec somebody)
  refine ⟨Nat.find somebody, ⟨waiter, found, sameKey, ?_⟩, Nat.find_spec somebody⟩
  cases previous : waiter.previous with
  | none => rfl
  | some before =>
    obtain ⟨isBefore, ⟨earlier, earlierFound, earlierKey⟩, -⟩ :=
      chained.waitsFor _ waiter before found previous
    have done : earlier.phase = .finished := by
      by_contra notDone
      exact Nat.find_min somebody isBefore
        (mem_unfinished.mpr ⟨earlier, earlierFound, earlierKey.trans sameKey, notDone⟩)
    simp [isResolved, phaseOf, earlierFound, done]

end ChainLock

import Mathlib.Data.List.Infix

/-!
# Replacing parts of a text

A rule finds a match at a place of a text; the rewritten text keeps a first part of every match and
has a marker in place of the rest.
-/

namespace TextRewriting

open List
variable {α : Type}

def Avoids (word text : List α) : Prop := ¬ word <:+: text

structure Apart (word marker : List α) : Prop where
  notWithin : ¬ word <:+: marker
  notAround : ¬ marker <:+: word
  notBefore : ∀ part ∈ word.tails, part ≠ [] → ¬ part <+: marker
  notAfter : ∀ part ∈ word.inits, part ≠ [] → ¬ part <:+ marker

instance [DecidableEq α] (word text : List α) : Decidable (Avoids word text) :=
  inferInstanceAs (Decidable (¬ _))

instance [DecidableEq α] (word marker : List α) : Decidable (Apart word marker) :=
  decidable_of_iff (¬ word <:+: marker ∧ ¬ marker <:+: word ∧
      (∀ part ∈ word.tails, part ≠ [] → ¬ part <+: marker) ∧
      ∀ part ∈ word.inits, part ≠ [] → ¬ part <:+ marker)
    ⟨fun ⟨within, around, before, after⟩ => ⟨within, around, before, after⟩,
      fun apart => ⟨apart.1, apart.2, apart.3, apart.4⟩⟩

section Apart

variable {word marker text before after : List α}

theorem Avoids.mono (avoids : Avoids word text) (part : before <:+: text) : Avoids word before :=
  fun occurs => avoids (occurs.trans part)

theorem avoids_of_length (shorter : text.length < word.length) : Avoids word text := by
  intro occurs
  have bound := occurs.length_le
  omega

theorem Apart.avoids_append (apart : Apart word marker) (avoidsBefore : Avoids word before)
    (avoidsAfter : Avoids word after) : Avoids word (before ++ marker ++ after) := by
  rintro ⟨left, right, same⟩
  rw [append_assoc, append_assoc, append_eq_append_iff] at same
  rcases same with ⟨middle, isBefore, continues⟩ | ⟨middle, isLeft, continues⟩
  · -- the word begins before the marker
    rcases append_eq_append_iff.mp continues with ⟨rest, isMiddle, -⟩ | ⟨rest, isWord, covers⟩
    · apply avoidsBefore
      exact ⟨left, rest, by rw [isBefore, isMiddle, append_assoc]⟩
    · rcases append_eq_append_iff.mp covers with ⟨more, isRest, -⟩ | ⟨more, isMarker, -⟩
      · apply apart.notAround
        exact ⟨middle, more, by rw [isWord, isRest, append_assoc]⟩
      · by_cases empty : rest = []
        · apply avoidsBefore
          exact ⟨left, [], by rw [isBefore, isWord, empty, append_nil, append_nil]⟩
        · have ending : rest ∈ word.tails := (mem_tails _ _).mpr ⟨middle, isWord.symm⟩
          exact apart.notBefore rest ending empty ⟨more, isMarker.symm⟩
  · rcases append_eq_append_iff.mp continues with ⟨rest, isMiddle, isAfter⟩ |
      ⟨rest, isMarker, covers⟩
    · apply avoidsAfter
      exact ⟨rest, right, by rw [isAfter, append_assoc]⟩
    · -- the word begins within the marker
      rcases append_eq_append_iff.mp covers with ⟨more, isRest, -⟩ | ⟨more, isWord, isAfter⟩
      · apply apart.notWithin
        exact ⟨middle, more, by rw [isMarker, isRest, append_assoc]⟩
      · by_cases empty : rest = []
        · apply avoidsAfter
          exact ⟨[], right, by rw [isAfter, isWord, empty, nil_append, nil_append]⟩
        · have beginning : rest ∈ word.inits := (mem_inits _ _).mpr ⟨more, isWord.symm⟩
          exact apart.notAfter rest beginning empty ⟨middle, isMarker.symm⟩

theorem Apart.avoids_marker (apart : Apart word marker) : Avoids word marker := apart.notWithin

end Apart

/-- What a rule finds at a place, given the letter before it: how much of the match is kept, and
its length. -/
structure Rule (α : Type) where
  find : Option α → List α → Option (Nat × Nat)
  marker : List α

def rewrite (rule : Rule α) : Option α → Nat → List α → List α
  | _, _, [] => []
  | _, skip + 1, letter :: rest => rewrite rule (some letter) skip rest
  | before, 0, letter :: rest =>
    match rule.find before (letter :: rest) with
    | some (kept, length + 1) =>
      (letter :: rest).take kept ++ rule.marker ++ rewrite rule (some letter) length rest
    | _ => letter :: rewrite rule (some letter) 0 rest

def Rule.apply (rule : Rule α) (text : List α) : List α := rewrite rule none 0 text

section Rewriting

variable {rule : Rule α} {word : List α}

/-- A word that occurs nowhere before occurs nowhere after, whatever stands before the rest. -/
theorem avoids_rewrite (apart : Apart word rule.marker) (text : List α) (before : Option α)
    (skip : Nat) (front : List α) (aligned : skip = 0 ∨ front = [])
    (avoids : Avoids word (front ++ text)) :
    Avoids word (front ++ rewrite rule before skip text) := by
  induction text generalizing before skip front with
  | nil => exact avoids
  | cons letter rest ih =>
    have avoidsRest : Avoids word rest :=
      avoids.mono ⟨front ++ [letter], [], by simp⟩
    cases skip with
    | succ skip =>
      obtain rfl : front = [] := by simpa using aligned
      exact ih (some letter) skip [] (Or.inr rfl) avoidsRest
    | zero =>
      rw [rewrite]
      split
      · next kept length _ =>
        rw [append_assoc, ← append_assoc front, ← append_assoc]
        apply apart.avoids_append
        · apply avoids.mono
          exact ⟨[], (letter :: rest).drop kept, by simp⟩
        · exact ih (some letter) length [] (Or.inr rfl) avoidsRest
      · have shifted := ih (some letter) 0 (front ++ [letter]) (Or.inl rfl) (by simpa using avoids)
        simpa using shifted

theorem Rule.avoids_apply (apart : Apart word rule.marker) {text : List α}
    (avoids : Avoids word text) : Avoids word (rule.apply text) :=
  avoids_rewrite apart text none 0 [] (Or.inl rfl) avoids

def replacing [DecidableEq α] (word marker : List α) : Rule α where
  find _ text := if word.isPrefixOf text then some (0, word.length) else none
  marker := marker

theorem Apart.ne_nil {marker : List α} (apart : Apart word marker) : word ≠ [] := by
  rintro rfl
  exact apart.notWithin nil_infix

/-- Where no occurrence begins, there is none. -/
theorem avoids_of_later (notEmpty : word ≠ []) {front text : List α}
    (later : ∀ place < front.length, ¬ word <+: (front ++ text).drop place) :
    Avoids word front := by
  rintro ⟨left, right, rfl⟩
  have positive := length_pos_iff.mpr notEmpty
  have within : left.length < (left ++ word ++ right).length := by
    simp only [length_append]
    omega
  apply later left.length within
  exact ⟨right ++ text, by simp⟩

theorem avoids_rewrite_replacing [DecidableEq α] {marker : List α} (apart : Apart word marker)
    (text : List α) (before : Option α) (skip : Nat) (front : List α)
    (aligned : skip = 0 ∨ front = [])
    (later : ∀ place < front.length, ¬ word <+: (front ++ text).drop place) :
    Avoids word (front ++ rewrite (replacing word marker) before skip text) := by
  induction text generalizing before skip front with
  | nil =>
    have avoids := avoids_of_later apart.ne_nil later
    simpa [rewrite] using avoids
  | cons letter rest ih =>
    cases skip with
    | succ skip =>
      obtain rfl : front = [] := by simpa using aligned
      exact ih (some letter) skip [] (Or.inr rfl) nofun
    | zero =>
      rw [rewrite]
      split
      · next kept length found =>
        have kept_eq : kept = 0 := by
          simp only [replacing] at found
          split_ifs at found
          exact (congrArg Prod.fst (Option.some.inj found)).symm
        rw [kept_eq, take_zero, nil_append, ← append_assoc]
        apply apart.avoids_append (avoids_of_later apart.ne_nil later)
        exact ih (some letter) length [] (Or.inr rfl) nofun
      · next notFound =>
        have notHere : ¬ word <+: letter :: rest := by
          intro here
          have positive := length_pos_iff.mpr apart.ne_nil
          apply notFound 0 (word.length - 1)
          have length_eq : word.length - 1 + 1 = word.length := by omega
          simp [replacing, length_eq, here]
        have shifted := ih (some letter) 0 (front ++ [letter]) (Or.inl rfl) ?_
        · simpa using shifted
        · intro place within
          rw [append_assoc, singleton_append]
          rcases Nat.lt_or_ge place front.length with inFront | atEnd
          · exact later place inFront
          · have same : place = front.length := by
              simp only [length_append, length_singleton] at within
              omega
            rw [same, drop_left]
            exact notHere

theorem avoids_replacing [DecidableEq α] {marker : List α} (apart : Apart word marker)
    (text : List α) : Avoids word ((replacing word marker).apply text) :=
  avoids_rewrite_replacing apart text none 0 [] (Or.inl rfl) nofun

end Rewriting

/-- The lengths of the matches at a place in the order in which they are tried, given the letter
before it. -/
abbrev Pattern (α : Type) := Option α → List α → List Nat

namespace Pattern

def letter (isLetter : α → Bool) : Pattern α := fun _ text =>
  if text.head?.any isLetter then [1] else []

def many (isLetter : α → Bool) (least : Nat) : Pattern α := fun _ text =>
  ((range ((text.takeWhile isLetter).length + 1)).filter (least ≤ ·)).reverse

def nothing : Pattern α := fun _ _ => [0]

def seq (first second : Pattern α) : Pattern α := fun before text =>
  (first before text).flatMap fun length =>
    (second ((text.take length).getLast?.or before) (text.drop length)).map (length + ·)

def inOrder (patterns : List (Pattern α)) : Pattern α := patterns.foldr seq nothing

def oneOf (patterns : List (Pattern α)) : Pattern α := fun before text =>
  patterns.flatMap fun pattern => pattern before text

def optional (pattern : Pattern α) : Pattern α := oneOf [pattern, nothing]

def times (count : Nat) (pattern : Pattern α) : Pattern α :=
  inOrder (replicate count pattern)

def boundary (isWordLetter : α → Bool) : Pattern α := fun before text =>
  if before.any isWordLetter != text.head?.any isWordLetter then [0] else []

/-- Keep what the first pattern matches, and replace what the second matches after it. -/
def rule (kept removed : Pattern α) (marker : List α) : Rule α where
  find before text :=
    ((kept before text).flatMap fun length =>
      (removed ((text.take length).getLast?.or before) (text.drop length)).map fun more =>
        (length, length + more)).head?
  marker := marker

end Pattern

end TextRewriting

import Mathlib.Data.List.Basic
import Mathlib.Tactic.ByContra

/-!
# Decoding UTF-8 piece by piece

The decoder replaces every maximal part of an ill-formed sequence by one replacement character, as
the Encoding Standard asks.
-/

namespace Utf8Decoder

open List
def encode (text : List Char) : List UInt8 := text.flatMap String.utf8EncodeChar

def replacement : Char := '\uFFFD'

/-- Between two characters, or inside one: the bounds of the next byte, the
number of bytes after it, and the code point so far. -/
inductive State where
  | start
  | inside (lower upper more codePoint : Nat)

def begin (byte : Nat) : List Char × State :=
  if byte < 0x80 then ([Char.ofNat byte], .start)
  else if 0xC2 ≤ byte ∧ byte ≤ 0xDF then ([], .inside 0x80 0xBF 0 (byte - 0xC0))
  else if 0xE0 ≤ byte ∧ byte ≤ 0xEF then
    ([], .inside (if byte = 0xE0 then 0xA0 else 0x80) (if byte = 0xED then 0x9F else 0xBF) 1
      (byte - 0xE0))
  else if 0xF0 ≤ byte ∧ byte ≤ 0xF4 then
    ([], .inside (if byte = 0xF0 then 0x90 else 0x80) (if byte = 0xF4 then 0x8F else 0xBF) 2
      (byte - 0xF0))
  else ([replacement], .start)

def step : State → UInt8 → List Char × State
  | .start, byte => begin byte.toNat
  | .inside lower upper more codePoint, byte =>
    if lower ≤ byte.toNat ∧ byte.toNat ≤ upper then
      let next := codePoint * 64 + (byte.toNat - 0x80)
      match more with
      | 0 => ([Char.ofNat next], .start)
      | more + 1 => ([], .inside 0x80 0xBF more next)
    else
      let (chars, state) := begin byte.toNat
      (replacement :: chars, state)

def decodeFrom : State → List UInt8 → List Char
  | .start, [] => []
  | .inside _ _ _ _, [] => [replacement]
  | state, byte :: rest => (step state byte).1 ++ decodeFrom (step state byte).2 rest

def decode (bytes : List UInt8) : List Char := decodeFrom .start bytes

theorem decodeFrom_cons (state : State) (byte : UInt8) (rest : List UInt8) :
    decodeFrom state (byte :: rest) =
      (step state byte).1 ++ decodeFrom (step state byte).2 rest := by
  cases state <;> rfl

def Spells (char : Char) : State → List UInt8 → Prop
  | _, [] => False
  | state, [last] => step state last = ([char], .start)
  | state, byte :: rest =>
    (step state byte).1 = [] ∧ (step state byte).2 ≠ .start ∧ Spells char (step state byte).2 rest

theorem toNat_ofNat {value : Nat} (small : value < 256) : (UInt8.ofNat value).toNat = value :=
  UInt8.toNat_ofNat_of_lt (by simpa using small)

theorem inside_step {lower upper more codePoint value : Nat} (small : value < 256)
    (least : lower ≤ value) (most : value ≤ upper) :
    step (.inside lower upper (more + 1) codePoint) (UInt8.ofNat value) =
      ([], .inside 0x80 0xBF more (codePoint * 64 + (value - 0x80))) := by
  simp [step, toNat_ofNat small, least, most]

theorem inside_last {lower upper codePoint value : Nat} (small : value < 256)
    (least : lower ≤ value) (most : value ≤ upper) :
    step (.inside lower upper 0 codePoint) (UInt8.ofNat value) =
      ([Char.ofNat (codePoint * 64 + (value - 0x80))], .start) := by
  simp [step, toNat_ofNat small, least, most]

theorem spells_encode (char : Char) : Spells char .start (String.utf8EncodeChar char) := by
  have back := Char.ofNat_toNat char
  have valid : char.toNat < 0xD800 ∨ (0xDFFF < char.toNat ∧ char.toNat < 0x110000) := char.valid
  unfold String.utf8EncodeChar
  change char.toNat < 0xD800 ∨ _ at valid
  generalize code : char.val.toNat = value
  have same : char.toNat = value := code
  rw [same] at back valid
  dsimp only
  split
  · next ascii =>
    have small : value < 256 := by omega
    simp only [Spells, step, toNat_ofNat small, begin]
    rw [if_pos (by omega), back]
  split
  · next notAscii two =>
    have first : value / 64 % 0x20 + 0xc0 < 256 := by omega
    have start : step .start (UInt8.ofNat (value / 64 % 0x20 + 0xc0)) =
        ([], .inside 0x80 0xBF 0 (value / 64)) := by
      simp only [step, toNat_ofNat first, begin]
      rw [if_neg (by omega), if_pos (by omega)]
      have codePoint : value / 64 % 0x20 + 0xc0 - 0xc0 = value / 64 := by omega
      rw [codePoint]
    have sum : value / 64 * 64 + (value % 0x40 + 0x80 - 0x80) = value := by omega
    refine ⟨by rw [start], by rw [start]; simp, ?_⟩
    rw [start]
    change step _ _ = _
    rw [inside_last (by omega) (by omega) (by omega), sum, back]
  split
  · next notAscii notTwo three =>
    have first : value / 4096 % 0x10 + 0xe0 < 256 := by omega
    obtain ⟨lower, upper, start, least, most⟩ : ∃ lower upper,
        step .start (UInt8.ofNat (value / 4096 % 0x10 + 0xe0)) =
          ([], .inside lower upper 1 (value / 4096)) ∧
        lower ≤ value / 64 % 0x40 + 0x80 ∧ value / 64 % 0x40 + 0x80 ≤ upper := by
      refine ⟨if value / 4096 % 0x10 + 0xe0 = 0xE0 then 0xA0 else 0x80,
        if value / 4096 % 0x10 + 0xe0 = 0xED then 0x9F else 0xBF, ?_, ?_, ?_⟩
      · simp only [step, toNat_ofNat first, begin]
        rw [if_neg (by omega), if_neg (by omega), if_pos (by omega)]
        have codePoint : value / 4096 % 0x10 + 0xe0 - 0xe0 = value / 4096 := by omega
        rw [codePoint]
      · split <;> omega
      · split <;> omega
    have sum : (value / 4096 * 64 + (value / 64 % 0x40 + 0x80 - 0x80)) * 64 +
        (value % 0x40 + 0x80 - 0x80) = value := by omega
    refine ⟨by rw [start], by rw [start]; simp, ?_⟩
    rw [start]
    have middle := @inside_step lower upper 0 (value / 4096) _ (by omega) least most
    refine ⟨by rw [middle], by rw [middle]; simp, ?_⟩
    rw [middle]
    change step _ _ = _
    rw [inside_last (by omega) (by omega) (by omega), sum, back]
  · next notAscii notTwo notThree =>
    have first : value / 262144 % 0x08 + 0xf0 < 256 := by omega
    obtain ⟨lower, upper, start, least, most⟩ : ∃ lower upper,
        step .start (UInt8.ofNat (value / 262144 % 0x08 + 0xf0)) =
          ([], .inside lower upper 2 (value / 262144)) ∧
        lower ≤ value / 4096 % 0x40 + 0x80 ∧ value / 4096 % 0x40 + 0x80 ≤ upper := by
      refine ⟨if value / 262144 % 0x08 + 0xf0 = 0xF0 then 0x90 else 0x80,
        if value / 262144 % 0x08 + 0xf0 = 0xF4 then 0x8F else 0xBF, ?_, ?_, ?_⟩
      · simp only [step, toNat_ofNat first, begin]
        rw [if_neg (by omega), if_neg (by omega), if_neg (by omega), if_pos (by omega)]
        have codePoint : value / 262144 % 0x08 + 0xf0 - 0xf0 = value / 262144 := by omega
        rw [codePoint]
      · split <;> omega
      · split <;> omega
    have sum : ((value / 262144 * 64 + (value / 4096 % 0x40 + 0x80 - 0x80)) * 64 +
        (value / 64 % 0x40 + 0x80 - 0x80)) * 64 + (value % 0x40 + 0x80 - 0x80) = value := by omega
    refine ⟨by rw [start], by rw [start]; simp, ?_⟩
    rw [start]
    have second := @inside_step lower upper 1 (value / 262144) _ (by omega) least most
    refine ⟨by rw [second], by rw [second]; simp, ?_⟩
    rw [second]
    have third := @inside_step 0x80 0xBF 0
      (value / 262144 * 64 + (value / 4096 % 0x40 + 0x80 - 0x80)) (value / 64 % 0x40 + 0x80)
      (by omega) (by omega) (by omega)
    refine ⟨by rw [third], by rw [third]; simp, ?_⟩
    rw [third]
    change step _ _ = _
    rw [inside_last (by omega) (by omega) (by omega), sum, back]

theorem decodeFrom_spells {char : Char} {state : State} {bytes : List UInt8}
    (spells : Spells char state bytes) (rest : List UInt8) :
    decodeFrom state (bytes ++ rest) = char :: decodeFrom .start rest := by
  induction bytes generalizing state with
  | nil => exact absurd spells (by simp [Spells])
  | cons byte more ih =>
    cases more with
    | nil =>
      have last : step state byte = ([char], .start) := spells
      rw [singleton_append, decodeFrom_cons, last]
      rfl
    | cons next more =>
      obtain ⟨silent, -, spellsRest⟩ := spells
      rw [cons_append, decodeFrom_cons, silent, nil_append]
      exact ih spellsRest

theorem decode_append (text : List Char) (rest : List UInt8) :
    decode (encode text ++ rest) = text ++ decode rest := by
  induction text with
  | nil => rfl
  | cons char text ih =>
    have split : encode (char :: text) ++ rest =
        String.utf8EncodeChar char ++ (encode text ++ rest) := by
      simp [encode]
    rw [split, decode, decodeFrom_spells (spells_encode char)]
    exact congrArg (char :: ·) ih

theorem decode_encode (text : List Char) : decode (encode text) = text := by
  have decoded := decode_append text []
  simpa [decode, decodeFrom] using decoded

variable {back : List UInt8} {text after : List Char} {pieces : List (List UInt8)}

/-- The beginning of a character gives one replacement character. -/
theorem decodeFrom_front {char : Char} {state : State} {front : List UInt8}
    (spells : Spells char state (front ++ back)) (present : front ≠ []) (more : back ≠ []) :
    decodeFrom state front = [replacement] := by
  induction front generalizing state with
  | nil => exact absurd rfl present
  | cons byte front ih =>
    obtain ⟨next, rest, split⟩ : ∃ next rest, front ++ back = next :: rest := by
      cases whole : front ++ back with
      | nil => exact absurd (append_eq_nil_iff.mp whole).2 more
      | cons next rest => exact ⟨next, rest, rfl⟩
    rw [cons_append, split] at spells
    obtain ⟨silent, notStart, spellsRest⟩ := spells
    rw [← split] at spellsRest
    rw [decodeFrom_cons, silent, nil_append]
    by_cases isLast : front = []
    · rw [isLast]
      cases after : (step state byte).2 with
      | start => exact absurd after notStart
      | inside => rfl
    · exact ih spellsRest isLast

def IsTail (byte : UInt8) : Prop := 0x80 ≤ byte.toNat ∧ byte.toNat ≤ 0xBF

theorem isTail_of_mem {char : Char} {byte : UInt8}
    (mem : byte ∈ (String.utf8EncodeChar char).tail) : IsTail byte := by
  have isTail (value : Nat) : IsTail (UInt8.ofNat (value % 0x40 + 0x80)) := by
    have small : value % 0x40 + 0x80 < 256 := by omega
    rw [IsTail, toNat_ofNat small]
    omega
  unfold String.utf8EncodeChar at mem
  dsimp only at mem
  split at mem
  · simp at mem
  split at mem
  · rw [tail_cons, mem_singleton] at mem
    exact mem ▸ isTail _
  split at mem
  · simp only [tail_cons, mem_cons, not_mem_nil, or_false] at mem
    rcases mem with rfl | rfl <;> exact isTail _
  · simp only [tail_cons, mem_cons, not_mem_nil, or_false] at mem
    rcases mem with rfl | rfl | rfl <;> exact isTail _

theorem decode_tails (tails : ∀ byte ∈ back, IsTail byte) (rest : List UInt8) :
    decode (back ++ rest) = replicate back.length replacement ++ decode rest := by
  induction back with
  | nil => rfl
  | cons byte back ih =>
    obtain ⟨least, most⟩ := tails byte mem_cons_self
    have replaced : step .start byte = ([replacement], .start) := by
      simp only [step, begin]
      rw [if_neg (by omega), if_neg (by omega), if_neg (by omega), if_neg (by omega)]
    rw [decode, cons_append, decodeFrom_cons, replaced]
    exact congrArg (replacement :: ·)
      (ih fun other mem => tails other (mem_cons_of_mem _ mem))

/-- The second text is the first, but for characters outside ASCII of which at
least two replacement characters are left. -/
inductive Damaged : List Char → List Char → Prop where
  | nil : Damaged [] []
  | kept (char : Char) {text after : List Char} (rest : Damaged text after) :
      Damaged (char :: text) (char :: after)
  | broken {char : Char} {count : Nat} {text after : List Char} (wide : 128 ≤ char.toNat)
      (many : 2 ≤ count) (rest : Damaged text after) :
      Damaged (char :: text) (replicate count replacement ++ after)

theorem Damaged.refl (text : List Char) : Damaged text text := by
  induction text with
  | nil => exact .nil
  | cons char text ih => exact .kept char ih

theorem Damaged.length_le (damaged : Damaged text after) : text.length ≤ after.length := by
  induction damaged with
  | nil => simp
  | kept char rest ih => simpa using ih
  | broken wide many rest ih =>
    simp only [length_cons, length_append, length_replicate]
    omega

theorem Damaged.append {more moreAfter : List Char} (first : Damaged text after)
    (second : Damaged more moreAfter) : Damaged (text ++ more) (after ++ moreAfter) := by
  induction first with
  | nil => exact second
  | kept char rest ih => exact .kept char ih
  | broken wide many rest ih =>
    rw [append_assoc]
    exact .broken wide many ih

theorem Damaged.split {more whole : List Char} (damaged : Damaged (text ++ more) whole) :
    ∃ after moreAfter, whole = after ++ moreAfter ∧ Damaged text after ∧
      Damaged more moreAfter := by
  induction text generalizing whole with
  | nil => exact ⟨[], whole, rfl, .nil, damaged⟩
  | cons char text ih =>
    cases damaged with
    | kept _ rest =>
      obtain ⟨after, moreAfter, rfl, first, second⟩ := ih rest
      exact ⟨char :: after, moreAfter, rfl, .kept char first, second⟩
    | broken wide many rest =>
      obtain ⟨after, moreAfter, rfl, first, second⟩ := ih rest
      exact ⟨_, moreAfter, (append_assoc _ _ _).symm, .broken wide many first, second⟩

theorem Damaged.eq_of_ascii (damaged : Damaged text after)
    (ascii : ∀ char ∈ text, char.toNat < 128) : after = text := by
  induction damaged with
  | nil => rfl
  | kept char rest ih =>
    rw [ih fun other mem => ascii other (mem_cons_of_mem _ mem)]
  | @broken char count text after wide many rest ih =>
    have narrow := ascii char mem_cons_self
    omega

theorem split_encode {piece rest : List UInt8} (whole : piece ++ rest = encode text) :
    (∃ before after, text = before ++ after ∧ piece = encode before ∧ rest = encode after) ∨
      ∃ before char after front back, text = before ++ char :: after ∧
        String.utf8EncodeChar char = front ++ back ∧ front ≠ [] ∧ back ≠ [] ∧
        piece = encode before ++ front ∧ rest = back ++ encode after := by
  induction text generalizing piece with
  | nil =>
    obtain ⟨rfl, rfl⟩ := append_eq_nil_iff.mp whole
    exact .inl ⟨[], [], rfl, rfl, rfl⟩
  | cons char text ih =>
    have split : encode (char :: text) = String.utf8EncodeChar char ++ encode text := by
      simp [encode]
    rw [split] at whole
    rcases append_eq_append_iff.mp whole with ⟨back, bytes, restIs⟩ | ⟨front, pieceIs, textIs⟩
    · by_cases empty : piece = []
      · refine .inl ⟨[], char :: text, rfl, empty, ?_⟩
        rw [restIs, split, bytes, empty, nil_append]
      by_cases complete : back = []
      · refine .inl ⟨[char], text, rfl, ?_, ?_⟩
        · rw [complete, append_nil] at bytes
          simp [encode, bytes]
        · rw [restIs, complete, nil_append]
      · exact .inr ⟨[], char, text, piece, back, rfl, bytes, empty, complete, rfl, restIs⟩
    · have encoded (before : List Char) :
          encode (char :: before) = String.utf8EncodeChar char ++ encode before := by
        simp [encode]
      rcases ih textIs.symm with ⟨before, after, rfl, rfl, rfl⟩ |
        ⟨before, other, after, first, back, rfl, bytes, present, more, rfl, rfl⟩
      · exact .inl ⟨char :: before, after, rfl, by rw [pieceIs, encoded], rfl⟩
      · refine .inr ⟨char :: before, other, after, first, back, rfl, bytes, present, more, ?_, rfl⟩
        rw [pieceIs, encoded, append_assoc]

def WholeCharacters (pieces : List (List UInt8)) : Prop :=
  ∀ piece ∈ pieces, ∃ text, piece = encode text

theorem WholeCharacters.cons {pieces : List (List UInt8)} (whole : WholeCharacters pieces)
    (text : List Char) : WholeCharacters (encode text :: pieces) := by
  intro piece mem
  rcases mem_cons.mp mem with rfl | inRest
  · exact ⟨text, rfl⟩
  · exact whole piece inRest

theorem flatMap_decode_of_whole (whole : WholeCharacters pieces) :
    encode (pieces.flatMap decode) = pieces.flatten := by
  induction pieces with
  | nil => rfl
  | cons piece rest ih =>
    obtain ⟨text, rfl⟩ := whole piece mem_cons_self
    have others := ih fun other mem => whole other (mem_cons_of_mem _ mem)
    rw [flatMap_cons, flatten_cons, decode_encode, ← others]
    simp [encode]

theorem damaged_of_flatten (tails : ∀ byte ∈ back, IsTail byte)
    (whole : pieces.flatten = back ++ encode text) :
    ∃ after, pieces.flatMap decode = replicate back.length replacement ++ after ∧
      Damaged text after ∧ (back = [] → after.length = text.length → WholeCharacters pieces) := by
  induction pieces generalizing back text with
  | nil =>
    obtain ⟨rfl, noBytes⟩ := append_eq_nil_iff.mp whole.symm
    have noText : text = [] := by
      rw [← decode_encode text, noBytes]
      rfl
    exact ⟨[], rfl, noText ▸ .nil, fun _ _ piece mem => by cases mem⟩
  | cons piece rest ih =>
    rw [flatMap_cons]
    rcases append_eq_append_iff.mp whole with ⟨more, backIs, restIs⟩ | ⟨bytes, pieceIs, textIs⟩
    · -- The piece ends inside the character that was begun.
      have pieceTails : ∀ byte ∈ piece, IsTail byte := fun byte mem =>
        tails byte (backIs ▸ mem_append_left _ mem)
      obtain ⟨after, decoded, damaged, exact_⟩ := ih
        (fun byte mem => tails byte (backIs ▸ mem_append_right _ mem)) restIs
      have replaced := decode_tails pieceTails []
      rw [append_nil, show decode [] = [] from rfl, append_nil] at replaced
      refine ⟨after, ?_, damaged, fun noBack same => ?_⟩
      · rw [replaced, decoded, backIs, length_append, replicate_add, append_assoc]
      · rw [noBack] at backIs
        obtain ⟨rfl, rfl⟩ := append_eq_nil_iff.mp backIs.symm
        exact (exact_ rfl same).cons []
    · rw [pieceIs, decode_tails tails]
      rcases split_encode textIs.symm with ⟨before, following, rfl, rfl, restIs⟩ |
        ⟨before, char, following, front, more, rfl, spelled, present, cut, rfl, restIs⟩
      · -- It ends in front of a character.
        obtain ⟨after, decoded, damaged, exact_⟩ := ih
          (fun byte mem => absurd mem not_mem_nil)
            (restIs.trans (nil_append _).symm)
        refine ⟨before ++ after, ?_, (Damaged.refl before).append damaged, fun noBack same => ?_⟩
        · rw [decode_encode, decoded]
          simp
        · rw [noBack, nil_append]
          exact (exact_ rfl (by simpa using same)).cons before
      · -- It ends inside another one.
        have moreTails : ∀ byte ∈ more, IsTail byte := by
          intro byte mem
          apply @isTail_of_mem char byte
          obtain ⟨first, frontRest, rfl⟩ := exists_cons_of_ne_nil present
          rw [spelled]
          exact mem_append_right _ mem
        obtain ⟨after, decoded, damaged, -⟩ := ih moreTails restIs
        have begun : decode front = [replacement] :=
          decodeFrom_front (spelled ▸ spells_encode char) present cut
        have wide : 128 ≤ char.toNat := by
          by_contra narrow
          have single : (String.utf8EncodeChar char).length = 1 := by
            rw [String.length_utf8EncodeChar, Char.utf8Size, if_pos]
            change char.toNat ≤ 127
            omega
          have frontLength := length_pos_of_ne_nil present
          have moreLength := length_pos_of_ne_nil cut
          rw [spelled, length_append] at single
          omega
        have many : 2 ≤ 1 + more.length := by
          have moreLength := length_pos_of_ne_nil cut
          omega
        refine ⟨before ++ (replicate (1 + more.length) replacement ++ after), ?_,
          (Damaged.refl before).append (.broken wide many damaged), fun _ same => ?_⟩
        · rw [decode_append, begun, decoded, replicate_add]
          simp
        · have longer := damaged.length_le
          simp only [length_append, length_replicate, length_cons] at same
          omega

theorem damaged_of_pieces (whole : pieces.flatten = encode text) :
    Damaged text (pieces.flatMap decode) := by
  obtain ⟨after, decoded, damaged, -⟩ := damaged_of_flatten
    (fun byte mem => absurd mem not_mem_nil) (whole.trans (nil_append _).symm)
  rw [decoded]
  exact damaged

theorem length_flatMap_decode_iff (whole : pieces.flatten = encode text) :
    (pieces.flatMap decode).length = text.length ↔ WholeCharacters pieces := by
  constructor
  · intro same
    obtain ⟨after, decoded, -, exact_⟩ := damaged_of_flatten
      (fun byte mem => absurd mem not_mem_nil) (whole.trans (nil_append _).symm)
    rw [decoded] at same
    exact exact_ rfl same
  · intro wholeCharacters
    have same := (flatMap_decode_of_whole wholeCharacters).trans whole
    rw [← decode_encode (pieces.flatMap decode), same, decode_encode]

theorem flatMap_decode_eq (whole : pieces.flatten = encode text)
    (wholeCharacters : WholeCharacters pieces) : pieces.flatMap decode = text := by
  have same := (flatMap_decode_of_whole wholeCharacters).trans whole
  rw [← decode_encode (pieces.flatMap decode), same, decode_encode]

end Utf8Decoder

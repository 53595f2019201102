import Mathlib.Data.List.Basic
import Mathlib.Data.UInt

/-!
# Base64 with the URL alphabet

Three bytes are written as four characters of six bits each; one or two bytes at
the end as two or three characters, without padding.  Decoding takes back what
encoding has written.
-/

namespace Base64Url

open List
/-- The character of six bits. -/
def encodeSextet (value : Nat) : Char :=
  if value < 26 then Char.ofNat (65 + value)
  else if value < 52 then Char.ofNat (71 + value)
  else if value < 62 then Char.ofNat (value - 4)
  else if value = 62 then '-'
  else '_'

def decodeSextet (char : Char) : Option Nat :=
  if 'A' ≤ char ∧ char ≤ 'Z' then some (char.toNat - 65)
  else if 'a' ≤ char ∧ char ≤ 'z' then some (char.toNat - 71)
  else if '0' ≤ char ∧ char ≤ '9' then some (char.toNat + 4)
  else if char = '-' then some 62
  else if char = '_' then some 63
  else none

theorem decodeSextet_encodeSextet {value : Nat} (small : value < 64) :
    decodeSextet (encodeSextet value) = some value := by
  have all : ∀ value < 64, decodeSextet (encodeSextet value) = some value := by decide
  exact all value small

def toSextets : List UInt8 → List Nat
  | [] => []
  | [first] => [first.toNat / 4, first.toNat % 4 * 16]
  | [first, second] =>
    [first.toNat / 4, first.toNat % 4 * 16 + second.toNat / 16, second.toNat % 16 * 4]
  | first :: second :: third :: rest =>
    first.toNat / 4 :: (first.toNat % 4 * 16 + second.toNat / 16) ::
      (second.toNat % 16 * 4 + third.toNat / 64) :: third.toNat % 64 :: toSextets rest

def ofSextets : List Nat → List UInt8
  | first :: second :: third :: fourth :: rest =>
    UInt8.ofNat (first * 4 + second / 16) :: UInt8.ofNat (second % 16 * 16 + third / 4) ::
      UInt8.ofNat (third % 4 * 64 + fourth) :: ofSextets rest
  | [first, second, third] =>
    [UInt8.ofNat (first * 4 + second / 16), UInt8.ofNat (second % 16 * 16 + third / 4)]
  | [first, second] => [UInt8.ofNat (first * 4 + second / 16)]
  | _ => []

theorem ofNat_eq {value : Nat} {byte : UInt8} (same : value = byte.toNat) :
    UInt8.ofNat value = byte := by
  rw [same, UInt8.ofNat_toNat]

variable (bytes : List UInt8)

theorem toSextets_lt : ∀ value ∈ toSextets bytes, value < 64 := by
  induction bytes using toSextets.induct with
  | case1 => simp [toSextets]
  | case2 first =>
    have := first.toNat_lt
    simp only [toSextets, mem_cons, not_mem_nil, or_false]
    rintro value (rfl | rfl) <;> omega
  | case3 first second =>
    have := first.toNat_lt
    have := second.toNat_lt
    simp only [toSextets, mem_cons, not_mem_nil, or_false]
    rintro value (rfl | rfl | rfl) <;> omega
  | case4 first second third rest ih =>
    have := first.toNat_lt
    have := second.toNat_lt
    have := third.toNat_lt
    simp only [toSextets, mem_cons]
    rintro value (rfl | rfl | rfl | rfl | mem)
    · omega
    · omega
    · omega
    · omega
    · exact ih value mem

theorem ofSextets_toSextets : ofSextets (toSextets bytes) = bytes := by
  induction bytes using toSextets.induct with
  | case1 => rfl
  | case2 first =>
    simp only [toSextets, ofSextets]
    rw [ofNat_eq (by omega : _ = first.toNat)]
  | case3 first second =>
    have := second.toNat_lt
    simp only [toSextets, ofSextets]
    rw [ofNat_eq (by omega : _ = first.toNat), ofNat_eq (by omega : _ = second.toNat)]
  | case4 first second third rest ih =>
    have := second.toNat_lt
    have := third.toNat_lt
    simp only [toSextets, ofSextets, ih]
    rw [ofNat_eq (by omega : _ = first.toNat), ofNat_eq (by omega : _ = second.toNat),
      ofNat_eq (by omega : _ = third.toNat)]

def encode : List Char := (toSextets bytes).map encodeSextet

/-- Characters outside the alphabet are skipped. -/
def decode (text : List Char) : List UInt8 := ofSextets (text.filterMap decodeSextet)

theorem filterMap_decodeSextet {values : List Nat} (small : ∀ value ∈ values, value < 64) :
    (values.map encodeSextet).filterMap decodeSextet = values := by
  induction values with
  | nil => rfl
  | cons value rest ih =>
    rw [map_cons, filterMap_cons,
      decodeSextet_encodeSextet (small value mem_cons_self),
      ih fun other mem => small other (mem_cons_of_mem _ mem)]

theorem decode_encode : decode (encode bytes) = bytes := by
  rw [decode, encode, filterMap_decodeSextet (toSextets_lt bytes), ofSextets_toSextets]

/-- The characters that an encoding consists of. -/
def isAlphabet (char : Char) : Bool := char.isAlphanum || char = '_' || char = '-'

theorem isAlphabet_encodeSextet {value : Nat} (small : value < 64) :
    isAlphabet (encodeSextet value) = true := by
  have all : ∀ value < 64, isAlphabet (encodeSextet value) = true := by decide
  exact all value small

theorem isAlphabet_of_mem_encode {bytes : List UInt8} {char : Char}
    (mem : char ∈ encode bytes) : isAlphabet char = true := by
  obtain ⟨value, valueIn, rfl⟩ := mem_map.mp mem
  exact isAlphabet_encodeSextet (toSextets_lt bytes value valueIn)

theorem length_encode : (encode bytes).length = (4 * bytes.length + 2) / 3 := by
  rw [encode, length_map]
  induction bytes using toSextets.induct with
  | case1 => rfl
  | case2 first => simp [toSextets]
  | case3 first second => simp [toSextets]
  | case4 first second third rest ih =>
    simp only [toSextets, length_cons]
    omega

end Base64Url

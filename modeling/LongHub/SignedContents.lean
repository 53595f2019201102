import LongHub.CanonicalStringify

/-!
# The contents of packs and skill packages that are signed

A digest covers the canonical text of a manifest without its own digest, and of a pack also the
files. Two contents have one text just when they agree in everything else.
-/

namespace LongHub

open List Option Prod

namespace PackSchema

open JsonValue

structure JsonContent where
  value : JsonValue
  numerals : Numerals value
  wellFormed : value.WellFormed

structure SignedManifest where
  fields : List (String × JsonValue)
  numerals : Numerals (.record fields)
  wellFormed : WellFormed (.record fields)
  integrity : List (String × JsonValue)
  hasIntegrity : ("integrity", .record integrity) ∈ fields

structure PackFiles where
  entries : List (String × String)
  distinct : (entries.map fst).Nodup
  ordered : entries.Pairwise fun first second => MayPrecede first.1 second.1

/-- `{ ...manifest, integrity }`, where `integrity` lacks some of its fields. -/
def SignedManifest.without (manifest : SignedManifest) (excluded : List String) :
    List (String × JsonValue) :=
  assign manifest.fields
    ("integrity", .record (manifest.integrity.filter fun field => field.1 ∉ excluded))

def PackFiles.json (files : PackFiles) : JsonValue :=
  .record (files.entries.map fun entry => (entry.1, .text entry.2))

def packPayload (manifest : SignedManifest) (files : PackFiles) : JsonValue :=
  .record [("manifest", .record (manifest.without ["digest"])), ("files", files.json)]

/-- The text that `computePackDigest` hashes. -/
def packDigestInput (manifest : SignedManifest) (files : PackFiles) : List Char :=
  canonicalStringify (packPayload manifest files)

/-- The text that `computeSkillPackageDigest` hashes. -/
def skillPackageDigestInput (manifest : SignedManifest) : List Char :=
  canonicalStringify (.record (manifest.without ["digest", "signature"]))

def SameField (fields others : List (String × JsonValue)) (key : String) : Prop :=
  Option.Rel (SameJson id) (fields.lookup key) (others.lookup key)

def AgreeExcept (excluded : List String) (one other : SignedManifest) : Prop :=
  (∀ key, key ≠ "integrity" → SameField one.fields other.fields key) ∧
    ∀ key, key ∉ excluded → SameField one.integrity other.integrity key

section Objects

variable {fields others : List (String × JsonValue)}

theorem sameJson_record_iff (distinct : (fields.map fst).Nodup)
    (otherDistinct : (others.map fst).Nodup) :
    SameJson id (.record fields) (.record others) ↔ ∀ key, SameField fields others key := by
  constructor
  · intro same key
    cases same with
    | record keys each =>
      have present : (fields.lookup key).isSome = true ↔ (others.lookup key).isSome = true := by
        rw [isSome_lookup, isSome_lookup, keys]
      rw [SameField]
      cases found : fields.lookup key with
      | none =>
        cases otherFound : others.lookup key with
        | none => exact .none
        | some other => simp [found, otherFound] at present
      | some value =>
        cases otherFound : others.lookup key with
        | none => simp [found, otherFound] at present
        | some other =>
          exact .some (each key value other ((lookup_eq_some_iff_mem distinct).mp found)
            ((lookup_eq_some_iff_mem otherDistinct).mp otherFound))
  · intro same
    constructor
    · intro key
      have here := same key
      rw [← isSome_lookup, ← isSome_lookup]
      rw [SameField] at here
      generalize fields.lookup key = found, others.lookup key = otherFound at here
      cases here with
      | none => rfl
      | some => simp
    · intro key one other oneIn otherIn
      have here := same key
      rw [SameField, (lookup_eq_some_iff_mem distinct).mpr oneIn,
        (lookup_eq_some_iff_mem otherDistinct).mpr otherIn] at here
      cases here with
      | some same => exact same

variable {field : String × JsonValue} (present : field.1 ∈ fields.map fst)

include present

theorem mem_assign {entry : String × JsonValue} (mem : entry ∈ assign fields field) :
    entry = field ∨ entry ∈ fields := by
  rw [assign, if_pos present, List.mem_map] at mem
  obtain ⟨other, otherIn, rfl⟩ := mem
  by_cases same : other.1 = field.1
  · exact .inl (if_pos same)
  · rw [if_neg same]
    exact .inr otherIn

end Objects

namespace SignedManifest

variable (manifest : SignedManifest) (excluded : List String)

theorem distinct : (manifest.fields.map fst).Nodup := by
  cases manifest.wellFormed with
  | record distinct ordered each => exact distinct

theorem present : "integrity" ∈ manifest.fields.map fst :=
  List.mem_map.mpr ⟨_, manifest.hasIntegrity, rfl⟩

theorem wellFormed_integrity : WellFormed (.record manifest.integrity) := by
  cases manifest.wellFormed with
  | record distinct ordered each => exact each _ manifest.hasIntegrity

theorem numerals_integrity : Numerals (.record manifest.integrity) := by
  cases manifest.numerals with
  | record each => exact each _ manifest.hasIntegrity

theorem distinct_integrity : (manifest.integrity.map fst).Nodup := by
  cases manifest.wellFormed_integrity with
  | record distinct ordered each => exact distinct

theorem wellFormed_rest :
    WellFormed (.record (manifest.integrity.filter fun field => field.1 ∉ excluded)) := by
  cases manifest.wellFormed_integrity with
  | record distinct ordered each =>
    have shorter := filter_sublist (l := manifest.integrity) (p := (·.1 ∉ excluded))
    exact .record (distinct.sublist (shorter.map _)) (ordered.sublist shorter)
      fun field mem => each field (mem_of_mem_filter mem)

theorem numerals_rest :
    Numerals (.record (manifest.integrity.filter fun field => field.1 ∉ excluded)) := by
  cases manifest.numerals_integrity with
  | record each => exact .record fun field mem => each field (mem_of_mem_filter mem)

theorem wellFormed_without : WellFormed (.record (manifest.without excluded)) := by
  have keys : (manifest.without excluded).map fst = manifest.fields.map fst :=
    keys_assign manifest.present
  cases manifest.wellFormed with
  | record distinct ordered each =>
    refine .record (keys ▸ distinct) ?_ ?_
    · rw [← pairwise_map] at ordered ⊢
      rwa [keys]
    · intro field mem
      rcases mem_assign manifest.present mem with rfl | mem
      · exact manifest.wellFormed_rest excluded
      · exact each field mem

theorem numerals_without : Numerals (.record (manifest.without excluded)) := by
  cases manifest.numerals with
  | record each =>
    apply Numerals.record
    intro field mem
    rcases mem_assign manifest.present mem with rfl | mem
    · exact manifest.numerals_rest excluded
    · exact each field mem

end SignedManifest

theorem sameJson_without_iff (excluded : List String) (one other : SignedManifest) :
    SameJson id (.record (one.without excluded)) (.record (other.without excluded)) ↔
      AgreeExcept excluded one other := by
  have keys (manifest : SignedManifest) : ((manifest.without excluded).map fst).Nodup := by
    rw [SignedManifest.without, keys_assign manifest.present]
    exact manifest.distinct
  have distinct (manifest : SignedManifest) :
      ((manifest.integrity.filter fun field => field.1 ∉ excluded).map fst).Nodup :=
    manifest.distinct_integrity.sublist (filter_sublist.map _)
  rw [sameJson_record_iff (keys one) (keys other)]
  have integrity : SameField (one.without excluded) (other.without excluded) "integrity" ↔
      ∀ key, key ∉ excluded → SameField one.integrity other.integrity key := by
    rw [SameField, SignedManifest.without, SignedManifest.without, lookup_assign, lookup_assign,
      if_pos rfl, if_pos rfl, rel_some_some, sameJson_record_iff (distinct one) (distinct other)]
    apply forall_congr'
    intro key
    rw [SameField, lookup_filter, lookup_filter]
    by_cases isExcluded : key ∈ excluded
    · simp [isExcluded]
    · simp [isExcluded, SameField]
  have others {key : String} (differ : key ≠ "integrity") :
      SameField (one.without excluded) (other.without excluded) key ↔
        SameField one.fields other.fields key := by
    rw [SameField, SignedManifest.without, SignedManifest.without, lookup_assign,
      lookup_assign, if_neg differ, if_neg differ, SameField]
  constructor
  · intro same
    exact ⟨fun key differ => (others differ).mp (same key), integrity.mp (same "integrity")⟩
  · intro agree key
    by_cases isIntegrity : key = "integrity"
    · rw [isIntegrity]
      exact integrity.mpr agree.2
    · exact (others isIntegrity).mpr (agree.1 key isIntegrity)

namespace PackFiles

variable (files : PackFiles)

theorem keys_json : (files.entries.map fun entry => (entry.1, JsonValue.text entry.2)).map fst =
    files.entries.map fst := by
  rw [List.map_map]
  rfl

theorem wellFormed_json : files.json.WellFormed := by
  refine .record (files.keys_json ▸ files.distinct) ?_ ?_
  · rw [pairwise_map]
    exact files.ordered
  · intro field mem
    obtain ⟨entry, _, rfl⟩ := List.mem_map.mp mem
    exact .text _

theorem numerals_json : Numerals files.json := by
  apply Numerals.record
  intro field mem
  obtain ⟨entry, _, rfl⟩ := List.mem_map.mp mem
  exact .text _

theorem lookup_json (path : String) :
    (files.entries.map fun entry => (entry.1, JsonValue.text entry.2)).lookup path =
      (files.entries.lookup path).map .text := by
  induction files.entries with
  | nil => rfl
  | cons entry rest ih =>
    rw [map_cons, lookup_cons_eq, lookup_cons_eq, ih]
    by_cases same : path = entry.1
    · simp [same]
    · simp [same]

theorem sameJson_iff (others : PackFiles) : SameJson id files.json others.json ↔
    ∀ path, files.entries.lookup path = others.entries.lookup path := by
  rw [json, json, sameJson_record_iff (files.keys_json ▸ files.distinct)
    (others.keys_json ▸ others.distinct)]
  apply forall_congr'
  intro path
  rw [SameField, lookup_json, lookup_json]
  generalize files.entries.lookup path = found, others.entries.lookup path = otherFound
  cases found with
  | none =>
    cases otherFound with
    | none => simp
    | some other => simp
  | some content =>
    cases otherFound with
    | none => simp
    | some other =>
      rw [map_some, map_some, rel_some_some, Option.some.injEq]
      constructor
      · intro same
        cases same
        rfl
      · rintro rfl
        exact .text content

end PackFiles

theorem wellFormed_packPayload (manifest : SignedManifest) (files : PackFiles) :
    (packPayload manifest files).WellFormed := by
  apply wellFormed_of_names ["manifest", "files"] rfl (by decide) (by decide)
  exact forall_mem_cons.mpr ⟨manifest.wellFormed_without _,
    forall_mem_singleton.mpr files.wellFormed_json⟩

theorem numerals_packPayload (manifest : SignedManifest) (files : PackFiles) :
    Numerals (packPayload manifest files) := by
  apply Numerals.record
  exact forall_mem_cons.mpr ⟨manifest.numerals_without _,
    forall_mem_singleton.mpr files.numerals_json⟩

theorem sameJson_packPayload_iff (one other : SignedManifest) (files others : PackFiles) :
    SameJson id (packPayload one files) (packPayload other others) ↔
      AgreeExcept ["digest"] one other ∧
        ∀ path, files.entries.lookup path = others.entries.lookup path := by
  rw [← sameJson_without_iff, ← PackFiles.sameJson_iff]
  constructor
  · intro same
    cases same with
    | record keys each =>
      exact ⟨each "manifest" _ _ (by simp) (by simp), each "files" _ _ (by simp) (by simp)⟩
  · rintro ⟨manifest, files⟩
    refine .record (fun key => by simp) ?_
    intro key value otherValue mem otherMember
    simp only [mem_cons, Prod.mk.injEq, not_mem_nil, or_false] at mem otherMember
    rcases mem with ⟨rfl, rfl⟩ | ⟨rfl, rfl⟩
    · obtain rfl : otherValue = .record (other.without ["digest"]) := by simpa using otherMember
      exact manifest
    · obtain rfl : otherValue = others.json := by simpa using otherMember
      exact files

/-- Values, packs and skill packages have one text just when they are equal in all that is
signed. -/
theorem canonicalForm_iff :
    (∀ one other : JsonContent, canonicalStringify one.value = canonicalStringify other.value ↔
      SameJson id one.value other.value) ∧
    (∀ (one other : SignedManifest) (files others : PackFiles),
      packDigestInput one files = packDigestInput other others ↔ AgreeExcept ["digest"] one other ∧
          ∀ path, files.entries.lookup path = others.entries.lookup path) ∧
    (∀ one other : SignedManifest, skillPackageDigestInput one = skillPackageDigestInput other ↔
      AgreeExcept ["digest", "signature"] one other) := by
  refine ⟨?_, ?_, ?_⟩
  · intro one other
    exact canonicalStringify_eq_iff_sameJson one.numerals other.numerals one.wellFormed
      other.wellFormed
  · intro one other files others
    rw [packDigestInput, packDigestInput, canonicalStringify_eq_iff_sameJson
      (numerals_packPayload one files) (numerals_packPayload other others)
      (wellFormed_packPayload one files) (wellFormed_packPayload other others)]
    exact sameJson_packPayload_iff one other files others
  · intro one other
    rw [skillPackageDigestInput, skillPackageDigestInput, canonicalStringify_eq_iff_sameJson
      (one.numerals_without _) (other.numerals_without _) (one.wellFormed_without _)
      (other.wellFormed_without _)]
    exact sameJson_without_iff _ one other

/-- A manifest that is signed with some digest. -/
def signedPack (digest : String) : SignedManifest where
  fields := [("packId", .text "hr"), ("integrity", .record [("digest", .text digest)])]
  numerals := .record (forall_mem_cons.mpr ⟨.text _, forall_mem_singleton.mpr
    (.record (forall_mem_singleton.mpr (.text _)))⟩)
  wellFormed := wellFormed_of_names ["packId", "integrity"] rfl (by decide) (by decide)
    (forall_mem_cons.mpr ⟨.text _, forall_mem_singleton.mpr
      (wellFormed_of_names ["digest"] rfl (by decide) (by decide)
        (forall_mem_singleton.mpr (.text _)))⟩)
  integrity := [("digest", .text digest)]
  hasIntegrity := mem_cons_of_mem _ (mem_singleton_self _)

def packFiles : PackFiles := ⟨[("hr.md", "HR"), ("pack.json", "")], by decide, by
  simp [MayPrecede, arrayIndex]⟩

def packContent (digest : String) : JsonContent :=
  ⟨packPayload (signedPack digest) packFiles, numerals_packPayload _ _, wellFormed_packPayload _ _⟩

theorem canonicalForm_signedPack :
    packDigestInput (signedPack "1") packFiles = packDigestInput (signedPack "2") packFiles ∧
      SameJson id (packContent "1").value (packContent "2").value := by
  have agree : AgreeExcept ["digest"] (signedPack "1") (signedPack "2") := by
    refine ⟨fun key differ => ?_, fun key differ => ?_⟩
    · simp only [SameField, signedPack, lookup_cons, beq_eq_false_iff_ne.mpr differ]
      cases key == "packId"
      · exact .none
      · exact .some (.text _)
    · simp only [mem_singleton] at differ
      simp only [SameField, signedPack, lookup_cons, beq_eq_false_iff_ne.mpr differ]
      exact .none
  have same := (canonicalForm_iff.2.1 _ _ packFiles packFiles).mpr ⟨agree, fun _ => rfl⟩
  exact ⟨same, (canonicalForm_iff.1 (packContent "1") (packContent "2")).mp same⟩

end PackSchema

end LongHub

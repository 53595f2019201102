import LongHub.ConfirmationChannel
import Mathlib

/-!
# What a confirmation request contains

The texts of a request come from four places: the agent id from the registry, the profile version
from the pack, the session and the tool call from the context of the call, and the display from the
input under the descriptor of the Skill.
-/

namespace LongHub

open Except List UInt32
open DesktopProcess (IsBoundedText)

section Characters

variable {char : Char}

theorem isVisible_iff : isVisible char = true ↔ 0x21 ≤ char.val.toNat ∧ char.val.toNat ≤ 0x7e := by
  rw [isVisible, Bool.and_eq_true, decide_eq_true_eq, decide_eq_true_eq]
  rfl

theorem isVisible_of_isDigit (isDigit : char.isDigit = true) : isVisible char = true := by
  simp only [Char.isDigit, Bool.and_eq_true, decide_eq_true_eq, ge_iff_le,
    le_iff_toNat_le, Char.reduceVal, reduceToNat] at isDigit
  rw [isVisible_iff]
  omega

theorem isVisible_of_isLower (isLower : char.isLower = true) : isVisible char = true := by
  simp only [Char.isLower, Bool.and_eq_true, decide_eq_true_eq, ge_iff_le,
    le_iff_toNat_le, Char.reduceVal, reduceToNat] at isLower
  rw [isVisible_iff]
  omega

theorem isVisible_of_isUpper (isUpper : char.isUpper = true) : isVisible char = true := by
  simp only [Char.isUpper, decide_eq_true_eq, ge_iff_le, le_iff_toNat_le, Char.reduceVal,
    reduceToNat] at isUpper
  rw [isVisible_iff]
  omega

theorem isVisible_of_isAlphanum (isAlphanum : char.isAlphanum = true) : isVisible char = true := by
  simp only [Char.isAlphanum, Char.isAlpha, Bool.or_eq_true] at isAlphanum
  rcases isAlphanum with (isUpper | isLower) | isDigit
  · exact isVisible_of_isUpper isUpper
  · exact isVisible_of_isLower isLower
  · exact isVisible_of_isDigit isDigit

theorem isVisible_of_isAgentIdChar (isAgentId : isAgentIdChar char = true) :
    isVisible char = true := by
  simp only [isAgentIdChar, Bool.or_eq_true, decide_eq_true_eq, mem_cons, not_mem_nil,
    or_false] at isAgentId
  rcases isAgentId with (isLower | isDigit) | rfl | rfl
  · exact isVisible_of_isLower isLower
  · exact isVisible_of_isDigit isDigit
  · decide
  · decide

theorem isVisible_of_isLowerHexDigit (isHex : isLowerHexDigit char = true) :
    isVisible char = true := by
  simp only [isLowerHexDigit, Bool.or_eq_true, Bool.and_eq_true, decide_eq_true_eq,
    Char.le_def, le_iff_toNat_le, Char.reduceVal, reduceToNat] at isHex
  rw [isVisible_iff]
  omega

end Characters

variable {text profileId agentId : String} {node : NodePlatform}

theorem isBoundedText_of_visible {max : Nat} (notEmpty : text ≠ "")
    (visible : text.toList.all isVisible = true) :
    IsBoundedText max text ↔ text.toList.length ≤ max := by
  rw [IsBoundedText, utf16Length_of_visible visible]
  constructor
  · exact fun bounded => bounded.2.1
  · exact fun short => ⟨notEmpty, short, isPlainText_of_visible visible⟩

def packVersionPattern (text : String) : Bool :=
  let core := text.toList.takeWhile (· ≠ '-')
  let suffix := text.toList.dropWhile (· ≠ '-')
  (match core.splitOn '.' with
    | [major, minor, patch] =>
      [major, minor, patch].all fun digits => digits ≠ [] && digits.all Char.isDigit
    | _ => false) &&
  (suffix = [] || (suffix.tail ≠ [] && suffix.tail.all fun char =>
    char.isAlphanum || char ∈ ['.', '-']))

structure AcceptedProfile (node : NodePlatform) (source : EnabledAgentProfile) : Prop where
  agentId : agentIdForProfile node source.registry.profileId = .ok source.registry.agentId
  version : packVersionPattern source.profile.version = true

theorem visible_packVersion (meets : packVersionPattern text = true) :
    text ≠ "" ∧ text.toList.all isVisible = true := by
  simp only [packVersionPattern, Bool.and_eq_true, Bool.or_eq_true, decide_eq_true_eq] at meets
  obtain ⟨isCore, isSuffix⟩ := meets
  have dot : isVisible '.' = true := by decide
  have dash : isVisible '-' = true := by decide
  have coreVisible : ∀ char ∈ text.toList.takeWhile (· ≠ '-'), isVisible char = true := by
    split at isCore
    · next major minor patch split =>
      simp only [all_cons, all_nil, Bool.and_true, Bool.and_eq_true] at isCore
      obtain ⟨⟨-, isMajor⟩, ⟨-, isMinor⟩, -, isPatch⟩ := isCore
      have joined : intercalate ['.'] ((text.toList.takeWhile (· ≠ '-')).splitOn '.') =
          text.toList.takeWhile (· ≠ '-') := intercalate_splitOn '.'
      rw [split] at joined
      rw [← joined]
      intro char mem
      have places : char ∈ major ∨ char = '.' ∨ char ∈ minor ∨ char ∈ patch := by
        simpa [intercalate, intersperse, or_assoc, or_left_comm] using mem
      rcases places with inMajor | rfl | inMinor | inPatch
      · exact isVisible_of_isDigit (all_eq_true.mp isMajor char inMajor)
      · exact dot
      · exact isVisible_of_isDigit (all_eq_true.mp isMinor char inMinor)
      · exact isVisible_of_isDigit (all_eq_true.mp isPatch char inPatch)
    · cases isCore
  have suffixVisible : ∀ char ∈ text.toList.dropWhile (· ≠ '-'), isVisible char = true := by
    intro char mem
    rcases isSuffix with isEmpty | ⟨-, isSuffix⟩
    · rw [isEmpty] at mem
      cases mem
    · cases suffix : text.toList.dropWhile (· ≠ '-') with
      | nil =>
        rw [suffix] at mem
        cases mem
      | cons first rest =>
        rw [suffix] at mem isSuffix
        rcases mem_cons.mp mem with rfl | inRest
        · have isDash : char = '-' := by
            have stops := head?_dropWhile_not (· ≠ '-') text.toList
            rw [suffix] at stops
            simpa using stops
          rw [isDash]
          exact dash
        · have allowed := all_eq_true.mp isSuffix char inRest
          simp only [Bool.or_eq_true, decide_eq_true_eq, mem_cons, not_mem_nil, or_false] at allowed
          rcases allowed with isAlphanum | rfl | rfl
          · exact isVisible_of_isAlphanum isAlphanum
          · exact dot
          · exact dash
  constructor
  · rintro rfl
    revert isCore
    decide
  · rw [all_eq_true, ← takeWhile_append_dropWhile (p := (· ≠ '-')) (l := text.toList)]
    intro char mem
    rcases mem_append.mp mem with inCore | inSuffix
    · exact coreVisible char inCore
    · exact suffixVisible char inSuffix

theorem mem_replaceRuns {keep : Char → Bool} {mark char : Char} {inRun : Bool} {chars : List Char}
    (mem : char ∈ replaceRuns keep mark inRun chars) : keep char = true ∨ char = mark := by
  induction chars generalizing inRun with
  | nil => cases mem
  | cons first rest ih =>
    simp only [replaceRuns] at mem
    split at mem
    · next kept =>
      rcases mem_cons.mp mem with rfl | inRest
      · exact .inl kept
      · exact ih inRest
    · split at mem
      · exact ih mem
      · rcases mem_cons.mp mem with rfl | inRest
        · exact .inr rfl
        · exact ih inRest

theorem agentId_eq (named : agentIdForProfile node profileId = .ok agentId) :
    ∃ name : List Char, (∀ char ∈ name, isVisible char = true) ∧ name.length ≤ 51 ∧
      agentId = String.ofList (name ++ '-' :: (node.sha256Hex profileId).toList.take 12) := by
  simp only [agentIdForProfile] at named
  split at named
  · cases named
  · refine ⟨_, ?_, length_take_le _ _, (ok.inj named).symm⟩
    intro char mem
    have inReversed := mem_reverse.mp (mem_of_mem_take mem)
    have inDashed := mem_reverse.mp ((dropWhile_sublist _).mem inReversed)
    rcases mem_replaceRuns ((dropWhile_sublist _).mem inDashed) with kept | rfl
    · exact isVisible_of_isAgentIdChar kept
    · decide

theorem isBoundedText_agentId (digests : ∀ text, digestPattern (node.sha256Hex text) = true)
    (named : agentIdForProfile node profileId = .ok agentId) : IsBoundedText 128 agentId := by
  obtain ⟨name, visible, short, rfl⟩ := agentId_eq named
  have digest := digests profileId
  simp only [digestPattern, isSha256Hex, Bool.and_eq_true, beq_iff_eq, all_eq_true] at digest
  have allVisible : (String.ofList (name ++ '-' ::
      (node.sha256Hex profileId).toList.take 12)).toList.all isVisible = true := by
    rw [String.toList_ofList, all_eq_true]
    intro char mem
    rcases mem_append.mp mem with inName | inSuffix
    · exact visible char inName
    · rcases mem_cons.mp inSuffix with rfl | inDigest
      · decide
      · exact isVisible_of_isLowerHexDigit (digest.2 char (mem_of_mem_take inDigest))
  have notEmpty : String.ofList (name ++ '-' ::
      (node.sha256Hex profileId).toList.take 12) ≠ "" := by
    intro isEmpty
    have noChars := congrArg String.toList isEmpty
    simp at noChars
  rw [isBoundedText_of_visible notEmpty allVisible, String.toList_ofList, length_append,
    length_cons, length_take]
  omega

section Displays

variable {node : NodePlatform} {display : BridgeConfirmationDisplay}
variable {descriptor : BridgeConfirmationDescriptor} {input : JsonValue}

variable {label text : String} {fields : List (String × JsonValue)}

theorem isBoundedText_displayText {value : Option JsonValue}
    (displayed : displayText node value label = .ok text) : IsBoundedText 256 text := by
  simp only [displayText, bind_eq_ok, require_eq_ok, ensure_eq_ok,
    pure_eq_ok, Bool.and_eq_true, decide_eq_true_eq, Bool.not_eq_true', ne_eq] at displayed
  obtain ⟨content, -, -, ⟨⟨notEmpty, short⟩, noControl⟩, rfl⟩ := displayed
  exact ⟨notEmpty, short, trimText_trimText content, noControl⟩

theorem text_of_displayText {content : String}
    (displayed : displayText node (some (.text content)) label = .ok text) :
    text = trimText content := by
  simp only [displayText, primitiveText, bind_eq_ok, require_eq_ok,
    ensure_eq_ok, pure_eq_ok, Option.some.injEq] at displayed
  obtain ⟨_, rfl, _, -, rfl⟩ := displayed
  rfl

theorem dataScopeItem {item : String × String} (shortLabel : utf16Length (trimText item.1) ≤ 255)
    (displayed : (do
      let name ← displayText node (some (.text item.1)) "data label"
      let content ← displayText node (fields.lookup item.2) item.2
      pure (name ++ "：" ++ content) : Except String String) = .ok text) :
    utf16Length text ≤ 512 ∧ hasControl text = false := by
  simp only [bind_eq_ok, pure_eq_ok] at displayed
  obtain ⟨name, isName, content, isContent, rfl⟩ := displayed
  have nameBounded := isBoundedText_displayText isName
  have contentBounded := isBoundedText_displayText isContent
  rw [← text_of_displayText isName] at shortLabel
  have colon : utf16Length "：" = 1 ∧ hasControl "：" = false := by decide
  rw [utf16Length_append, utf16Length_append, hasControl_append, hasControl_append, colon.1,
    colon.2, nameBounded.2.2.2, contentBounded.2.2.2]
  have contentShort := contentBounded.2.1
  exact ⟨by omega, rfl⟩

structure ShowableDisplay (display : BridgeConfirmationDisplay) : Prop where
  action : IsBoundedText 256 display.action
  object : IsBoundedText 256 display.object
  recipient : IsBoundedText 256 display.recipient
  dataScope : DesktopProcess.dataScopePattern display.dataScope = true
  cost : 0 ≤ display.estimatedCostCents ∧ display.estimatedCostCents ≤ 100000000

theorem showableDisplay_of_scope {action object recipient : String} {dataScope : List String}
    {cost : Int} (shortLabels : ∀ item ∈ descriptor.dataFields, utf16Length (trimText item.1) ≤ 255)
    (isAction : displayText node (some (.text descriptor.action)) "action" = .ok action)
    (isObject : displayText node (some (.text descriptor.object)) "object" = .ok object)
    (bounds : 0 ≤ cost ∧ cost ≤ 100000000) (least : 1 ≤ descriptor.dataFields.length)
    (most : descriptor.dataFields.length ≤ 16) (isRecipient : IsBoundedText 256 recipient)
    (listed : descriptor.dataFields.mapM (fun item => (do
      let name ← displayText node (.some (.text item.1)) "data label"
      let content ← displayText node (fields.lookup item.2) item.2
      pure (name ++ "：" ++ content) : Except String String)) = .ok dataScope) :
    ShowableDisplay ⟨action, object, recipient, dataScope, cost⟩ where
  action := isBoundedText_displayText isAction
  object := isBoundedText_displayText isObject
  recipient := isRecipient
  cost := bounds
  dataScope := by
    have paired := mapM_eq_ok_iff.mp listed
    have sameLength := paired.length_eq
    have each : ∀ text ∈ dataScope, utf16Length text ≤ 512 ∧ hasControl text = false := by
      intro text mem
      obtain ⟨item, itemIn, displayed⟩ := paired.exists_of_mem_right mem
      exact dataScopeItem (shortLabels item itemIn) displayed
    simp only [DesktopProcess.dataScopePattern, Bool.and_eq_true, decide_eq_true_eq,
      all_eq_true, Bool.not_eq_true']
    exact ⟨⟨by omega, by omega⟩, each⟩

theorem showableDisplay_of_built
    (shortLabels : ∀ item ∈ descriptor.dataFields, utf16Length (trimText item.1) ≤ 255)
    (built : buildBridgeConfirmationDisplay node descriptor input = .ok display) :
    ShowableDisplay display := by
  unfold buildBridgeConfirmationDisplay at built
  split at built
  · next fields =>
    simp only [bind_eq_ok, ensure_eq_ok, Bool.and_eq_true,
      decide_eq_true_eq] at built
    obtain ⟨action, isAction, object, isObject, _, ⟨⟨⟨⟨-, noCost⟩, limit⟩, least⟩, most⟩, built⟩ :=
      built
    have device : IsBoundedText 256 "当前设备" := by decide
    split at built
    · simp only [bind_eq_ok, pure_eq_ok] at built
      obtain ⟨_, rfl, dataScope, listed, rfl⟩ := built
      exact showableDisplay_of_scope shortLabels isAction isObject ⟨noCost, limit⟩ least most device
        listed
    · simp only [bind_eq_ok, pure_eq_ok] at built
      obtain ⟨_, rfl, dataScope, listed, rfl⟩ := built
      exact showableDisplay_of_scope shortLabels isAction isObject ⟨noCost, limit⟩ least most device
        listed
    · simp only [bind_eq_ok, pure_eq_ok] at built
      obtain ⟨recipient, isRecipient, dataScope, listed, rfl⟩ := built
      exact showableDisplay_of_scope shortLabels isAction isObject ⟨noCost, limit⟩ least most
        (isBoundedText_displayText isRecipient) listed
  · cases built

end Displays

end LongHub

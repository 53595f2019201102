import LongHub.ExceptChecks
import LongHub.TextRewriting

/-!
# The redaction of log records

A logger replaces secrets in an event and in the fields that come with it, and prints what is left
as one record. Texts are lists of UTF-16 code units.
-/

namespace LongHub

namespace LogRedaction

open TextRewriting

abbrev LogText := List UInt16

def units (text : String) : LogText := text.toList.map fun char => UInt16.ofNat char.toNat

def redactedLogValue : LogText := units "[REDACTED]"

def truncatedLogValue : LogText := units "[TRUNCATED]"

def circularLogValue : LogText := units "[CIRCULAR]"

def bearerRedacted : LogText := units "Bearer [REDACTED]"

def unitOf (char : Char) : UInt16 := UInt16.ofNat char.toNat

def between (first last : Char) (unit : UInt16) : Bool := unitOf first ≤ unit && unit ≤ unitOf last

def isLower (unit : UInt16) : Bool := between 'a' 'z' unit

def isUpper (unit : UInt16) : Bool := between 'A' 'Z' unit

def isDigit (unit : UInt16) : Bool := between '0' '9' unit

def isAlphanumeric (unit : UInt16) : Bool := isLower unit || isUpper unit || isDigit unit

def isWordUnit (unit : UInt16) : Bool := isAlphanumeric unit || unit == unitOf '_'

def isOneOf (text : String) (unit : UInt16) : Bool := (units text).contains unit

def isSpace (unit : UInt16) : Bool :=
  (9 ≤ unit && unit ≤ 13) || unit == 32 || unit == 0xa0 || unit == 0x1680 ||
    (0x2000 ≤ unit && unit ≤ 0x200a) || unit == 0x2028 || unit == 0x2029 || unit == 0x202f ||
    unit == 0x205f || unit == 0x3000 || unit == 0xfeff

def lowerUnit (unit : UInt16) : UInt16 := if isUpper unit then unit + 32 else unit

open Pattern

def exactly (text : String) : Pattern UInt16 :=
  inOrder ((units text).map fun unit => letter (· == unit))

def anyCase (text : String) : Pattern UInt16 :=
  inOrder ((units text).map fun unit => letter fun other => lowerUnit other == lowerUnit unit)

/-- Two words with `[_-]?` between them. -/
def joined (first second : String) : Pattern UInt16 :=
  inOrder [anyCase first, optional (letter (isOneOf "_-")), anyCase second]

def sensitiveTextKeys : Pattern UInt16 := oneOf [
  joined "access" "token",
  joined "api" "key",
  joined "device" "token",
  joined "gateway" "token",
  joined "bridge" "token",
  anyCase "token",
  anyCase "password",
  anyCase "secret",
  anyCase "authorization",
  joined "activation" "code"]

def sensitiveAssignmentPattern : Rule UInt16 := rule
  (inOrder [optional (exactly "--"), sensitiveTextKeys, many isSpace 0,
    optional (letter (isOneOf ":=")), many isSpace 0, optional (letter (isOneOf "\"'"))])
  (inOrder [optional (inOrder [anyCase "Bearer", many isSpace 1]),
    many (fun unit => !isSpace unit && !isOneOf ",;\x7d\"'" unit) 1])
  redactedLogValue

def bearerPattern : Rule UInt16 := rule nothing
  (inOrder [boundary isWordUnit, anyCase "Bearer", many isSpace 1,
    many (fun unit => !isSpace unit && !isOneOf ",;\"'" unit) 1])
  bearerRedacted

def sensitiveUrlParameterPattern : Rule UInt16 := rule
  (inOrder [letter (isOneOf "?#&"), oneOf [anyCase "access_token", joined "api" "key",
    joined "device" "token", joined "gateway" "token", anyCase "token"], exactly "="])
  (many (fun unit => !isOneOf "&#" unit && !isSpace unit) 1)
  redactedLogValue

def keyPattern (start : String) : Rule UInt16 := rule nothing
  (inOrder [boundary isWordUnit, exactly start,
    many (fun unit => isWordUnit unit || unit == unitOf '-') 8,
    boundary isWordUnit])
  redactedLogValue

def activationCodePattern : Rule UInt16 := rule nothing
  (inOrder [boundary isWordUnit, anyCase "LH-",
    times 3 (inOrder [times 4 (letter isAlphanumeric), exactly "-"]),
    times 4 (letter isAlphanumeric), boundary isWordUnit])
  redactedLogValue

def textPatterns : List (Rule UInt16) :=
  [sensitiveAssignmentPattern, bearerPattern, sensitiveUrlParameterPattern, keyPattern "sk-",
    keyPattern "dt-", activationCodePattern]

def replaceSecret (text secret : LogText) : LogText :=
  if 8 ≤ secret.length then (replacing secret redactedLogValue).apply text else text

def truncateText (maxLength : Nat) (text : LogText) : LogText :=
  if maxLength < text.length then text.take maxLength ++ truncatedLogValue else text

def redactLogText (text : LogText) (maxLength : Nat) (sensitiveValues : List LogText) : LogText :=
  truncateText maxLength (textPatterns.foldl (fun text rule => rule.apply text)
    (sensitiveValues.foldl replaceSecret text))

/-- The letter or digit that lower case makes of a unit; the Kelvin sign and the dotted capital I
become letters as well. -/
def normalizedUnit (unit : UInt16) : Option UInt16 :=
  if isAlphanumeric unit then some (lowerUnit unit)
  else if unit == 0x212a then some (unitOf 'k')
  else if unit == 0x130 then some (unitOf 'i')
  else none

def normalizedKey (key : LogText) : LogText := key.filterMap normalizedUnit

def exactSecretKeys : List String :=
  ["authorization", "proxyauthorization", "cookie", "setcookie", "token", "devicetoken",
    "gatewaytoken", "bridgetoken", "modeltoken", "admintoken", "accesstoken", "refreshtoken",
    "sessiontoken", "apikey", "encryptedapikey", "secret", "clientsecret", "password",
    "passphrase", "credential", "credentials", "privatekey", "signingkey", "modelconfigkey",
    "csckeypassword", "activationcode", "authorizationcode"]

def userContentKeys : List String :=
  ["content", "contents", "body", "input", "output", "text", "prompt", "messages", "filecontent",
    "filecontents", "filebody", "filetext", "userfilecontent", "attachmentcontent",
    "documenttext", "resumetext", "jdtext"]

def reservedLogKeys : List LogText := ["ts", "level", "component", "event"].map units

def isSensitiveKey (key : LogText) : Bool :=
  ((exactSecretKeys ++ userContentKeys).map units).contains (normalizedKey key)

inductive ErrorCode where
  | text (content : LogText)
  | number (literal : String)
  | other

inductive LogValue where
  | text (content : LogText)
  | null
  | undefined
  | bool (value : Bool)
  | number (literal : String)
  | bigint (digits : LogText)
  | symbol (description : LogText)
  | function (source : LogText)
  | error (name message : LogText) (code : ErrorCode)
  | date (iso : Option LogText)
  | object (reference : Nat)

inductive LogObject where
  | array (items : List LogValue)
  | record (entries : List (LogText × LogValue))

abbrev LogHeap := Nat → LogObject

inductive LogOutput where
  | text (content : LogText)
  | null
  | undefined
  | bool (value : Bool)
  | number (literal : String)
  | array (items : List LogOutput)
  | record (fields : List (LogText × LogOutput))

inductive LogError where
  | invalidDate

structure RedactionOptions where
  maxDepth : Nat
  maxArrayLength : Nat
  maxStringLength : Nat
  sensitiveValues : List LogText

def RedactionOptions.default (sensitiveValues : List LogText) : RedactionOptions where
  maxDepth := 8
  maxArrayLength := 50
  maxStringLength := 4096
  sensitiveValues := sensitiveValues

def RedactionOptions.redact (options : RedactionOptions) (text : LogText) : LogText :=
  redactLogText text options.maxStringLength options.sensitiveValues

def codeFields : ErrorCode → List (LogText × LogOutput)
  | .text content => [(units "code", .text content)]
  | .number literal => [(units "code", .number literal)]
  | .other => []

def errorRecord (options : RedactionOptions) (name message : LogText) (code : ErrorCode) :
    LogOutput :=
  .record ((units "name", .text name) :: (units "message", .text (options.redact message)) ::
    codeFields code)

def protoKey : LogText := units "__proto__"

@[grind =]
def redactValue (heap : LogHeap) (options : RedactionOptions) :
    Nat → List Nat → LogValue → Except LogError LogOutput
  | _, _, .text content => .ok (.text (options.redact content))
  | _, _, .null => .ok .null
  | _, _, .undefined => .ok .undefined
  | _, _, .bool value => .ok (.bool value)
  | _, _, .number literal => .ok (.number literal)
  | _, _, .bigint digits => .ok (.text digits)
  | _, _, .symbol description => .ok (.text description)
  | _, _, .function source => .ok (.text source)
  | _, _, .error name message code => .ok (errorRecord options name message code)
  | _, _, .date iso => Except.require (iso.map .text) .invalidDate
  | 0, _, .object _ => .ok (.text truncatedLogValue)
  | depth + 1, seen, .object reference =>
    if reference ∈ seen then .ok (.text circularLogValue)
    else
      match heap reference with
      | .array items => do
        let first ← (items.take options.maxArrayLength).mapM
          (redactValue heap options depth (reference :: seen))
        return .array (if options.maxArrayLength < items.length
          then first ++ [.text truncatedLogValue] else first)
      | .record entries => do
        let fields ← entries.mapM fun entry => do
          if isSensitiveKey entry.1 then return (entry.1, .text redactedLogValue)
          else
            let value ← redactValue heap options depth (reference :: seen) entry.2
            return (entry.1, value)
        return .record (fields.filter (·.1 ≠ protoKey))

def redactLogValue (heap : LogHeap) (options : RedactionOptions) (value : LogValue) :
    Except LogError LogOutput :=
  redactValue heap options options.maxDepth [] value

def LogOutput.isUndefined : LogOutput → Bool
  | undefined => true
  | _ => false

mutual

/-- The strings that `JSON.stringify` prints of a value; fields without a value are left out. -/
@[grind =]
def LogOutput.texts : LogOutput → List LogText
  | .text content => [content]
  | .null | .undefined | .bool _ | .number _ => []
  | .array items => itemTexts items
  | .record fields => fieldTexts fields

def itemTexts : List LogOutput → List LogText
  | [] => []
  | item :: rest => item.texts ++ itemTexts rest

def fieldTexts : List (LogText × LogOutput) → List LogText
  | [] => []
  | (key, value) :: rest =>
    (if value.isUndefined then [] else key :: value.texts) ++ fieldTexts rest

end

/-- The properties that `...` copies from a value. -/
def LogOutput.spread : LogOutput → List (LogText × LogOutput)
  | .record fields => fields
  | .array items => items.zipIdx.map fun item => (units (toString item.2), item.1)
  | .text content => content.zipIdx.map fun unit => (units (toString unit.2), .text [unit.1])
  | _ => []

/-- What a logger prints: the safe fields, and what it says itself. -/
structure LogLine where
  fields : List (LogText × LogOutput)
  ts : LogText
  level : LogText
  component : LogText
  event : LogText

/-- The strings that come from the event and the fields. -/
def LogLine.texts (line : LogLine) : List LogText := line.event :: fieldTexts line.fields

def redactFields (heap : LogHeap) (sensitiveValues : List LogText) :
    Option Nat → Except LogError LogOutput
  | none => .ok (.record [])
  | some reference => redactLogValue heap (.default sensitiveValues) (.object reference)

def log (heap : LogHeap) (component now : LogText) (sensitiveValues : List LogText)
    (level event : LogText) (fields : Option Nat) : Except LogError LogLine := do
  let safeFields ← redactFields heap sensitiveValues fields
  return {
    fields := safeFields.spread.filter (·.1 ∉ reservedLogKeys)
    ts := now
    level := level
    component := component
    event := redactLogText event 256 sensitiveValues }

end LogRedaction

end LongHub

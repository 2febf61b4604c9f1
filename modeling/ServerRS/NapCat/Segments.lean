import ServerRS.Domain.Inbound
import Mathlib.Data.String.Basic

/-!
# Message segments

Models `qqbot/src/napcat/segments.rs` and `message_parser.rs`: the segments of a message, read from
its structured array or from its CQ codes, and the text they stand for. The texts that `serde_json`
writes and the digests of `sha2` come from these crates; the size of a file segment is read by
nothing here and left out.
-/

namespace ServerRS.NapCat

/-! ## JSON -/

/-- `serde_json::Number`. -/
inductive Number where
  | int (value : ℤ)
  | float (text : String)
deriving DecidableEq

/-- `serde_json::Value`. -/
inductive Value where
  | null
  | bool (value : Bool)
  | number (value : Number)
  | string (value : String)
  | array (items : List Value)
  | object (fields : List (String × Value))

/-- What the crates do. -/
structure Crates where
  /-- `serde_json::from_str`. -/
  fromStr : String → Option Value
  toJson : Value → String
  sha256 : List UInt8 → List UInt8
  /-- The class `\d` of `regex`, the decimal digits of Unicode. -/
  isDecimal : Char → Bool

def Number.asText : Number → String
  | .int value => toString value
  | .float text => text

def asI64 (value : ℤ) : Option ℤ := if -2 ^ 63 ≤ value ∧ value < 2 ^ 63 then some value else none

namespace Value

def get (value : Value) (key : String) : Option Value :=
  match value with
  | .object fields => fields.lookup key
  | _ => none

def asStr : Value → Option String
  | .string value => some value
  | _ => none

/-- The fields of a struct: of an object by name, of an array by position. -/
def structFields (names : List String) : Value → Option (List (Option Value))
  | .object fields => some (names.map fun name => fields.lookup name)
  | .array items =>
    if items.length ≤ names.length then
      some (items.map some ++ List.replicate (names.length - items.length) none)
    else none
  | _ => none

end Value

/-! ### Deserialising a field -/

/-- A `String` with `#[serde(default)]`. -/
def stringField : Option Value → Option String
  | none => some ""
  | some (.string value) => some value
  | some _ => none

/-- An `i64` with `#[serde(default)]`. -/
def i64Field : Option Value → Option ℤ
  | none => some 0
  | some (.number (.int value)) => asI64 value
  | some _ => none

def optionField {α : Type} (field : Option Value → Option α) : Option Value → Option (Option α)
  | none | some .null => some none
  | value => (field value).map some

/-! ## Strings -/

def truncateChars (s : String) (maxChars : ℕ) : String :=
  if s.length ≤ maxChars then s else String.ofList (s.toList.take maxChars)

/-- The first characters that take at most `maxBytes` bytes. -/
def takeBytes : ℕ → List Char → List Char
  | _, [] => []
  | maxBytes, c :: rest =>
    if c.utf8Size ≤ maxBytes then c :: takeBytes (maxBytes - c.utf8Size) rest else []

def truncateBytes (value : String) (maxBytes : ℕ) : String :=
  if value.utf8ByteSize ≤ maxBytes then value else String.ofList (takeBytes maxBytes value.toList)

def parseDigits (digits : List Char) : Option ℕ :=
  if digits ≠ [] ∧ digits.all Char.isDigit then
    some (digits.foldl (fun value c => 10 * value + (c.toNat - '0'.toNat)) 0)
  else none

def parseSigned (text : String) : Option ℤ :=
  match text.toList with
  | '-' :: digits => (parseDigits digits).map fun value => -value
  | '+' :: digits => (parseDigits digits).map fun value => value
  | digits => (parseDigits digits).map fun value => value

def parseI32 (text : String) : Option ℤ :=
  (parseSigned text).filter fun value => -2 ^ 31 ≤ value ∧ value < 2 ^ 31

open Spool (isWhitespace) in
theorem isWhitespace_printable {c : Char} (hlow : 33 ≤ c.val.toNat) (hhigh : c.val.toNat ≤ 126) :
    isWhitespace c = false := by
  simp only [isWhitespace, Bool.or_eq_false_iff, Bool.and_eq_false_iff, decide_eq_false_iff_not,
    beq_eq_false_iff_ne, ne_eq, UInt32.le_iff_toNat_le, ← UInt32.toNat_inj, UInt32.reduceToNat]
  omega

theorem isDigit_of_parse {digits : List Char} (h : (parseDigits digits).isSome) :
    ∀ c ∈ digits, c.isDigit = true := by
  unfold parseDigits at h
  split at h
  · next hdigits => exact List.all_eq_true.mp hdigits.2
  · cases h

/-- `str::find` of a pattern: what is in front of its first occurrence, and what follows it. -/
def splitOnce (pattern : List Char) : List Char → Option (List Char × List Char)
  | [] => if pattern = [] then some ([], []) else none
  | c :: rest =>
    if pattern.isPrefixOf (c :: rest) then some ([], (c :: rest).drop pattern.length)
    else (splitOnce pattern rest).map fun (before, after) => (c :: before, after)

theorem length_splitOnce {pattern : List Char} :
    ∀ {text before after : List Char}, splitOnce pattern text = some (before, after) →
      before.length + pattern.length + after.length = text.length := by
  intro text
  induction text with
  | nil =>
    intro before after h
    unfold splitOnce at h
    split at h
    · next hpattern =>
      cases h
      simp [hpattern]
    · cases h
  | cons c rest ih =>
    intro before after h
    unfold splitOnce at h
    split at h
    · next hprefix =>
      cases h
      have hle := (List.isPrefixOf_iff_prefix.mp hprefix).length_le
      simp only [List.length_drop, List.length_nil]
      omega
    · rw [Option.map_eq_some_iff] at h
      obtain ⟨⟨before', after'⟩, hrest, heq⟩ := h
      cases heq
      have := ih hrest
      simp only [List.length_cons]
      omega

/-- `str::split`. -/
def splitOn (separator : Char) : List Char → List (List Char)
  | [] => [[]]
  | c :: rest =>
    if c = separator then [] :: splitOn separator rest
    else
      match splitOn separator rest with
      | part :: parts => (c :: part) :: parts
      | [] => [[c]]

/-! ## Segments -/

inductive RichKind where
  | json
  | xml
  | card
  | other
deriving DecidableEq

inductive MessageSegment where
  | text (content : String)
  | face (id : ℤ) (text : Option String)
  | image (file : String) (url : Option String)
  | «at» (qq : String)
  | reply (id : String)
  | record (file : String)
  | video (file : String) (url : Option String)
  | file (file : String) (name : Option String)
  | forward (id : String)
  | rich (kind : RichKind) (data contentSha256 summary : Option String)
  | unknown (segType : String) (raw : Option String)
deriving DecidableEq

def MAX_SEGMENT_TEXT_CHARS : ℕ := 4000
def MAX_SEGMENTS : ℕ := 64
def MAX_META_CHARS : ℕ := 2000
def MAX_MESSAGE_TOTAL_BYTES : ℕ := 32768

structure OneBotSegment where
  segType : String
  data : List (String × Value)

def OneBotSegment.fromValue (item : Value) : Option OneBotSegment := do
  let fields ← item.structFields ["type", "data"]
  match fields with
  | [some (.string segType), none] => some ⟨segType, []⟩
  | [some (.string segType), some (.object data)] => some ⟨segType, data⟩
  | _ => none

section

variable (crates : Crates) (data : List (String × Value)) (key : String)

def takeIdString : String :=
  match data.lookup key with
  | some (.string s) => s
  | some (.number n) => n.asText
  | some other => crates.toJson other
  | none => ""

def takeBoundedString (maxChars : ℕ) : String :=
  match data.lookup key with
  | some (.string s) => truncateChars s maxChars
  | some (.number n) => n.asText
  | some other => truncateChars (crates.toJson other) maxChars
  | none => ""

def takeOptBoundedString (maxChars : ℕ) : Option String :=
  match data.lookup key with
  | some (.string s) => some (truncateChars s maxChars) |>.filter (· ≠ "")
  | some (.number n) => some n.asText
  | some other => some (truncateChars (crates.toJson other) maxChars) |>.filter (· ≠ "")
  | none => none

def takeI32 : Option ℤ :=
  match data.lookup key with
  | some (.number (.int value)) =>
    (asI64 value).filter fun value => -2 ^ 31 ≤ value ∧ value < 2 ^ 31
  | some (.string s) => parseI32 (trim s)
  | _ => none

def hexDigit (n : ℕ) : Char := "0123456789abcdef".toList.getD n '0'

def contentDigest (kind : String) : Option String :=
  match data.lookup key with
  | none => none
  | some value =>
    let encoded := match value with
      | .string value => value
      | value => crates.toJson value
    if encoded = "" then none
    else
      let digest := crates.sha256 (kind.toUTF8.toList ++ 0 :: encoded.toUTF8.toList)
      some (String.ofList (digest.flatMap fun byte =>
        [hexDigit (byte.toNat / 16), hexDigit (byte.toNat % 16)]))

end

section

variable (crates : Crates)

/-- The `rich` segments: `kind` is named in the digest. -/
def richSegment (data : List (String × Value)) (kind : RichKind) (name : String) : MessageSegment :=
  .rich kind (takeOptBoundedString crates data "data" MAX_META_CHARS)
    (contentDigest crates data "data" name)
    (takeOptBoundedString crates data "summary" MAX_META_CHARS)

def normalizeStructuredSegment (seg : OneBotSegment) : MessageSegment :=
  let data := seg.data
  match seg.segType with
  | "text" => .text (takeBoundedString crates data "text" MAX_SEGMENT_TEXT_CHARS)
  | "at" => .«at» (takeIdString crates data "qq")
  | "reply" => .reply (takeIdString crates data "id")
  | "face" =>
    .face ((takeI32 data "id").getD 0) (takeOptBoundedString crates data "text" MAX_META_CHARS)
  | "image" =>
    .image (takeBoundedString crates data "file" MAX_META_CHARS)
      (takeOptBoundedString crates data "url" MAX_META_CHARS)
  | "record" => .record (takeBoundedString crates data "file" MAX_META_CHARS)
  | "video" =>
    .video (takeBoundedString crates data "file" MAX_META_CHARS)
      (takeOptBoundedString crates data "url" MAX_META_CHARS)
  | "file" =>
    .file (takeBoundedString crates data "file" MAX_META_CHARS)
      (takeOptBoundedString crates data "name" MAX_META_CHARS)
  | "forward" => .forward (takeIdString crates data "id")
  | "json" => richSegment crates data .json "json"
  | "xml" => richSegment crates data .xml "xml"
  | "card" => richSegment crates data .card "card"
  | other => .unknown other (some (truncateChars (crates.toJson (.object data)) MAX_META_CHARS))

/-- `str::len` of an optional text. -/
def optBytes (text : Option String) : ℕ := (text.map String.utf8ByteSize).getD 0

def segmentEstimatedBytes : MessageSegment → ℕ
  | .text content => content.utf8ByteSize
  | .«at» qq => qq.utf8ByteSize + 4
  | .reply id => id.utf8ByteSize + 4
  | .face _ text => 4 + optBytes text
  | .image file url => file.utf8ByteSize + optBytes url
  | .record file => file.utf8ByteSize
  | .video file url => file.utf8ByteSize + optBytes url
  | .file file name => file.utf8ByteSize + optBytes name
  | .forward id => id.utf8ByteSize
  | .rich _ data contentSha256 summary => optBytes data + optBytes contentSha256 + optBytes summary
  | .unknown segType raw => segType.utf8ByteSize + optBytes raw

/-- An item of the array, and the bytes it counts for. -/
def structuredSegment (item : Value) : MessageSegment × ℕ :=
  match OneBotSegment.fromValue item with
  | some seg =>
    let seg := normalizeStructuredSegment crates seg
    (seg, segmentEstimatedBytes seg)
  | none =>
    let raw := truncateChars (crates.toJson item) MAX_META_CHARS
    (.unknown "?" (some raw), raw.utf8ByteSize)

def parseStructuredFrom :
    List Value → List MessageSegment → ℕ → List MessageSegment × Bool
  | [], segments, _ => (segments, false)
  | item :: rest, segments, totalBytes =>
    if MAX_SEGMENTS ≤ segments.length then (segments, true)
    else
      let (seg, bytes) := structuredSegment crates item
      let nextTotal := totalBytes + bytes
      if MAX_MESSAGE_TOTAL_BYTES < nextTotal then (segments, true)
      else parseStructuredFrom rest (segments ++ [seg]) nextTotal

def parseStructuredSegments (message : List Value) : List MessageSegment × Bool :=
  parseStructuredFrom crates message [] 0

end

/-! ### CQ codes -/

/-- The first parameter of the name. -/
def cqParam (params : List String) (name : String) : Option String :=
  params.findSome? fun param => (param.toList.dropPrefix? (name ++ "=").toList).map String.ofList

/-- What stands between `[CQ:` and `]`. -/
def cqSegment (cqContent : List Char) : MessageSegment :=
  let parts := (splitOn ',' cqContent).map String.ofList
  let params := parts.tail
  match parts.headD "" with
  | "at" => .«at» ((cqParam params "qq").getD "")
  | "face" => .face (((cqParam params "id").bind parseI32).getD 0) (cqParam params "text")
  | "image" => .image ((cqParam params "file").getD "") (cqParam params "url")
  | "reply" => .reply ((cqParam params "id").getD "")
  | "record" => .record ((cqParam params "file").getD "")
  | cqType => .unknown cqType (some (String.ofList cqContent))

def textSegment (text : List Char) : List MessageSegment :=
  if isBlank (String.ofList text) then [] else [.text (String.ofList text)]

def parseCqCodes (remaining : List Char) : List MessageSegment :=
  match _h : splitOnce "[CQ:".toList remaining with
  | none => textSegment remaining
  | some (before, body) =>
    textSegment before ++
      match _h' : splitOnce "]".toList body with
      -- a code without an end is text, with what stands in front of it
      | none => [.text (String.ofList remaining)]
      | some (cqContent, rest) => cqSegment cqContent :: parseCqCodes rest
termination_by remaining.length
decreasing_by
  have hcode := length_splitOnce _h
  have hend := length_splitOnce _h'
  have hopening : "[CQ:".toList.length = 4 := by decide
  omega

def parseMessageSegments (raw : String) : List MessageSegment :=
  if (splitOnce "[CQ:".toList raw.toList).isSome then parseCqCodes raw.toList else [.text raw]

/-! ## Texts -/

def RichKind.placeholder : RichKind → String
  | .json => "[卡片消息]"
  | .xml => "[XML消息]"
  | .card => "[卡片]"
  | .other => "[富消息]"

def MessageSegment.canonicalText : MessageSegment → String
  | .text content =>
    String.ofList (content.toList.map fun c => if c = '\n' ∨ c = '\r' then ' ' else c)
  | .«at» _ => "@user"
  | .reply _ => ""
  | .face _ _ => "[表情]"
  | .image _ _ => "[图片]"
  | .record _ => "[语音]"
  | .video _ _ => "[视频]"
  | .file _ name => "[文件]" ++ name.getD ""
  | .forward _ => "[聊天记录]"
  | .rich kind _ _ summary => summary.getD kind.placeholder
  | .unknown segType _ => "[" ++ segType ++ "]"

def canonicalTextFrom (text : String) : List MessageSegment → String
  | [] => trim text
  | seg :: rest =>
    let text := text ++ seg.canonicalText
    if MAX_SEGMENT_TEXT_CHARS < text.length then truncateChars text MAX_SEGMENT_TEXT_CHARS
    else canonicalTextFrom text rest

def segmentsToCanonicalText (segments : List MessageSegment) : String :=
  canonicalTextFrom "" segments

/-- Replaces what `matched` finds at the front of the rest, by its length. -/
def replaceMatches (matched : List Char → Option ℕ) (replacement : List Char) :
    ℕ → List Char → List Char
  | _, [] => []
  | skip + 1, _ :: rest => replaceMatches matched replacement skip rest
  | 0, c :: rest =>
    match matched (c :: rest) with
    | some (length + 1) => replacement ++ replaceMatches matched replacement length rest
    | _ => c :: replaceMatches matched replacement 0 rest

def replaceText (pattern replacement : String) (text : List Char) : List Char :=
  replaceMatches (fun rest => if pattern.toList.isPrefixOf rest then some pattern.length else none)
    replacement.toList 0 text

/-- `\[CQ:at,qq=(\d+)\]` -/
def matchAt (crates : Crates) (rest : List Char) : Option ℕ := do
  let body ← rest.dropPrefix? "[CQ:at,qq=".toList
  let digits := body.takeWhile crates.isDecimal
  if digits ≠ [] ∧ (body.drop digits.length).head? = some ']' then
    some ("[CQ:at,qq=".length + digits.length + 1)
  else none

/-- `\[CQ:[^\]]+\]` -/
def matchCq (rest : List Char) : Option ℕ := do
  let body ← rest.dropPrefix? "[CQ:".toList
  let inner := body.takeWhile (· ≠ ']')
  if inner ≠ [] ∧ inner.length < body.length then some ("[CQ:".length + inner.length + 1) else none

/-- Two or more spaces. -/
def matchSpaces (rest : List Char) : Option ℕ :=
  let spaces := rest.takeWhile (· = ' ')
  if 2 ≤ spaces.length then some spaces.length else none

def decodeCqEntities (text : List Char) : List Char :=
  replaceText "&#38;" "&" (replaceText "&#44;" "," (replaceText "&#93;" "]"
    (replaceText "&#91;" "[" text)))

/-- `normalize_text`, without the flag that nothing reads. -/
def normalizeText (crates : Crates) (raw : String) (selfQqId : ℤ) : String :=
  let normalized := replaceText ("[CQ:at,qq=" ++ toString selfQqId ++ "]") "" raw.toList
  let normalized := replaceMatches (matchAt crates) "@user".toList 0 normalized
  let normalized := replaceMatches matchCq [] 0 normalized
  let normalized := decodeCqEntities normalized
  trim (String.ofList (replaceMatches matchSpaces [' '] 0 normalized))

end ServerRS.NapCat

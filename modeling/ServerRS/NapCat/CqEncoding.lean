import ServerRS.Lib.Delimited
import ServerRS.NapCat.Events

/-!
# A message in its two encodings

`segments.rs` says that an array of segments and the equivalent CQ text give equivalent segments.
`encode` writes the CQ text of a message, with the characters escaped that the codes are made of.
`parse_message_segments` never undoes the escapes, knows five kinds of codes and leaves out texts of
white space, so the two are read alike if and only if nothing of this matters (`readsAlike_iff`). Of
the text between the codes it keeps everything but white space (`textKept_iff`).
-/

namespace ServerRS.NapCat

open Spool (isWhitespace)

/-! ## The encoding -/

/-- The characters that the codes are made of. -/
def isSyntax (c : Char) : Bool := c = '&' || c = '[' || c = ']' || c = ','

def escapeChar (c : Char) : List Char :=
  if c = '&' then "&#38;".toList
  else if c = '[' then "&#91;".toList
  else if c = ']' then "&#93;".toList
  else if c = ',' then "&#44;".toList
  else [c]

def escape (text : List Char) : List Char := text.flatMap escapeChar

inductive FieldValue where
  | text (value : String)
  | number (value : Number)
deriving DecidableEq

namespace FieldValue

def toValue : FieldValue → Value
  | text value => .string value
  | number value => .number value

def shown : FieldValue → String
  | text value => value
  | number value => value.asText

end FieldValue

/-- What a field is called: no part of the syntax. -/
def isName (name : String) : Bool := name.toList.all fun c => !isSyntax c && c ≠ '='

/-- A segment of a message. -/
structure Segment where
  segType : String
  fields : List (String × FieldValue)
  names : ∀ field ∈ fields, isName field.1 = true

namespace Segment

def data (seg : Segment) : List (String × Value) :=
  seg.fields.map fun field => (field.1, field.2.toValue)

def toValue (seg : Segment) : Value :=
  .object [("type", .string seg.segType), ("data", .object seg.data)]

def field (seg : Segment) (name : String) : Option FieldValue := seg.fields.lookup name

def shown (seg : Segment) (name : String) : String := ((seg.field name).map FieldValue.shown).getD ""

/-- The text of a field as it stands in the code. -/
def escaped (seg : Segment) (name : String) : Option String :=
  (seg.field name).map fun value => String.ofList (escape value.shown.toList)

/-- The parameters of the code. -/
def params (seg : Segment) : List (List Char) :=
  seg.fields.map fun field => field.1.toList ++ '=' :: escape field.2.shown.toList

/-- What stands between `[CQ:` and `]`. -/
def content (seg : Segment) : List Char :=
  escape seg.segType.toList ++ seg.params.flatMap fun param => ',' :: param

def code (seg : Segment) : List Char := "[CQ:".toList ++ seg.content ++ "]".toList

/-- A text, and anything else, which is a code. -/
def isText (seg : Segment) : Bool := seg.segType = "text"

def encode (seg : Segment) : List Char :=
  if seg.isText then escape (seg.shown "text").toList else seg.code

end Segment

def encode (segs : List Segment) : String := String.ofList (segs.flatMap Segment.encode)

/-! ## What is compared -/

def mergeText (seg : MessageSegment) (merged : List MessageSegment) : List MessageSegment :=
  match seg, merged with
  | .text content, .text next :: rest => .text (content ++ next) :: rest
  | seg, merged => seg :: merged

/-- Adjacent texts are put together. -/
def mergeTexts (segments : List MessageSegment) : List MessageSegment := segments.foldr mergeText []

def mentionTarget : MessageSegment → Option String
  | .«at» qq => some qq
  | _ => none

/-- The two ways to read a message. -/
def fromArray (crates : Crates) (segs : List Segment) : List MessageSegment :=
  parseStructuredOrCq crates (.array (segs.map Segment.toValue)) (encode segs)

def fromCq (crates : Crates) (segs : List Segment) : List MessageSegment :=
  parseStructuredOrCq crates .null (encode segs)

def ReadsAlike (crates : Crates) (segs : List Segment) : Prop :=
  mergeTexts (fromArray crates segs) = mergeTexts (fromCq crates segs) ∧
    segmentsToCanonicalText (fromArray crates segs) =
      segmentsToCanonicalText (fromCq crates segs) ∧
    (fromArray crates segs).filterMap mentionTarget = (fromCq crates segs).filterMap mentionTarget

/-- What a segment of the array is normalised to. -/
def Segment.normalized (crates : Crates) (seg : Segment) : MessageSegment :=
  normalizeStructuredSegment crates ⟨seg.segType, seg.data⟩

/-- Nothing is cut off. -/
structure WithinLimits (crates : Crates) (segs : List Segment) : Prop where
  count : segs.length ≤ MAX_SEGMENTS
  texts : ∀ seg ∈ segs, ∀ field ∈ seg.fields, field.1 ∈ ["qq", "id"] ∨
    field.2.shown.length ≤ if seg.isText then MAX_SEGMENT_TEXT_CHARS else MAX_META_CHARS
  total : (segs.map fun seg => segmentEstimatedBytes (seg.normalized crates)).sum ≤
    MAX_MESSAGE_TOTAL_BYTES
  cqTotal : (encode segs).utf8ByteSize ≤ MAX_MESSAGE_TOTAL_BYTES

/-! ## When the two agree -/

/-- Nothing in it is escaped. -/
def Plain (text : String) : Prop := ∀ c ∈ text.toList, isSyntax c = false

instance (text : String) : Decidable (Plain text) := List.decidableBAll _ _

/-- An optional field: the array drops an empty text. -/
def OptAlike (field : Option FieldValue) : Prop :=
  ∀ value ∈ field, value ≠ .text "" ∧ Plain value.shown

/-- A text is trimmed in the array only, so that white space may hide no number but 0 from the code. -/
def IdAlike (field : Option FieldValue) : Prop :=
  match field with
  | some (.text text) => trim text = text ∨ (parseI32 (trim text)).getD 0 = 0
  | some (.number (.float text)) => (parseI32 text).getD 0 = 0
  | _ => True

/-- When a code says what the segment says. -/
def CodeAlike (crates : Crates) (seg : Segment) : Prop :=
  match seg.segType with
  | "at" => Plain (seg.shown "qq")
  | "reply" => Plain (seg.shown "id")
  | "record" => Plain (seg.shown "file")
  | "image" => Plain (seg.shown "file") ∧ OptAlike (seg.field "url")
  | "face" => IdAlike (seg.field "id") ∧ OptAlike (seg.field "text")
  | "video" | "file" | "forward" | "json" | "xml" | "card" => False
  | other => Plain other ∧
    truncateChars (crates.toJson (.object seg.data)) MAX_META_CHARS = String.ofList seg.content

/-- A message as the text in front of its codes, and each code with the text behind it. -/
def runs : List Segment → Option String × List (Segment × Option String)
  | [] => (none, [])
  | seg :: rest =>
    let (first, others) := runs rest
    if seg.isText then (some (seg.shown "text" ++ first.getD ""), others)
    else (none, (seg, first) :: others)

/-- Where there are codes, a text of white space is left out. -/
def RunAlike (coded : Bool) (run : Option String) : Prop :=
  ∀ text ∈ run, Plain text ∧ (coded = true → isBlank text = false)

structure WrittenAlike (crates : Crates) (segs : List Segment) : Prop where
  first : RunAlike (!(runs segs).2.isEmpty) (runs segs).1
  others : ∀ pair ∈ (runs segs).2, CodeAlike crates pair.1 ∧ RunAlike true pair.2

/-! ## What is kept of a text -/

/-- The text outside the complete codes: in front of, between and behind them. -/
def outside (remaining : List Char) : List (List Char) :=
  match _h : splitOnce "[CQ:".toList remaining with
  | none => [remaining]
  | some (before, body) =>
    match _h' : splitOnce "]".toList body with
    | none => [remaining]
    | some (_, rest) => before :: outside rest
termination_by remaining.length
decreasing_by
  have hcode := length_splitOnce _h
  have hend := length_splitOnce _h'
  have hopening : "[CQ:".toList.length = 4 := by decide
  omega

def addToGaps (seg : MessageSegment) (gaps : List (List String)) : List (List String) :=
  match seg, gaps with
  | .text content, gap :: gaps => (content :: gap) :: gaps
  | _, gaps => [] :: gaps

/-- The texts in front of, between and behind the segments that are none. -/
def gaps (segments : List MessageSegment) : List (List String) := segments.foldr addToGaps [[]]

def PieceKept (piece : List Char) (texts : List String) : Prop :=
  piece = [] ∨ ∃ text ∈ texts, piece <:+: text.toList

/-- What is outside the codes is kept in a text segment, between the segments of its codes. -/
def TextKept (raw : String) : Prop :=
  List.Forall₂ PieceKept (outside raw.toList) (gaps (parseMessageSegments raw))

section

variable {c mark : Char} {text before after content rest : List Char}

/-! ## Escaping -/

theorem of_isName {name : String} (h : isName name = true) (hc : c ∈ name.toList) :
    isSyntax c = false ∧ c ≠ '=' := by
  simpa using List.all_eq_true.mp h c hc

theorem escapeChar_of_plain (h : isSyntax c = false) : escapeChar c = [c] := by
  simp only [isSyntax, Bool.or_eq_false_iff, decide_eq_false_iff_not] at h
  simp [escapeChar, h]

theorem length_escapeChar_of_syntax (h : isSyntax c = true) : (escapeChar c).length = 5 := by
  simp only [isSyntax, Bool.or_eq_true, decide_eq_true_eq] at h
  rcases h with ((rfl | rfl) | rfl) | rfl
  all_goals rfl

theorem escape_eq_self_iff : escape text = text ↔ ∀ c ∈ text, isSyntax c = false := by
  have hlon : ∀ text : List Char, text.length ≤ (escape text).length := by
    intro text
    induction text with
    | nil => exact Nat.zero_le _
    | cons c rest ih =>
      have hone : 1 ≤ (escapeChar c).length := by
        unfold escapeChar
        split_ifs <;> simp
      simp only [escape, List.flatMap_cons, List.length_append, List.length_cons] at ih ⊢
      omega
  induction text with
  | nil => simp [escape]
  | cons c rest ih =>
    rw [List.forall_mem_cons]
    cases hc : isSyntax c with
    | false =>
      have hcons : escape (c :: rest) = c :: escape rest := by
        simp [escape, escapeChar_of_plain hc]
      simp [hcons, ih]
    | true =>
      refine ⟨fun h => ?_, fun h => Bool.noConfusion h.1⟩
      have hlen := congrArg List.length h
      have := hlon rest
      rw [escape, List.flatMap_cons, List.length_append, length_escapeChar_of_syntax hc,
        List.length_cons] at hlen
      rw [escape] at this
      omega

theorem mem_escape (h : c ∈ escape text) : c ≠ '[' ∧ c ≠ ']' ∧ c ≠ ',' := by
  obtain ⟨d, -, hd⟩ := List.mem_flatMap.mp h
  unfold escapeChar at hd
  split_ifs at hd with hamp hopen hclose hcomma
  case neg =>
    cases List.mem_singleton.mp hd
    exact ⟨hopen, hclose, hcomma⟩
  all_goals
    refine ⟨?_, ?_, ?_⟩
    all_goals
      rintro rfl
      exact absurd hd (by decide)

/-- Escapes have no place in a plain text. -/
theorem escape_eq_iff {plain : List Char} (hpln : ∀ c ∈ plain, isSyntax c = false) :
    escape text = plain ↔ text = plain := by
  constructor
  · rintro rfl
    refine (escape_eq_self_iff.mpr fun c hc => ?_).symm
    by_contra hsynt
    rw [Bool.not_eq_false] at hsynt
    have hamp : '&' ∈ escapeChar c := by
      simp only [isSyntax, Bool.or_eq_true, decide_eq_true_eq] at hsynt
      rcases hsynt with ((rfl | rfl) | rfl) | rfl
      all_goals decide
    exact Bool.noConfusion (hpln '&' (List.mem_flatMap.mpr ⟨c, hc, hamp⟩))
  · rintro rfl
    exact escape_eq_self_iff.mpr hpln

/-- What a reader that keeps the escapes makes of a text. -/
theorem ofList_escape_eq_iff {text : String} : text = String.ofList (escape text.toList) ↔
    Plain text := by
  rw [Plain, ← escape_eq_self_iff, ← String.toList_inj, String.toList_ofList, eq_comm]

/-! ## Taking a text apart -/

theorem splitOnce_mark {pattern : List Char} (h : mark ∉ before) :
    splitOnce (mark :: pattern) (before ++ (mark :: pattern ++ after)) = some (before, after) := by
  induction before with
  | nil =>
    have hpref : (mark :: pattern).isPrefixOf (mark :: (pattern ++ after)) = true := by
      rw [List.isPrefixOf_iff_prefix]
      exact List.prefix_append (mark :: pattern) after
    simp [splitOnce, hpref]
  | cons c rest ih =>
    rw [List.mem_cons, not_or] at h
    have hpref : (mark :: pattern).isPrefixOf (c :: (rest ++ (mark :: pattern ++ after))) =
        false := by
      simp [List.isPrefixOf, h.1]
    rw [List.cons_append, splitOnce, hpref, ih h.2]
    rfl

theorem splitOnce_none {pattern : List Char} (h : mark ∉ text) :
    splitOnce (mark :: pattern) text = none := by
  induction text with
  | nil => rfl
  | cons c rest ih =>
    rw [List.mem_cons, not_or] at h
    have hpref : (mark :: pattern).isPrefixOf (c :: rest) = false := by
      simp [List.isPrefixOf, h.1]
    rw [splitOnce, hpref, ih h.2]
    rfl

theorem splitOn_cons_of_ne {parts : List (List Char)} {part : List Char} (hc : c ≠ mark)
    (h : splitOn mark rest = part :: parts) : splitOn mark (c :: rest) = (c :: part) :: parts := by
  simp [splitOn, hc, h]

theorem splitOn_join {parts : List (List Char)} {part : List Char}
    (hmark : ∀ other ∈ part :: parts, mark ∉ other) :
    splitOn mark (part ++ parts.flatMap fun part => mark :: part) = part :: parts := by
  induction parts generalizing part with
  | nil =>
    rw [List.flatMap_nil, List.append_nil]
    have hpart := hmark part List.mem_cons_self
    clear hmark
    induction part with
    | nil => rfl
    | cons c rest ih =>
      rw [List.mem_cons, not_or] at hpart
      exact splitOn_cons_of_ne (Ne.symm hpart.1) (ih hpart.2)
  | cons next parts ih =>
    have hnext : splitOn mark (next ++ parts.flatMap fun part => mark :: part) = next :: parts :=
      ih fun other hoth => hmark other (List.mem_cons_of_mem _ hoth)
    have hpart := hmark part List.mem_cons_self
    rw [List.flatMap_cons, List.cons_append]
    clear hmark ih
    induction part with
    | nil => simp [splitOn, hnext]
    | cons c rest ih =>
      rw [List.mem_cons, not_or] at hpart
      exact splitOn_cons_of_ne (Ne.symm hpart.1) (ih hpart.2)

end

/-! ## One code -/

namespace Segment

def cqRead (seg : Segment) : MessageSegment :=
  match seg.segType with
  | "at" => .«at» ((seg.escaped "qq").getD "")
  | "face" => .face (((seg.escaped "id").bind parseI32).getD 0) (seg.escaped "text")
  | "image" => .image ((seg.escaped "file").getD "") (seg.escaped "url")
  | "reply" => .reply ((seg.escaped "id").getD "")
  | "record" => .record ((seg.escaped "file").getD "")
  | other => .unknown (String.ofList (escape other.toList)) (some (String.ofList seg.content))

end Segment

section

variable {crates : Crates} {seg : Segment} {name : String}

theorem cqParam_fields {fields : List (String × FieldValue)}
    (hnames : ∀ field ∈ fields, '=' ∉ field.1.toList) (hname : '=' ∉ name.toList) :
    cqParam (fields.map fun field =>
        String.ofList (field.1.toList ++ '=' :: escape field.2.shown.toList)) name =
      (fields.lookup name).map fun value => String.ofList (escape value.shown.toList) := by
  unfold cqParam
  induction fields with
  | nil => rfl
  | cons field rest ih =>
    obtain ⟨key, value⟩ := field
    have hkey := hnames (key, value) List.mem_cons_self
    have hdrop : ∀ text, (key.toList ++ '=' :: escape value.shown.toList).dropPrefix?
        (name ++ "=").toList = some text ↔ key = name ∧ text = escape value.shown.toList := by
      intro text
      rw [List.dropPrefix?_eq_some_iff]
      simp only [String.toList_append, beq_iff_eq]
      constructor
      · rintro ⟨_, h, rfl⟩
        rw [List.append_assoc] at h
        rcases Lib.append_mark_append_iff.mp h with ⟨hsame, htext⟩ | ⟨rest, h, -⟩ | ⟨rest, h, -⟩
        · exact ⟨String.toList_injective hsame, htext.symm⟩
        · exact absurd (h ▸ List.mem_append_right _ List.mem_cons_self) hname
        · exact absurd (h ▸ List.mem_append_right _ List.mem_cons_self) hkey
      · rintro ⟨rfl, rfl⟩
        exact ⟨_, by simp, rfl⟩
    rw [List.map_cons, List.findSome?_cons, List.lookup_cons, String.toList_ofList,
      ih fun field hmem => hnames field (List.mem_cons_of_mem _ hmem)]
    by_cases hsame : key = name
    · rw [(hdrop _).mpr ⟨hsame, rfl⟩, beq_iff_eq.mpr hsame.symm]
      rfl
    · have hnone : (key.toList ++ '=' :: escape value.shown.toList).dropPrefix?
          (name ++ "=").toList = none :=
        Option.eq_none_iff_forall_ne_some.mpr fun text h => hsame ((hdrop text).mp h).1
      rw [hnone, beq_eq_false_iff_ne.mpr (Ne.symm hsame)]
      rfl

theorem Segment.cqParam_params (hname : '=' ∉ name.toList) :
    cqParam (seg.params.map String.ofList) name = seg.escaped name := by
  rw [Segment.params, List.map_map]
  exact cqParam_fields (fun field hmem h => (of_isName (seg.names field hmem) h).2 rfl) hname

theorem Segment.splitOn_content : splitOn ',' seg.content = escape seg.segType.toList :: seg.params := by
  refine splitOn_join fun part hmem hcomma => ?_
  rcases List.mem_cons.mp hmem with rfl | hmem
  · exact (mem_escape hcomma).2.2 rfl
  · obtain ⟨field, hfield, rfl⟩ := List.mem_map.mp hmem
    rcases List.mem_append.mp hcomma with h | h
    · exact Bool.noConfusion (of_isName (seg.names field hfield) h).1
    · rcases List.mem_cons.mp h with h | h
      · exact absurd h (by decide)
      · exact (mem_escape h).2.2 rfl

/-- No type becomes a known one by being escaped. -/
theorem ofList_escape_eq {segType : String} (h : String.ofList (escape segType.toList) = name)
    (hpln : Plain name) : segType = name := by
  refine String.toList_injective ((escape_eq_iff hpln).mp ?_)
  rw [← h, String.toList_ofList]

theorem cqSegment_content : cqSegment seg.content = seg.cqRead := by
  unfold cqSegment
  simp only [Segment.splitOn_content, List.map_cons, List.tail_cons, List.headD_cons]
  split
  case h_6 hat hface himage hreply hrec =>
    unfold Segment.cqRead
    split
    · next h => exact absurd (by rw [h]; rfl) hat
    · next h => exact absurd (by rw [h]; rfl) hface
    · next h => exact absurd (by rw [h]; rfl) himage
    · next h => exact absurd (by rw [h]; rfl) hreply
    · next h => exact absurd (by rw [h]; rfl) hrec
    · rfl
  all_goals
    next h =>
      rw [Segment.cqParam_params (by decide)]
      try rw [Segment.cqParam_params (by decide)]
      simp only [Segment.cqRead, ofList_escape_eq h (by decide)]

theorem lookup_data : seg.data.lookup name = (seg.field name).map FieldValue.toValue := by
  unfold Segment.data Segment.field
  induction seg.fields with
  | nil => rfl
  | cons field rest ih =>
    rw [List.map_cons, List.lookup_cons, List.lookup_cons, ih]
    cases name == field.1 <;> rfl

theorem takeIdString_data : takeIdString crates seg.data name = seg.shown name := by
  rw [takeIdString, lookup_data, Segment.shown]
  cases seg.field name with
  | none => rfl
  | some value => cases value <;> rfl

/-- A field whose text is short enough. -/
def Fits (seg : Segment) (name : String) (maxChars : ℕ) : Prop :=
  ∀ value ∈ seg.field name, value.shown.length ≤ maxChars

variable {maxChars : ℕ}

theorem takeBoundedString_data (hfits : Fits seg name maxChars) :
    takeBoundedString crates seg.data name maxChars = seg.shown name := by
  rw [takeBoundedString, lookup_data, Segment.shown]
  cases h : seg.field name with
  | none => rfl
  | some value =>
    cases value with
    | text value => exact if_pos (hfits _ h)
    | number value => rfl

theorem escaped_getD : (seg.escaped name).getD "" =
    String.ofList (escape (seg.shown name).toList) := by
  unfold Segment.escaped Segment.shown
  cases seg.field name <;> rfl

theorem shown_alike_iff : seg.shown name = (seg.escaped name).getD "" ↔ Plain (seg.shown name) := by
  rw [escaped_getD, ofList_escape_eq_iff]

/-- A number has a sign and digits only. -/
theorem chars_of_parse {text : String} (h : (parseI32 text).isSome) :
    ∀ c ∈ text.toList, isWhitespace c = false ∧ isSyntax c = false := by
  have hsign : ∀ c ∈ text.toList, c = '-' ∨ c = '+' ∨ c.isDigit = true := by
    have hparsed : (parseSigned text).isSome := by
      unfold parseI32 at h
      cases hsome : parseSigned text with
      | none =>
        rw [hsome] at h
        cases h
      | some value => rfl
    intro c hc
    unfold parseSigned at hparsed
    split at hparsed <;> rw [Option.isSome_map] at hparsed
    all_goals have hdigits := isDigit_of_parse (Option.isSome_of_isSome_bind hparsed)
    · next digits htext =>
      rw [htext, List.mem_cons] at hc
      exact hc.imp id fun hc => .inr (hdigits c hc)
    · next digits htext =>
      rw [htext, List.mem_cons] at hc
      exact .inr (hc.imp id (hdigits c))
    · exact .inr (.inr (hdigits c hc))
  intro c hc
  rcases hsign c hc with rfl | rfl | hdigit
  · decide
  · decide
  · have hrange : 48 ≤ c.val.toNat ∧ c.val.toNat ≤ 57 := by
      simpa [Char.isDigit, UInt32.le_iff_toNat_le] using hdigit
    refine ⟨isWhitespace_printable (by omega) (by omega), ?_⟩
    rw [isSyntax, Bool.or_eq_false_iff, Bool.or_eq_false_iff, Bool.or_eq_false_iff]
    simp only [decide_eq_false_iff_not]
    refine ⟨⟨⟨?_, ?_⟩, ?_⟩, ?_⟩
    all_goals
      rintro rfl
      cases hdigit

theorem trim_of_parse {text : String} (h : (parseI32 text).isSome) : trim text = text := by
  have hdrop : ∀ chars : List Char, (∀ c ∈ chars, isWhitespace c = false) →
      chars.dropWhile isWhitespace = chars := by
    intro chars hchars
    cases chars with
    | nil => rfl
    | cons c rest => rw [List.dropWhile_cons_of_neg (by simp [hchars c List.mem_cons_self])]
  have hchars : ∀ c ∈ text.toList, isWhitespace c = false := fun c hc => (chars_of_parse h c hc).1
  rw [trim, hdrop _ hchars, hdrop _ fun c hc => hchars c (List.mem_reverse.mp hc),
    List.reverse_reverse, String.ofList_toList]

/-- What is escaped is no number, and so is not what it is escaped from. -/
theorem parse_escape (text : String) :
    parseI32 (String.ofList (escape text.toList)) = parseI32 text := by
  by_cases hpln : Plain text
  · rw [escape_eq_self_iff.mpr hpln, String.ofList_toList]
  · obtain ⟨c, hc, hsyn⟩ : ∃ c ∈ text.toList, isSyntax c = true := by
      simpa [Plain] using hpln
    have hamp : '&' ∈ escape text.toList := by
      refine List.mem_flatMap.mpr ⟨c, hc, ?_⟩
      simp only [isSyntax, Bool.or_eq_true, decide_eq_true_eq] at hsyn
      rcases hsyn with ((rfl | rfl) | rfl) | rfl
      all_goals decide
    have hnone : parseI32 text = none := by
      by_contra hsome
      rw [(chars_of_parse (Option.isSome_iff_ne_none.mpr hsome) c hc).2] at hsyn
      cases hsyn
    rw [hnone]
    by_contra hsome
    have hplain := (chars_of_parse (Option.isSome_iff_ne_none.mpr hsome) '&'
      (by rwa [String.toList_ofList])).2
    cases hplain

theorem parse_int (value : ℤ) : parseI32 (toString value) =
    (asI64 value).filter fun value => -2 ^ 31 ≤ value ∧ value < 2 ^ 31 := by
  have hdigits (n : ℕ) : ∀ c ∈ Nat.toDigits 10 n, c.isDigit = true := fun c hc =>
    Nat.isDigit_of_mem_toDigits (by decide) (by decide) hc
  have hparsed (n : ℕ) : parseDigits (Nat.toDigits 10 n) = some n := by
    rw [parseDigits, if_pos ⟨Nat.toDigits_ne_nil, List.all_eq_true.mpr (hdigits n)⟩,
      ← Nat.ofDigitChars_eq_foldl, Nat.ofDigitChars_ten_toDigits]
  have hsigned : parseSigned (toString value) = some value := by
    rw [Int.toString_eq_repr, Int.repr_eq_if]
    split
    · next hnonneg =>
      rw [parseSigned, Nat.toList_repr]
      split
      · next digits h => exact absurd (hdigits _ '-' (h ▸ List.mem_cons_self)) (by decide)
      · next digits h => exact absurd (hdigits _ '+' (h ▸ List.mem_cons_self)) (by decide)
      · rw [hparsed]
        simpa using hnonneg
    · next hneg =>
      rw [parseSigned, String.toList_append, Nat.toList_repr]
      show Option.map _ ((parseDigits (Nat.toDigits 10 _)).bind _) = _
      rw [hparsed]
      simp
      omega
  rw [parseI32, hsigned, asI64]
  split
  · rfl
  · refine Option.filter_eq_none_iff.mpr ?_
    simp
    omega

theorem id_alike_iff : (takeI32 seg.data "id").getD 0 = ((seg.escaped "id").bind parseI32).getD 0 ↔
    IdAlike (seg.field "id") := by
  rw [takeI32, lookup_data, Segment.escaped]
  unfold IdAlike
  cases seg.field "id" with
  | none => exact iff_of_true rfl trivial
  | some value =>
    rw [Option.map_some, Option.map_some, Option.bind_some, parse_escape]
    cases value with
    | text text =>
      show (parseI32 (trim text)).getD 0 = (parseI32 text).getD 0 ↔ _
      cases hparse : parseI32 text with
      | none =>
        refine ⟨.inr, ?_⟩
        rintro (hsame | hzero)
        · rw [hsame, hparse]
        · exact hzero
      | some value =>
        have hsame := trim_of_parse (Option.isSome_of_eq_some hparse)
        exact iff_of_true (by rw [hsame, hparse]) (.inl hsame)
    | number value =>
      cases value with
      | int value =>
        refine iff_of_true ?_ trivial
        show ((asI64 value).filter _).getD 0 = (parseI32 (toString value)).getD 0
        rw [parse_int]
      | float text => exact eq_comm

theorem opt_alike_iff (hfits : Fits seg name maxChars) :
    takeOptBoundedString crates seg.data name maxChars = seg.escaped name ↔
      OptAlike (seg.field name) := by
  rw [takeOptBoundedString, lookup_data, Segment.escaped, OptAlike]
  cases h : seg.field name with
  | none => simp
  | some value =>
    simp only [Option.map_some, Option.mem_def, Option.some.injEq, forall_eq']
    cases value with
    | text value =>
      have hcut : truncateChars value maxChars = value := if_pos (hfits _ h)
      by_cases hemp : value = ""
      · subst hemp
        simp [FieldValue.toValue, hcut]
      · have hkept : (some (truncateChars value maxChars)).filter (· ≠ "") = some value := by
          simp [hcut, hemp]
        have hsome : FieldValue.text value ≠ .text "" := fun h => hemp (FieldValue.text.inj h)
        rw [and_iff_right hsome]
        exact (Eq.congr_left hkept).trans ((Option.some_inj).trans ofList_escape_eq_iff)
    | number value => simp [FieldValue.toValue, FieldValue.shown, ofList_escape_eq_iff]

/-- Where nothing is cut off, a code says what its segment says under the conditions above. -/
theorem code_alike_iff (htext : seg.isText = false)
    (hfits : ∀ name, name ∉ ["qq", "id"] → Fits seg name MAX_META_CHARS) :
    seg.normalized crates = cqSegment seg.content ↔ CodeAlike crates seg := by
  have hnot : seg.segType ≠ "text" := of_decide_eq_false htext
  have hfile := hfits "file" (by decide)
  have hurl := hfits "url" (by decide)
  have hsummary := hfits "text" (by decide)
  rw [cqSegment_content, Segment.normalized, normalizeStructuredSegment, Segment.cqRead, CodeAlike]
  split
  case h_13 =>
    split
    case h_6 =>
      split
      case h_12 =>
        rw [MessageSegment.unknown.injEq, Option.some.injEq, ofList_escape_eq_iff]
      all_goals contradiction
    all_goals contradiction
  · next h => exact absurd h hnot
  · next h =>
    simp only [show seg.segType = "at" from h]
    rw [MessageSegment.at.injEq, takeIdString_data, shown_alike_iff]
  · next h =>
    simp only [show seg.segType = "reply" from h]
    rw [MessageSegment.reply.injEq, takeIdString_data, shown_alike_iff]
  · next h =>
    simp only [show seg.segType = "face" from h]
    rw [MessageSegment.face.injEq, opt_alike_iff hsummary, id_alike_iff]
  · next h =>
    simp only [show seg.segType = "image" from h]
    rw [MessageSegment.image.injEq, takeBoundedString_data hfile, shown_alike_iff,
      opt_alike_iff hurl]
  · next h =>
    simp only [show seg.segType = "record" from h]
    rw [MessageSegment.record.injEq, takeBoundedString_data hfile, shown_alike_iff]
  all_goals
    next h =>
      simp only [show seg.segType = _ from h]
      exact iff_false_intro (fun h => MessageSegment.noConfusion h)

end

/-! ## Codes with texts between them -/

def MessageSegment.isText : MessageSegment → Bool
  | .text _ => true
  | _ => false

section

variable {α : Type} {first first' : List MessageSegment} {pairs : List α}
  {code code' : α → MessageSegment} {text text' : α → List MessageSegment}

theorem texts_append_inj {a b r s : List MessageSegment} {c d : MessageSegment}
    (ha : ∀ x ∈ a, x.isText = true) (hb : ∀ x ∈ b, x.isText = true) (hc : c.isText = false)
    (hd : d.isText = false) : a ++ c :: r = b ++ d :: s ↔ a = b ∧ c = d ∧ r = s := by
  have htexts : ∀ {a r : List MessageSegment} {c : MessageSegment},
      (∀ x ∈ a, x.isText = true) → c.isText = false →
        (a ++ c :: r).takeWhile MessageSegment.isText = a := by
    intro a r c ha hc
    rw [List.takeWhile_append_of_pos ha, List.takeWhile_cons_of_neg (by simp [hc]), List.append_nil]
  constructor
  · intro h
    have hsame := congrArg (List.takeWhile MessageSegment.isText) h
    rw [htexts ha hc, htexts hb hd] at hsame
    subst hsame
    exact ⟨rfl, List.cons.inj (List.append_cancel_left h)⟩
  · rintro ⟨rfl, rfl, rfl⟩
    rfl

/-- Codes with texts between them can be compared one by one. -/
theorem codes_inj (hfst : ∀ x ∈ first, x.isText = true) (hfst' : ∀ x ∈ first', x.isText = true)
    (hcode : ∀ pair ∈ pairs, (code pair).isText = false ∧ (code' pair).isText = false)
    (htext : ∀ pair, (∀ x ∈ text pair, x.isText = true) ∧ ∀ x ∈ text' pair, x.isText = true) :
    first ++ pairs.flatMap (fun pair => code pair :: text pair) =
        first' ++ pairs.flatMap (fun pair => code' pair :: text' pair) ↔
      first = first' ∧ ∀ pair ∈ pairs, code pair = code' pair ∧ text pair = text' pair := by
  induction pairs generalizing first first' with
  | nil => simp
  | cons pair rest ih =>
    obtain ⟨hcode, hrest⟩ := List.forall_mem_cons.mp hcode
    simp only [List.flatMap_cons, List.cons_append]
    rw [texts_append_inj hfst hfst' hcode.1 hcode.2, ih (htext pair).1 (htext pair).2 hrest,
      List.forall_mem_cons, and_assoc]

theorem mergeText_of_code {seg : MessageSegment} {merged : List MessageSegment}
    (h : seg.isText = false) : mergeText seg merged = seg :: merged := by
  cases seg <;> first | rfl | cases h

theorem mergeText_before_code {seg next : MessageSegment} {merged : List MessageSegment}
    (h : next.isText = false) : mergeText seg (next :: merged) = seg :: next :: merged := by
  cases seg <;> cases next <;> first | rfl | cases h

/-- There is nothing to put together where no two texts are adjacent. -/
theorem mergeTexts_codes (hfst : first.length ≤ 1)
    (hcode : ∀ pair ∈ pairs, (code pair).isText = false) (htext : ∀ pair, (text pair).length ≤ 1) :
    mergeTexts (first ++ pairs.flatMap fun pair => code pair :: text pair) =
      first ++ pairs.flatMap fun pair => code pair :: text pair := by
  induction pairs generalizing first with
  | nil =>
    obtain _ | ⟨seg, _ | ⟨next, rest⟩⟩ := first
    · rfl
    · cases seg <;> rfl
    · simp at hfst
  | cons pair rest ih =>
    obtain ⟨hcode, hrest⟩ := List.forall_mem_cons.mp hcode
    have hthen := ih (htext pair) hrest
    rw [List.flatMap_cons, List.cons_append]
    have hfrom : mergeTexts (code pair :: (text pair ++ rest.flatMap fun pair =>
        code pair :: text pair)) = code pair :: (text pair ++ rest.flatMap fun pair =>
        code pair :: text pair) := by
      rw [mergeTexts, List.foldr_cons, ← mergeTexts, hthen, mergeText_of_code hcode]
    obtain _ | ⟨seg, _ | ⟨next, rest⟩⟩ := first
    · exact hfrom
    · rw [List.cons_append, List.nil_append, mergeTexts, List.foldr_cons, ← mergeTexts, hfrom,
        mergeText_before_code hcode]
    · simp at hfst

end

/-! ## The array -/

def textOf (run : Option String) : List MessageSegment := (run.map MessageSegment.text).toList

section

variable {crates : Crates} {seg : Segment} {segs : List Segment}

theorem normalized_isText : (seg.normalized crates).isText = seg.isText := by
  unfold Segment.normalized normalizeStructuredSegment Segment.isText
  split
  case h_13 => exact (decide_eq_false (by assumption)).symm
  all_goals
    next h =>
      rw [show seg.segType = _ from h]
      rfl

theorem normalized_text (htext : seg.isText = true) (hfits : Fits seg "text" MAX_SEGMENT_TEXT_CHARS) :
    seg.normalized crates = .text (seg.shown "text") := by
  have htype : seg.segType = "text" := of_decide_eq_true htext
  simp only [Segment.normalized, normalizeStructuredSegment, htype]
  rw [takeBoundedString_data hfits]

theorem parseStructuredFrom_all {done : List MessageSegment} {total : ℕ}
    (hcnt : done.length + segs.length ≤ MAX_SEGMENTS)
    (htotal : total + (segs.map fun seg => segmentEstimatedBytes (seg.normalized crates)).sum ≤
      MAX_MESSAGE_TOTAL_BYTES) :
    (parseStructuredFrom crates (segs.map Segment.toValue) done total).1 =
      done ++ segs.map (Segment.normalized crates) := by
  induction segs generalizing done total with
  | nil => simp [parseStructuredFrom]
  | cons seg rest ih =>
    have hseg : structuredSegment crates seg.toValue =
        (seg.normalized crates, segmentEstimatedBytes (seg.normalized crates)) := rfl
    simp only [List.length_cons, List.map_cons, List.sum_cons] at hcnt htotal
    rw [List.map_cons, parseStructuredFrom, if_neg (by omega), hseg]
    dsimp only
    rw [if_neg (by omega), ih (by simp only [List.length_append, List.length_singleton]; omega)
      (by omega), List.map_cons, List.append_assoc]
    rfl

theorem fits_of_limits (hlim : WithinLimits crates segs) (hmem : seg ∈ segs) {name : String}
    (hname : name ∉ ["qq", "id"]) :
    Fits seg name (if seg.isText then MAX_SEGMENT_TEXT_CHARS else MAX_META_CHARS) := by
  intro value hvl
  obtain ⟨front, back, hfields, -⟩ := List.lookup_eq_some_iff.mp hvl
  refine (hlim.texts seg hmem (name, value) ?_).resolve_left hname
  rw [hfields]
  exact List.mem_append_right _ List.mem_cons_self

theorem fromArray_eq (hlim : WithinLimits crates segs) (hsome : segs ≠ []) :
    fromArray crates segs = segs.map (Segment.normalized crates) := by
  obtain ⟨seg, rest, rfl⟩ := List.exists_cons_of_ne_nil hsome
  show (parseStructuredFrom crates ((seg :: rest).map Segment.toValue) [] 0).1 = _
  rw [parseStructuredFrom_all, List.nil_append]
  · rw [List.length_nil, Nat.zero_add]
    exact hlim.count
  · rw [Nat.zero_add]
    exact hlim.total

theorem runs_of_text (htext : seg.isText = true) : runs (seg :: segs) =
    (some (seg.shown "text" ++ (runs segs).1.getD ""), (runs segs).2) := by
  simp [runs, htext]

theorem runs_of_code (htext : seg.isText = false) :
    runs (seg :: segs) = (none, (seg, (runs segs).1) :: (runs segs).2) := by
  simp [runs, htext]

theorem runs_codes : ∀ pair ∈ (runs segs).2, pair.1.isText = false ∧ pair.1 ∈ segs := by
  induction segs with
  | nil => exact fun _ h => absurd h List.not_mem_nil
  | cons seg rest ih =>
    have hrest : ∀ pair ∈ (runs rest).2, pair.1.isText = false ∧ pair.1 ∈ seg :: rest :=
      fun pair hmem => ⟨(ih pair hmem).1, List.mem_cons_of_mem _ (ih pair hmem).2⟩
    cases htext : seg.isText with
    | true =>
      rw [runs_of_text htext]
      exact hrest
    | false =>
      rw [runs_of_code htext]
      exact List.forall_mem_cons.mpr ⟨⟨htext, List.mem_cons_self⟩, hrest⟩

theorem mergeTexts_normalized (htexts : ∀ seg ∈ segs, seg.isText = true →
      Fits seg "text" MAX_SEGMENT_TEXT_CHARS) :
    mergeTexts (segs.map (Segment.normalized crates)) =
      textOf (runs segs).1 ++
        (runs segs).2.flatMap fun pair => pair.1.normalized crates :: textOf pair.2 := by
  induction segs with
  | nil => rfl
  | cons seg rest ih =>
    obtain ⟨hseg, hrest⟩ := List.forall_mem_cons.mp htexts
    rw [List.map_cons, mergeTexts, List.foldr_cons, ← mergeTexts, ih hrest]
    cases htext : seg.isText with
    | true =>
      rw [runs_of_text htext, normalized_text htext (hseg htext)]
      cases (runs rest).1 with
      | some text => rfl
      | none =>
        rw [Option.getD_none, String.append_empty]
        cases hcodes : (runs rest).2 with
        | nil => rfl
        | cons pair others =>
          have hcode := (runs_codes pair (hcodes ▸ List.mem_cons_self)).1
          exact mergeText_before_code (normalized_isText.trans hcode)
    | false =>
      rw [runs_of_code htext, mergeText_of_code (normalized_isText.trans htext)]
      rfl

end

/-! ## The CQ text -/

section

variable {remaining before body content rest : List Char}

theorem parseCqCodes_none (h : splitOnce "[CQ:".toList remaining = none) :
    parseCqCodes remaining = textSegment remaining := by
  rw [parseCqCodes]
  split <;> simp_all

theorem parseCqCodes_open (h : splitOnce "[CQ:".toList remaining = some (before, body))
    (hopen : splitOnce "]".toList body = none) :
    parseCqCodes remaining = textSegment before ++ [.text (String.ofList remaining)] := by
  rw [parseCqCodes]
  split
  · simp_all
  · split <;> simp_all

theorem parseCqCodes_some (h : splitOnce "[CQ:".toList remaining = some (before, body))
    (hcls : splitOnce "]".toList body = some (content, rest)) :
    parseCqCodes remaining = textSegment before ++ cqSegment content :: parseCqCodes rest := by
  rw [parseCqCodes]
  split
  · simp_all
  · split <;> simp_all

end

section

variable {seg : Segment} {segs : List Segment} {text before : List Char}

/-- Where a text stands in a CQ text. -/
def written (run : Option String) : List Char := escape (run.getD "").toList

theorem encode_runs : segs.flatMap Segment.encode =
    written (runs segs).1 ++ (runs segs).2.flatMap fun pair => pair.1.code ++ written pair.2 := by
  induction segs with
  | nil => rfl
  | cons seg rest ih =>
    rw [List.flatMap_cons, ih, Segment.encode]
    cases htext : seg.isText with
    | true =>
      rw [runs_of_text htext]
      simp [written, escape]
    | false =>
      rw [runs_of_code htext]
      simp [written, escape]

theorem not_mem_content : ']' ∉ seg.content := by
  intro h
  rcases List.mem_append.mp h with h | h
  · exact (mem_escape h).2.1 rfl
  · obtain ⟨param, hparam, h⟩ := List.mem_flatMap.mp h
    obtain ⟨field, hfield, rfl⟩ := List.mem_map.mp hparam
    simp only [List.mem_cons, List.mem_append] at h
    rcases h with h | h | h | h
    · exact absurd h (by decide)
    · exact Bool.noConfusion (of_isName (seg.names field hfield) h).1
    · exact absurd h (by decide)
    · exact (mem_escape h).2.1 rfl

theorem not_mem_written {run : Option String} : '[' ∉ written run := fun h => (mem_escape h).1 rfl

theorem splitOnce_code (hbef : '[' ∉ before) :
    splitOnce "[CQ:".toList (before ++ (seg.code ++ text)) =
      some (before, seg.content ++ ("]".toList ++ text)) := by
  rw [Segment.code, List.append_assoc, List.append_assoc]
  exact splitOnce_mark hbef

theorem splitOnce_content :
    splitOnce "]".toList (seg.content ++ ("]".toList ++ text)) = some (seg.content, text) :=
  splitOnce_mark not_mem_content

theorem splitOnce_text (h : '[' ∉ text) : splitOnce "[CQ:".toList text = none := splitOnce_none h

theorem parseCqCodes_runs {pairs : List (Segment × Option String)} (hbef : '[' ∉ before) :
    parseCqCodes (before ++ pairs.flatMap fun pair => pair.1.code ++ written pair.2) =
      textSegment before ++
        pairs.flatMap fun pair => cqSegment pair.1.content :: textSegment (written pair.2) := by
  induction pairs generalizing before with
  | nil =>
    rw [List.flatMap_nil, List.flatMap_nil, List.append_nil, List.append_nil]
    exact parseCqCodes_none (splitOnce_text hbef)
  | cons pair rest ih =>
    rw [List.flatMap_cons, List.flatMap_cons, List.append_assoc,
      parseCqCodes_some (splitOnce_code hbef) splitOnce_content, ih not_mem_written]
    rfl

theorem parseMessageSegments_text (h : '[' ∉ text) :
    parseMessageSegments (String.ofList text) = [.text (String.ofList text)] := by
  have hlist : (String.ofList text).toList = text := String.toList_ofList
  refine if_neg ?_
  rw [hlist, splitOnce_text h]
  exact Bool.false_ne_true

theorem parseMessageSegments_runs {pairs : List (Segment × Option String)} (hsome : pairs ≠ [])
    (hbef : '[' ∉ before) :
    parseMessageSegments (String.ofList
        (before ++ pairs.flatMap fun pair => pair.1.code ++ written pair.2)) =
      textSegment before ++
        pairs.flatMap fun pair => cqSegment pair.1.content :: textSegment (written pair.2) := by
  obtain ⟨pair, rest, rfl⟩ := List.exists_cons_of_ne_nil hsome
  rw [← parseCqCodes_runs hbef]
  refine (if_pos ?_).trans (congrArg parseCqCodes String.toList_ofList)
  refine (congrArg (fun text => (splitOnce "[CQ:".toList text).isSome) String.toList_ofList).trans ?_
  rw [List.flatMap_cons, List.append_assoc, splitOnce_code hbef]
  rfl

/-! ## Both -/

theorem textSegment_isText : ∀ x ∈ textSegment text, x.isText = true := by
  unfold textSegment
  split <;> simp [MessageSegment.isText]

theorem length_textSegment : (textSegment text).length ≤ 1 := by
  unfold textSegment
  split <;> simp

theorem cqSegment_isText {content : List Char} : (cqSegment content).isText = false := by
  unfold cqSegment
  dsimp only
  split <;> rfl

theorem textOf_isText {run : Option String} : ∀ x ∈ textOf run, x.isText = true := by
  cases run <;> simp [textOf, MessageSegment.isText]

/-- A text without the escapes, unless it is left out. -/
theorem run_alike_iff {run : Option String} :
    textOf run = textSegment (written run) ↔ RunAlike true run := by
  cases run with
  | none => exact iff_of_true rfl fun _ h => absurd h (Option.not_mem_none _)
  | some text =>
    have hrun : RunAlike true (some text) ↔ Plain text ∧ isBlank text = false := by simp [RunAlike]
    rw [hrun, textSegment]
    by_cases hblank : isBlank (String.ofList (escape text.toList)) = true
    · refine iff_of_false (fun h => List.cons_ne_nil _ _ (h.trans (if_pos hblank))) ?_
      rintro ⟨hpln, hnot⟩
      rw [← ofList_escape_eq_iff.mpr hpln, hnot] at hblank
      cases hblank
    · refine (Eq.congr_right (if_neg hblank)).trans ?_
      show [MessageSegment.text text] = [.text (String.ofList (escape text.toList))] ↔ _
      rw [List.singleton_inj, MessageSegment.text.injEq, ofList_escape_eq_iff]
      refine ⟨fun hpln => ⟨hpln, ?_⟩, And.left⟩
      rw [← ofList_escape_eq_iff.mpr hpln] at hblank
      exact Bool.not_eq_true _ ▸ hblank

theorem fromCq_eq {crates : Crates} (hlim : WithinLimits crates segs) :
    fromCq crates segs = parseMessageSegments (encode segs) := by
  show parseMessageSegments (truncateBytes (encode segs) MAX_MESSAGE_TOTAL_BYTES) = _
  rw [truncateBytes, if_pos hlim.cqTotal]

theorem runs_fst (hsome : segs ≠ []) (hcodes : (runs segs).2 = []) :
    ∃ text, (runs segs).1 = some text := by
  obtain ⟨seg, rest, rfl⟩ := List.exists_cons_of_ne_nil hsome
  cases htext : seg.isText with
  | true => exact ⟨_, by rw [runs_of_text htext]⟩
  | false =>
    rw [runs_of_code htext] at hcodes
    cases hcodes

theorem mergeTexts_alike_iff {crates : Crates} (hlim : WithinLimits crates segs) :
    mergeTexts (fromArray crates segs) = mergeTexts (fromCq crates segs) ↔
      WrittenAlike crates segs := by
  by_cases hsome : segs = []
  · subst hsome
    exact iff_of_true rfl ⟨fun _ h => absurd h (Option.not_mem_none _), fun _ h => by cases h⟩
  have htexts : ∀ seg ∈ segs, seg.isText = true → Fits seg "text" MAX_SEGMENT_TEXT_CHARS := by
    intro seg hmem htext
    have hfits := fits_of_limits hlim hmem (show "text" ∉ ["qq", "id"] by decide)
    rwa [htext] at hfits
  rw [fromArray_eq hlim hsome, mergeTexts_normalized htexts, fromCq_eq hlim, encode,
    encode_runs]
  have hcoded : WrittenAlike crates segs ↔ RunAlike (!(runs segs).2.isEmpty) (runs segs).1 ∧
      ∀ pair ∈ (runs segs).2, CodeAlike crates pair.1 ∧ RunAlike true pair.2 :=
    ⟨fun h => ⟨h.first, h.others⟩, fun h => ⟨h.1, h.2⟩⟩
  rw [hcoded]
  by_cases hcodes : (runs segs).2 = []
  · obtain ⟨text, htext⟩ := runs_fst hsome hcodes
    rw [hcodes, List.flatMap_nil, List.flatMap_nil, List.append_nil, List.append_nil,
      parseMessageSegments_text not_mem_written, htext]
    show [MessageSegment.text text] = [.text (String.ofList (escape text.toList))] ↔ _
    rw [List.singleton_inj, MessageSegment.text.injEq, ofList_escape_eq_iff]
    simp [RunAlike]
  · rw [parseMessageSegments_runs hcodes not_mem_written, mergeTexts_codes length_textSegment
      (fun _ _ => cqSegment_isText) fun _ => length_textSegment, codes_inj textOf_isText
      textSegment_isText (fun pair hmem =>
        ⟨normalized_isText.trans (runs_codes pair hmem).1, cqSegment_isText⟩)
      fun _ => ⟨textOf_isText, textSegment_isText⟩, run_alike_iff, List.isEmpty_eq_false_iff.mpr hcodes]
    refine and_congr Iff.rfl (forall₂_congr fun pair hmem => ?_)
    obtain ⟨hcode, hseg⟩ := runs_codes pair hmem
    refine and_congr (code_alike_iff hcode fun name hname => ?_) run_alike_iff
    have hfits := fits_of_limits hlim hseg hname
    rwa [hcode] at hfits

/-! ## Texts and mentions -/

/-- What the canonical text is cut from. -/
def joined (segments : List MessageSegment) : String :=
  segments.foldr (fun seg text => seg.canonicalText ++ text) ""

theorem canonicalTextFrom_eq {segments : List MessageSegment} {text : String}
    (h : text.length ≤ MAX_SEGMENT_TEXT_CHARS) : canonicalTextFrom text segments =
      if (text ++ joined segments).length ≤ MAX_SEGMENT_TEXT_CHARS then trim (text ++ joined segments)
      else truncateChars (text ++ joined segments) MAX_SEGMENT_TEXT_CHARS := by
  induction segments generalizing text with
  | nil =>
    rw [joined, List.foldr_nil, String.append_empty, if_pos h]
    rfl
  | cons seg rest ih =>
    have hassoc : text ++ joined (seg :: rest) = text ++ seg.canonicalText ++ joined rest :=
      (String.append_assoc).symm
    rw [hassoc, canonicalTextFrom]
    split
    · next hlong =>
      have hlon : ¬(text ++ seg.canonicalText ++ joined rest).length ≤ MAX_SEGMENT_TEXT_CHARS := by
        rw [String.length_append]
        omega
      rw [if_neg hlon, truncateChars, if_neg (Nat.not_le.mpr hlong), truncateChars,
        if_neg hlon]
      refine congrArg String.ofList ?_
      rw [show (text ++ seg.canonicalText ++ joined rest).toList =
        (text ++ seg.canonicalText).toList ++ (joined rest).toList from String.toList_append,
        List.take_append_of_le_length (String.length_toList ▸ hlong.le)]
    · next hshort => exact ih (Nat.not_lt.mp hshort)

theorem joined_mergeText {seg : MessageSegment} {merged : List MessageSegment} :
    joined (mergeText seg merged) = seg.canonicalText ++ joined merged := by
  unfold mergeText
  split
  · simp [joined, MessageSegment.canonicalText, String.ofList_append, String.append_assoc]
  · rfl

theorem segmentsToCanonicalText_merge {segments : List MessageSegment} :
    segmentsToCanonicalText (mergeTexts segments) = segmentsToCanonicalText segments := by
  have hjoined : joined (mergeTexts segments) = joined segments := by
    induction segments with
    | nil => rfl
    | cons seg rest ih =>
      rw [mergeTexts, List.foldr_cons, ← mergeTexts, joined_mergeText, ih]
      rfl
  have hemp : ("" : String).length ≤ MAX_SEGMENT_TEXT_CHARS := Nat.zero_le _
  rw [segmentsToCanonicalText, segmentsToCanonicalText, canonicalTextFrom_eq hemp,
    canonicalTextFrom_eq hemp, hjoined]

theorem mentions_merge {segments : List MessageSegment} :
    (mergeTexts segments).filterMap mentionTarget = segments.filterMap mentionTarget := by
  induction segments with
  | nil => rfl
  | cons seg rest ih =>
    have hone (merged : List MessageSegment) : (mergeText seg merged).filterMap mentionTarget =
        (seg :: merged).filterMap mentionTarget := by
      unfold mergeText
      split <;> rfl
    rw [mergeTexts, List.foldr_cons, ← mergeTexts, hone, List.filterMap_cons, List.filterMap_cons, ih]

/-- The two encodings of a message are read alike if and only if nothing is escaped, every code is
one that both know, and no text between codes is white space. -/
theorem readsAlike_iff {crates : Crates} (hlim : WithinLimits crates segs) :
    ReadsAlike crates segs ↔ WrittenAlike crates segs := by
  rw [← mergeTexts_alike_iff hlim]
  refine ⟨And.left, fun h => ⟨h, ?_, ?_⟩⟩
  · rw [← segmentsToCanonicalText_merge, h, segmentsToCanonicalText_merge]
  · rw [← mentions_merge, h, mentions_merge]

end

/-! ## What is kept -/

section

variable {remaining before body content rest : List Char}

theorem outside_none (h : splitOnce "[CQ:".toList remaining = none) :
    outside remaining = [remaining] := by
  rw [outside]
  split <;> simp_all

theorem outside_open (h : splitOnce "[CQ:".toList remaining = some (before, body))
    (hopen : splitOnce "]".toList body = none) : outside remaining = [remaining] := by
  rw [outside]
  split
  · rfl
  · split <;> simp_all

theorem outside_some (h : splitOnce "[CQ:".toList remaining = some (before, body))
    (hcls : splitOnce "]".toList body = some (content, rest)) :
    outside remaining = before :: outside rest := by
  rw [outside]
  split
  · simp_all
  · split <;> simp_all

theorem eq_of_splitOnce {pattern : List Char} : ∀ {text before after : List Char},
    splitOnce pattern text = some (before, after) → text = before ++ (pattern ++ after) := by
  intro text
  induction text with
  | nil =>
    intro before after h
    unfold splitOnce at h
    split at h
    · next hpattern =>
      cases h
      rw [hpattern]
      rfl
    · cases h
  | cons c rest ih =>
    intro before after h
    unfold splitOnce at h
    split at h
    · next hpref =>
      cases h
      exact (List.prefix_iff_eq_append.mp (List.isPrefixOf_iff_prefix.mp hpref)).symm
    · obtain ⟨⟨before', after'⟩, hrest, heq⟩ := Option.map_eq_some_iff.mp h
      cases heq
      rw [ih hrest]
      rfl

/-- A text with the beginning of a code in it is more than white space. -/
theorem not_blank_of_splitOnce (h : splitOnce "[CQ:".toList remaining = some (before, body)) :
    isBlank (String.ofList remaining) = false := by
  have hmem : '[' ∈ remaining := by
    rw [eq_of_splitOnce h]
    exact List.mem_append_right _ List.mem_cons_self
  rw [isBlank, String.toList_ofList]
  exact List.all_eq_false.mpr ⟨'[', hmem, by decide⟩

theorem gaps_text (text : String) (segments : List MessageSegment) :
    ∃ gap others, gaps segments = gap :: others ∧
      gaps (.text text :: segments) = (text :: gap) :: others := by
  have hsome : gaps segments ≠ [] := by
    cases segments with
    | nil => exact List.cons_ne_nil _ _
    | cons seg rest =>
      rw [gaps, List.foldr_cons]
      unfold addToGaps
      split <;> exact List.cons_ne_nil _ _
  obtain ⟨gap, others, h⟩ := List.exists_cons_of_ne_nil hsome
  refine ⟨gap, others, h, ?_⟩
  rw [gaps, List.foldr_cons, ← gaps, h]
  rfl

theorem gaps_code {seg : MessageSegment} {segments : List MessageSegment}
    (h : seg.isText = false) : gaps (seg :: segments) = [] :: gaps segments := by
  rw [gaps, List.foldr_cons, ← gaps]
  cases seg <;> first | rfl | cases h

/-- A piece is kept by its own text segment, unless it is white space. -/
theorem pieceKept_textSegment_iff {segments : List MessageSegment} {pieces : List (List Char)}
    (hgaps : ∃ others, gaps segments = [] :: others) :
    List.Forall₂ PieceKept (before :: pieces) (gaps (textSegment before ++ segments)) ↔
      (isBlank (String.ofList before) = true → before = []) ∧
        List.Forall₂ PieceKept pieces (gaps segments).tail := by
  obtain ⟨others, hothers⟩ := hgaps
  rw [textSegment]
  by_cases hblank : isBlank (String.ofList before) = true
  · rw [if_pos hblank, List.nil_append, hothers, List.forall₂_cons]
    simp [PieceKept, hblank]
  · obtain ⟨gap, others', h, hgaps⟩ := gaps_text (String.ofList before) segments
    rw [hothers] at h
    cases h
    rw [if_neg hblank, List.singleton_append, hgaps, hothers, List.forall₂_cons]
    simp [PieceKept, hblank]

theorem kept_iff : List.Forall₂ PieceKept (outside remaining) (gaps (parseCqCodes remaining)) ↔
    ∀ piece ∈ outside remaining, isBlank (String.ofList piece) = true → piece = [] := by
  induction remaining using parseCqCodes.induct with
  | case1 remaining h =>
    rw [outside_none h, parseCqCodes_none h, ← List.append_nil (textSegment remaining),
      pieceKept_textSegment_iff ⟨[], rfl⟩]
    simp [gaps]
  | case2 remaining before body h ih =>
    cases hcode : splitOnce "]".toList body with
    | none =>
      rw [outside_open h hcode, parseCqCodes_open h hcode]
      refine iff_of_true ?_ fun piece hpiece hblank => ?_
      · have hgaps : ∃ gap, gaps (textSegment before ++ [.text (String.ofList remaining)]) = [gap] ∧
            String.ofList remaining ∈ gap := by
          unfold textSegment
          split <;> simp [gaps, addToGaps]
        obtain ⟨gap, hgaps, hmem⟩ := hgaps
        rw [hgaps]
        exact .cons (.inr ⟨_, hmem, by rw [String.toList_ofList]⟩) .nil
      · cases List.mem_singleton.mp hpiece
        rw [not_blank_of_splitOnce h] at hblank
        cases hblank
    | some parts =>
      obtain ⟨content, rest⟩ := parts
      rw [outside_some h hcode, parseCqCodes_some h hcode,
        pieceKept_textSegment_iff ⟨_, gaps_code cqSegment_isText⟩, gaps_code cqSegment_isText,
        List.tail_cons, ih content rest hcode, List.forall_mem_cons]

/-- The text outside the codes is kept, unless a part of it beside a code is white space. -/
theorem textKept_iff {raw : String} : TextKept raw ↔ ∀ piece ∈ outside raw.toList,
    isBlank (String.ofList piece) = true → piece = [] ∨ piece = raw.toList := by
  rw [TextKept, parseMessageSegments]
  cases h : splitOnce "[CQ:".toList raw.toList with
  | none =>
    rw [outside_none h]
    refine iff_of_true ?_ fun piece hpiece _ => .inr (List.mem_singleton.mp hpiece)
    exact .cons (.inr ⟨raw, List.mem_singleton_self _, List.infix_rfl⟩) .nil
  | some parts =>
    refine (iff_of_eq (congrArg (fun segments => List.Forall₂ PieceKept _ (gaps segments))
      (if_pos rfl))).trans (kept_iff.trans (forall₂_congr fun piece _ => forall_congr' fun hblank => ?_))
    refine (or_iff_left ?_).symm
    rintro rfl
    rw [not_blank_of_splitOnce h] at hblank
    cases hblank

/-- Both encodings agree, and a text is kept, exactly as far as `WrittenAlike` and the pieces between
the codes go. -/
theorem encodings_agree_iff {crates : Crates} {segs : List Segment}
    (hlim : WithinLimits crates segs) (raw : String) :
    ReadsAlike crates segs ∧ TextKept raw ↔
      WrittenAlike crates segs ∧ ∀ piece ∈ outside raw.toList,
        isBlank (String.ofList piece) = true → piece = [] ∨ piece = raw.toList :=
  and_congr (readsAlike_iff hlim) textKept_iff

end

namespace Greeting

/-- Nothing is asked of the crates for texts and mentions. -/
def crates : Crates := ⟨fun _ => none, fun _ => "{}", fun _ => [], Char.isDigit⟩

theorem text_names (content : String) :
    ∀ field ∈ [("text", FieldValue.text content)], isName field.1 = true := by
  intro field hfield
  cases List.mem_singleton.mp hfield
  show isName "text" = true
  decide

theorem mention_names : ∀ field ∈ [("qq", FieldValue.text "10001")], isName field.1 = true := by
  decide

def phrase (content : String) : Segment := ⟨"text", [("text", .text content)], text_names content⟩

def mention : Segment := ⟨"at", [("qq", .text "10001")], mention_names⟩

def greeting : List Segment := [phrase "hi ", mention, phrase " there"]

theorem greeting_withinLimits : WithinLimits crates greeting :=
  ⟨by decide, by decide, by decide, by decide⟩

theorem greeting_agrees : ReadsAlike crates greeting ∧ TextKept "hi [CQ:at,qq=10001] there" := by
  have hrun : ∀ text ∈ ["hi ", " there"], RunAlike true (some text) := by
    intro text htext other hoth
    cases hoth
    exact ⟨by revert text; decide, fun _ => by revert text; decide⟩
  refine (encodings_agree_iff greeting_withinLimits _).mpr ⟨⟨?_, ?_⟩, ?_⟩
  · exact hrun "hi " (by decide)
  · intro pair hpair
    cases List.mem_singleton.mp hpair
    exact ⟨show Plain "10001" by decide, hrun " there" (by decide)⟩
  · have hpieces : outside "hi [CQ:at,qq=10001] there".toList = ["hi ".toList, " there".toList] :=
      (outside_some rfl rfl).trans (congrArg _ (outside_none rfl))
    rw [hpieces]
    decide

def quoted : List Segment := [phrase "[E2E-001]"]

theorem quoted_withinLimits : WithinLimits crates quoted :=
  ⟨by decide, by decide, by decide, by decide⟩

/-- The brackets of a text stay escaped in the CQ text. -/
theorem quoted_disagrees : WithinLimits crates quoted ∧
    fromCq crates quoted = [.text "&#91;E2E-001&#93;"] ∧ ¬ReadsAlike crates quoted := by
  refine ⟨quoted_withinLimits, by decide, fun h => ?_⟩
  have hpln : Plain "[E2E-001]" := (((readsAlike_iff quoted_withinLimits).mp h).first _ rfl).1
  exact absurd hpln (by decide)

end Greeting

end ServerRS.NapCat

import SimpleWebrtc.Library.Bytes
import SimpleWebrtc.Library.Text
import Mathlib.Tactic.IntervalCases

/-!
# RTP header extension elements

The two element formats of RFC 8285 as the program reads them. A format is the
function which takes one element off the front of an extension payload, and the
readers of a payload are one walk over either format: the validator and the
parser collect every element, the lookup stops at the first one with its id.
-/
namespace SimpleWebrtc.RtpHeaderExtension
open Library Library.Bytes

def kRtpFixedHeaderSize : ℕ := 12
def kRtpCsrcSize : ℕ := 4
def kRtpExtensionHeaderSize : ℕ := 4
def kOneByteExtensionProfile : UInt16 := 0xBEDE
def kTwoByteExtensionProfileMask : UInt16 := 0xFFF0
def kTwoByteExtensionProfileValue : UInt16 := 0x1000
def kOneByteExtensionReservedId : UInt8 := 15

structure ParsedHeaderExtension where
  id : UInt8
  value : List UInt8
deriving Repr, DecidableEq, Inhabited

/-- What a format takes off the front: an element or a padding byte, and the rest. -/
abbrev ElementReader :=
  UInt8 → List UInt8 → Except Text (Option ParsedHeaderExtension × List UInt8)

def oneByteElement : ElementReader := fun header rest =>
  if header = 0 then .ok (none, rest)
  else
    let id := header >>> 4
    let size := (header &&& 0x0F).toNat + 1
    if id = kOneByteExtensionReservedId then
      .error (ascii "rtp one-byte extension id 15 is reserved")
    else if rest.length < size then
      .error (ascii "rtp one-byte extension element is truncated")
    else .ok (some ⟨id, rest.take size⟩, rest.drop size)

def twoByteElement : ElementReader := fun id rest =>
  if id = 0 then .ok (none, rest)
  else
    match rest with
    | [] => .error (ascii "rtp two-byte extension length is truncated")
    | size :: rest =>
        if rest.length < size.toNat then
          .error (ascii "rtp two-byte extension element is truncated")
        else .ok (some ⟨id, rest.take size.toNat⟩, rest.drop size.toNat)

/-- Every element of an extension payload. -/
def walk (next : ElementReader) : ℕ → List UInt8 → Except Text (List ParsedHeaderExtension)
  | _, [] => .ok []
  | 0, _ :: _ => .ok []
  | fuel + 1, header :: rest =>
      match next header rest with
      | .error e => .error e
      | .ok (none, rest') => walk next fuel rest'
      | .ok (some element, rest') => (walk next fuel rest').map (element :: ·)

/-- A range of bytes of a packet. -/
structure Span where
  offset : ℕ
  size : ℕ
deriving Repr, DecidableEq

def Span.bytes (span : Span) (packet : List UInt8) : List UInt8 :=
  (packet.drop span.offset).take span.size

/-- The first element with an id, in an extension payload which ends at `stop`. -/
def findElement (next : ElementReader) (extensionId : UInt8) (stop : ℕ) :
    ℕ → List UInt8 → Except Text (Option Span)
  | _, [] => .ok none
  | 0, _ :: _ => .ok none
  | fuel + 1, header :: rest =>
      match next header rest with
      | .error e => .error e
      | .ok (none, rest') => findElement next extensionId stop fuel rest'
      | .ok (some element, rest') =>
          if element.id = extensionId then
            .ok (some ⟨stop - rest'.length - element.value.length, element.value.length⟩)
          else findElement next extensionId stop fuel rest'

def isOneByteExtensionProfile (profile : UInt16) : Bool :=
  decide (profile = kOneByteExtensionProfile)

def isTwoByteExtensionProfile (profile : UInt16) : Bool :=
  decide (profile &&& kTwoByteExtensionProfileMask = kTwoByteExtensionProfileValue)

def csrcCount (packet : List UInt8) : ℕ := byteAt packet 0 &&& 0x0F
def hasExtension (packet : List UInt8) : Bool := decide (byteAt packet 0 &&& 0x10 ≠ 0)
def hasPadding (packet : List UInt8) : Bool := decide (byteAt packet 0 &&& 0x20 ≠ 0)

def findRtpHeaderExtension (packet : List UInt8) (extensionId : UInt8) :
    Except Text (Option Span) :=
  if extensionId = 0 then .error (ascii "rtp header extension id is zero")
  else if packet.length < kRtpFixedHeaderSize then
    .error (ascii "rtp packet is shorter than fixed header")
  else if byteAt packet 0 >>> 6 ≠ 2 then .error (ascii "rtp version is invalid")
  else if hasExtension packet = false then .ok none
  else
    let headerOffset := kRtpFixedHeaderSize + csrcCount packet * kRtpCsrcSize
    if packet.length < headerOffset + kRtpExtensionHeaderSize then
      .error (ascii "rtp extension header is truncated")
    else
      let profile := readU16 packet headerOffset
      let payloadOffset := headerOffset + kRtpExtensionHeaderSize
      let payloadSize := (readU16 packet (headerOffset + 2)).toNat * 4
      if packet.length < payloadOffset + payloadSize then
        .error (ascii "rtp extension payload is truncated")
      else
        let payload := (packet.drop payloadOffset).take payloadSize
        let stop := payloadOffset + payloadSize
        if isOneByteExtensionProfile profile then
          if kOneByteExtensionReservedId ≤ extensionId then .ok none
          else findElement oneByteElement extensionId stop payload.length payload
        else if isTwoByteExtensionProfile profile then
          findElement twoByteElement extensionId stop payload.length payload
        else .ok none

/-- A reader consumes what it hands out: the element's bytes precede the rest. -/
structure ElementReader.Sound (next : ElementReader) : Prop where
  padding : ∀ header rest rest', next header rest = .ok (none, rest') → rest' = rest
  element : ∀ header rest element rest', next header rest = .ok (some element, rest') →
    ∃ skipped, rest = skipped ++ element.value ++ rest'

theorem oneByteElement_sound : ElementReader.Sound oneByteElement where
  padding := by
    intro header rest rest' h
    simp only [oneByteElement] at h
    split_ifs at h <;> simp_all
  element := by
    intro header rest element rest' h
    simp only [oneByteElement] at h
    split_ifs at h <;> simp only [Except.ok.injEq, Prod.mk.injEq, reduceCtorEq, false_and,
      Option.some.injEq] at h
    obtain ⟨rfl, rfl⟩ := h
    exact ⟨[], by simp⟩

theorem twoByteElement_sound : ElementReader.Sound twoByteElement where
  padding := by
    intro header rest rest' h
    unfold twoByteElement at h
    split_ifs at h with hz
    · simpa using h.symm
    · cases rest with
      | nil => simp at h
      | cons size rest =>
          simp only at h
          split_ifs at h
          simp at h
  element := by
    intro header rest element rest' h
    unfold twoByteElement at h
    split_ifs at h with hz
    · simp at h
    · cases rest with
      | nil => simp at h
      | cons size rest =>
          simp only at h
          split_ifs at h with hsize
          simp only [Except.ok.injEq, Prod.mk.injEq, Option.some.injEq] at h
          obtain ⟨rfl, rfl⟩ := h
          exact ⟨[size], by simp⟩

theorem ElementReader.Sound.length_le {next : ElementReader} (sound : next.Sound)
    {header : UInt8} {rest : List UInt8} {element : Option ParsedHeaderExtension}
    {rest' : List UInt8} (h : next header rest = .ok (element, rest')) :
    rest'.length ≤ rest.length := by
  cases element with
  | none => rw [sound.padding header rest rest' h]
  | some element =>
      obtain ⟨skipped, hrest⟩ := sound.element header rest element rest' h
      simp only [hrest, List.length_append]
      omega

/-- The walk never runs out of fuel: the length of the payload is enough. -/
theorem walk_eq_of_le {next : ElementReader} (sound : next.Sound) {fuel : ℕ}
    {payload : List UInt8} (h : payload.length ≤ fuel) :
    walk next fuel payload = walk next payload.length payload := by
  induction fuel using Nat.strong_induction_on generalizing payload with
  | _ fuel ih =>
      cases payload with
      | nil => simp [walk]
      | cons header rest =>
          obtain ⟨fuel, rfl⟩ : ∃ f, fuel = f + 1 := ⟨fuel - 1, by simp at h; omega⟩
          simp only [List.length_cons] at h ⊢
          simp only [walk]
          cases hnext : next header rest with
          | error e => rfl
          | ok out =>
              obtain ⟨element, rest'⟩ := out
              have hle := sound.length_le hnext
              have heq : walk next fuel rest' = walk next rest.length rest' := by
                rw [ih fuel (by omega) (by omega)]
                by_cases hlt : rest.length < fuel + 1
                · exact (ih rest.length hlt hle).symm
                · omega
              cases element <;> simp only [heq]

/-- A property of every element a reader hands out holds of every element of the walk. -/
theorem walk_all {next : ElementReader} {P : ParsedHeaderExtension → Prop}
    (hP : ∀ header rest element rest', next header rest = .ok (some element, rest') → P element)
    {fuel : ℕ} {payload : List UInt8} {elements : List ParsedHeaderExtension}
    (h : walk next fuel payload = .ok elements) : ∀ e ∈ elements, P e := by
  induction fuel generalizing payload elements with
  | zero => cases payload <;> simp_all [walk]
  | succ fuel ih =>
      cases payload with
      | nil => simp_all [walk]
      | cons header rest =>
          simp only [walk] at h
          cases hnext : next header rest with
          | error e => simp [hnext] at h
          | ok out =>
              obtain ⟨element, rest'⟩ := out
              cases element with
              | none =>
                  simp only [hnext] at h
                  exact ih h
              | some element =>
                  simp only [hnext] at h
                  cases htail : walk next fuel rest' with
                  | error e => simp [htail, Except.map] at h
                  | ok tail =>
                      simp only [htail, Except.map, Except.ok.injEq] at h
                      subst h
                      intro e he
                      rcases List.mem_cons.mp he with rfl | he
                      · exact hP _ _ _ _ hnext
                      · exact ih htail e he

/-- The ids of the one-byte format are below the reserved one. -/
theorem oneByteElement_id_lt {header : UInt8} {rest rest' : List UInt8}
    {element : ParsedHeaderExtension}
    (h : oneByteElement header rest = .ok (some element, rest')) :
    element.id < kOneByteExtensionReservedId := by
  simp only [oneByteElement] at h
  split_ifs at h with hzero hid hshort <;> simp only [Except.ok.injEq, Prod.mk.injEq,
    reduceCtorEq, false_and, Option.some.injEq] at h
  obtain ⟨rfl, -⟩ := h
  have hlt := header.toNat_lt
  have hne : (header >>> 4).toNat ≠ 15 := fun h15 => hid (UInt8.toNat_inj.mp h15)
  have hshift : (header >>> 4).toNat = header.toNat / 16 := by
    simp [UInt8.toNat_shiftRight, Nat.shiftRight_eq_div_pow]
  change (header >>> 4).toNat < 15
  omega

theorem value_length_le {next : ElementReader} {elements : List ParsedHeaderExtension}
    (hnext : next = oneByteElement ∨ next = twoByteElement) {fuel : ℕ} {payload : List UInt8}
    (h : walk next fuel payload = .ok elements) : ∀ e ∈ elements, e.value.length ≤ 255 := by
  refine walk_all (fun header rest element rest' hread => ?_) h
  rcases hnext with rfl | rfl
  · simp only [oneByteElement] at hread
    split_ifs at hread <;> simp only [Except.ok.injEq, Prod.mk.injEq, reduceCtorEq, false_and,
      Option.some.injEq] at hread
    obtain ⟨rfl, -⟩ := hread
    have hand : header.toNat &&& 15 ≤ 15 := Nat.and_le_right
    simp only [UInt8.toNat_and, UInt8.reduceToNat, List.length_take]
    omega
  · unfold twoByteElement at hread
    split_ifs at hread
    · simp at hread
    · cases rest with
      | nil => simp at hread
      | cons size rest =>
          simp only at hread
          split_ifs at hread
          simp only [Except.ok.injEq, Prod.mk.injEq, Option.some.injEq] at hread
          obtain ⟨rfl, -⟩ := hread
          have hlt := size.toNat_lt
          simp only [List.length_take]
          omega

/-- A span of the packet between `lo` and `hi` which holds `value`. -/
structure Span.Holds (span : Span) (packet : List UInt8) (lo hi : ℕ) (value : List UInt8) :
    Prop where
  size : span.size = value.length
  bytes : span.bytes packet = value
  lower : lo ≤ span.offset
  upper : span.offset + span.size ≤ hi

/-- A lookup result which points at the element found. -/
def PointsAt (packet : List UInt8) (lo hi : ℕ) (result : Except Text (Option Span)) :
    Option ParsedHeaderExtension → Prop
  | none => result = .ok none
  | some e => ∃ span, result = .ok (some span) ∧ span.Holds packet lo hi e.value

theorem PointsAt.mono {packet : List UInt8} {lo lo' hi : ℕ} {result : Except Text (Option Span)}
    {found : Option ParsedHeaderExtension} (h : PointsAt packet lo hi result found)
    (hlo : lo' ≤ lo) : PointsAt packet lo' hi result found := by
  cases found with
  | none => exact h
  | some e =>
      obtain ⟨span, hres, hholds⟩ := h
      exact ⟨span, hres, ⟨hholds.size, hholds.bytes, hlo.trans hholds.lower, hholds.upper⟩⟩

/-- The lookup agrees with the walk: it points at the first element with the id. -/
theorem findElement_of_walk {next : ElementReader} (sound : next.Sound)
    (extensionId : UInt8) {fuel : ℕ} {payload : List UInt8}
    {elements : List ParsedHeaderExtension} (h : walk next fuel payload = .ok elements)
    (before after : List UInt8) :
    PointsAt (before ++ payload ++ after) before.length (before.length + payload.length)
      (findElement next extensionId (before.length + payload.length) fuel payload)
      (elements.find? fun e => decide (e.id = extensionId)) := by
  induction fuel generalizing payload elements before with
  | zero =>
      cases payload with
      | nil =>
          simp only [walk, Except.ok.injEq] at h
          subst h
          rfl
      | cons header rest =>
          simp only [walk, Except.ok.injEq] at h
          subst h
          rfl
  | succ fuel ih =>
      cases payload with
      | nil =>
          simp only [walk, Except.ok.injEq] at h
          subst h
          rfl
      | cons header rest =>
          simp only [walk, findElement] at h ⊢
          cases hnext : next header rest with
          | error e => simp [hnext] at h
          | ok out =>
              obtain ⟨element, rest'⟩ := out
              cases element with
              | none =>
                  have hrest := sound.padding header rest rest' hnext
                  subst hrest
                  simp only [hnext] at h ⊢
                  have hstep := ih h (before ++ [header])
                  refine PointsAt.mono ?_ (Nat.le_add_right before.length 1)
                  simpa [Nat.add_assoc, Nat.add_comm, Nat.add_left_comm] using hstep
              | some element =>
                  obtain ⟨skipped, hrest⟩ := sound.element header rest element rest' hnext
                  simp only [hnext] at h ⊢
                  cases htail : walk next fuel rest' with
                  | error e => simp [htail, Except.map] at h
                  | ok tail =>
                      simp only [htail, Except.map, Except.ok.injEq] at h
                      subst h
                      by_cases hid : element.id = extensionId
                      · simp only [List.find?_cons, hid, decide_true, if_true]
                        refine ⟨_, rfl, rfl, ?_, ?_, ?_⟩
                        all_goals subst hrest
                        · have hoff : before.length +
                              (header :: (skipped ++ element.value ++ rest')).length -
                              rest'.length - element.value.length =
                              (before ++ header :: skipped).length := by
                            simp only [List.length_append, List.length_cons]
                            omega
                          rw [Span.bytes, hoff]
                          have hsplit :
                              before ++ header :: (skipped ++ element.value ++ rest') ++ after =
                              (before ++ header :: skipped) ++
                                (element.value ++ (rest' ++ after)) := by simp
                          rw [hsplit, List.drop_left, List.take_left]
                        · simp only [List.length_cons, List.length_append]
                          omega
                        · simp only [List.length_cons, List.length_append]
                          omega
                      · simp only [List.find?_cons, hid, decide_false, if_false]
                        have hstep := ih htail (before ++ header :: skipped ++ element.value)
                        subst hrest
                        have hle : before.length ≤ (before ++ header :: skipped ++ element.value).length := by
                          simp only [List.length_append]
                          omega
                        refine PointsAt.mono ?_ hle
                        simpa [Nat.add_assoc, Nat.add_comm, Nat.add_left_comm] using hstep

/-- A payload of encoded elements and trailing padding is read back. -/
theorem walk_encode {next : ElementReader} (encode : ParsedHeaderExtension → List UInt8)
    (hpad : ∀ rest, next 0 rest = .ok (none, rest)) (zeros : ℕ)
    {elements : List ParsedHeaderExtension}
    (hstep : ∀ e ∈ elements, ∃ header value, encode e = header :: value ∧
      ∀ rest, next header (value ++ rest) = .ok (some e, rest))
    {fuel : ℕ} (hfuel : (elements.flatMap encode).length + zeros ≤ fuel) :
    walk next fuel (elements.flatMap encode ++ List.replicate zeros 0) = .ok elements := by
  induction elements generalizing fuel with
  | nil =>
      simp only [List.flatMap_nil, List.nil_append, List.length_nil, Nat.zero_add] at hfuel ⊢
      induction zeros generalizing fuel with
      | zero => simp [walk]
      | succ zeros ih =>
          obtain ⟨fuel, rfl⟩ : ∃ f, fuel = f + 1 := ⟨fuel - 1, by omega⟩
          simp only [List.replicate_succ, walk, hpad]
          exact ih (by omega)
  | cons e es ih =>
      obtain ⟨header, value, henc, hread⟩ := hstep e List.mem_cons_self
      simp only [List.flatMap_cons, henc, List.cons_append, List.length_cons,
        List.length_append] at hfuel ⊢
      obtain ⟨fuel, rfl⟩ : ∃ f, fuel = f + 1 := ⟨fuel - 1, by omega⟩
      simp only [walk, List.append_assoc, hread]
      rw [ih (fun e he => hstep e (List.mem_cons_of_mem _ he)) (by omega)]
      rfl

end SimpleWebrtc.RtpHeaderExtension

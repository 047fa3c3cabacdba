import SimpleWebrtc.RtpPacket
import Mathlib.Data.List.Sort

/-!
# Header extensions of a rewritten packet

The mapping of one media section, the header extensions a rewritten packet
carries under it, and their serialization. The extensions copied from the
source come first, then the section's own MID and transport-wide sequence
number are added where their ids are still free.
-/
namespace SimpleWebrtc.RewrittenExtensions
open Library Library.Bytes RtpHeaderExtension RtpPacket

def kMidExtensionUri : Text := ascii "urn:ietf:params:rtp-hdrext:sdes:mid"
def kTransportWideCcExtensionUri : Text :=
  ascii "http://www.ietf.org/id/draft-holmer-rmcat-transport-wide-cc-extensions-01"
def kAbsoluteSendTimeExtensionUri : Text :=
  ascii "http://www.webrtc.org/experiments/rtp-hdrext/abs-send-time"
def kRidExtensionUri : Text := ascii "urn:ietf:params:rtp-hdrext:sdes:rtp-stream-id"
def kRepairedRidExtensionUri : Text :=
  ascii "urn:ietf:params:rtp-hdrext:sdes:repaired-rtp-stream-id"

structure PayloadTypeMapping where
  sourcePayloadType : UInt8 := 0
  targetPayloadType : UInt8 := 0
  clockRate : UInt32 := 0
  codecName : Text := []
  rtx : Bool := false
  nack : Bool := false
  sourceAssociatedPayloadType : UInt8 := 0
  targetAssociatedPayloadType : UInt8 := 0
deriving Repr, DecidableEq

structure HeaderExtensionMapping where
  sourceId : UInt8 := 0
  targetId : UInt8 := 0
  uri : Text
deriving Repr, DecidableEq

structure MediaMapping where
  kind : Text := []
  sourceMid : Text := []
  targetMid : Text := []
  targetSsrc : UInt32 := 0
  targetRtxSsrc : UInt32 := 0
  targetExtmapAllowMixed : Bool := false
  targetTransportCcExtensionId : UInt8 := 0
  payloadTypes : List PayloadTypeMapping := []
  headerExtensions : List HeaderExtensionMapping := []
deriving Repr, DecidableEq

def makeMediaError (targetMid message : Text) : Text :=
  ascii "whep rtp media mid " ++ targetMid ++ ascii " " ++ message

def headerExtensionRequiresRegeneration (uri : Text) : Bool :=
  decide (uri = kTransportWideCcExtensionUri) || decide (uri = kAbsoluteSendTimeExtensionUri) ||
    decide (uri = kRidExtensionUri) || decide (uri = kRepairedRidExtensionUri)

namespace MediaMapping

def findMidExtensionMapping (mapping : MediaMapping) : Option HeaderExtensionMapping :=
  mapping.headerExtensions.find? fun e => decide (e.uri = kMidExtensionUri)

def findPayloadTypeMapping (mapping : MediaMapping) (sourcePayloadType : UInt8) :
    Option PayloadTypeMapping :=
  mapping.payloadTypes.find? fun p => decide (p.sourcePayloadType = sourcePayloadType)

def findHeaderExtensionMapping (mapping : MediaMapping) (sourceId : UInt8) :
    Option HeaderExtensionMapping :=
  mapping.headerExtensions.find? fun e => decide (e.sourceId = sourceId)

end MediaMapping

/-- Whether a target id is taken by the extensions chosen so far. -/
def usedTargetId (extensions : List ParsedHeaderExtension) (id : UInt8) : Bool :=
  extensions.any fun e => decide (e.id = id)

/-- The value a source extension is carried over with. -/
def rewrittenValue (mapping : MediaMapping) (extensionMapping : HeaderExtensionMapping)
    (source : ParsedHeaderExtension) : List UInt8 :=
  if extensionMapping.uri = kMidExtensionUri then mapping.targetMid else source.value

/-- The source extensions which are carried over, after those in `rewritten`. -/
def copyExtensions (mapping : MediaMapping) (rewritten : List ParsedHeaderExtension) :
    List ParsedHeaderExtension → Except Text (List ParsedHeaderExtension)
  | [] => .ok rewritten
  | source :: sources =>
      match mapping.findHeaderExtensionMapping source.id with
      | none => copyExtensions mapping rewritten sources
      | some extensionMapping =>
          if extensionMapping.targetId = 0 then copyExtensions mapping rewritten sources
          else if headerExtensionRequiresRegeneration extensionMapping.uri then
            copyExtensions mapping rewritten sources
          else if usedTargetId rewritten extensionMapping.targetId then
            copyExtensions mapping rewritten sources
          else
            let target : ParsedHeaderExtension :=
              ⟨extensionMapping.targetId, rewrittenValue mapping extensionMapping source⟩
            if 255 < target.value.length then
              .error (makeMediaError mapping.targetMid
                (ascii "header extension value is too large"))
            else copyExtensions mapping (rewritten ++ [target]) sources

/-- The section's MID, where its id is free. Its length is not looked at here. -/
def addMid (mapping : MediaMapping) (extensions : List ParsedHeaderExtension) :
    List ParsedHeaderExtension :=
  match mapping.findMidExtensionMapping with
  | none => extensions
  | some midMapping =>
      if usedTargetId extensions midMapping.targetId then extensions
      else extensions ++ [⟨midMapping.targetId, mapping.targetMid⟩]

def addTransportCc (mapping : MediaMapping) (transportSequenceNumber : UInt16)
    (extensions : List ParsedHeaderExtension) : List ParsedHeaderExtension :=
  if mapping.targetTransportCcExtensionId ≠ 0 ∧
      usedTargetId extensions mapping.targetTransportCcExtensionId = false then
    extensions ++ [⟨mapping.targetTransportCcExtensionId, u16Bytes transportSequenceNumber⟩]
  else extensions

def sortById (extensions : List ParsedHeaderExtension) : List ParsedHeaderExtension :=
  extensions.insertionSort fun a b => a.id ≤ b.id

def rewriteHeaderExtensions (parsed : ParsedRtpPacket) (mapping : MediaMapping)
    (transportSequenceNumber : UInt16) : Except Text (List ParsedHeaderExtension) :=
  match copyExtensions mapping [] parsed.headerExtensions with
  | .error e => .error e
  | .ok copied =>
      .ok (sortById (addTransportCc mapping transportSequenceNumber (addMid mapping copied)))

def extensionsFitOneByteFormat (extensions : List ParsedHeaderExtension) : Bool :=
  extensions.all fun e =>
    !(decide (e.id = 0) || decide (kOneByteExtensionReservedId ≤ e.id)) &&
      !(e.value.isEmpty || decide (16 < e.value.length))

def encodeOneByte (e : ParsedHeaderExtension) : List UInt8 :=
  ((e.id <<< 4) ||| UInt8.ofNat (e.value.length - 1)) :: e.value

def encodeTwoByte (e : ParsedHeaderExtension) : List UInt8 :=
  e.id :: UInt8.ofNat e.value.length :: e.value

/-- Zero bytes up to the next multiple of four. -/
def padToWord (payload : List UInt8) : List UInt8 :=
  payload ++ List.replicate ((4 - payload.length % 4) % 4) 0

def buildHeaderExtensionBlock (extensions : List ParsedHeaderExtension)
    (targetExtmapAllowMixed : Bool) : Except Text (List UInt8) :=
  if extensions.isEmpty then .ok []
  else
    let useOneByteFormat := extensionsFitOneByteFormat extensions
    if useOneByteFormat = false ∧ targetExtmapAllowMixed = false then
      .error (ascii
        "whep rtp target header extensions require two-byte format without extmap-allow-mixed")
    else
      let encode := if useOneByteFormat then encodeOneByte else encodeTwoByte
      let payload := padToWord (extensions.flatMap encode)
      let lengthWords := payload.length / 4
      if 65535 < lengthWords then
        .error (ascii "whep rtp header extension block is too large")
      else
        let profile :=
          if useOneByteFormat then kOneByteExtensionProfile else kTwoByteExtensionProfileValue
        .ok (u16Bytes profile ++ u16Bytes (UInt16.ofNat lengthWords) ++ payload)

/-- Whether a source extension is carried over to a target id. -/
def carriesTo (mapping : MediaMapping) (targetId : UInt8) (source : ParsedHeaderExtension) : Bool :=
  match mapping.findHeaderExtensionMapping source.id with
  | none => false
  | some m => decide (m.targetId = targetId) && decide (m.targetId ≠ 0) &&
      !headerExtensionRequiresRegeneration m.uri

def carriedValue (mapping : MediaMapping) (source : ParsedHeaderExtension) : List UInt8 :=
  match mapping.findHeaderExtensionMapping source.id with
  | none => source.value
  | some m => rewrittenValue mapping m source

/-- The value at a target id before the transport-wide number is added: the first
source extension carried there, else the section's MID. -/
def plainValueAt (mapping : MediaMapping) (sources : List ParsedHeaderExtension)
    (targetId : UInt8) : Option (List UInt8) :=
  match sources.find? (carriesTo mapping targetId) with
  | some source => some (carriedValue mapping source)
  | none =>
      match mapping.findMidExtensionMapping with
      | some m => if m.targetId = targetId then some mapping.targetMid else none
      | none => none

/-- The value of the first extension with an id. -/
def valueAt (extensions : List ParsedHeaderExtension) (id : UInt8) : Option (List UInt8) :=
  (extensions.find? fun e => decide (e.id = id)).map ParsedHeaderExtension.value

theorem valueAt_eq_none {extensions : List ParsedHeaderExtension} {id : UInt8} :
    valueAt extensions id = none ↔ usedTargetId extensions id = false := by
  simp [valueAt, usedTargetId]

theorem valueAt_append (xs ys : List ParsedHeaderExtension) (id : UInt8) :
    valueAt (xs ++ ys) id = (valueAt xs id).or (valueAt ys id) := by
  simp only [valueAt, List.find?_append]
  cases xs.find? _ <;> rfl

theorem valueAt_singleton (id id' : UInt8) (value : List UInt8) :
    valueAt [⟨id, value⟩] id' = if id = id' then some value else none := by
  simp only [valueAt, List.find?_cons, List.find?_nil]
  split_ifs with h <;> simp [h]

/-- Extensions which a block of either format can hold, up to the length of a value. -/
structure Distinct (extensions : List ParsedHeaderExtension) : Prop where
  nodup : (extensions.map ParsedHeaderExtension.id).Nodup
  nonzero : ∀ e ∈ extensions, e.id ≠ 0

theorem Distinct.push {extensions : List ParsedHeaderExtension} (h : Distinct extensions)
    {id : UInt8} {value : List UInt8} (hfree : usedTargetId extensions id = false) (hid : id ≠ 0) :
    Distinct (extensions ++ [⟨id, value⟩]) where
  nodup := by
    have hnot : id ∉ extensions.map ParsedHeaderExtension.id := by
      intro hmem
      obtain ⟨e, he, rfl⟩ := List.mem_map.mp hmem
      simp only [usedTargetId, List.any_eq_false, decide_eq_true_eq] at hfree
      exact hfree e he rfl
    rw [List.map_append, List.nodup_append]
    refine ⟨h.nodup, List.nodup_singleton _, ?_⟩
    intro a ha b hb hab
    rw [List.map_singleton, List.mem_singleton] at hb
    rw [hab, hb] at ha
    exact hnot ha
  nonzero := by
    intro e he
    rcases List.mem_append.mp he with he | he
    · exact h.nonzero e he
    · rw [List.mem_singleton.mp he]
      exact hid

theorem Distinct.mem_iff {extensions : List ParsedHeaderExtension} (h : Distinct extensions)
    {id : UInt8} {value : List UInt8} :
    valueAt extensions id = some value ↔ ⟨id, value⟩ ∈ extensions := by
  have hnd := h.nodup
  clear h
  induction extensions with
  | nil => simp [valueAt]
  | cons e es ih =>
      rw [List.map_cons, List.nodup_cons] at hnd
      rw [← List.singleton_append, valueAt_append, List.mem_append, List.mem_singleton]
      obtain ⟨eid, evalue⟩ := e
      rw [valueAt_singleton]
      by_cases hid : eid = id
      · subst hid
        have hnot : (⟨eid, value⟩ : ParsedHeaderExtension) ∉ es :=
          fun hmem => hnd.1 (List.mem_map.mpr ⟨_, hmem, rfl⟩)
        simp [hnot, eq_comm]
      · have hne : (⟨id, value⟩ : ParsedHeaderExtension) ≠ ⟨eid, evalue⟩ := by
          intro h
          injection h with hid' _
          exact hid hid'.symm
        simp [hid, hne, ih hnd.2]

/-- What the copied extensions are: an entry which was there, else the first
source extension carried to the id. -/
theorem copyExtensions_valueAt {mapping : MediaMapping}
    {rewritten sources copied : List ParsedHeaderExtension}
    (h : copyExtensions mapping rewritten sources = .ok copied) (id : UInt8) :
    valueAt copied id = (valueAt rewritten id).or
      ((sources.find? (carriesTo mapping id)).map (carriedValue mapping)) := by
  induction sources generalizing rewritten with
  | nil =>
      simp only [copyExtensions, Except.ok.injEq] at h
      simp [h]
  | cons source sources ih =>
      rw [copyExtensions] at h
      cases hm : mapping.findHeaderExtensionMapping source.id with
      | none =>
          simp only [hm] at h
          have hnot : carriesTo mapping id source = false := by simp [carriesTo, hm]
          rw [ih h, List.find?_cons, hnot]
      | some m =>
          simp only [hm] at h
          by_cases hzero : m.targetId = 0
          · rw [if_pos hzero] at h
            have hnot : carriesTo mapping id source = false := by simp [carriesTo, hm, hzero]
            rw [ih h, List.find?_cons, hnot]
          · rw [if_neg hzero] at h
            by_cases hregen : headerExtensionRequiresRegeneration m.uri = true
            · rw [if_pos hregen] at h
              have hnot : carriesTo mapping id source = false := by simp [carriesTo, hm, hregen]
              rw [ih h, List.find?_cons, hnot]
            · rw [if_neg hregen] at h
              have hcarries : carriesTo mapping id source = decide (m.targetId = id) := by
                simp [carriesTo, hm, hzero, hregen]
              have hvalue : carriedValue mapping source = rewrittenValue mapping m source := by
                simp [carriedValue, hm]
              by_cases hused : usedTargetId rewritten m.targetId = true
              · rw [if_pos hused] at h
                rw [ih h, List.find?_cons, hcarries]
                by_cases hid : m.targetId = id
                · subst hid
                  cases hat : valueAt rewritten m.targetId with
                  | none => simp [valueAt_eq_none.mp hat] at hused
                  | some value => rfl
                · simp [hid]
              · rw [if_neg hused] at h
                split_ifs at h with hlong
                rw [ih h, valueAt_append, valueAt_singleton, List.find?_cons, hcarries, ← hvalue]
                by_cases hid : m.targetId = id
                · subst hid
                  have hnone : valueAt rewritten m.targetId = none :=
                    valueAt_eq_none.mpr (by simpa using hused)
                  simp [hnone]
                · simp [hid]

theorem copyExtensions_distinct {mapping : MediaMapping}
    {rewritten sources copied : List ParsedHeaderExtension}
    (h : copyExtensions mapping rewritten sources = .ok copied) (hd : Distinct rewritten)
    (hshort : ∀ e ∈ rewritten, e.value.length ≤ 255) :
    Distinct copied ∧ ∀ e ∈ copied, e.value.length ≤ 255 := by
  induction sources generalizing rewritten with
  | nil =>
      simp only [copyExtensions, Except.ok.injEq] at h
      exact h ▸ ⟨hd, hshort⟩
  | cons source sources ih =>
      rw [copyExtensions] at h
      cases hm : mapping.findHeaderExtensionMapping source.id with
      | none =>
          simp only [hm] at h
          exact ih h hd hshort
      | some m =>
          simp only [hm] at h
          split_ifs at h with hzero hregen hused hlong
          · exact ih h hd hshort
          · exact ih h hd hshort
          · exact ih h hd hshort
          · refine ih h (hd.push (by simpa using hused) hzero) ?_
            intro e he
            rcases List.mem_append.mp he with he | he
            · exact hshort e he
            · rw [List.mem_singleton.mp he]
              exact Nat.le_of_not_lt hlong

theorem addMid_valueAt {mapping : MediaMapping} {sources copied : List ParsedHeaderExtension}
    (h : copyExtensions mapping [] sources = .ok copied) (id : UInt8) :
    valueAt (addMid mapping copied) id = plainValueAt mapping sources id := by
  have hcopied := fun id => copyExtensions_valueAt h id
  have hnil : ∀ id, valueAt [] id = none := fun _ => rfl
  simp only [hnil, Option.none_or] at hcopied
  unfold addMid plainValueAt
  cases hmid : mapping.findMidExtensionMapping with
  | none =>
      rw [hcopied id]
      cases sources.find? (carriesTo mapping id) <;> rfl
  | some m =>
      by_cases hused : usedTargetId copied m.targetId = true
      · simp only [hused, if_true, hcopied id]
        cases hs : sources.find? (carriesTo mapping id) with
        | some source => rfl
        | none =>
            have hne : m.targetId ≠ id := by
              rintro rfl
              have hnone : valueAt copied m.targetId = none := by rw [hcopied, hs]; rfl
              rw [valueAt_eq_none.mp hnone] at hused
              cases hused
            simp [hne]
      · simp only [hused, Bool.false_eq_true, if_false]
        rw [valueAt_append, valueAt_singleton, hcopied id]
        cases hs : sources.find? (carriesTo mapping id) <;> simp

/-- A well-formed mapping of the MID never names the padding id. -/
def MidIdNonzero (mapping : MediaMapping) : Prop :=
  ∀ m ∈ mapping.findMidExtensionMapping, m.targetId ≠ 0

theorem addMid_distinct {mapping : MediaMapping} {extensions : List ParsedHeaderExtension}
    (hmid : MidIdNonzero mapping) (h : Distinct extensions) :
    Distinct (addMid mapping extensions) := by
  unfold addMid
  cases hm : mapping.findMidExtensionMapping with
  | none => exact h
  | some m =>
      by_cases hused : usedTargetId extensions m.targetId = true
      · simpa [hused] using h
      · simp only [hused, Bool.false_eq_true, if_false]
        exact h.push (by simpa using hused) (hmid m hm)

theorem addTransportCc_distinct (mapping : MediaMapping) (transportSequenceNumber : UInt16)
    {extensions : List ParsedHeaderExtension} (h : Distinct extensions) :
    Distinct (addTransportCc mapping transportSequenceNumber extensions) := by
  unfold addTransportCc
  split_ifs with hcc
  · exact h.push hcc.2 hcc.1
  · exact h

theorem addTransportCc_valueAt (mapping : MediaMapping) (transportSequenceNumber : UInt16)
    (extensions : List ParsedHeaderExtension) (id : UInt8) :
    valueAt (addTransportCc mapping transportSequenceNumber extensions) id =
      (valueAt extensions id).or
        (if mapping.targetTransportCcExtensionId ≠ 0 ∧
            mapping.targetTransportCcExtensionId = id then
          some (u16Bytes transportSequenceNumber) else none) := by
  unfold addTransportCc
  by_cases hid : mapping.targetTransportCcExtensionId = id
  · subst hid
    cases hat : valueAt extensions mapping.targetTransportCcExtensionId with
    | none =>
        by_cases hzero : mapping.targetTransportCcExtensionId = 0
        · simp [hzero, ← hat]
        · simp [valueAt_eq_none.mp hat, hzero, valueAt_append, hat, valueAt_singleton]
    | some value =>
        have hused : ¬usedTargetId extensions mapping.targetTransportCcExtensionId = false := by
          rw [← valueAt_eq_none, hat]
          exact Option.some_ne_none value
        simp [hused, hat]
  · split_ifs <;> simp_all [valueAt_append, valueAt_singleton]

theorem sortById_perm (extensions : List ParsedHeaderExtension) :
    (sortById extensions).Perm extensions := List.perm_insertionSort _ _

theorem Distinct.sortById {extensions : List ParsedHeaderExtension} (h : Distinct extensions) :
    Distinct (sortById extensions) where
  nodup := ((sortById_perm extensions).map _).nodup_iff.mpr h.nodup
  nonzero e he := h.nonzero e ((sortById_perm extensions).mem_iff.mp he)

theorem Distinct.sortById_valueAt {extensions : List ParsedHeaderExtension}
    (h : Distinct extensions) (id : UInt8) :
    valueAt (RewrittenExtensions.sortById extensions) id = valueAt extensions id := by
  ext value
  rw [h.mem_iff, h.sortById.mem_iff, (sortById_perm extensions).mem_iff]

/-- What the header extensions of a rewritten packet are. -/
theorem rewriteHeaderExtensions_spec {parsed : ParsedRtpPacket} {mapping : MediaMapping}
    {transportSequenceNumber : UInt16} {extensions : List ParsedHeaderExtension}
    (hmid : MidIdNonzero mapping)
    (h : rewriteHeaderExtensions parsed mapping transportSequenceNumber = .ok extensions) :
    Distinct extensions ∧ ∀ id, valueAt extensions id =
      (plainValueAt mapping parsed.headerExtensions id).or
        (if mapping.targetTransportCcExtensionId ≠ 0 ∧
            mapping.targetTransportCcExtensionId = id then
          some (u16Bytes transportSequenceNumber) else none) := by
  unfold rewriteHeaderExtensions at h
  cases hcopy : copyExtensions mapping [] parsed.headerExtensions with
  | error e => simp [hcopy] at h
  | ok copied =>
      simp only [hcopy, Except.ok.injEq] at h
      have hempty : Distinct [] := ⟨List.nodup_nil, by simp⟩
      have hcopied := (copyExtensions_distinct hcopy hempty (by simp)).1
      have hadded := addTransportCc_distinct mapping transportSequenceNumber
        (addMid_distinct hmid hcopied)
      rw [← h]
      refine ⟨hadded.sortById, fun id => ?_⟩
      rw [hadded.sortById_valueAt, addTransportCc_valueAt, addMid_valueAt hcopy]

/-- The MID is added with more bytes than the length byte of an element can count. -/
def MidOverflows (mapping : MediaMapping) (sources : List ParsedHeaderExtension) : Prop :=
  255 < mapping.targetMid.length ∧ ∃ m, mapping.findMidExtensionMapping = some m ∧
    ∀ source ∈ sources, carriesTo mapping m.targetId source = false

theorem rewriteHeaderExtensions_short_iff {parsed : ParsedRtpPacket} {mapping : MediaMapping}
    {transportSequenceNumber : UInt16} {extensions : List ParsedHeaderExtension}
    (h : rewriteHeaderExtensions parsed mapping transportSequenceNumber = .ok extensions) :
    (∀ e ∈ extensions, e.value.length ≤ 255) ↔
      ¬MidOverflows mapping parsed.headerExtensions := by
  unfold rewriteHeaderExtensions at h
  cases hcopy : copyExtensions mapping [] parsed.headerExtensions with
  | error e => simp [hcopy] at h
  | ok copied =>
      simp only [hcopy, Except.ok.injEq] at h
      have hempty : Distinct [] := ⟨List.nodup_nil, by simp⟩
      have hshort := (copyExtensions_distinct hcopy hempty (by simp)).2
      have hmem : ∀ e, e ∈ extensions ↔ e ∈ addTransportCc mapping transportSequenceNumber
          (addMid mapping copied) := by
        intro e
        rw [← h]
        exact (sortById_perm _).mem_iff
      have hcc : (∀ e ∈ extensions, e.value.length ≤ 255) ↔
          ∀ e ∈ addMid mapping copied, e.value.length ≤ 255 := by
        simp only [hmem, addTransportCc]
        split_ifs
        · simp [List.mem_append, or_imp, forall_and]
        · exact Iff.rfl
      rw [hcc]
      have hused : ∀ id, usedTargetId copied id = false ↔
          ∀ source ∈ parsed.headerExtensions, carriesTo mapping id source = false := by
        intro id
        have hnil : valueAt [] id = none := rfl
        rw [← valueAt_eq_none, copyExtensions_valueAt hcopy id, hnil, Option.none_or]
        simp
      unfold addMid MidOverflows
      cases hm : mapping.findMidExtensionMapping with
      | none => simpa using hshort
      | some m =>
          simp only [Option.some.injEq, exists_eq_left', ← hused]
          cases hfree : usedTargetId copied m.targetId with
          | true => simpa using hshort
          | false =>
              simp only [Bool.false_eq_true, if_false, List.mem_append, List.mem_singleton]
              constructor
              · intro hall hover
                exact absurd (hall ⟨m.targetId, mapping.targetMid⟩ (Or.inr rfl))
                  (Nat.not_le_of_lt hover.1)
              · intro hnot e he
                rcases he with he | rfl
                · exact hshort e he
                · exact Nat.le_of_not_lt fun hlt => hnot ⟨hlt, trivial⟩

/-- One element of the one-byte format is read back. -/
theorem oneByteElement_encode {e : ParsedHeaderExtension} (hid : e.id ≠ 0)
    (hlt : e.id < kOneByteExtensionReservedId) (hpos : 0 < e.value.length)
    (hle : e.value.length ≤ 16) (rest : List UInt8) :
    oneByteElement ((e.id <<< 4) ||| UInt8.ofNat (e.value.length - 1)) (e.value ++ rest) =
      .ok (some e, rest) := by
  obtain ⟨id, value⟩ := e
  simp only at hid hlt hpos hle ⊢
  have table : ∀ i < 15, ∀ l < 16, i ≠ 0 →
      ((UInt8.ofNat i <<< 4) ||| UInt8.ofNat l) ≠ 0 ∧
      ((UInt8.ofNat i <<< 4) ||| UInt8.ofNat l) >>> 4 = UInt8.ofNat i ∧
      (((UInt8.ofNat i <<< 4) ||| UInt8.ofNat l) &&& 0x0F).toNat = l := by decide +kernel
  have hidlt : id.toNat < 15 := hlt
  have hidne : id.toNat ≠ 0 := fun h => hid (UInt8.toNat_inj.mp h)
  have hrow := table id.toNat hidlt (value.length - 1) (by omega) hidne
  rw [UInt8.ofNat_toNat] at hrow
  obtain ⟨hne, hshift, hsize⟩ := hrow
  have hreserved : id ≠ kOneByteExtensionReservedId := fun h => by
    rw [h] at hidlt
    exact absurd hidlt (by decide)
  have hlen : value.length - 1 + 1 = value.length := by omega
  have hfit : ¬(value ++ rest).length < value.length := by
    rw [List.length_append]
    omega
  simp only [oneByteElement, if_neg hne, hshift, if_neg hreserved, hsize, hlen, if_neg hfit,
    List.take_left, List.drop_left]

/-- One element of the two-byte format is read back. -/
theorem twoByteElement_encode {e : ParsedHeaderExtension} (hid : e.id ≠ 0)
    (hle : e.value.length ≤ 255) (rest : List UInt8) :
    twoByteElement e.id (UInt8.ofNat e.value.length :: e.value ++ rest) = .ok (some e, rest) := by
  have hsize : (UInt8.ofNat e.value.length).toNat = e.value.length := by
    rw [UInt8.toNat_ofNat']
    omega
  have hfit : ¬(e.value ++ rest).length < e.value.length := by
    rw [List.length_append]
    omega
  simp only [twoByteElement, if_neg hid, List.cons_append, hsize, if_neg hfit, List.take_left,
    List.drop_left]

theorem padToWord_length (payload : List UInt8) :
    (padToWord payload).length = 4 * ((padToWord payload).length / 4) := by
  rw [padToWord, List.length_append, List.length_replicate]
  omega

/-- A payload behind its header word has the length the word announces. -/
theorem extensionBlock_length (profile : UInt16) {payload : List UInt8}
    (hlarge : ¬65535 < (padToWord payload).length / 4) :
    let block := u16Bytes profile ++ u16Bytes (UInt16.ofNat ((padToWord payload).length / 4)) ++
      padToWord payload
    block.length = kRtpExtensionHeaderSize + (readU16 block 2).toNat * 4 := by
  have hword := padToWord_length payload
  have hsize : (UInt16.ofNat ((padToWord payload).length / 4)).toNat =
      (padToWord payload).length / 4 := by
    rw [UInt16.toNat_ofNat']
    omega
  have hwordsAt : readU16 (u16Bytes profile ++
      u16Bytes (UInt16.ofNat ((padToWord payload).length / 4)) ++ padToWord payload) 2 =
      UInt16.ofNat ((padToWord payload).length / 4) := by
    have hright := readU16_append_right (u16Bytes profile)
      (u16Bytes (UInt16.ofNat ((padToWord payload).length / 4)) ++ padToWord payload) 0
    rw [u16Bytes_length, Nat.add_zero] at hright
    rw [List.append_assoc, hright, readU16_u16Bytes]
  simp only [hwordsAt, hsize, List.length_append, u16Bytes_length, kRtpExtensionHeaderSize]
  omega

/-- A payload behind its header word is an extension block. -/
theorem extensionBlock_of_payload (profile : UInt16) {next : ElementReader}
    {payload : List UInt8} {elements : List ParsedHeaderExtension}
    (hprofile : profileReader profile = some next)
    (hlarge : ¬65535 < (padToWord payload).length / 4)
    (hread : ∀ fuel, payload.length + (4 - payload.length % 4) % 4 ≤ fuel →
      walk next fuel (padToWord payload) = .ok elements) :
    ExtensionBlock (u16Bytes profile ++ u16Bytes (UInt16.ofNat ((padToWord payload).length / 4)) ++
      padToWord payload) elements := by
  have hprofileAt : readU16 (u16Bytes profile ++
      u16Bytes (UInt16.ofNat ((padToWord payload).length / 4)) ++ padToWord payload) 0 = profile := by
    rw [List.append_assoc, readU16_u16Bytes]
  have hdrop : (u16Bytes profile ++ u16Bytes (UInt16.ofNat ((padToWord payload).length / 4)) ++
      padToWord payload).drop 4 = padToWord payload := rfl
  refine ⟨extensionBlock_length profile hlarge, next, ?_, ?_⟩
  · rw [hprofileAt, hprofile]
  · rw [hdrop]
    refine hread _ ?_
    rw [padToWord, List.length_append, List.length_replicate]

/-- The block which is built has the length it announces. -/
theorem buildHeaderExtensionBlock_length {extensions : List ParsedHeaderExtension}
    {targetExtmapAllowMixed : Bool} {block : List UInt8}
    (h : buildHeaderExtensionBlock extensions targetExtmapAllowMixed = .ok block) :
    block = [] ∨ block.length = kRtpExtensionHeaderSize + (readU16 block 2).toNat * 4 := by
  unfold buildHeaderExtensionBlock at h
  by_cases hnil : extensions.isEmpty = true
  · rw [if_pos hnil] at h
    exact Or.inl (Except.ok.inj h).symm
  · right
    rw [if_neg hnil] at h
    simp only at h
    split_ifs at h with hmixed hone hlarge hlarge
    all_goals
      rw [Except.ok.injEq] at h
      subst h
      exact extensionBlock_length _ hlarge

/-- The block which is built is read back as the extensions it was built from. -/
theorem buildHeaderExtensionBlock_spec {extensions : List ParsedHeaderExtension}
    {targetExtmapAllowMixed : Bool} {block : List UInt8}
    (h : buildHeaderExtensionBlock extensions targetExtmapAllowMixed = .ok block)
    (hid : ∀ e ∈ extensions, e.id ≠ 0) (hshort : ∀ e ∈ extensions, e.value.length ≤ 255)
    (hne : extensions ≠ []) : ExtensionBlock block extensions := by
  unfold buildHeaderExtensionBlock at h
  rw [if_neg (by simpa using hne)] at h
  simp only at h
  split_ifs at h with hmixed hone hlarge hlarge
  all_goals
    rw [Except.ok.injEq] at h
    subst h
  · exact extensionBlock_of_payload kOneByteExtensionProfile rfl hlarge fun fuel hfuel => by
      refine walk_encode encodeOneByte (fun _ => rfl) _ ?_ hfuel
      intro e he
      have hfit := List.all_eq_true.mp hone e he
      simp only [Bool.and_eq_true, Bool.not_eq_true', Bool.or_eq_false_iff,
        decide_eq_false_iff_not, List.isEmpty_eq_false_iff] at hfit
      obtain ⟨⟨_, hres⟩, hnil, hle⟩ := hfit
      exact ⟨_, _, rfl, fun rest => oneByteElement_encode (hid e he) (by simpa using hres)
        (List.length_pos_iff.mpr hnil) (Nat.le_of_not_lt hle) rest⟩
  · exact extensionBlock_of_payload kTwoByteExtensionProfileValue rfl hlarge fun fuel hfuel => by
      refine walk_encode encodeTwoByte (fun _ => rfl) _ ?_ hfuel
      intro e he
      exact ⟨_, _, rfl, fun rest => twoByteElement_encode (hid e he) (hshort e he) rest⟩

end SimpleWebrtc.RewrittenExtensions

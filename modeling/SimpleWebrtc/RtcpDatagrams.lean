import SimpleWebrtc.Library.PairedLists
import SimpleWebrtc.RtcpRoundTrip

/-!
# RTCP datagrams read back

A datagram is described by the packets its sender asked for, each with the
data given to its builder. Whatever the three datagram builders send, the
compound parser cuts at the same places, and it reports the data of every
packet in the order of the packets.
-/
namespace SimpleWebrtc.RtcpDatagrams
open Library Library.Bytes RtcpReport RtcpFeedback RtcpCompoundPacket RtcpPacketBuilder
open RtcpRoundTrip

/-- A packet of one of the six builders, as the data it is built from. -/
inductive RtcpMember where
  | senderReport (report : RtcpSenderReportData)
  | receiverReport (report : RtcpReceiverReportData)
  | sdesCname (ssrc : UInt32) (cname : Text)
  | pictureLossIndication (senderSsrc mediaSsrc : UInt32)
  | fullIntraRequest (senderSsrc : UInt32) (requests : List RtcpFirRequest)
  | bye (ssrcs : List UInt32) (reason : Text)

namespace RtcpMember

def build : RtcpMember → Except String (List UInt8)
  | senderReport report => buildRtcpSenderReport report
  | receiverReport report => buildRtcpReceiverReport report
  | sdesCname ssrc cname => buildRtcpSdesCname ssrc cname
  | pictureLossIndication senderSsrc mediaSsrc =>
      buildRtcpPictureLossIndication senderSsrc mediaSsrc
  | fullIntraRequest senderSsrc requests => buildRtcpFullIntraRequest senderSsrc requests
  | bye ssrcs reason => buildRtcpBye ssrcs reason

def packetType : RtcpMember → UInt8
  | senderReport _ => 200
  | receiverReport _ => 201
  | sdesCname _ _ => 202
  | pictureLossIndication _ _ => 206
  | fullIntraRequest _ _ => 206
  | bye _ _ => 203

def typeName : RtcpMember → String
  | senderReport _ => "sr"
  | receiverReport _ => "rr"
  | sdesCname _ _ => "sdes"
  | pictureLossIndication _ _ => "psfb"
  | fullIntraRequest _ _ => "psfb"
  | bye _ _ => "bye"

/-- The five-bit field: a number of entries, or the format of a feedback packet. -/
def count : RtcpMember → UInt8
  | senderReport report => UInt8.ofNat report.reportBlocks.length
  | receiverReport report => UInt8.ofNat report.reportBlocks.length
  | sdesCname _ _ => 1
  | pictureLossIndication _ _ => 1
  | fullIntraRequest _ _ => 4
  | bye ssrcs _ => UInt8.ofNat ssrcs.length

def ssrc : RtcpMember → UInt32
  | senderReport report => report.senderSsrc
  | receiverReport report => report.senderSsrc
  | sdesCname ssrc _ => ssrc
  | pictureLossIndication senderSsrc _ => senderSsrc
  | fullIntraRequest senderSsrc _ => senderSsrc
  | bye ssrcs _ => ssrcs.headD 0

def packetSize : RtcpMember → ℕ
  | senderReport report => 28 + report.reportBlocks.length * 24
  | receiverReport report => 8 + report.reportBlocks.length * 24
  | sdesCname _ cname => alignedSize (11 + cname.length)
  | pictureLossIndication _ _ => 12
  | fullIntraRequest _ requests => 12 + requests.length * 8
  | bye ssrcs reason => alignedSize (4 + ssrcs.length * 4 + (reasonBytes reason).length)

def reportPackets : RtcpMember → List RtcpReportPacket
  | senderReport report =>
      [⟨200, report.senderSsrc, some (senderInfoOf report), report.reportBlocks⟩]
  | receiverReport report => [⟨201, report.senderSsrc, none, report.reportBlocks⟩]
  | _ => []

def sdesChunks : RtcpMember → List RtcpSdesChunk
  | sdesCname ssrc cname => [⟨ssrc, cname, [⟨1, cname⟩]⟩]
  | _ => []

/-- The media sources a packet asks a key frame of, in order. -/
def keyframeRequests : RtcpMember → List UInt32
  | pictureLossIndication _ mediaSsrc => [mediaSsrc]
  | fullIntraRequest _ requests => requests.map RtcpFirRequest.mediaSsrc
  | _ => []

def firEntries : RtcpMember → List RtcpFirEntry
  | fullIntraRequest _ requests => requests.map firEntryOf
  | _ => []

def byePackets : RtcpMember → List RtcpByePacket
  | bye ssrcs reason => [⟨ssrcs, reason⟩]
  | _ => []

def requestsKeyframe : RtcpMember → Bool
  | pictureLossIndication _ _ => true
  | fullIntraRequest _ _ => true
  | _ => false

def header (member : RtcpMember) : RtcpCompoundBlock where
  count := member.count
  packetType := member.packetType
  length := UInt16.ofNat (member.packetSize / 4 - 1)
  hasSsrc := true
  ssrc := member.ssrc
  packetTypeName := member.typeName

/-- The block a packet is reported as. -/
def block (member : RtcpMember) : RtcpCompoundBlock :=
  match member with
  | senderReport _ => { member.header with isReport := true }
  | receiverReport _ => { member.header with isReport := true }
  | sdesCname _ _ => { member.header with isSdes := true }
  | bye _ _ => { member.header with isBye := true }
  | pictureLossIndication senderSsrc mediaSsrc =>
      { member.header with
        isFeedback := true
        feedbackName := "pli"
        feedbackSenderSsrc := senderSsrc
        feedbackMediaSsrc := mediaSsrc
        hasKeyframeRequest := true
        keyframeRequestMediaSsrcs := member.keyframeRequests }
  | fullIntraRequest senderSsrc requests =>
      { member.header with
        isFeedback := true
        feedbackName := "fir"
        feedbackSenderSsrc := senderSsrc
        firCount := requests.length
        hasKeyframeRequest := true
        keyframeRequestMediaSsrcs := member.keyframeRequests
        firEntries := member.firEntries }

end RtcpMember

/-- What a parsed datagram reports about the packets it is made of. -/
structure Collected (members : List RtcpMember) (packet : RtcpCompoundPacket) : Prop where
  blocks : packet.blocks = members.map RtcpMember.block
  reportPackets : packet.reportPackets = members.flatMap RtcpMember.reportPackets
  sdesChunks : packet.sdesChunks = members.flatMap RtcpMember.sdesChunks
  firEntries : packet.firEntries = members.flatMap RtcpMember.firEntries
  byePackets : packet.byePackets = members.flatMap RtcpMember.byePackets
  hasKeyframeRequest : packet.hasKeyframeRequest = members.any RtcpMember.requestsKeyframe
  keyframeRequests : packet.keyframeRequestMediaSsrcs =
    (members.flatMap RtcpMember.keyframeRequests).eraseDups

/-- Sources which are known already are not added again. -/
theorem addKeyframeRequests_eraseDups (known requested : List UInt32) :
    addKeyframeRequests known.eraseDups requested = (known ++ requested).eraseDups := by
  induction requested generalizing known with
  | nil => rw [List.append_nil, addKeyframeRequests, List.foldl_nil]
  | cons ssrc requested ih =>
      have hsnoc : (known ++ [ssrc]).eraseDups =
          if ssrc ∈ known.eraseDups then known.eraseDups else known.eraseDups ++ [ssrc] := by
        rw [List.eraseDups_append]
        by_cases hmem : ssrc ∈ known
        · rw [if_pos (List.mem_eraseDups.mpr hmem)]
          simp [List.removeAll, hmem]
        · rw [if_neg fun h => hmem (List.mem_eraseDups.mp h)]
          simp [List.removeAll, hmem, List.eraseDups_cons]
      have hstep : addKeyframeRequests known.eraseDups (ssrc :: requested) =
          addKeyframeRequests (known ++ [ssrc]).eraseDups requested := by
        rw [hsnoc]
        rfl
      rw [hstep, ih, List.append_assoc, List.singleton_append]

theorem build_written {member : RtcpMember} {packet : List UInt8}
    (h : member.build = .ok packet) :
    (∃ body, WrittenPacket member.count member.packetType member.ssrc body packet) ∧
      packet.length = member.packetSize := by
  cases member with
  | senderReport report =>
      have hwritten := (buildRtcpSenderReport_written h).2
      apply And.intro ⟨_, hwritten⟩
      rw [hwritten.length, List.length_append, reportBlocks_length]
      exact (Nat.add_assoc 8 20 _).symm
  | receiverReport report =>
      have hwritten := (buildRtcpReceiverReport_written h).2
      apply And.intro ⟨_, hwritten⟩
      rw [hwritten.length, reportBlocks_length]
      rfl
  | sdesCname ssrc cname =>
      have hwritten := (buildRtcpSdesCname_written h).2
      apply And.intro ⟨_, hwritten⟩
      simp only [hwritten.length, sdesBody, List.length_cons, List.length_append,
        List.length_replicate, alignedSize, RtcpMember.packetSize]
      omega
  | pictureLossIndication senderSsrc mediaSsrc =>
      have hwritten := (buildRtcpPictureLossIndication_written h).2
      exact ⟨⟨_, hwritten⟩, hwritten.length⟩
  | fullIntraRequest senderSsrc requests =>
      have hwritten := (buildRtcpFullIntraRequest_written h).2
      apply And.intro ⟨_, hwritten⟩
      rw [hwritten.length, List.length_append, Library.RecordRows.row_length firEntryBytes_length]
      exact (Nat.add_assoc 8 4 _).symm
  | bye ssrcs reason =>
      obtain ⟨_, _, hfront, hwritten⟩ := buildRtcpBye_written h
      obtain ⟨front, hfour, hpacket⟩ := hfront
      apply And.intro ⟨_, hwritten⟩
      have hrow : (ssrcs.flatMap u32Bytes).length = ssrcs.length * 4 :=
        Library.RecordRows.row_length u32Bytes_length ssrcs
      simp only [hpacket, List.length_append, hfour, hrow, byeTail, List.length_replicate,
        alignedSize, RtcpMember.packetSize]
      omega

theorem isRtcpFeedbackPacket_written {count packetType : UInt8} {ssrc : UInt32}
    {body packet : List UInt8} (h : WrittenPacket count packetType ssrc body packet) :
    isRtcpFeedbackPacket packet = isFeedbackPacketType packetType := by
  rw [isRtcpFeedbackPacket, h.header_read.parsed]
  rfl

theorem isRtcpReportPacket_written {count packetType : UInt8} {ssrc : UInt32}
    {body packet : List UInt8} (h : WrittenPacket count packetType ssrc body packet) :
    isRtcpReportPacket packet = isReportPacketType packetType := by
  rw [isRtcpReportPacket, h.header_read.parsed]
  rfl

theorem makeBlockFromHeader_member {member : RtcpMember} {packet : List UInt8}
    (h : member.build = .ok packet) :
    makeBlockFromHeader (headerOf member.count member.packetType member.ssrc packet.length) =
      member.header := by
  rw [(build_written h).2]
  cases member <;> rfl

/-- A packet collected behind those which are known already. -/
def addMember (known : RtcpCompoundPacket) (member : RtcpMember) : RtcpCompoundPacket :=
  match member with
  | .senderReport report =>
      { aggregateReportPacket ⟨200, report.senderSsrc, some (senderInfoOf report),
          report.reportBlocks⟩ known with
        blocks := known.blocks ++ [member.block] }
  | .receiverReport report =>
      { aggregateReportPacket ⟨201, report.senderSsrc, none, report.reportBlocks⟩ known with
        blocks := known.blocks ++ [member.block] }
  | .sdesCname _ _ =>
      { known with
        sdesPacketCount := known.sdesPacketCount + 1
        sdesChunks := known.sdesChunks ++ member.sdesChunks
        blocks := known.blocks ++ [member.block] }
  | .bye _ _ =>
      { known with
        hasBye := true
        byePackets := known.byePackets ++ member.byePackets
        blocks := known.blocks ++ [member.block] }
  | .pictureLossIndication _ _ =>
      { aggregateFeedbackBlock member.block known with blocks := known.blocks ++ [member.block] }
  | .fullIntraRequest _ _ =>
      { aggregateFeedbackBlock member.block known with blocks := known.blocks ++ [member.block] }

theorem parseCompoundBlock_member {member : RtcpMember} {packet : List UInt8}
    (h : member.build = .ok packet) (known : RtcpCompoundPacket) :
    parseCompoundBlock (headerOf member.count member.packetType member.ssrc packet.length) packet
      known = .ok (addMember known member) := by
  obtain ⟨⟨body, hwritten⟩, _⟩ := build_written h
  have hblock := makeBlockFromHeader_member h
  have hfeedback := isRtcpFeedbackPacket_written hwritten
  have hreport := isRtcpReportPacket_written hwritten
  have htype : (headerOf member.count member.packetType member.ssrc packet.length).packetType =
      member.packetType := rfl
  rw [parseCompoundBlock, hblock, htype]
  cases member with
  | senderReport report =>
      have hnot : isRtcpFeedbackPacket packet = false := hfeedback
      have his : isRtcpReportPacket packet = true := hreport
      rw [hnot, his, parseRtcpReportPacket_sender h]
      rfl
  | receiverReport report =>
      have hnot : isRtcpFeedbackPacket packet = false := hfeedback
      have his : isRtcpReportPacket packet = true := hreport
      rw [hnot, his, parseRtcpReportPacket_receiver h]
      rfl
  | sdesCname ssrc cname =>
      have hnot : isRtcpFeedbackPacket packet = false := hfeedback
      have hno : isRtcpReportPacket packet = false := hreport
      rw [hnot, hno, parseRtcpSdesPacket_written h]
      rfl
  | pictureLossIndication senderSsrc mediaSsrc =>
      have his : isRtcpFeedbackPacket packet = true := hfeedback
      rw [his, parseRtcpFeedbackPacket_pli h]
      rfl
  | fullIntraRequest senderSsrc requests =>
      have his : isRtcpFeedbackPacket packet = true := hfeedback
      rw [his, parseRtcpFeedbackPacket_fir h]
      rfl
  | bye ssrcs reason =>
      have hnot : isRtcpFeedbackPacket packet = false := hfeedback
      have hno : isRtcpReportPacket packet = false := hreport
      rw [hnot, hno, parseRtcpByePacket_written h]
      rfl

/-- Reading one packet adds its data behind what is collected already. -/
theorem collected_addMember {before : List RtcpMember} {known : RtcpCompoundPacket}
    (hknown : Collected before known) (member : RtcpMember) :
    Collected (before ++ [member]) (addMember known member) := by
  have hadd := addKeyframeRequests_eraseDups (before.flatMap RtcpMember.keyframeRequests)
    member.keyframeRequests
  rw [← hknown.keyframeRequests] at hadd
  constructor
  · rw [List.map_append, ← hknown.blocks]
    cases member <;> rfl
  · rw [List.flatMap_append, ← hknown.reportPackets, List.flatMap_singleton]
    cases member <;> simp [addMember, aggregateReportPacket, aggregateFeedbackBlock,
      RtcpMember.reportPackets, RtcpMember.block]
  · rw [List.flatMap_append, ← hknown.sdesChunks, List.flatMap_singleton]
    cases member <;> simp [addMember, aggregateReportPacket, aggregateFeedbackBlock,
      RtcpMember.sdesChunks, RtcpMember.block]
  · rw [List.flatMap_append, ← hknown.firEntries, List.flatMap_singleton]
    cases member <;> simp [addMember, aggregateReportPacket, aggregateFeedbackBlock,
      RtcpMember.firEntries, RtcpMember.block, RtcpMember.header]
  · rw [List.flatMap_append, ← hknown.byePackets, List.flatMap_singleton]
    cases member <;> simp [addMember, aggregateReportPacket, aggregateFeedbackBlock,
      RtcpMember.byePackets, RtcpMember.block]
  · rw [List.any_append, ← hknown.hasKeyframeRequest, List.any_cons, List.any_nil, Bool.or_false]
    cases member <;> simp [addMember, aggregateReportPacket, aggregateFeedbackBlock,
      RtcpMember.requestsKeyframe, RtcpMember.block]
  · rw [List.flatMap_append, List.flatMap_singleton, ← hadd]
    cases member <;> rfl

def BuiltPackets : List RtcpMember → List (List UInt8) → Prop :=
  List.Forall₂ fun member packet => member.build = .ok packet

/-- The blocks of a row of packets are read where the packets meet. -/
theorem parseCompoundBlocks_members {members : List RtcpMember} {packets : List (List UInt8)}
    (h : BuiltPackets members packets) {before : List RtcpMember} {known : RtcpCompoundPacket}
    (hknown : Collected before known) :
    ∃ next, parseCompoundBlocks packets.flatten known = .ok next ∧
      Collected (before ++ members) next := by
  induction h generalizing before known with
  | nil =>
      apply Exists.intro known
      rw [List.append_nil, List.flatten_nil, parseCompoundBlocks, if_pos rfl]
      exact ⟨rfl, hknown⟩
  | @cons member packet members packets hbuild _ ih =>
      obtain ⟨⟨body, hwritten⟩, _⟩ := build_written hbuild
      have hsize := hwritten.length
      have hlong : (packet ++ packets.flatten).length = packet.length + packets.flatten.length :=
        List.length_append
      have hne : packet ++ packets.flatten ≠ [] := by
        intro hnil
        rw [hnil, List.length_nil] at hlong
        omega
      obtain ⟨next, hparse, hcollected⟩ := ih (collected_addMember hknown member)
      rw [List.append_assoc, List.singleton_append] at hcollected
      apply Exists.intro next
      apply And.intro _ hcollected
      have hstep := parseCompoundBlock_member hbuild known
      have hread := hwritten.parse_header packets.flatten
      have hpacketSize := hwritten.header_read.packetSize
      have hpadding := hwritten.header_read.padding
      generalize headerOf _ _ _ _ = header at hstep hread hpacketSize hpadding
      rw [List.flatten_cons, parseCompoundBlocks, if_neg hne,
        if_neg (by rw [kRtcpCommonHeaderSize]; omega), hread]
      simp only [inBlock, hpacketSize, hpadding, List.take_left, List.drop_left, hstep, hparse,
        Bool.false_eq_true, false_and, if_false]
      rw [if_neg (by omega), if_neg (by omega)]

/-- The bytes a block declares to take. -/
def blockSize (block : RtcpCompoundBlock) : ℕ := (block.length.toNat + 1) * 4

theorem blockSize_member {member : RtcpMember} {packet : List UInt8}
    (h : member.build = .ok packet) : blockSize member.block = packet.length := by
  obtain ⟨⟨body, hwritten⟩, hsize⟩ := build_written h
  have hwords := hwritten.words_le
  have hmod := hwritten.length_mod
  have hlength := hwritten.length
  have hfield : member.block.length = UInt16.ofNat (packet.length / 4 - 1) := by
    rw [hsize]
    cases member <;> rfl
  rw [blockSize, hfield, UInt16.toNat_ofNat']
  omega

/-- The blocks are the packets in order, and they cover the datagram without gap or overlap. -/
structure Tiles (members : List RtcpMember) (blocks : List RtcpCompoundBlock)
    (datagram : List UInt8) : Prop where
  packets : ∃ packets, BuiltPackets members packets ∧ packets.flatten = datagram ∧
    blocks.map blockSize = packets.map List.length

/-- The datagrams of the three builders, with the packets they are put together from. -/
inductive BuiltDatagram : List RtcpMember → List UInt8 → Prop where
  | compound {members packets maximumSize datagram} :
      members.mapM RtcpMember.build = .ok packets →
      buildRtcpCompoundPacket packets maximumSize = .ok datagram →
      BuiltDatagram members datagram
  | reducedFeedback {member packet senderSsrc cname maximumSize datagram} :
      RtcpMember.build member = .ok packet →
      buildRtcpFeedbackDatagram packet senderSsrc cname true maximumSize = .ok datagram →
      BuiltDatagram [member] datagram
  | feedback {member packet senderSsrc cname maximumSize datagram} :
      RtcpMember.build member = .ok packet →
      buildRtcpFeedbackDatagram packet senderSsrc cname false maximumSize = .ok datagram →
      BuiltDatagram [.receiverReport { senderSsrc }, .sdesCname senderSsrc cname, member] datagram
  | bye {member packet participantSsrc cname byeSsrcs reason maximumSize datagram} :
      RtcpMember.build member = .ok packet →
      buildRtcpByeDatagram packet participantSsrc cname byeSsrcs reason maximumSize =
        .ok datagram →
      BuiltDatagram [member, .sdesCname participantSsrc cname, .bye byeSsrcs reason] datagram

theorem buildRtcpCompoundPacket_ok {packets : List (List UInt8)} {maximumSize : ℕ}
    {datagram : List UInt8} (h : buildRtcpCompoundPacket packets maximumSize = .ok datagram) :
    packets ≠ [] ∧ packets.flatten = datagram := by
  obtain ⟨hne, h⟩ := ensure_bind_ok.mp h
  obtain ⟨_, h⟩ := ensure_bind_ok.mp h
  obtain ⟨_, _, h⟩ := bind_ok.mp h
  obtain ⟨_, h⟩ := ensure_bind_ok.mp h
  exact ⟨hne, Except.ok.inj h⟩

theorem BuiltDatagram.packets {members : List RtcpMember} {datagram : List UInt8}
    (h : BuiltDatagram members datagram) :
    ∃ packets, BuiltPackets members packets ∧ packets ≠ [] ∧ packets.flatten = datagram := by
  cases h with
  | @compound _ packets _ _ hmembers hbuild =>
      exact ⟨packets, mapM_ok.mp hmembers, buildRtcpCompoundPacket_ok hbuild⟩
  | @reducedFeedback _ packet _ _ _ _ hmember hbuild =>
      obtain ⟨_, h⟩ := ensure_bind_ok.mp hbuild
      obtain ⟨_, _, h⟩ := bind_ok.mp h
      obtain ⟨_, h⟩ := ensure_bind_ok.mp h
      obtain ⟨_, h⟩ := ensure_bind_ok.mp h
      rw [if_pos rfl] at h
      obtain ⟨_, h⟩ := ensure_bind_ok.mp h
      exact ⟨[packet], .cons hmember .nil, List.cons_ne_nil _ _,
        by rw [← Except.ok.inj h, List.flatten_singleton]⟩
  | @feedback _ packet _ _ _ _ hmember hbuild =>
      obtain ⟨_, h⟩ := ensure_bind_ok.mp hbuild
      obtain ⟨_, _, h⟩ := bind_ok.mp h
      obtain ⟨_, h⟩ := ensure_bind_ok.mp h
      obtain ⟨_, h⟩ := ensure_bind_ok.mp h
      rw [if_neg Bool.false_ne_true] at h
      obtain ⟨report, hreport, h⟩ := bind_ok.mp h
      obtain ⟨sdes, hsdes, h⟩ := bind_ok.mp h
      exact ⟨[report, sdes, packet], .cons hreport (.cons hsdes (.cons hmember .nil)),
        buildRtcpCompoundPacket_ok h⟩
  | @bye _ packet _ _ _ _ _ _ hmember hbuild =>
      obtain ⟨_, h⟩ := ensure_bind_ok.mp hbuild
      obtain ⟨_, h⟩ := ensure_bind_ok.mp h
      obtain ⟨_, _, h⟩ := bind_ok.mp h
      obtain ⟨_, h⟩ := ensure_bind_ok.mp h
      obtain ⟨sdes, hsdes, h⟩ := bind_ok.mp h
      obtain ⟨bye, hbye, h⟩ := bind_ok.mp h
      exact ⟨[packet, sdes, bye], .cons hmember (.cons hsdes (.cons hbye .nil)),
        buildRtcpCompoundPacket_ok h⟩

theorem collected_empty : Collected [] {} := ⟨rfl, rfl, rfl, rfl, rfl, rfl, rfl⟩

/-- Every datagram of the three builders is read back: the blocks are its packets in order and
tile it, and the data given to the builders is reported unchanged. The reports among them are
built for every cumulative loss of twenty-four signed bits. -/
theorem datagram_read_back {members : List RtcpMember} {datagram : List UInt8}
    (h : BuiltDatagram members datagram) :
    (∃ packet, parseRtcpCompoundPacket datagram = .ok packet ∧ Collected members packet ∧
      Tiles members packet.blocks datagram) ∧
    (∀ report : RtcpSenderReportData, (∃ packet, buildRtcpSenderReport report = .ok packet) ↔
      AcceptedReport report.senderSsrc report.reportBlocks) ∧
    (∀ report : RtcpReceiverReportData, (∃ packet, buildRtcpReceiverReport report = .ok packet) ↔
      AcceptedReport report.senderSsrc report.reportBlocks) := by
  apply And.intro _ ⟨buildRtcpSenderReport_accepts, buildRtcpReceiverReport_accepts⟩
  obtain ⟨packets, hbuilt, hne, hflat⟩ := h.packets
  obtain ⟨packet, hparse, hcollected⟩ := parseCompoundBlocks_members hbuilt collected_empty
  rw [List.nil_append] at hcollected
  rw [hflat] at hparse
  have hdata : datagram ≠ [] ∧ packet.blocks.isEmpty = false := by
    rw [hcollected.blocks, ← hflat]
    cases hbuilt with
    | nil => exact absurd rfl hne
    | @cons member first _ _ hmember _ =>
        obtain ⟨⟨body, hwritten⟩, _⟩ := build_written hmember
        have hsize := hwritten.length
        apply And.intro _ rfl
        intro hnil
        have hfirst := (List.append_eq_nil_iff.mp hnil).1
        rw [hfirst, List.length_nil] at hsize
        omega
  apply Exists.intro packet
  rw [parseRtcpCompoundPacket, if_neg hdata.1, hparse]
  simp only [hdata.2, Bool.false_eq_true, if_false, true_and]
  apply And.intro hcollected
  refine ⟨packets, hbuilt, hflat, ?_⟩
  rw [hcollected.blocks, List.map_map]
  clear hflat hparse hne h hcollected hdata
  induction hbuilt with
  | nil => rfl
  | cons hmember _ ih =>
      rw [List.map_cons, List.map_cons, ih, Function.comp_apply, blockSize_member hmember]

/-- A receiver with the largest possible gain of duplicates leaves, asking for key frames. -/
def leavingMembers : List RtcpMember :=
  [.receiverReport ⟨7, [{ sourceSsrc := 9, fractionLost := 1, cumulativeLost := -8388608 }]⟩,
    .sdesCname 7 [97, 98], .pictureLossIndication 7 9, .fullIntraRequest 7 [⟨9, 4⟩],
    .bye [7] [120]]

def leavingPackets : List (List UInt8) :=
  [[129, 201, 0, 7, 0, 0, 0, 7, 0, 0, 0, 9, 1, 128, 0, 0, 0, 0, 0, 0, 0, 0, 0, 0, 0, 0, 0, 0, 0, 0,
      0, 0],
    [129, 202, 0, 3, 0, 0, 0, 7, 1, 2, 97, 98, 0, 0, 0, 0],
    [129, 206, 0, 2, 0, 0, 0, 7, 0, 0, 0, 9],
    [132, 206, 0, 4, 0, 0, 0, 7, 0, 0, 0, 0, 0, 0, 0, 9, 4, 0, 0, 0],
    [129, 203, 0, 2, 0, 0, 0, 7, 1, 120, 0, 0]]

theorem leaving_built : BuiltDatagram leavingMembers leavingPackets.flatten := by
  have hmembers : leavingMembers.map (fun member => member.build.toOption) =
      leavingPackets.map some := by decide +kernel
  have hcompound : (buildRtcpCompoundPacket leavingPackets 1200).toOption =
      some leavingPackets.flatten := by decide +kernel
  exact BuiltDatagram.compound (mapM_ok_of_toOption hmembers) (ok_of_toOption hcompound)

theorem datagram_read_back_leaving :
    ∃ packet, parseRtcpCompoundPacket leavingPackets.flatten = .ok packet ∧
      Collected leavingMembers packet ∧ Tiles leavingMembers packet.blocks leavingPackets.flatten :=
  (datagram_read_back leaving_built).1

end SimpleWebrtc.RtcpDatagrams

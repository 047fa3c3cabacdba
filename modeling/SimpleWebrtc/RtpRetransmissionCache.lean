import SimpleWebrtc.Library.AssocMap
import Mathlib.Data.Int.Notation
import Mathlib.Logic.Relation
import Mathlib.Tactic.NormNum

/-!
# The retransmission cache

`rtp_retransmission_cache` keeps the packets a session sent, so that one which
was lost can be sent again. Packets are found by stream and sequence number. A
second structure lists the order in which they were stored: replacing a packet
leaves its old element in that order, where `prune` later finds it stale.
Times are nanoseconds of the steady clock, ages in the configuration are
milliseconds.
-/
namespace SimpleWebrtc.RtpRetransmissionCache
open Library

structure CacheConfig where
  maxAge : ℤ := 2000
  maxPackets : ℕ := 4096
  maxBytes : ℕ := 8 * 1024 * 1024
  minimumRetransmitInterval : ℤ := 20
deriving Repr, DecidableEq

/-- Values which make no sense are replaced by the defaults. -/
def CacheConfig.normalized (config : CacheConfig) : CacheConfig where
  maxAge := if config.maxAge ≤ 0 then 2000 else config.maxAge
  maxPackets := if config.maxPackets = 0 then 4096 else config.maxPackets
  maxBytes := if config.maxBytes = 0 then 8 * 1024 * 1024 else config.maxBytes
  minimumRetransmitInterval :=
    if config.minimumRetransmitInterval < 0 then 0 else config.minimumRetransmitInterval

structure CachePacket where
  packet : List UInt8
  targetSsrc : UInt32 := 0
  targetPayloadType : UInt8 := 0
  targetSequenceNumber : UInt16 := 0
  targetTimestamp : UInt32 := 0
  payloadSize : ℕ := 0
  sourceGeneration : ℕ := 0
  storedAt : ℤ := 0
deriving Repr, DecidableEq

inductive LookupState
  | hit
  | miss
  | suppressed
deriving Repr, DecidableEq

structure CacheLookup where
  state : LookupState := .miss
  packet : Option CachePacket := none
deriving Repr, DecidableEq

structure CacheSnapshot where
  packetCount : ℕ := 0
  byteCount : ℤ := 0
  inserted : ℕ := 0
  replaced : ℕ := 0
  evictedAge : ℕ := 0
  evictedCapacity : ℕ := 0
deriving Repr, DecidableEq

structure CacheEntry where
  packet : CachePacket
  serial : ℕ := 0
  lastRetransmittedAt : Option ℤ := none
deriving Repr, DecidableEq

def CacheEntry.bytes (e : CacheEntry) : ℕ := e.packet.packet.length

structure OrderEntry where
  key : UInt64 := 0
  serial : ℕ := 0
deriving Repr, DecidableEq

structure Cache where
  config : CacheConfig
  entries : AssocMap UInt64 CacheEntry := .empty
  order : List OrderEntry := []
  byteCount : ℤ := 0
  nextSerial : ℕ := 1
  inserted : ℕ := 0
  replaced : ℕ := 0
  evictedAge : ℕ := 0
  evictedCapacity : ℕ := 0
deriving DecidableEq

def create (config : CacheConfig) : Cache := { config := config.normalized }

def makeKey (targetSsrc : UInt32) (targetSequenceNumber : UInt16) : UInt64 :=
  (targetSsrc.toUInt64 <<< 16) ||| targetSequenceNumber.toUInt64

theorem makeKey_toNat (targetSsrc : UInt32) (targetSequenceNumber : UInt16) :
    (makeKey targetSsrc targetSequenceNumber).toNat =
      targetSsrc.toNat * 65536 + targetSequenceNumber.toNat := by
  have hssrc := targetSsrc.toNat_lt
  have hseq := targetSequenceNumber.toNat_lt
  have hshift : (targetSsrc.toUInt64 <<< 16).toNat = targetSsrc.toNat <<< 16 := by
    rw [UInt64.toNat_shiftLeft, UInt32.toNat_toUInt64]
    apply Nat.mod_eq_of_lt
    have hpow : 2 ^ (UInt64.toNat 16 % 64) = 65536 := by decide
    rw [Nat.shiftLeft_eq, hpow]
    omega
  rw [makeKey, UInt64.toNat_or, hshift, UInt16.toNat_toUInt64,
    ← Nat.shiftLeft_add_eq_or_of_lt (by simpa using hseq), Nat.shiftLeft_eq]

/-- A key names one stream and one sequence number. -/
theorem makeKey_injective {ssrc ssrc' : UInt32} {seq seq' : UInt16}
    (h : makeKey ssrc seq = makeKey ssrc' seq') : ssrc = ssrc' ∧ seq = seq' := by
  have hnat := congrArg UInt64.toNat h
  rw [makeKey_toNat, makeKey_toNat] at hnat
  have hseq := seq.toNat_lt
  have hseq' := seq'.toNat_lt
  refine ⟨UInt32.toNat_inj.mp ?_, UInt16.toNat_inj.mp ?_⟩ <;> omega

namespace Cache
variable (c : Cache)

def eraseEntry (key : UInt64) (ageEviction : Bool) : Cache :=
  match c.entries.find? key with
  | none => c
  | some e =>
      let c := { c with
        byteCount := c.byteCount - e.bytes
        entries := c.entries.erase key }
      if ageEviction then { c with evictedAge := c.evictedAge + 1 }
      else { c with evictedCapacity := c.evictedCapacity + 1 }

/-- A packet is kept for as long as its age is at most the maximum. -/
def withinAge (now : ℤ) (packet : CachePacket) : Bool :=
  decide (now - packet.storedAt ≤ c.config.maxAge * 1000000)

def exceedsCapacity : Bool :=
  decide (c.entries.size > c.config.maxPackets ∨ c.byteCount > c.config.maxBytes)

/-- The first loop of `prune`, on what is left of the order: it ends at a packet which is still
listed under its serial and is young enough. -/
def pruneAged (now : ℤ) (c : Cache) : List OrderEntry → Cache
  | [] => { c with order := [] }
  | oldest :: rest =>
    match c.entries.find? oldest.key with
    | none => pruneAged now c rest
    | some e =>
      if e.serial ≠ oldest.serial then pruneAged now c rest
      else if c.withinAge now e.packet then { c with order := oldest :: rest }
      else pruneAged now (c.eraseEntry oldest.key true) rest

/-- The second loop of `prune`: it ends when the capacity is kept, or with nothing left in the
order. -/
def pruneExcess (c : Cache) : List OrderEntry → Cache
  | [] => { c with order := [] }
  | oldest :: rest =>
    if c.exceedsCapacity then
      match c.entries.find? oldest.key with
      | none => pruneExcess c rest
      | some e =>
        if e.serial ≠ oldest.serial then pruneExcess c rest
        else pruneExcess (c.eraseEntry oldest.key false) rest
    else { c with order := oldest :: rest }

/-- The cache on which the capacity loop of `prune` starts. -/
def aged (now : ℤ) : Cache := pruneAged now c c.order

/-- What the capacity loop makes of a cache. -/
def capped : Cache := pruneExcess c c.order

def prune (now : ℤ) : Cache := (c.aged now).capped

/-- Packets `remember` does not take. -/
def rejects (packet : CachePacket) : Bool := packet.packet.isEmpty || packet.targetSsrc == 0

/-- The middle of `remember`: the packet is stored under its key. -/
def store (packet : CachePacket) (now : ℤ) : Cache :=
  let packet := { packet with storedAt := now }
  let key := makeKey packet.targetSsrc packet.targetSequenceNumber
  let c := match c.entries.find? key with
    | some existing => { c with
        byteCount := c.byteCount - existing.bytes
        replaced := c.replaced + 1 }
    | none => { c with inserted := c.inserted + 1 }
  let next : CacheEntry := { packet := packet, serial := c.nextSerial }
  { c with
    nextSerial := c.nextSerial + 1
    byteCount := c.byteCount + next.bytes
    entries := c.entries.insertOrAssign key next
    order := c.order ++ [{ key := key, serial := next.serial }] }

def remember (packet : CachePacket) (now : ℤ) : Cache :=
  if rejects packet then c else ((c.prune now).store packet now).prune now

def suppresses (now : ℤ) (cached : CacheEntry) : Bool :=
  match cached.lastRetransmittedAt with
  | none => false
  | some last => decide (now - last < c.config.minimumRetransmitInterval * 1000000)

def lookupForRetransmission (targetSsrc : UInt32) (targetSequenceNumber : UInt16) (now : ℤ) :
    Cache × CacheLookup :=
  let c := c.prune now
  let key := makeKey targetSsrc targetSequenceNumber
  match c.entries.find? key with
  | none => (c, {})
  | some cached =>
    if c.suppresses now cached then (c, { state := .suppressed, packet := none })
    else
      ({ c with
          entries := c.entries.insertOrAssign key { cached with lastRetransmittedAt := some now } },
        { state := .hit, packet := some cached.packet })

def clear : Cache := { config := c.config }

def snapshot (now : ℤ) : Cache × CacheSnapshot :=
  let c := c.prune now
  (c, { packetCount := c.entries.size
        byteCount := c.byteCount
        inserted := c.inserted
        replaced := c.replaced
        evictedAge := c.evictedAge
        evictedCapacity := c.evictedCapacity })

end Cache
end SimpleWebrtc.RtpRetransmissionCache

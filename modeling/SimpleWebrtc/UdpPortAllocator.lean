import Mathlib.Data.Finset.Card
import Mathlib.Order.Interval.Finset.Nat
import SimpleWebrtc.Library.CircularProbe
import SimpleWebrtc.Library.Runs

/-!
# UDP ports of sessions

An allocator hands the ports of its range out in a circle. A reservation object
holds its port until it is destroyed, in any order with further reservations.
-/
namespace SimpleWebrtc.UdpPortAllocator
open Library Library.CircularProbe

structure UdpPortRange where
  minPort : UInt16
  maxPort : UInt16
deriving Repr, DecidableEq

def udpPortRangeIsValid (range : UdpPortRange) : Bool :=
  decide (range.minPort ≠ 0) && decide (range.maxPort ≠ 0) && decide (range.minPort ≤ range.maxPort)

structure PortAllocator where
  range : UdpPortRange
  nextPort : UInt16
  usedPorts : Finset UInt16

def makePortAllocator (range : UdpPortRange) : PortAllocator := ⟨range, range.minPort, ∅⟩

namespace UdpPortRange

def capacity (range : UdpPortRange) : ℕ := range.maxPort.toNat - range.minPort.toNat + 1

/-- The candidate after another one. -/
def following (range : UdpPortRange) (candidate : UInt16) : UInt16 :=
  if candidate = range.maxPort then range.minPort else candidate + 1

end UdpPortRange

namespace PortAllocator

def isFree (allocator : PortAllocator) (port : UInt16) : Bool := decide (port ∉ allocator.usedPorts)

def take (allocator : PortAllocator) (port : UInt16) : PortAllocator :=
  { allocator with
    usedPorts := insert port allocator.usedPorts
    nextPort := allocator.range.following port }

def acquire (allocator : PortAllocator) : Option UInt16 × PortAllocator :=
  if udpPortRangeIsValid allocator.range = false then (none, allocator)
  else if allocator.range.capacity ≤ allocator.usedPorts.card then (none, allocator)
  else
    match firstFree allocator.range.following allocator.isFree allocator.range.capacity
      allocator.nextPort with
    | some candidate => (some candidate, allocator.take candidate)
    | none => (none, allocator)

def release (allocator : PortAllocator) (port : UInt16) : PortAllocator :=
  { allocator with usedPorts := allocator.usedPorts.erase port }

end PortAllocator

structure UdpPortReservation where
  port : UInt16
deriving Repr, DecidableEq

def reserveUdpPort (allocator : PortAllocator) : Option UdpPortReservation × PortAllocator :=
  let (port, allocator) := allocator.acquire
  (port.map UdpPortReservation.mk, allocator)

/-- The destructor of a reservation. -/
def UdpPortReservation.destroy (reservation : UdpPortReservation) (allocator : PortAllocator) :
    PortAllocator :=
  if reservation.port = 0 then allocator else allocator.release reservation.port

/-- An allocator with the reservations which have not been destroyed yet. -/
structure Ports where
  allocator : PortAllocator
  live : List UdpPortReservation

inductive PortEvent where
  | reserve
  | destroy (index : ℕ)

def portStep (ports : Ports) : PortEvent → Option Ports
  | .reserve =>
      match reserveUdpPort ports.allocator with
      | (some reservation, allocator) => some ⟨allocator, ports.live ++ [reservation]⟩
      | (none, allocator) => some ⟨allocator, ports.live⟩
  | .destroy index =>
      match ports.live[index]? with
      | some reservation =>
          some ⟨reservation.destroy ports.allocator, ports.live.eraseIdx index⟩
      | none => none

def portSystem (range : UdpPortRange) : EventSystem Ports PortEvent :=
  .ofStep (fun ports => ports = ⟨makePortAllocator range, []⟩) portStep

def Ports.held (ports : Ports) : List UInt16 := ports.live.map UdpPortReservation.port

def UdpPortRange.Contains (range : UdpPortRange) (port : UInt16) : Prop :=
  range.minPort ≤ port ∧ port ≤ range.maxPort

/-- The ports of the live reservations are distinct, in the range, and the ones in use. -/
structure PortsConsistent (range : UdpPortRange) (ports : Ports) : Prop where
  sameRange : ports.allocator.range = range
  next : range.Contains ports.allocator.nextPort
  distinct : ports.held.Nodup
  inRange : ∀ port ∈ ports.held, range.Contains port
  used : ports.allocator.usedPorts = ports.held.toFinset

section Range
variable {range : UdpPortRange}

theorem contains_toNat {port : UInt16} :
    range.Contains port ↔ range.minPort.toNat ≤ port.toNat ∧ port.toNat ≤ range.maxPort.toNat := by
  rw [UdpPortRange.Contains, UInt16.le_iff_toNat_le, UInt16.le_iff_toNat_le]

theorem following_toNat {port : UInt16} (h : range.Contains port) :
    (range.following port).toNat = advance range.minPort.toNat range.maxPort.toNat port.toNat := by
  have hmax := range.maxPort.toNat_lt
  obtain ⟨_, hhigh⟩ := contains_toNat.mp h
  rw [UdpPortRange.following, advance]
  by_cases heq : port = range.maxPort
  · rw [if_pos heq, if_pos (congrArg UInt16.toNat heq)]
  · have hne : port.toNat ≠ range.maxPort.toNat := fun hnat => heq (UInt16.toNat_inj.mp hnat)
    rw [if_neg heq, if_neg hne, UInt16.toNat_add, UInt16.toNat_one]
    omega

theorem following_contains {port : UInt16} (h : range.Contains port) :
    range.Contains (range.following port) := by
  obtain ⟨hlow, hhigh⟩ := contains_toNat.mp h
  rw [contains_toNat, following_toNat h]
  exact advance_mem hlow hhigh

theorem iterate_contains {port : UInt16} (h : range.Contains port) (k : ℕ) :
    range.Contains (range.following^[k] port) ∧
      (range.following^[k] port).toNat =
        (advance range.minPort.toNat range.maxPort.toNat)^[k] port.toNat := by
  induction k with
  | zero => exact ⟨h, rfl⟩
  | succ k ih =>
      rw [Function.iterate_succ_apply', Function.iterate_succ_apply', ← ih.2, following_toNat ih.1]
      exact ⟨following_contains ih.1, rfl⟩

/-- The probe comes past every port of the range. -/
theorem following_reaches {start target : UInt16} (hstart : range.Contains start)
    (htarget : range.Contains target) :
    ∃ k < range.capacity, range.following^[k] start = target := by
  obtain ⟨hlow, hhigh⟩ := contains_toNat.mp hstart
  obtain ⟨htargetLow, htargetHigh⟩ := contains_toNat.mp htarget
  obtain ⟨k, hk, hreach⟩ := exists_iterate hlow hhigh htargetLow htargetHigh
  refine ⟨k, hk, UInt16.toNat_inj.mp ?_⟩
  rw [(iterate_contains hstart k).2, hreach]

end Range

/-- What acquiring a port does: it takes a free port of the range, or leaves all as it is. -/
theorem acquire_cases (allocator : PortAllocator) :
    allocator.acquire = (none, allocator) ∨
      ∃ port, allocator.acquire = (some port, allocator.take port) ∧
        port ∉ allocator.usedPorts ∧ ∃ k, allocator.range.following^[k] allocator.nextPort = port := by
  unfold PortAllocator.acquire
  split_ifs with hvalid hfull
  · exact .inl rfl
  · exact .inl rfl
  · cases hprobe : firstFree allocator.range.following allocator.isFree allocator.range.capacity
        allocator.nextPort with
    | none => exact .inl rfl
    | some port =>
        obtain ⟨hfree, k, _, hreach⟩ := firstFree_some hprobe
        exact .inr ⟨port, rfl, of_decide_eq_true hfree, k, hreach⟩

section Consistent
variable {range : UdpPortRange} {ports : Ports}

theorem consistent_start (hvalid : udpPortRangeIsValid range = true) :
    PortsConsistent range ⟨makePortAllocator range, []⟩ := by
  simp only [udpPortRangeIsValid, Bool.and_eq_true, decide_eq_true_eq] at hvalid
  constructor
  · rfl
  · exact ⟨UInt16.le_refl _, hvalid.2⟩
  · exact List.nodup_nil
  · intro port hport
    cases hport
  · rfl

theorem consistent_reserve {next : Ports} (h : PortsConsistent range ports)
    (hstep : portStep ports .reserve = some next) : PortsConsistent range next := by
  simp only [portStep, reserveUdpPort] at hstep
  obtain hnone | ⟨port, hsome, hfree, k, hreach⟩ := acquire_cases ports.allocator
  · rw [hnone] at hstep
    cases hstep
    exact h
  · rw [hsome] at hstep
    cases hstep
    have hport : range.Contains port := by
      rw [← hreach, h.sameRange]
      exact (iterate_contains h.next k).1
    have hfresh : port ∉ ports.held := by
      intro hheld
      rw [h.used] at hfree
      exact hfree (List.mem_toFinset.mpr hheld)
    have hheld : Ports.held ⟨ports.allocator.take port, ports.live ++ [⟨port⟩]⟩ =
        ports.held ++ [port] := List.map_append
    constructor
    · exact h.sameRange
    · change range.Contains (ports.allocator.range.following port)
      rw [h.sameRange]
      exact following_contains hport
    · rw [hheld]
      exact h.distinct.append (List.nodup_singleton port)
        (List.disjoint_singleton.mpr hfresh)
    · intro other hother
      rw [hheld] at hother
      rcases List.mem_append.mp hother with hother | hother
      · exact h.inRange other hother
      · rw [List.mem_singleton.mp hother]
        exact hport
    · rw [hheld, List.toFinset_append, ← h.used, List.toFinset_cons, List.toFinset_nil]
      exact Finset.insert_eq port _ |>.trans (Finset.union_comm _ _)

/-- Destroying a reservation frees its port and no other one. -/
theorem consistent_destroy {index : ℕ} {next : Ports} (hvalid : udpPortRangeIsValid range = true)
    (h : PortsConsistent range ports) (hstep : portStep ports (.destroy index) = some next) :
    PortsConsistent range next := by
  simp only [udpPortRangeIsValid, Bool.and_eq_true, decide_eq_true_eq] at hvalid
  simp only [portStep] at hstep
  cases hlive : ports.live[index]? with
  | none => simp [hlive] at hstep
  | some reservation =>
      rw [hlive] at hstep
      have hnext := Option.some.inj hstep
      have hget : ports.held[index]? = some reservation.port := by
        rw [Ports.held, List.getElem?_map, hlive]
        rfl
      have hmem := List.mem_of_getElem? hget
      have hpositive : reservation.port ≠ 0 := by
        intro hzero
        have hlow := UInt16.le_iff_toNat_le.mp (h.inRange _ hmem).1
        rw [hzero, UInt16.toNat_zero] at hlow
        exact hvalid.1.1 (UInt16.toNat_inj.mp (Nat.le_zero.mp hlow))
      obtain ⟨hindex, hat⟩ := List.getElem?_eq_some_iff.mp hget
      have hheld : next.held = ports.held.erase reservation.port := by
        rw [← hnext, ← hat, h.distinct.erase_getElem index hindex]
        exact (List.eraseIdx_map _ _ _).symm
      have hallocator : next.allocator = ports.allocator.release reservation.port := by
        rw [← hnext, UdpPortReservation.destroy, if_neg hpositive]
      constructor
      · rw [hallocator]
        exact h.sameRange
      · rw [hallocator]
        exact h.next
      · rw [hheld]
        exact h.distinct.erase _
      · intro port hport
        rw [hheld] at hport
        exact h.inRange port (List.mem_of_mem_erase hport)
      · rw [hallocator, hheld]
        ext port
        rw [PortAllocator.release, Finset.mem_erase, h.used, List.mem_toFinset, List.mem_toFinset,
          h.distinct.mem_erase_iff]

theorem consistent_run (hvalid : udpPortRangeIsValid range = true) {events : List PortEvent}
    (hrun : (portSystem range).Run events ports) : PortsConsistent range ports := by
  apply EventSystem.Run.invariant _ _ hrun
  · intro start hstart
    rw [hstart]
    exact consistent_start hvalid
  · intro before event after hbefore hstep
    cases event with
    | reserve => exact consistent_reserve hbefore hstep
    | destroy index => exact consistent_destroy hvalid hbefore hstep

/-- As many ports as the range has are all of them. -/
theorem all_used_of_full (h : PortsConsistent range ports)
    (hfull : range.capacity ≤ ports.allocator.usedPorts.card) {port : UInt16}
    (hport : range.Contains port) : port ∈ ports.held := by
  have hinjective : Function.Injective UInt16.toNat := fun _ _ => UInt16.toNat_inj.mp
  have hsubset : ports.allocator.usedPorts.image UInt16.toNat ⊆
      Finset.Icc range.minPort.toNat range.maxPort.toNat := by
    intro n hn
    obtain ⟨used, hused, hnat⟩ := Finset.mem_image.mp hn
    rw [h.used] at hused
    rw [← hnat, Finset.mem_Icc]
    exact contains_toNat.mp (h.inRange used (List.mem_toFinset.mp hused))
  have hcard : (Finset.Icc range.minPort.toNat range.maxPort.toNat).card ≤
      (ports.allocator.usedPorts.image UInt16.toNat).card := by
    have hbounds := contains_toNat.mp hport
    rw [Finset.card_image_of_injective _ hinjective, Nat.card_Icc]
    rw [UdpPortRange.capacity] at hfull
    omega
  have hmem : port.toNat ∈ ports.allocator.usedPorts.image UInt16.toNat := by
    rw [Finset.eq_of_subset_of_card_le hsubset hcard, Finset.mem_Icc]
    exact contains_toNat.mp hport
  obtain ⟨used, hused, hnat⟩ := Finset.mem_image.mp hmem
  rw [h.used, UInt16.toNat_inj.mp hnat] at hused
  exact List.mem_toFinset.mp hused

/-- A port which is not held is found, so only a full range refuses a reservation. -/
theorem reserve_fails_iff (hvalid : udpPortRangeIsValid range = true)
    (h : PortsConsistent range ports) :
    (reserveUdpPort ports.allocator).1 = none ↔
      ∀ port, range.Contains port → port ∈ ports.held := by
  constructor
  · intro hnone port hport
    have hacquire : ports.allocator.acquire.1 = none := Option.map_eq_none_iff.mp hnone
    unfold PortAllocator.acquire at hacquire
    rw [h.sameRange, if_neg (by simp [hvalid])] at hacquire
    by_cases hfull : range.capacity ≤ ports.allocator.usedPorts.card
    · exact all_used_of_full h hfull hport
    · rw [if_neg hfull] at hacquire
      cases hprobe : firstFree range.following ports.allocator.isFree range.capacity
          ports.allocator.nextPort with
      | some found => simp [hprobe] at hacquire
      | none =>
          obtain ⟨k, hk, hreach⟩ := following_reaches h.next hport
          have hbusy := firstFree_none hprobe k hk
          rw [hreach, PortAllocator.isFree, decide_eq_false_iff_not, not_not, h.used] at hbusy
          exact List.mem_toFinset.mp hbusy
  · intro hall
    obtain hnone | ⟨port, _, hfree, k, hreach⟩ := acquire_cases ports.allocator
    · rw [reserveUdpPort, hnone]
      rfl
    · have hport : range.Contains port := by
        rw [← hreach, h.sameRange]
        exact (iterate_contains h.next k).1
      rw [h.used] at hfree
      exact absurd (List.mem_toFinset.mpr (hall port hport)) hfree

/-- Live reservations hold distinct ports of the range, which are the ports in use; the cursor
stays in the range, and a reservation is refused exactly when every port of it is held. -/
theorem ports_handed_out_once (hvalid : udpPortRangeIsValid range = true)
    {events : List PortEvent} (hrun : (portSystem range).Run events ports) :
    ports.held.Nodup ∧ (∀ port ∈ ports.held, range.Contains port) ∧
      (∀ port, port ∈ ports.allocator.usedPorts ↔ port ∈ ports.held) ∧
      range.Contains ports.allocator.nextPort ∧
      ((reserveUdpPort ports.allocator).1 = none ↔
        ∀ port, range.Contains port → port ∈ ports.held) := by
  have h := consistent_run hvalid hrun
  refine ⟨h.distinct, h.inRange, ?_, h.next, reserve_fails_iff hvalid h⟩
  intro port
  rw [h.used, List.mem_toFinset]

end Consistent

/-- The two highest ports there are. -/
def topRange : UdpPortRange := ⟨65534, 65535⟩

/-- Both ports handed out, the lower one given back. -/
def topPorts : Ports := ⟨⟨topRange, 65534, {65535}⟩, [⟨65535⟩]⟩

theorem topPorts_run : (portSystem topRange).Run [.reserve, .reserve, .destroy 0] topPorts := by
  have hstart : (portSystem topRange).Run [] ⟨makePortAllocator topRange, []⟩ := .start rfl
  exact hstart.exec rfl

theorem ports_handed_out_once_top :
    topPorts.held.Nodup ∧ (∀ port ∈ topPorts.held, topRange.Contains port) ∧
      (∀ port, port ∈ topPorts.allocator.usedPorts ↔ port ∈ topPorts.held) ∧
      topRange.Contains topPorts.allocator.nextPort ∧
      ((reserveUdpPort topPorts.allocator).1 = none ↔
        ∀ port, topRange.Contains port → port ∈ topPorts.held) :=
  ports_handed_out_once (by decide) topPorts_run

end SimpleWebrtc.UdpPortAllocator

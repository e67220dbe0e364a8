/-
  Flow/Key.lean --- the 5-tuple key of `src/flow/tracker.rs`.

  `FlowKey::normalized` puts the two endpoints of a packet in a fixed order, so
  that both directions of a session share one key.  The order test compares the
  addresses with `<=` and leaves the ports to a second alternative for equal
  addresses; since equal addresses already pass the first comparison, the ports
  are never compared.
-/
import GeSensor.Net.IpAddr

set_option autoImplicit false

namespace GeSensor.Flow

open GeSensor.Net

/-- 5-tuple flow key. -/
structure FlowKey where
  srcIp : IpAddr
  dstIp : IpAddr
  srcPort : UInt16
  dstPort : UInt16
  protocol : UInt8
  deriving DecidableEq, Repr

/-- The order test: the source endpoint stays first. -/
def isForward (srcIp dstIp : IpAddr) (srcPort dstPort : UInt16) : Bool :=
  srcIp ≤ dstIp || (srcIp == dstIp && srcPort ≤ dstPort)

namespace FlowKey

/-- Create a normalized key (lower IP first) for bidirectional matching. -/
def normalized (srcIp dstIp : IpAddr) (srcPort dstPort : UInt16) (protocol : UInt8) : FlowKey :=
  if isForward srcIp dstIp srcPort dstPort then
    { srcIp := srcIp, dstIp := dstIp, srcPort := srcPort, dstPort := dstPort
      protocol := protocol }
  else
    { srcIp := dstIp, dstIp := srcIp, srcPort := dstPort, dstPort := srcPort
      protocol := protocol }

/-- Key of a tuple given as a key: the tuple as captured, before normalization. -/
def normalize (tuple : FlowKey) : FlowKey :=
  normalized tuple.srcIp tuple.dstIp tuple.srcPort tuple.dstPort tuple.protocol

/-- The tuple of the opposite direction: both endpoints exchanged. -/
def swap (tuple : FlowKey) : FlowKey where
  srcIp := tuple.dstIp
  dstIp := tuple.srcIp
  srcPort := tuple.dstPort
  dstPort := tuple.srcPort
  protocol := tuple.protocol

@[simp] theorem swap_swap (tuple : FlowKey) : tuple.swap.swap = tuple := rfl

end FlowKey

/-- The port alternative of the order test never decides. -/
theorem isForward_eq (srcIp dstIp : IpAddr) (srcPort dstPort : UInt16) :
    isForward srcIp dstIp srcPort dstPort = decide (srcIp ≤ dstIp) := by
  by_cases hle : srcIp ≤ dstIp
  · simp [isForward, hle]
  · have hne : srcIp ≠ dstIp := by
      rintro rfl
      exact hle (IpAddr.le_refl srcIp)
    simp [isForward, hle, hne]

namespace FlowKey

/-- A key is its tuple, or the swapped tuple when the source address is the
larger one. -/
theorem normalize_eq (tuple : FlowKey) :
    tuple.normalize = if tuple.srcIp ≤ tuple.dstIp then tuple else tuple.swap := by
  simp [normalize, normalized, isForward_eq, swap]

theorem normalize_eq_self_or_swap (tuple : FlowKey) :
    tuple.normalize = tuple ∨ tuple.normalize = tuple.swap := by
  rw [normalize_eq]
  split
  · exact Or.inl rfl
  · exact Or.inr rfl

/-- Equal keys come from one session: the same tuple, or its reverse. -/
theorem eq_or_eq_swap_of_normalize_eq {left right : FlowKey}
    (h : left.normalize = right.normalize) : left = right ∨ left = right.swap := by
  rcases normalize_eq_self_or_swap left with hleft | hleft <;>
    rcases normalize_eq_self_or_swap right with hright | hright <;>
    rw [hleft, hright] at h
  · exact Or.inl h
  · exact Or.inr h
  · exact Or.inr (by rw [← h, swap_swap])
  · exact Or.inl (by rw [← swap_swap left, h, swap_swap])

/-- Both directions share a key exactly when the addresses differ or the ports
agree. -/
theorem normalize_swap_iff (tuple : FlowKey) :
    tuple.normalize = tuple.swap.normalize ↔
      tuple.srcIp ≠ tuple.dstIp ∨ tuple.srcPort = tuple.dstPort := by
  rw [normalize_eq, normalize_eq]
  by_cases hsame : tuple.srcIp = tuple.dstIp
  · -- Equal addresses: neither direction is swapped.
    have hle : tuple.srcIp ≤ tuple.dstIp := hsame ▸ IpAddr.le_refl tuple.srcIp
    have hge : tuple.swap.srcIp ≤ tuple.swap.dstIp := by
      show tuple.dstIp ≤ tuple.srcIp
      rw [hsame]
      exact IpAddr.le_refl tuple.dstIp
    rw [if_pos hle, if_pos hge]
    constructor
    · intro h
      exact Or.inr (congrArg FlowKey.srcPort h)
    · rintro (hne | hport)
      · exact absurd hsame hne
      · cases tuple
        simp_all [swap]
  · simp only [ne_eq, hsame, not_false_eq_true, true_or, iff_true]
    rcases IpAddr.le_total tuple.srcIp tuple.dstIp with hle | hge
    · have hnot : ¬ tuple.swap.srcIp ≤ tuple.swap.dstIp := fun hge =>
        hsame (IpAddr.le_antisymm hle hge)
      rw [if_pos hle, if_neg hnot, swap_swap]
    · have hnot : ¬ tuple.srcIp ≤ tuple.dstIp := fun hle =>
        hsame (IpAddr.le_antisymm hle hge)
      rw [if_neg hnot, if_pos (show tuple.swap.srcIp ≤ tuple.swap.dstIp from hge)]

/-- The keys identify bidirectional sessions around `tuple`: its reverse has the
same key, and the tuples with its key are itself and its reverse. -/
def IdentifiesSession (tuple : FlowKey) : Prop :=
  normalized tuple.srcIp tuple.dstIp tuple.srcPort tuple.dstPort tuple.protocol =
      normalized tuple.dstIp tuple.srcIp tuple.dstPort tuple.srcPort tuple.protocol ∧
    ∀ other : FlowKey,
      normalized tuple.srcIp tuple.dstIp tuple.srcPort tuple.dstPort tuple.protocol =
          normalized other.srcIp other.dstIp other.srcPort other.dstPort other.protocol ↔
        other = tuple ∨ other = tuple.swap

/-- Keys identify the session of a tuple exactly when its addresses differ or its
ports agree. -/
theorem identifiesSession_iff (tuple : FlowKey) :
    tuple.IdentifiesSession ↔ tuple.srcIp ≠ tuple.dstIp ∨ tuple.srcPort = tuple.dstPort := by
  rw [← normalize_swap_iff]
  constructor
  · intro h
    exact h.1
  · intro hswap
    refine ⟨hswap, fun other => ⟨?_, ?_⟩⟩
    · intro hkey
      have hsame : other.normalize = tuple.normalize := hkey.symm
      exact eq_or_eq_swap_of_normalize_eq hsame
    · rintro (rfl | rfl)
      · rfl
      · exact hswap

/-- Two ports of one host: the two directions of the session get two keys. -/
theorem loopback_session_not_identified :
    ¬ (FlowKey.mk (.newV4 127 0 0 1) (.newV4 127 0 0 1) 40000 80 6).IdentifiesSession := by
  intro h
  exact absurd h.1 (by decide)

end FlowKey

end GeSensor.Flow

/-
  Dissectors/Dnp3Layout.lean --- which octet of a DNP3 frame the dissector takes for the
  function code.

  On the wire the user data behind the link header starts with three octets: the transport
  octet, the application control octet and the function code.  The dissector skips the
  first of them only, so that it reports the application control octet.
-/
import GeSensor.Dissectors.Ot
import GeSensor.Foundation.ByteReads

set_option autoImplicit false

namespace GeSensor.Dissectors

open GeSensor.Foundation

/-! ## The frame on the wire -/

/-- The link header behind the start bytes. -/
structure Dnp3LinkHeader where
  length : UInt8
  control : UInt8
  destination : UInt16
  source : UInt16
  crc : UInt8 × UInt8

def Dnp3LinkHeader.encode (link : Dnp3LinkHeader) : Bytes :=
  [0x05, 0x64, link.length, link.control] ++ (le16Bytes link.destination ++
    (le16Bytes link.source ++ [link.crc.1, link.crc.2]))

/-- The start of the user data, and the bytes behind it. -/
structure Dnp3Fragment where
  transport : UInt8
  /-- FIR, FIN, CON, UNS and the sequence number -/
  applicationControl : UInt8
  functionCode : UInt8
  further : Bytes

def Dnp3Fragment.encode (fragment : Dnp3Fragment) : Bytes :=
  [fragment.transport, fragment.applicationControl, fragment.functionCode] ++ fragment.further

/-- The dissector reports the addresses and the function code of the frame, and a control
command exactly for the codes that write, operate, select or restart. -/
def ReadsFunctionCode (front : Bytes) (link : Dnp3LinkHeader) (fragment : Dnp3Fragment) : Prop :=
  ∃ frame, dissectDnp3 (front ++ (link.encode ++ fragment.encode)) front.length =
      .ok (some frame) ∧
    frame.destination = link.destination ∧ frame.source = link.source ∧
    frame.functionCode = some fragment.functionCode ∧
    (frame.isControlCommand = true ↔ fragment.functionCode ∈ dnp3ControlCodes)

/-! ## What the dissector reads -/

/-- The frame as reported: the application control octet stands for the function code. -/
theorem dissectDnp3_encode (front : Bytes) (link : Dnp3LinkHeader) (fragment : Dnp3Fragment) :
    dissectDnp3 (front ++ (link.encode ++ fragment.encode)) front.length =
      .ok (some
        { length := link.length
          control := link.control
          destination := link.destination
          source := link.source
          functionCode := some fragment.applicationControl
          isControlCommand := dnp3ControlCodes.contains fragment.applicationControl }) := by
  have hlength : (link.encode ++ fragment.encode).length = 13 + fragment.further.length := by
    simp only [Dnp3LinkHeader.encode, Dnp3Fragment.encode, le16Bytes, List.length_append,
      List.length_cons, List.length_nil]
    omega
  have hdestination : le16 (byteAt (link.encode ++ fragment.encode) 4)
      (byteAt (link.encode ++ fragment.encode) 5) = link.destination :=
    le16_le16Bytes link.destination
  have hsource : le16 (byteAt (link.encode ++ fragment.encode) 6)
      (byteAt (link.encode ++ fragment.encode) 7) = link.source :=
    le16_le16Bytes link.source
  rw [dissectDnp3_answers.append]
  unfold dnp3Answer dnp3DlHeaderLen
  rw [if_pos ⟨by omega, rfl, rfl⟩, if_pos (by omega), hdestination, hsource]
  rfl

/-- The dissector reads the function code exactly where the octet in front of it repeats it. -/
theorem readsFunctionCode_iff (front : Bytes) (link : Dnp3LinkHeader) (fragment : Dnp3Fragment) :
    ReadsFunctionCode front link fragment ↔
      fragment.applicationControl = fragment.functionCode := by
  constructor
  · rintro ⟨frame, hframe, _, _, hcode, _⟩
    rw [dissectDnp3_encode] at hframe
    cases hframe
    exact Option.some.inj hcode
  · intro hsame
    refine ⟨_, dissectDnp3_encode front link fragment, rfl, rfl, congrArg some hsame, ?_⟩
    rw [hsame]
    exact List.contains_iff_mem

/-- An operate request in one fragment: FIR and FIN set, sequence number 0, function code
OPERATE. -/
def operateLink : Dnp3LinkHeader where
  length := 0x08
  control := 0xC4
  destination := 1
  source := 3
  crc := (0x00, 0x00)

def operateFragment : Dnp3Fragment where
  transport := 0xC0
  applicationControl := 0xC0
  functionCode := 0x06
  further := []

theorem operateFragment_not_read : ¬ ReadsFunctionCode [] operateLink operateFragment := by
  rintro ⟨frame, hframe, _, _, hcode, _⟩
  rw [dissectDnp3_encode] at hframe
  cases hframe
  exact absurd hcode (by decide)

/-- A fragment with FIR and FIN set, as one that fits into a single frame, is never reported as
a control command. -/
theorem singleFragment_not_control (front : Bytes) (link : Dnp3LinkHeader)
    (fragment : Dnp3Fragment) (hsingle : 0xC0 ≤ fragment.applicationControl) :
    ∃ frame, dissectDnp3 (front ++ (link.encode ++ fragment.encode)) front.length =
        .ok (some frame) ∧ frame.isControlCommand = false := by
  refine ⟨_, dissectDnp3_encode front link fragment, ?_⟩
  have hcodes : dnp3ControlCodes.all (fun code => decide (code < 0xC0)) = true := rfl
  apply Bool.eq_false_iff.mpr
  intro hcontrol
  have hlow := List.all_eq_true.mp hcodes _ (List.contains_iff_mem.mp hcontrol)
  exact absurd (of_decide_eq_true hlow) (UInt8.not_lt.mpr hsingle)

end GeSensor.Dissectors

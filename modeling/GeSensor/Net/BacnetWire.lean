/-
  Net/BacnetWire.lean --- BACnet/IP frames on the wire, as the protocol lays them out.

  A frame is a BVLC header, an NPDU header and what the NPDU carries.  The control octet
  of the NPDU header announces the destination and the source; the hop count goes with
  the destination and stands behind the source.  A forwarded frame has the address of its
  originator in front of the NPDU.
-/
import GeSensor.Foundation.ByteReads

set_option autoImplicit false

namespace GeSensor.Net

open GeSensor.Foundation

/-! ## NPDU headers -/

/-- A network number and an address of any length, none for a broadcast. -/
structure NpduAddress where
  network : UInt16
  address : Bytes
  fits : address.length < 2 ^ 8

namespace NpduAddress

def encode (address : NpduAddress) : Bytes :=
  be16Bytes address.network ++ .ofNat address.address.length :: address.address

theorem length_encode (address : NpduAddress) :
    address.encode.length = 3 + address.address.length := by
  rw [encode, List.length_append, List.length_cons]
  simp only [be16Bytes, List.length_cons, List.length_nil]
  omega

/-- The length octet. -/
theorem toNat_octet (address : NpduAddress) :
    (UInt8.ofNat address.address.length).toNat = address.address.length :=
  UInt8.toNat_ofNat_of_lt' address.fits

/-- An address is where its octets stand. -/
theorem exists_encode {data : Bytes} {base : Nat}
    (h : base + (3 + (byteAt data (base + 2)).toNat) ≤ data.length) :
    ∃ address : NpduAddress, data.drop base =
      address.encode ++ data.drop (base + (3 + (byteAt data (base + 2)).toNat)) := by
  have hcut : data.drop base = byteAt data base :: byteAt data (base + 1) ::
      byteAt data (base + 2) :: data.drop (base + 3) := by
    rw [drop_eq_byteAt_cons (by omega), drop_eq_byteAt_cons (by omega),
      drop_eq_byteAt_cons (by omega)]
  have hlength : ((data.drop (base + 3)).take (byteAt data (base + 2)).toNat).length =
      (byteAt data (base + 2)).toNat := by
    rw [List.length_take, List.length_drop]
    omega
  have hfits : ((data.drop (base + 3)).take (byteAt data (base + 2)).toNat).length < 2 ^ 8 := by
    rw [hlength]
    exact (byteAt data (base + 2)).toNat_lt
  have hencode : encode ⟨be16At data base, _, hfits⟩ = byteAt data base ::
      byteAt data (base + 1) :: byteAt data (base + 2) ::
        (data.drop (base + 3)).take (byteAt data (base + 2)).toNat := by
    rw [encode, hlength, UInt8.ofNat_toNat, be16At, be16Bytes_be16]
    rfl
  refine ⟨⟨be16At data base, _, hfits⟩, ?_⟩
  calc
    data.drop base = byteAt data base :: byteAt data (base + 1) :: byteAt data (base + 2) ::
        ((data.drop (base + 3)).take (byteAt data (base + 2)).toNat ++
          (data.drop (base + 3)).drop (byteAt data (base + 2)).toNat) := by
      rw [List.take_append_drop, hcut]
    _ = encode ⟨be16At data base, _, hfits⟩ ++
        data.drop (base + (3 + (byteAt data (base + 2)).toNat)) := by
      rw [hencode, List.drop_drop, Nat.add_assoc]
      rfl

end NpduAddress

/-- The header of an NPDU: what the control octet announces is there. -/
structure NpduHeader where
  version : UInt8
  control : UInt8
  /-- with the hop count -/
  destination : Option (NpduAddress × UInt8)
  source : Option NpduAddress
  announcesDestination : decide (control &&& 0x20 ≠ 0) = destination.isSome
  announcesSource : decide (control &&& 0x08 ≠ 0) = source.isSome

/-- The fields behind the control octet. -/
def NpduHeader.routing (header : NpduHeader) : Bytes :=
  (header.destination.elim [] fun destination => destination.1.encode) ++
    (header.source.elim [] NpduAddress.encode ++
      header.destination.elim [] fun destination => [destination.2])

def NpduHeader.encode (header : NpduHeader) : Bytes :=
  header.version :: header.control :: header.routing

/-! ## Frames -/

/-- A Confirmed-Request APDU in one segment: its first octet has the type 0 in the upper
half and the segment bit clear. -/
structure ConfirmedRequest where
  typeOctet : UInt8
  unsegmented : typeOctet < 0x08
  maxResponse : UInt8
  invokeId : UInt8
  serviceChoice : UInt8
  parameters : Bytes

/-- What an NPDU carries. -/
inductive NpduBody where
  | confirmedRequest (request : ConfirmedRequest)
  /-- a network-layer message, by its type -/
  | networkMessage (messageType : UInt8) (further : Bytes)

namespace NpduBody

def isNetworkMessage : NpduBody → Bool
  | .confirmedRequest _ => false
  | .networkMessage _ _ => true

def encode : NpduBody → Bytes
  | .confirmedRequest request =>
      [request.typeOctet, request.maxResponse, request.invokeId, request.serviceChoice] ++
        request.parameters
  | .networkMessage messageType further => messageType :: further

theorem encode_ne_nil (body : NpduBody) : body.encode ≠ [] := by
  cases body <;> exact List.cons_ne_nil _ _

end NpduBody

/-- The BVLC functions that carry an NPDU. -/
inductive BvlcFunction where
  | originalUnicast
  | originalBroadcast
  /-- with the IP address and the port of the originator -/
  | forwarded (origin : Vector UInt8 6)

namespace BvlcFunction

def octet : BvlcFunction → UInt8
  | .originalUnicast => 0x0A
  | .originalBroadcast => 0x0B
  | .forwarded _ => 0x04

/-- What stands between the BVLC header and the NPDU. -/
def origin : BvlcFunction → Bytes
  | .forwarded origin => origin.toList
  | _ => []

end BvlcFunction

/-- A BACnet/IP frame: bit 7 of the control octet marks the network-layer messages. -/
structure BvlcFrame where
  function : BvlcFunction
  length : UInt16
  header : NpduHeader
  body : NpduBody
  marksMessage : decide (header.control &&& 0x80 ≠ 0) = body.isNetworkMessage

namespace BvlcFrame

/-- The octets behind the BVLC header. -/
def octets (frame : BvlcFrame) : Bytes :=
  frame.function.origin ++ (frame.header.encode ++ frame.body.encode)

def encode (frame : BvlcFrame) : Bytes :=
  [0x81, frame.function.octet] ++ (be16Bytes frame.length ++ frame.octets)

end BvlcFrame

end GeSensor.Net

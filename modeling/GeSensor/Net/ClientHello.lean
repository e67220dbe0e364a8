/-
  Net/ClientHello.lean --- a TLS ClientHello on the wire, in a record of its own.

  Every field that varies in length has its length in front of it: the record, the handshake
  message, the session ID, the cipher suites, the compression methods, the extensions block,
  each extension, and in the SNI extension the list of names and the name.
-/
import GeSensor.Foundation.ByteReads
import GeSensor.Foundation.Text

set_option autoImplicit false

namespace GeSensor.Net

open GeSensor.Foundation

/-! ## Extensions -/

structure TlsExtension where
  extType : UInt16
  body : Bytes
  fits : body.length < 2 ^ 16

def TlsExtension.encode (extension : TlsExtension) : Bytes :=
  be16Bytes extension.extType ++ (be16Bytes (.ofNat extension.body.length) ++ extension.body)

theorem TlsExtension.length_encode (extension : TlsExtension) :
    extension.encode.length = 4 + extension.body.length := by
  simp only [encode, be16Bytes, List.length_append, List.length_cons, List.length_nil]
  omega

/-- Extensions one after the other. -/
def encodeExtensions (extensions : List TlsExtension) : Bytes :=
  extensions.flatMap TlsExtension.encode

theorem length_encodeExtensions_cons (extension : TlsExtension) (rest : List TlsExtension) :
    (encodeExtensions (extension :: rest)).length =
      4 + extension.body.length + (encodeExtensions rest).length := by
  rw [encodeExtensions, List.flatMap_cons, List.length_append, extension.length_encode]
  rfl

/-- The body of an SNI extension with one name: the length of the list, the type `host_name`,
the length of the name, the name. -/
def serverNameBody (name : String) : Bytes :=
  be16Bytes (.ofNat (3 + (asBytes name).length)) ++
    ([0] ++ (be16Bytes (.ofNat (asBytes name).length) ++ asBytes name))

theorem length_serverNameBody (name : String) :
    (serverNameBody name).length = 5 + (asBytes name).length := by
  simp only [serverNameBody, be16Bytes, List.length_append, List.length_cons, List.length_nil]
  omega

/-- The server name of a list of extensions: at most one of them has the type 0, and its body
is one host name that is not empty. -/
inductive NamesServer : List TlsExtension → Option String → Prop where
  | nil : NamesServer [] none
  | other {extension : TlsExtension} {rest : List TlsExtension} {name : Option String} :
      extension.extType ≠ 0 → NamesServer rest name → NamesServer (extension :: rest) name
  | server {extension : TlsExtension} {rest : List TlsExtension} {name : String} :
      extension.extType = 0 → extension.body = serverNameBody name →
      1 ≤ (asBytes name).length → (∀ other ∈ rest, other.extType ≠ 0) →
      NamesServer (extension :: rest) (some name)

/-! ## The record -/

structure ClientHello where
  recordVersion : UInt8 × UInt8
  version : UInt8 × UInt8
  random : Vector UInt8 32
  sessionId : Bytes
  cipherSuites : Bytes
  compressionMethods : Bytes
  extensions : List TlsExtension
  sessionIdFits : sessionId.length < 2 ^ 8
  compressionFits : compressionMethods.length < 2 ^ 8
  /-- the handshake message fits one record -/
  recordFits : 4 + (2 + 32 + (1 + sessionId.length) + (2 + cipherSuites.length) +
    (1 + compressionMethods.length) + (2 + (encodeExtensions extensions).length)) < 2 ^ 16

namespace ClientHello

variable (hello : ClientHello)

/-- The length of the handshake body. -/
def bodyLength : Nat :=
  2 + 32 + (1 + hello.sessionId.length) + (2 + hello.cipherSuites.length) +
    (1 + hello.compressionMethods.length) + (2 + (encodeExtensions hello.extensions).length)

/-- From the length of the extensions block on. -/
def encodeBlock : Bytes :=
  be16Bytes (.ofNat (encodeExtensions hello.extensions).length) ++
    encodeExtensions hello.extensions

/-- From the length of the compression methods on. -/
def encodeMethods : Bytes :=
  [.ofNat hello.compressionMethods.length] ++ (hello.compressionMethods ++ hello.encodeBlock)

/-- From the length of the cipher suites on. -/
def encodeSuites : Bytes :=
  be16Bytes (.ofNat hello.cipherSuites.length) ++ (hello.cipherSuites ++ hello.encodeMethods)

/-- From the length of the session ID on. -/
def encodeFields : Bytes :=
  [.ofNat hello.sessionId.length] ++ (hello.sessionId ++ hello.encodeSuites)

/-- The record: its header, the handshake header, the body. -/
def encode : Bytes :=
  [22, hello.recordVersion.1, hello.recordVersion.2] ++
    (be16Bytes (.ofNat (4 + hello.bodyLength)) ++
      ([1, .ofNat (hello.bodyLength / 2 ^ 16), .ofNat (hello.bodyLength / 2 ^ 8),
        .ofNat hello.bodyLength] ++ ([hello.version.1, hello.version.2] ++
          (hello.random.toList ++ hello.encodeFields))))

theorem length_encode : hello.encode.length = 9 + hello.bodyLength := by
  simp only [encode, encodeFields, encodeSuites, encodeMethods, encodeBlock, bodyLength, be16Bytes,
    List.length_append, List.length_cons, List.length_nil, Vector.length_toList]
  omega

/-- Where the length of the extensions block stands. -/
def blockAt : Nat :=
  43 + (1 + hello.sessionId.length) + (2 + hello.cipherSuites.length) +
    (1 + hello.compressionMethods.length)

theorem length_encode_eq : hello.encode.length =
    hello.blockAt + 2 + (encodeExtensions hello.extensions).length := by
  rw [length_encode, bodyLength, blockAt]
  omega

end ClientHello

end GeSensor.Net

import PipelinedClient.Connection.Config
import PipelinedClient.Error

/-! Agreeing on a protocol version. The client sends a preamble and four versions;
the server answers with one of them, or zero if it knows none. -/

set_option autoImplicit false

namespace PipelinedClient.Handshake

def preamble : List UInt8 := [0x60, 0x60, 0xB0, 0x17]

/-- A word as four bytes, the most significant first. -/
def bytesOfWord (word : UInt32) : List UInt8 :=
  [24, 16, 8, 0].map fun shift => UInt8.ofNat (word.toNat >>> shift)

def wordOfBytes (bytes : List UInt8) : UInt32 :=
  UInt32.ofNat (bytes.foldl (fun word byte => word * 256 + byte.toNat) 0)

@[simp] theorem length_bytesOfWord (word : UInt32) : (bytesOfWord word).length = 4 := rfl

@[simp] theorem wordOfBytes_bytesOfWord (word : UInt32) :
    wordOfBytes (bytesOfWord word) = word := by
  have bound : word.toNat < UInt32.size := word.toNat_lt
  have value : (((word.toNat >>> 24 % UInt8.size * 256 + word.toNat >>> 16 % UInt8.size) * 256 +
      word.toNat >>> 8 % UInt8.size) * 256 + word.toNat >>> 0 % UInt8.size) = word.toNat := by
    simp only [UInt32.size, UInt8.size] at *
    omega
  simp only [wordOfBytes, bytesOfWord, List.map_cons, List.map_nil, List.foldl_cons,
    List.foldl_nil, UInt8.toNat_ofNat', Nat.zero_mul, Nat.zero_add]
  rw [value, UInt32.ofNat_toNat]

def request (versions : ProposedVersions) : List UInt8 :=
  preamble ++ versions.toList.flatMap bytesOfWord

/-- The answer of a server that knows none of the versions. -/
def noVersion : UInt32 := 0

/-- How an answer of a web server begins, read as a word. -/
def http : UInt32 := 0x48545450

inductive Refusal where
  | noCommonVersion
  | webServer
  | notProposed (version : UInt32)
  deriving DecidableEq

def Refusal.toError : Refusal → Error
  | .noCommonVersion => .connect "The server does not support any of the protocol versions supported by this driver. Ensure that you are using driver and server versions that are compatible with one another." none
  | .webServer => .connect "Server responded HTTP. Make sure you are not trying to connect to the http endpoint (HTTP defaults to port 7474 whereas BOLT defaults to port 7687)" none
  | .notProposed version => .protocol ⟨"Server negotiated protocol version " ++
      toString version.toNat ++ " which was not proposed", none⟩

/-- Judge the server's answer. The two answers with a meaning of their own are
refusals even where their numbers were proposed. -/
def agree (versions : ProposedVersions) (answer : UInt32) : Except Refusal UInt32 :=
  if answer = noVersion then .error .noCommonVersion
  else if answer = http then .error .webServer
  else if answer ∈ versions.toList then .ok answer
  else .error (.notProposed answer)

end PipelinedClient.Handshake

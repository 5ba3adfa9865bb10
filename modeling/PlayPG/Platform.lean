import PlayPG.Json

namespace PlayPG
open Bytes

-- APG's ByteBuffer is not part of this repository. Put and get are inverse;
-- what a read past the last byte yields is left open, and so is the byte order.
structure ByteBuffer where
  putShort : UInt16 → Bytes
  getShort : Bytes → UInt16
  putLong : UInt64 → Bytes
  getLong : Bytes → UInt64
  getStringByLength : Nat → Bytes → Bytes
  putShort_length : ∀ v, (putShort v).length = 2
  putLong_length : ∀ v, (putLong v).length = 8
  getShort_put : ∀ v rest, getShort (putShort v ++ rest) = v
  getLong_put : ∀ v rest, getLong (putLong v ++ rest) = v
  getString_put : ∀ s rest, getStringByLength s.length (s ++ rest) = s

theorem ByteBuffer.getShort_exact (apg : ByteBuffer) (v : UInt16) : apg.getShort (apg.putShort v) = v := by
  simpa using apg.getShort_put v []

-- Most significant byte first, and zeros past the end.
def ByteBuffer.network : ByteBuffer where
  putShort v := putBig 2 v.toNat
  getShort b := UInt16.ofNat (getBig (b.take 2))
  putLong v := putBig 8 v.toNat
  getLong b := UInt64.ofNat (getBig (b.take 8))
  getStringByLength n b := b.take n
  putShort_length v := putBig_length 2 _
  putLong_length v := putBig_length 8 _
  getShort_put v rest := by
    rw [List.take_left' (putBig_length 2 _),getBig_putBig,Nat.mod_eq_of_lt (by simpa using v.toNat_lt)]
    exact UInt16.ofNat_toNat
  getLong_put v rest := by
    rw [List.take_left' (putBig_length 8 _),getBig_putBig,Nat.mod_eq_of_lt (by simpa using v.toNat_lt)]
    exact UInt64.ofNat_toNat
  getString_put s rest := List.take_left' rfl

-- One call of recv; the gets that follow read its bytes from the first one on.
inductive Recv where
  | data (first : UInt8) (rest : Bytes)
  | nothing (shortfall : Nat)
  deriving DecidableEq

namespace Recv

def bytes : Recv → Bytes
  | .data first rest => first :: rest
  | .nothing _ => []

def result : Recv → Int
  | .data _ rest => rest.length + 1
  | .nothing shortfall => -shortfall

def ofBytes : Bytes → Recv
  | [] => .nothing 0
  | first :: rest => .data first rest

@[simp] theorem bytes_ofBytes (b : Bytes) : (ofBytes b).bytes = b := by cases b <;> rfl

theorem ofBytes_result (b : Bytes) : (ofBytes b).result = b.length := by cases b <;> simp [ofBytes,result]

end Recv

structure Socket where
  id : Nat
  error : Bool
  connected : Bool
  deriving DecidableEq

namespace Socket

-- The error flag can only be raised, by the platform or by setError.
def raise (socket : Socket) (flag : Bool) : Socket := {socket with error := socket.error || flag}
def setError (socket : Socket) : Socket := {socket with error := true}
def disconnect (socket : Socket) : Socket := {socket with connected := false}

@[simp] theorem raise_false (socket : Socket) : socket.raise false = socket := by simp [raise]

end Socket

-- Ways in which a handler stops the process instead of returning.
inductive Fault where
  | nullSocket
  | nullSession
  | nullCrypto
  | nullKey
  | danglingPointer
  | require (message : Bytes)
  | json (violation : Json.Violation)
  | assertArray
  | assertEvenHex
  deriving DecidableEq

theorem bind_ok {result : Except φ α} {next : α → Except φ β} :
    (result >>= next) = .ok b ↔ ∃ a, result = .ok a ∧ next a = .ok b := by
  cases result with
  | error fault => simp [bind,Except.bind]
  | ok a => simp [bind,Except.bind]

theorem map_ok {result : Except φ α} (mapped : result.map f = .ok b) : ∃ a, result = .ok a ∧ f a = b := by
  cases result with
  | error fault => cases mapped
  | ok a => exact ⟨a,rfl,by simpa [Except.map] using mapped⟩

def Fault.stopped : Except Fault α → Option Fault
  | .error fault => some fault
  | .ok _ => none

theorem Fault.stopped_some {result : Except Fault α} : Fault.stopped result = some fault ↔ result = .error fault := by
  cases result <;> simp [Fault.stopped]

def Fault.ofDecoder : Fault → Bool
  | .json _ | .assertArray | .assertEvenHex => true
  | _ => false

end PlayPG

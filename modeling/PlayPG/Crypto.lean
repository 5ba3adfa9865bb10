import PlayPG.Platform

namespace PlayPG
open Bytes

def lowerHexDigit (n : Nat) : UInt8 := UInt8.ofNat (if n < 10 then 48+n else 87+n)
def upperHexDigit (n : Nat) : UInt8 := UInt8.ofNat (if n < 10 then 48+n else 55+n)

def isSpace (byte : UInt8) : Bool := byte == 32 || (9 ≤ byte && byte ≤ 13)

def hexValue (byte : UInt8) : Option Nat :=
  if 48 ≤ byte ∧ byte ≤ 57 then some (byte.toNat - 48)
  else if 97 ≤ byte ∧ byte ≤ 102 then some (byte.toNat - 87)
  else if 65 ≤ byte ∧ byte ≤ 70 then some (byte.toNat - 55)
  else none

-- std::strtoul with base 16: leading white space, one sign and a 0x prefix are
-- skipped, the first byte that is no digit ends the number, and an unsigned
-- long that overflows saturates.
def strtoul16 (s : Bytes) : Nat :=
  let s := (cString s).dropWhile isSpace
  let negative := s.head? == some 45
  let s := if s.head? = some 45 ∨ s.head? = some 43 then s.tail else s
  let s := if s.take 2 = text "0x" ∨ s.take 2 = text "0X" then s.drop 2 else s
  let value := ((s.map hexValue).takeWhile Option.isSome).foldl (fun n digit => 16*n + digit.getD 0) 0
  if 2^64 ≤ value then 2^64 - 1 else if negative then (2^64 - value) % 2^64 else value

def pairs : Bytes → List Bytes
  | [] => []
  | [a] => [[a]]
  | a :: b :: rest => [a,b] :: pairs rest

namespace ByteArrayUtil

def byteVectorToString (vec : Bytes) : Bytes :=
  vec.flatMap (fun byte => [lowerHexDigit (byte.toNat / 16),lowerHexDigit (byte.toNat % 16)])

def byteArrayToString (array : Bytes) : Bytes := byteVectorToString array

def hexStringToByteVector (str : Bytes) : Except Fault Bytes :=
  if str.length % 2 = 0 then .ok ((pairs str).map (fun piece => UInt8.ofNat (strtoul16 piece)))
  else .error .assertEvenHex

end ByteArrayUtil

-- OpenSSL's RSA object, as functions on messages; none is the result -1.
structure RSA where
  size : Nat
  publicEncrypt : Bytes → Option Bytes
  privateDecrypt : Bytes → Option Bytes
  privateEncrypt : Bytes → Option Bytes
  publicDecrypt : Bytes → Option Bytes

def RSA.plain (size : Nat) : RSA := ⟨size,some,some,some,some⟩

structure RSACrypto where
  publicKey : Bytes
  keyPair : Option RSA
  hasPubKey : Bool
  hasPriKey : Bool

namespace RSACrypto

-- RSACrypto(publicKey): the PEM reader may give a null key, which is only logged.
def ofPublicKey (readPublicKey : Bytes → Option RSA) (publicKey : Bytes) : RSACrypto :=
  ⟨publicKey,readPublicKey publicKey,true,false⟩

-- The whole zeroed buffer of RSA_size bytes is returned, not only what was written.
def filled (size : Nat) (written : Bytes) : Bytes := (written ++ List.replicate size 0).take size

-- Encrypting asks RSA_size of the key before it looks at hasPubKey.
def encryptStringPublic (crypto : RSACrypto) (str : Bytes) : Except Fault Bytes :=
  match crypto.keyPair with
  | none => .error .nullKey
  | some keyPair =>
    if !crypto.hasPubKey then .ok []
    else match keyPair.publicEncrypt str with
      | none => .ok []
      | some buffer => .ok (filled keyPair.size buffer)

def decryptStringPrivate (crypto : RSACrypto) (encStr : Bytes) : Except Fault Bytes :=
  if !crypto.hasPriKey then .ok []
  else match crypto.keyPair with
    | none => .error .nullKey
    | some keyPair =>
      match keyPair.privateDecrypt encStr with
      | none => .ok []
      | some decrypted => .ok decrypted

def signStringPrivate (crypto : RSACrypto) (str : Bytes) : Except Fault Bytes :=
  match crypto.keyPair with
  | none => .error .nullKey
  | some keyPair =>
    if !crypto.hasPriKey then .ok []
    else match keyPair.privateEncrypt str with
      | none => .ok []
      | some buffer => .ok (filled keyPair.size buffer)

def unsignStringPublic (crypto : RSACrypto) (encStr : Bytes) : Except Fault Bytes :=
  if !crypto.hasPubKey then .ok []
  else match crypto.keyPair with
    | none => .error .nullKey
    | some keyPair =>
      match keyPair.publicDecrypt encStr with
      | none => .ok []
      | some decrypted => .ok decrypted

def verifyStringPublic (crypto : RSACrypto) (vec expected : Bytes) : Except Fault Bool :=
  match crypto.unsignStringPublic vec with
  | .error fault => .error fault
  | .ok deSignedString => .ok (deSignedString == expected)

def getPublicKeyPEM (crypto : RSACrypto) : Bytes := crypto.publicKey

end RSACrypto

abbrev Digest := { digest : Bytes // digest.length = 32 }

structure SHACrypto where
  pbkdf2 : Bytes → Bytes → Nat → Digest
  iterationCount : Nat

def SHACrypto.zero : SHACrypto := ⟨fun _ _ _ => ⟨List.replicate 32 0,by simp⟩,10000⟩

namespace SHACrypto

def hashPasswordSHA256 (hasher : SHACrypto) (password salt : Bytes) : Digest :=
  hasher.pbkdf2 password salt hasher.iterationCount

def bytesToString (bytes : Bytes) : Bytes :=
  bytes.flatMap (fun byte => [upperHexDigit (byte.toNat / 16),upperHexDigit (byte.toNat % 16)])

def sha256ToString (sha256 : Digest) : Bytes := bytesToString sha256.val
def saltToString (salt : Bytes) : Bytes := bytesToString salt

def stringToSalt (str : Bytes) : Bytes :=
  if str.length % 2 ≠ 0 then []
  else (pairs str).map (fun piece => UInt8.ofNat (strtoul16 piece))

end SHACrypto
end PlayPG

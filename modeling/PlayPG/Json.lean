import PlayPG.Bytes

-- rapidjson keeps a number as an integer when it fits 64 bits, else as a double.
inductive Json where
  | null
  | bool (value : Bool)
  | integer (value : Int)
  | double (digits : Bytes)
  | string (value : Bytes)
  | array (items : List Json)
  | object (members : List (Bytes × Json))

namespace Json
open Bytes

inductive Violation where
  | notObject
  | noMember (name : Bytes)
  | notString
  | notArray
  | notInt64
  | notInt
  | notBool
  deriving DecidableEq

-- operator[]: the first member of that name.
def member (name : Bytes) : Json → Except Violation Json
  | .object members =>
    match members.lookup name with
    | some value => .ok value
    | none => .error (.noMember name)
  | _ => .error .notObject

-- GetString hands out a C string; every use copies it up to the first NUL.
def getString : Json → Except Violation Bytes
  | .string value => .ok (cString value)
  | _ => .error .notString

def isArray : Json → Bool
  | .array _ => true
  | _ => false

def getItems : Json → Except Violation (List Json)
  | .array items => .ok items
  | _ => .error .notArray

def getInt64 : Json → Except Violation Int
  | .integer value => if -2^63 ≤ value ∧ value < 2^63 then .ok value else .error .notInt64
  | _ => .error .notInt64

def getInt : Json → Except Violation Int
  | .integer value => if -2^31 ≤ value ∧ value < 2^31 then .ok value else .error .notInt
  | _ => .error .notInt

def getBool : Json → Except Violation Bool
  | .bool value => .ok value
  | _ => .error .notBool

-- Quotes, backslashes and control characters are escaped, other bytes copied.
def hexDigit (n : Nat) : UInt8 := UInt8.ofNat (if n < 10 then 48+n else 55+n)

def escape (byte : UInt8) : Bytes :=
  if byte = 34 ∨ byte = 92 then [92,byte]
  else if byte = 8 then text "\\b"
  else if byte = 9 then text "\\t"
  else if byte = 10 then text "\\n"
  else if byte = 12 then text "\\f"
  else if byte = 13 then text "\\r"
  else if byte < 32 then text "\\u00" ++ [hexDigit (byte.toNat / 16),hexDigit (byte.toNat % 16)]
  else [byte]

def quoted (value : Bytes) : Bytes := 34 :: value.flatMap escape ++ [34]

mutual
def write : Json → Bytes
  | .null => text "null"
  | .bool value => text (if value then "true" else "false")
  | .integer value => text (toString value)
  | .double digits => digits
  | .string value => quoted value
  | .array items => 91 :: writeItems items ++ [93]
  | .object members => 123 :: writeMembers members ++ [125]

def writeItems : List Json → Bytes
  | [] => []
  | [item] => write item
  | item :: next :: rest => write item ++ 44 :: writeItems (next :: rest)

def writeMembers : List (Bytes × Json) → Bytes
  | [] => []
  | [(name,value)] => quoted name ++ 58 :: write value
  | (name,value) :: next :: rest => quoted name ++ 58 :: write value ++ 44 :: writeMembers (next :: rest)
end

-- Every text but those of the documents is malformed and leaves a null document.
def known (documents : List Json) (json : Bytes) : Json := (documents.find? (·.write == json)).getD .null

end Json

example : Json.write (.object [(Bytes.text "a",.array [.integer (-3),.null])]) = Bytes.text "\x7b\"a\":[-3,null]\x7d" := by decide

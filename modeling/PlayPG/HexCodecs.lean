import Mathlib.Data.Nat.Digits.Defs
import PlayPG.Codecs

-- The three encoders as the stream insertions they are written as, the
-- decoders as the index loops they are, and what holds between all of them.
namespace PlayPG.HexCodecs
open Bytes Codecs

-- std::ostringstream: base, case and fill stay as the manipulators leave them,
-- the width is back to zero after each number that is inserted.
structure Ostream where
  text : Bytes
  base : Nat
  digit : Nat → UInt8
  fill : UInt8
  width : Nat

namespace Ostream

def empty : Ostream := ⟨[],10,lowerHexDigit,32,0⟩
def hex (ss : Ostream) : Ostream := {ss with base := 16}
def upperCase (ss : Ostream) : Ostream := {ss with digit := upperHexDigit}
def setw (ss : Ostream) (width : Nat) : Ostream := {ss with width := width}
def setfill (ss : Ostream) (fill : UInt8) : Ostream := {ss with fill := fill}

def number (ss : Ostream) (n : Nat) : Bytes :=
  if n = 0 then [ss.digit 0] else (Nat.digits ss.base n).reverse.map ss.digit

def put (ss : Ostream) (n : Nat) : Ostream :=
  {ss with
    text := ss.text ++ (List.replicate (ss.width - (ss.number n).length) ss.fill ++ ss.number n)
    width := 0}

-- A zero and a width of two make one digit into two.
theorem put_padded (ss : Ostream) (byte : UInt8) (hexadecimal : ss.base = 16) (zero : ss.digit 0 = 48)
    (fill : ss.fill = 48) (width : ss.width = 2) :
    (ss.put byte.toNat).text = ss.text ++ [ss.digit (byte.toNat / 16),ss.digit (byte.toNat % 16)] := by
  have bound := byte.toNat_lt
  simp only [put,number]
  rw [hexadecimal,fill,width]
  congr 1
  by_cases none : byte.toNat = 0
  · simp [none,zero]
  · rw [if_neg none]
    by_cases single : byte.toNat < 16
    · rw [Nat.digits_of_lt 16 _ none single]
      have high : byte.toNat / 16 = 0 := by omega
      have low : byte.toNat % 16 = byte.toNat := by omega
      simp [high,low,zero]
    · have high : byte.toNat / 16 ≠ 0 := by omega
      rw [Nat.digits_def' (by decide) (by omega),Nat.digits_of_lt 16 _ high (by omega)]
      simp

-- A loop whose body adds the two digits of each byte writes the digits of all of them.
theorem loop_digits {step : Ostream → UInt8 → Ostream} {S : Ostream → Prop} {digit : Nat → UInt8}
    (body : ∀ ss byte, S ss → S (step ss byte) ∧
      (step ss byte).text = ss.text ++ [digit (byte.toNat / 16),digit (byte.toNat % 16)])
    (bytes : Bytes) (ss : Ostream) (set : S ss) : (bytes.foldl step ss).text = ss.text ++ digits digit bytes := by
  induction bytes generalizing ss with
  | nil => simp [digits]
  | cons byte rest ih =>
    obtain ⟨still,added⟩ := body ss byte set
    rw [List.foldl_cons,ih _ still,added]
    simp [digits]

end Ostream

-- for (i = 0; i < count; ++i) ss << hex << setw(2) << setfill('0') << (uint16_t(array[i]) & 0xFF)
def byteArrayToString (count : Nat) (array : Fin count → UInt8) : Bytes :=
  ((List.finRange count).foldl (fun (ss : Ostream) i =>
    ((ss.hex.setw 2).setfill 48).put ((array i).toNat &&& 0xFF)) .empty).text

def byteVectorToString (vec : Bytes) : Bytes :=
  (vec.foldl (fun (ss : Ostream) c => ((ss.hex.setw 2).setfill 48).put (c.toNat &&& 0xFF)) .empty).text

-- The manipulators stand before the loop here; only setw is repeated.
def bytesToString (bytes : Bytes) : Bytes :=
  (bytes.foldl (fun (ss : Ostream) byte => (ss.setw 2).put byte.toNat) (Ostream.empty.hex.setfill 48).upperCase).text

def substr (str : Bytes) (pos count : Nat) : Bytes := (str.drop pos).take count

-- The body of the loop from index i on, which moves two characters at a time.
def decodeFrom (str : Bytes) (i : Nat) : Bytes :=
  if i < str.length then
    UInt8.ofNat (strtoul16 (substr str i 2) &&& 0xFF) :: decodeFrom str (i+2)
  else []
termination_by str.length - i

def hexStringToByteVector (str : Bytes) : Except Fault Bytes :=
  if str.length % 2 = 0 then .ok (decodeFrom str 0) else .error .assertEvenHex

def stringToSalt (str : Bytes) : Bytes :=
  if str.length % 2 ≠ 0 then []
  else (List.range (str.length / 2)).map (fun i => UInt8.ofNat (strtoul16 (substr str (i*2) 2)))

-- none is the array as it was declared: too short a text leaves it unset.
def stringToSHA256 (str : Bytes) : Option Digest :=
  if str.length < 32 * 2 then none
  else some ⟨(List.range 32).map (fun i => UInt8.ofNat (strtoul16 (substr str (i*2) 2))),by simp⟩

def toUpper (byte : UInt8) : UInt8 := if 97 ≤ byte ∧ byte ≤ 122 then byte - 32 else byte

theorem low_byte (byte : UInt8) : byte.toNat &&& 0xFF = byte.toNat := by
  have bound := byte.toNat_lt
  have mask := Nat.and_two_pow_sub_one_eq_mod byte.toNat 8
  have whole : byte.toNat % 2^8 = byte.toNat := Nat.mod_eq_of_lt bound
  exact mask.trans whole

theorem ofNat_low (n : Nat) : UInt8.ofNat (n &&& 0xFF) = UInt8.ofNat n := by
  have mask := Nat.and_two_pow_sub_one_eq_mod n 8
  apply UInt8.toNat_inj.mp
  simp only [UInt8.toNat_ofNat']
  change (n &&& 2^8 - 1) % 2^8 = n % 2^8
  rw [mask,Nat.mod_mod]

theorem byteVectorToString_digits (vec : Bytes) : byteVectorToString vec = digits lowerHexDigit vec := by
  apply Ostream.loop_digits (S:=fun ss => ss.digit = lowerHexDigit) _ vec .empty rfl
  intro ss byte lower
  refine ⟨lower,?_⟩
  rw [low_byte,← lower]
  apply Ostream.put_padded ((ss.hex.setw 2).setfill 48) byte rfl _ rfl rfl
  change ss.digit 0 = 48
  rw [lower]
  rfl

theorem bytesToString_digits (bytes : Bytes) : bytesToString bytes = digits upperHexDigit bytes := by
  apply Ostream.loop_digits (S:=fun ss => ss.digit = upperHexDigit ∧ ss.base = 16 ∧ ss.fill = 48) _ bytes _
    ⟨rfl,rfl,rfl⟩
  intro ss byte set
  refine ⟨set,?_⟩
  obtain ⟨upper,hexadecimal,fill⟩ := set
  rw [← upper]
  apply Ostream.put_padded (ss.setw 2) byte hexadecimal _ fill rfl
  change ss.digit 0 = 48
  rw [upper]
  rfl

theorem byteArrayToString_vector (vec : Bytes) : byteArrayToString vec.length vec.get = byteVectorToString vec := by
  unfold byteArrayToString byteVectorToString
  conv_rhs => rw [← List.map_get_finRange vec,List.foldl_map]

theorem even_rest (even : (a :: b :: rest : Bytes).length % 2 = 0) : rest.length % 2 = 0 := by
  simp only [List.length_cons] at even
  omega

-- An even text is cut at the same places by the loop index and by the pairs.
theorem pairs_substr (even : str.length % 2 = 0) :
    pairs str = (List.range (str.length / 2)).map (fun i => substr str (i*2) 2) := by
  induction str using pairs.induct with
  | case1 => rfl
  | case2 a => simp at even
  | case3 a b rest ih =>
    have half : (a :: b :: rest).length / 2 = rest.length / 2 + 1 := by
      simp only [List.length_cons]
      omega
    rw [pairs,ih (even_rest even),half,List.range_succ_eq_map,List.map_cons,List.map_map]
    congr 1
    apply List.map_congr_left
    intro i _
    simp [substr,Nat.succ_mul]

theorem decodeFrom_pairs (str : Bytes) (i : Nat) (even : (str.drop i).length % 2 = 0) :
    decodeFrom str i = (pairs (str.drop i)).map (fun piece => UInt8.ofNat (strtoul16 piece)) := by
  induction i using decodeFrom.induct str with
  | case1 i inside ih =>
    have two : 2 ≤ (str.drop i).length := by
      rw [List.length_drop] at even ⊢
      omega
    obtain ⟨a,rest,first⟩ := List.exists_cons_of_length_pos (l:=str.drop i) (by omega)
    obtain ⟨b,tail,second⟩ := List.exists_cons_of_length_pos (l:=rest) (by
      rw [first,List.length_cons] at two
      omega)
    subst second
    have later : str.drop (i+2) = tail := by
      rw [← List.drop_drop,first]
      rfl
    have evenTail : (str.drop (i+2)).length % 2 = 0 := by
      rw [List.length_drop] at even ⊢
      omega
    rw [decodeFrom,if_pos inside,ih evenTail,later,substr,first,ofNat_low]
    rfl
  | case2 i outside =>
    rw [decodeFrom,if_neg outside,List.drop_eq_nil_of_le (by omega)]
    rfl

theorem byteVectorToString_eq (vec : Bytes) : byteVectorToString vec = ByteArrayUtil.byteVectorToString vec :=
  byteVectorToString_digits vec

theorem byteArrayToString_eq (vec : Bytes) :
    byteArrayToString vec.length vec.get = ByteArrayUtil.byteArrayToString vec :=
  (byteArrayToString_vector vec).trans (byteVectorToString_eq vec)

theorem bytesToString_eq (bytes : Bytes) : bytesToString bytes = SHACrypto.bytesToString bytes :=
  bytesToString_digits bytes

theorem hexStringToByteVector_eq (str : Bytes) : hexStringToByteVector str = ByteArrayUtil.hexStringToByteVector str := by
  unfold hexStringToByteVector ByteArrayUtil.hexStringToByteVector
  split_ifs with even
  · rw [decodeFrom_pairs str 0 even]
    rfl
  · rfl

theorem stringToSalt_eq (str : Bytes) : stringToSalt str = SHACrypto.stringToSalt str := by
  unfold stringToSalt SHACrypto.stringToSalt
  split_ifs with odd
  · rfl
  · rw [pairs_substr (not_not.mp odd),List.map_map]
    rfl

theorem decoders_agree (even : str.length % 2 = 0) : hexStringToByteVector str = .ok (stringToSalt str) := by
  rw [hexStringToByteVector_eq,stringToSalt_eq,ByteArrayUtil.hexStringToByteVector,if_pos even,
    SHACrypto.stringToSalt,if_neg (not_not.mpr even)]

-- A text of exactly 64 characters is read by the array decoder as by the other two.
theorem stringToSHA256_salt (full : str.length = 64) (bytes : (stringToSalt str).length = 32) :
    stringToSHA256 str = some ⟨stringToSalt str,bytes⟩ := by
  have enough : ¬str.length < 32 * 2 := by omega
  have even : ¬str.length % 2 ≠ 0 := by omega
  have half : str.length / 2 = 32 := by omega
  have same : (List.range 32).map (fun i => UInt8.ofNat (strtoul16 (substr str (i*2) 2))) = stringToSalt str := by
    rw [stringToSalt,if_neg even,half]
  rw [stringToSHA256,if_neg enough]
  congr 1
  exact Subtype.ext same

theorem toUpper_digit : ∀ n < 16, toUpper (lowerHexDigit n) = upperHexDigit n := by decide

theorem digits_upper (bytes : Bytes) : (digits lowerHexDigit bytes).map toUpper = digits upperHexDigit bytes := by
  induction bytes with
  | nil => rfl
  | cons byte rest ih =>
    have bound := byte.toNat_lt
    simp only [digits,List.flatMap_cons,List.map_append,List.map_cons,List.map_nil] at ih ⊢
    rw [ih,toUpper_digit _ (by omega),toUpper_digit _ (by omega)]

theorem digits_decoded (hex : digit = lowerHexDigit ∨ digit = upperHexDigit) (bytes : Bytes) :
    (digits digit bytes).length % 2 = 0 ∧ stringToSalt (digits digit bytes) = bytes := by
  have even : (digits digit bytes).length % 2 = 0 := by
    rw [digits_length]
    omega
  refine ⟨even,?_⟩
  rw [stringToSalt_eq,SHACrypto.stringToSalt,if_neg (not_not.mpr even),digits_read hex]

theorem hex_codecs_agree :
    (∀ v : Bytes,
      byteArrayToString v.length v.get = byteVectorToString v ∧
      bytesToString v = (byteVectorToString v).map toUpper ∧
      ∀ str, str = byteVectorToString v ∨ str = bytesToString v →
        hexStringToByteVector str = .ok v ∧ stringToSalt str = v ∧
        ∀ full : v.length = 32, stringToSHA256 str = some ⟨v,full⟩) ∧
    ∀ str : Bytes, str.length % 2 = 0 → hexStringToByteVector str = .ok (stringToSalt str) := by
  constructor
  · intro v
    refine ⟨byteArrayToString_vector v,?_,?_⟩
    · rw [bytesToString_digits,byteVectorToString_digits,digits_upper]
    · intro str either
      have written : ∃ digit, (digit = lowerHexDigit ∨ digit = upperHexDigit) ∧ str = digits digit v := by
        cases either with
        | inl lower => exact ⟨_,.inl rfl,lower.trans (byteVectorToString_digits v)⟩
        | inr upper => exact ⟨_,.inr rfl,upper.trans (bytesToString_digits v)⟩
      obtain ⟨digit,hex,text⟩ := written
      obtain ⟨even,back⟩ := digits_decoded hex v
      rw [← text] at even back
      refine ⟨?_,back,?_⟩
      · rw [decoders_agree even,back]
      · intro full
        have length : str.length = 64 := by rw [text,digits_length,full]
        rw [stringToSHA256_salt length (by rw [back,full])]
        congr 1
        exact Subtype.ext back
  · intro str even
    exact decoders_agree even

def isHexDigit (byte : UInt8) : Prop := (hexValue byte).isSome

instance : DecidablePred isHexDigit := fun byte => inferInstanceAs (Decidable ((hexValue byte).isSome = true))

-- What holds of all the values below 256 holds of every byte.
theorem forall_byte {P : UInt8 → Prop} (all : ∀ value < 256, P (UInt8.ofNat value)) (byte : UInt8) : P byte := by
  have here := all byte.toNat byte.toNat_lt
  rw [UInt8.ofNat_toNat] at here
  exact here

-- Only a hex digit is a hex digit in upper case.
theorem digit_of_upper (small : n < 16) (byte : UInt8) (same : toUpper byte = upperHexDigit n) : isHexDigit byte := by
  have digits : ∀ n < 16, isHexDigit (upperHexDigit n) := by decide
  have lower : ∀ byte : UInt8, isHexDigit (toUpper byte) → isHexDigit byte := forall_byte (by decide +kernel)
  apply lower
  rw [same]
  exact digits n small

def digitValue (byte : UInt8) : Nat := (hexValue byte).getD 0

-- strtoul passes over none of the digits: not over white space, a sign or a prefix.
structure Digit (byte : UInt8) (value : Nat) : Prop where
  small : value < 16
  digit : hexValue byte = some value
  upper : toUpper byte = upperHexDigit value
  leads : byte ≠ 0 ∧ isSpace byte = false ∧ byte ≠ 45 ∧ byte ≠ 43
  unmarked : byte ≠ 120 ∧ byte ≠ 88

theorem digit_parts (hex : isHexDigit byte) : Digit byte (digitValue byte) := by
  have all : ∀ byte : UInt8, isHexDigit byte →
      digitValue byte < 16 ∧ toUpper byte = upperHexDigit (digitValue byte) ∧
      (byte ≠ 0 ∧ isSpace byte = false ∧ byte ≠ 45 ∧ byte ≠ 43) ∧ byte ≠ 120 ∧ byte ≠ 88 :=
    forall_byte (by decide +kernel)
  obtain ⟨small,upper,leads,unmarked⟩ := all byte hex
  obtain ⟨value,digit⟩ := Option.isSome_iff_exists.mp hex
  exact ⟨small,by rw [digitValue,digit]; rfl,upper,leads,unmarked⟩

theorem pair_strtoul (high : Digit a m) (low : Digit b n) : strtoul16 [a,b] = 16*m + n := by
  have whole : cString [a,b] = [a,b] := by
    apply cString_of_free
    simp [high.leads.1.symm,low.leads.1.symm]
  have plain : ¬([a,b] = text "0x" ∨ [a,b] = text "0X") := by
    intro marked
    rcases marked with marked | marked
    · exact low.unmarked.1 (List.cons.inj (List.cons.inj marked).2).1
    · exact low.unmarked.2 (List.cons.inj (List.cons.inj marked).2).1
  have bounds : m < 16 ∧ n < 16 := ⟨high.small,low.small⟩
  simp only [strtoul16,whole,List.dropWhile_cons,high.leads.2.1,Bool.false_eq_true,if_false]
  simp [high.leads,plain,high.digit,low.digit]
  omega

-- The byte of two digits, of any mixture of cases, is written as the same two again.
theorem pair_written (hexA : isHexDigit a) (hexB : isHexDigit b) :
    (digits lowerHexDigit [UInt8.ofNat (strtoul16 [a,b])]).map toUpper = [toUpper a,toUpper b] := by
  obtain ⟨m,high⟩ : ∃ m, Digit a m := ⟨_,digit_parts hexA⟩
  obtain ⟨n,low⟩ : ∃ n, Digit b n := ⟨_,digit_parts hexB⟩
  have bounds : m < 16 ∧ n < 16 := ⟨high.small,low.small⟩
  have byte : (UInt8.ofNat (16*m + n)).toNat = 16*m + n := UInt8.toNat_ofNat_of_lt' (by show _ < 256; omega)
  have first : (16*m + n) / 16 = m := by omega
  have second : (16*m + n) % 16 = n := by omega
  rw [pair_strtoul high low,digits_upper,high.upper,low.upper]
  simp only [digits,List.flatMap_cons,List.flatMap_nil,List.append_nil,byte,first,second]

theorem hex_written {str : Bytes} (even : str.length % 2 = 0) (hex : ∀ byte ∈ str, isHexDigit byte) :
    (digits lowerHexDigit ((pairs str).map (fun piece => UInt8.ofNat (strtoul16 piece)))).map toUpper =
      str.map toUpper := by
  induction str using pairs.induct with
  | case1 => rfl
  | case2 a => simp at even
  | case3 a b rest ih =>
    simp only [List.forall_mem_cons] at hex
    obtain ⟨hexA,hexB,later⟩ := hex
    have two := pair_written hexA hexB
    simp only [digits,List.flatMap_cons,List.flatMap_nil,List.append_nil] at two ih
    simp only [pairs,digits,List.map_cons,List.flatMap_cons,List.map_append]
    rw [ih (even_rest even) later]
    exact congrArg (· ++ rest.map toUpper) two

theorem written_hex {str : Bytes} (bytes : Bytes) (same : (digits lowerHexDigit bytes).map toUpper = str.map toUpper) :
    ∀ byte ∈ str, isHexDigit byte := by
  intro byte member
  have image : toUpper byte ∈ str.map toUpper := List.mem_map_of_mem member
  rw [← same,digits_upper] at image
  obtain ⟨source,_,here⟩ := List.mem_flatMap.mp image
  have bound := source.toNat_lt
  rcases List.mem_cons.mp here with high | low
  · exact digit_of_upper (by omega) byte high
  · exact digit_of_upper (by omega) byte (List.mem_singleton.mp low)

theorem decoders_accept (str : Bytes) :
    ((∀ b, hexStringToByteVector str = .ok b → (byteVectorToString b).map toUpper = str.map toUpper) ∧
      (str.length % 2 = 0 → (byteVectorToString (stringToSalt str)).map toUpper = str.map toUpper)) ↔
      (str.length % 2 = 0 → ∀ byte ∈ str, isHexDigit byte) := by
  constructor
  · intro faithful even
    have same := faithful.2 even
    rw [byteVectorToString_digits] at same
    exact written_hex _ same
  · intro hex
    have saltWritten : str.length % 2 = 0 → (byteVectorToString (stringToSalt str)).map toUpper = str.map toUpper := by
      intro even
      rw [byteVectorToString_digits,stringToSalt_eq,SHACrypto.stringToSalt,if_neg (not_not.mpr even)]
      exact hex_written even (hex even)
    refine ⟨?_,saltWritten⟩
    intro b decoded
    have even : str.length % 2 = 0 := by
      by_contra odd
      simp [hexStringToByteVector,odd] at decoded
    have same := decoders_agree even
    rw [decoded] at same
    rw [Except.ok.inj same]
    exact saltWritten even

-- A sign and one digit is the byte of the negated number.
theorem decoders_accept_sign :
    ¬∀ str b, hexStringToByteVector str = .ok b → (byteVectorToString b).map toUpper = str.map toUpper := by
  intro claim
  have decoded : hexStringToByteVector (text "-1") = .ok [255] := by
    rw [hexStringToByteVector_eq]
    decide +kernel
  have same := claim _ _ decoded
  rw [byteVectorToString_digits] at same
  revert same
  decide +kernel

end PlayPG.HexCodecs

import WalletSync.Digest.Keccak256
import WalletSync.Family
import WalletSync.Text.Hex

/-!
Addresses. One family has texts of a fixed length over an alphabet of 32 characters; the other one
twenty bytes in hexadecimal, whose digits are written in upper case where a digest of the text in
lower case says so. Texts that are no address are left as they are.
-/

namespace WalletSync

open Text

namespace Bech32

def alphabet : List Char := "qpzry9x8gf2tvdw0s3jn54khce6mua7l".toList

def opening : List Char := "erd1".toList

/-- The length of an address in bytes. -/
def length : Nat := 62

def isAddress (text : String) : Bool :=
  text.utf8ByteSize = length && opening.isPrefixOf text.toList
    && (text.toList.drop opening.length).all alphabet.contains

end Bech32

namespace HexAddress

/-- The text without a leading `0x`, whose letter may be of either case. -/
def withoutMark (text : String) : String :=
  match text.toList with
  | '0' :: 'x' :: rest | '0' :: 'X' :: rest => String.ofList rest
  | _ => text

/-- The bytes of a text of `length` bytes, which may be marked as hexadecimal. -/
def fixedBytes? (length : Nat) (text : String) : Option (List UInt8) :=
  match bytesOfHex (withoutMark text) with
  | .ok bytes => if bytes.length = length then some bytes else none
  | .error _ => none

def bytes? (text : String) : Option (List UInt8) := fixedBytes? 20 text

/-- The address of twenty bytes. A letter is in upper case when the digit of the digest at its
place is eight or more. -/
def checksummed (bytes : List UInt8) : String :=
  let digits := hexOfBytes bytes
  let digest := hexOfBytes (Keccak256.digest (String.ofList digits).toUTF8.toList)
  let cased := digits.zipWith (fun c d => if 8 ≤ (hexDigit? d).getD 0 then c.toUpper else c) digest
  String.ofList ('0' :: 'x' :: cased)

def normalize (text : String) : String := ((bytes? text).map checksummed).getD text

def isAddress (text : String) : Bool :=
  ['0', 'x'].isPrefixOf text.toList && (bytes? text).isSome

end HexAddress

namespace Family

def isValidAddress : Family → String → Bool
  | .elrond => Bech32.isAddress
  | .ethereum => HexAddress.isAddress

/-- The form of an address that is compared and stored. -/
def normalizeAddress : Family → String → String
  | .elrond => id
  | .ethereum => HexAddress.normalize

end Family

end WalletSync

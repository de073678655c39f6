/-!
# Messages in blocks

A digest reads its message in blocks of 64 bytes. The message is closed with a byte `0x80`, as many
zeros as it takes, and its length in bits as eight bytes, so that it fills whole blocks.
-/

namespace JobLog.Digest

/-- The hexadecimal digit of a number below 16, in lower case. -/
def digit (n : Nat) : Char :=
  if n < 10 then Char.ofNat (48 + n) else Char.ofNat (87 + n)

/-- Bytes in hexadecimal, two lower-case digits each. -/
def hex (bytes : List UInt8) : String :=
  String.ofList (bytes.flatMap fun b => [digit (b.toNat / 16), digit (b.toNat % 16)])

/-- The lowest `count` bytes of a number, the lowest first. -/
def littleEndian : Nat → Nat → List UInt8
  | 0, _ => []
  | count + 1, n => UInt8.ofNat (n % 256) :: littleEndian count (n / 256)

/-- The lowest `count` bytes of a number, the lowest last. -/
def bigEndian (count n : Nat) : List UInt8 :=
  (littleEndian count n).reverse

/-- The number with these bytes, the lowest last. -/
def ofBigEndian (bytes : List UInt8) : UInt32 :=
  bytes.foldl (fun n b => n <<< 8 ||| b.toUInt32) 0

/-- The number with these bytes, the lowest first. -/
def ofLittleEndian (bytes : List UInt8) : UInt32 :=
  ofBigEndian bytes.reverse

/-- A message with its end marked; `size` writes the length. -/
def padded (size : Nat → List UInt8) (message : List UInt8) : List UInt8 :=
  let length := message.length
  message ++ 0x80 :: List.replicate ((119 - length % 64) % 64) 0 ++ size (8 * length)

/-- Four bytes at a time, up to `count` times. -/
def words (read : List UInt8 → UInt32) : Nat → List UInt8 → List UInt32
  | 0, _ => []
  | count + 1, bytes => read (bytes.take 4) :: words read count (bytes.drop 4)

/-- Run through the blocks of a message. -/
def absorb {State : Type} (compress : State → List UInt8 → State) (state : State)
    (bytes : List UInt8) : State :=
  match bytes with
  | [] => state
  | b :: rest => absorb compress (compress state (b :: rest.take 63)) (rest.drop 63)
termination_by bytes.length
decreasing_by simp only [List.length_drop, List.length_cons]; omega

/-- Rotate a word to the left. -/
def rotateLeft (w : UInt32) (places : UInt32) : UInt32 :=
  w <<< places ||| w >>> (32 - places)

/-- Rotate a word to the right. -/
def rotateRight (w : UInt32) (places : UInt32) : UInt32 :=
  w >>> places ||| w <<< (32 - places)

end JobLog.Digest

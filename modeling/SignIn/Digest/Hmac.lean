import SignIn.Digest.Sha256

/-!
# HMAC

The keyed hash of RFC 2104 over SHA-256. A key longer than a block is replaced by its hash.
-/

namespace SignIn.Hmac

def blockSize : Nat := 64

def keyBlock (key : List UInt8) : List UInt8 :=
  let short := if blockSize < key.length then Sha256.hash key else key
  short ++ List.replicate (blockSize - short.length) 0

/-- The keyed hash of a message: 32 octets. -/
def sign (key message : List UInt8) : List UInt8 :=
  let block := keyBlock key
  let inner := Sha256.hash (block.map (· ^^^ 0x36) ++ message)
  Sha256.hash (block.map (· ^^^ 0x5C) ++ inner)

/-- A signature has the length of a digest. -/
theorem length_sign (key message : List UInt8) : (sign key message).length = 32 :=
  Sha256.length_hash _

end SignIn.Hmac

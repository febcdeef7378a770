import SM.Lib.Framing
import SM.Utils.PackInt

/-!
# Net head of stream transports

`StreamNetDealer` packs and unpacks the eight-byte net head, body length and
message number in network order, which precedes every body on a TCP or full
duplex channel. `streamFraming` states what the head is for: it makes a
message delimit itself in a byte stream. Bodies of `maxBody` bytes or more have
no frame, since `HeadLen() + Len()` then leaves the range of `int`.
-/

namespace SM.Network

open SM.Lib SM.Utils

/-- `NMessage`: a message number with the body it belongs to. -/
structure NMessage where
  no : UInt32
  body : Bytes
deriving DecidableEq, Repr

/-- The members of `StreamNetDealer`; `len` holds the bits of an `int`. -/
structure StreamNetDealer where
  len : UInt32
  no : UInt32
deriving DecidableEq, Repr

namespace StreamNetDealer

/-- `sizeof(_len) + sizeof(_no)`. -/
def headLen : Nat := 8

/-- `Len()`. -/
def lenInt (dealer : StreamNetDealer) : Int := intOfBits dealer.len

def getNo (dealer : StreamNetDealer) : UInt32 := dealer.no

/-- Success flag and the members afterwards. The `no` parameter of the source
is never assigned. -/
def unpack (dealer : StreamNetDealer) (src : Bytes) : Bool × StreamNetDealer :=
  match unpackuint32 src 0 with
  | (false, _, _) => (false, dealer)
  | (true, tail, temp) =>
      match unpackuint32 tail temp with
      | (false, _, _) => (false, { dealer with len := temp })
      | (true, _, temp') => (true, { len := temp, no := temp' })

/-- The members afterwards and the eight bytes written to `dst`. -/
def pack (no : UInt32) (len : Nat) : StreamNetDealer × Bytes :=
  let dealer : StreamNetDealer := { len := UInt32.ofNat len, no := no }
  (dealer, packuint32 dealer.len ++ packuint32 dealer.no)

/-- The `int` expression `HeadLen() + Len()`. -/
def frameLen (dealer : StreamNetDealer) : Int := intAdd headLen dealer.lenInt

end StreamNetDealer

/-- Bodies from this length on overflow `HeadLen() + Len()`. -/
def maxBody : Nat := 2 ^ 31 - 8

/-- The head of a message followed by its body. -/
def encodeMessage (message : NMessage) : Bytes :=
  (StreamNetDealer.pack message.no message.body.length).2 ++ message.body

/-- The first message of a byte string, with the bytes after it. -/
def nextMessage (input : Bytes) : Option (NMessage × Bytes) :=
  let len := (ntohl (input.take 4)).toNat
  if 8 ≤ input.length ∧ len < maxBody ∧ 8 + len ≤ input.length then
    some (⟨ntohl ((input.drop 4).take 4), (input.drop 8).take len⟩, input.drop (8 + len))
  else none

/-- A head has eight bytes. -/
@[simp] theorem length_pack (no : UInt32) (len : Nat) :
    (StreamNetDealer.pack no len).2.length = 8 := by
  simp [StreamNetDealer.pack, packuint32]

/-- A message has a head of eight bytes. -/
@[simp] theorem length_encodeMessage (message : NMessage) :
    (encodeMessage message).length = 8 + message.body.length := by
  simp [encodeMessage]

/-- A head determines its number and its length. -/
theorem pack_inj {no no' : UInt32} {len len' : Nat}
    (same : (StreamNetDealer.pack no len).2 = (StreamNetDealer.pack no' len').2) :
    no = no' ∧ UInt32.ofNat len = UInt32.ofNat len' := by
  obtain ⟨lens, nos⟩ := List.append_inj same (by simp [packuint32])
  exact ⟨htonl_injective nos, htonl_injective lens⟩

/-- A packed head is recognised whatever the members were before and whatever
bytes follow it. -/
theorem unpack_pack (dealer : StreamNetDealer) (no : UInt32) (len : Nat) (rest : Bytes) :
    dealer.unpack ((StreamNetDealer.pack no len).2 ++ rest) =
      (true, { len := UInt32.ofNat len, no := no }) := by
  simp [StreamNetDealer.unpack, StreamNetDealer.pack, packuint32, List.append_assoc]

/-- Any eight bytes form a net head. -/
theorem unpack_of_length (dealer : StreamNetDealer) {src : Bytes} (enough : 8 ≤ src.length) :
    dealer.unpack src =
      (true, { len := ntohl (src.take 4), no := ntohl ((src.drop 4).take 4) }) := by
  have first : ¬ src.length < 4 := by omega
  have second : ¬ (src.drop 4).length < 4 := by
    rw [List.length_drop]
    omega
  simp only [StreamNetDealer.unpack, unpackuint32, first, second, if_false]

/-- Eight bytes are the head packed from the numbers they denote. -/
theorem take_eight_eq_pack {src : Bytes} (enough : 8 ≤ src.length) :
    src.take 8 = (StreamNetDealer.pack (ntohl ((src.drop 4).take 4))
      (ntohl (src.take 4)).toNat).2 := by
  have split : src.take 8 = src.take 4 ++ (src.drop 4).take 4 := by
    rw [← List.take_add]
  have lengthWidth : (src.take 4).length = 4 := by
    rw [List.length_take]
    omega
  have numberWidth : ((src.drop 4).take 4).length = 4 := by
    rw [List.length_take, List.length_drop]
    omega
  simp only [StreamNetDealer.pack, packuint32, UInt32.ofNat_toNat]
  rw [htonl_ntohl lengthWidth, htonl_ntohl numberWidth, split]

/-- The length of a short frame does not overflow. -/
theorem frameLen_of_small (dealer : StreamNetDealer) (small : dealer.len.toNat < maxBody) :
    dealer.frameLen = 8 + dealer.len.toNat := by
  simp only [maxBody] at small
  simp only [StreamNetDealer.frameLen, StreamNetDealer.lenInt, StreamNetDealer.headLen, intAdd,
    intOfBits, Int.bmod_def]
  split <;> split <;> omega

/-- From `maxBody` on, the sum is negative or too small to hold the head. -/
theorem frameLen_of_large (dealer : StreamNetDealer) (large : maxBody ≤ dealer.len.toNat) :
    dealer.frameLen < 8 := by
  have bound := dealer.len.toNat_lt
  simp only [maxBody] at large
  simp only [StreamNetDealer.frameLen, StreamNetDealer.lenInt, StreamNetDealer.headLen, intAdd,
    intOfBits, Int.bmod_def]
  split <;> split <;> omega

/-- A message at the front is found. -/
theorem nextMessage_encode {message : NMessage} (short : message.body.length < maxBody)
    (rest : Bytes) : nextMessage (encodeMessage message ++ rest) = some (message, rest) := by
  have headTake : (encodeMessage message ++ rest).take 4 =
      htonl (UInt32.ofNat message.body.length) := by
    simp [encodeMessage, StreamNetDealer.pack, packuint32]
  have numberTake : ((encodeMessage message ++ rest).drop 4).take 4 = htonl message.no := by
    simp [encodeMessage, StreamNetDealer.pack, packuint32]
  have len : (UInt32.ofNat message.body.length).toNat = message.body.length := by
    simp only [maxBody] at short
    exact UInt32.toNat_ofNat_of_lt' (by simp only [UInt32.size]; omega)
  have afterHead : (encodeMessage message ++ rest).drop 8 = message.body ++ rest := by
    simp [encodeMessage, List.append_assoc]
  have afterBody : (encodeMessage message ++ rest).drop (8 + message.body.length) = rest := by
    rw [← length_encodeMessage, List.drop_left]
  simp only [nextMessage, headTake, numberTake, afterHead, ntohl_htonl, len, afterBody,
    List.take_left, List.length_append, length_encodeMessage]
  rw [if_pos]
  exact ⟨by omega, short, by omega⟩

/-- What is found is the encoding of a short message. -/
theorem eq_encode_of_nextMessage {input rest : Bytes} {message : NMessage}
    (found : nextMessage input = some (message, rest)) :
    message.body.length < maxBody ∧ input = encodeMessage message ++ rest := by
  simp only [nextMessage] at found
  split at found
  · rename_i fits
    obtain ⟨headFits, small, bodyFits⟩ := fits
    simp only [Option.some.injEq, Prod.mk.injEq] at found
    obtain ⟨rfl, rfl⟩ := found
    have bodyLength : ((input.drop 8).take (ntohl (input.take 4)).toNat).length =
        (ntohl (input.take 4)).toNat := by
      rw [List.length_take, List.length_drop]
      omega
    refine ⟨by rw [bodyLength]; exact small, ?_⟩
    simp only [encodeMessage, bodyLength]
    rw [← take_eight_eq_pack headFits, List.append_assoc, ← List.drop_drop,
      List.take_append_drop, List.take_append_drop]
  · cases found

/-- Messages with a representable body delimit themselves in a byte stream. -/
def streamFraming : Framing UInt8 NMessage where
  Valid message := message.body.length < maxBody
  encode := encodeMessage
  next := nextMessage
  next_eq_some_iff := by
    intro input message rest
    constructor
    · exact eq_encode_of_nextMessage
    · rintro ⟨short, rfl⟩
      exact nextMessage_encode short rest
  encode_ne_nil message := by
    intro empty
    have size := length_encodeMessage message
    rw [empty] at size
    simp at size
    omega

end SM.Network

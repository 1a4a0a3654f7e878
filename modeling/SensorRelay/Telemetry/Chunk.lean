import SensorRelay.Checksum

/-! # Telemetry chunks

A chunk is a sync byte, the payload's length, the payload and the seven-bit check of length and
payload. -/
namespace SensorRelay.Telemetry

/-- The first byte of every chunk. -/
def sync : UInt8 := 0xa5

/-- The longest payload of a chunk. -/
def maxPayload : Nat := 255

/-- The chunk of a payload, of which what passes the longest payload is cut off. -/
def encode (payload : List UInt8) : List UInt8 :=
  let payload := payload.take maxPayload
  let body := UInt8.ofNat payload.length :: payload
  sync :: body ++ [Checksum.crc7 body]

end SensorRelay.Telemetry

import SensorRelay.Bilateral
import SensorRelay.Telemetry.Decoder

/-! # The consumer's loop

In every turn the consumer takes a frame, checks and filters it, and then reads what telemetry there
is. What it meets in a turn is a value, so that a run is a function of its turns. -/
namespace SensorRelay

/-- What a turn meets: how the wait for a frame ended, and how reading telemetry would. -/
structure Turn where
  frame : Except Failure Frame
  telemetry : Except Failure (List UInt8)

structure Consumer where
  /-- The number of frames to consume, a word of 64 bits; no end if zero. -/
  limit : Nat
  /-- The filter, if there is to be one. -/
  denoise : Option Bilateral
  decoder : Telemetry.Decoder := {}
  /-- Frames consumed. This counter and the next two are words of 64 bits, which would take 2 ^ 64 frames
  or chunks to pass. -/
  consumed : Nat := 0
  /-- Frames whose checksum was wrong. -/
  damaged : Nat := 0
  chunks : Nat := 0

/-- Why a consumer cannot go on. -/
inductive ConsumerError where
  | denoise (failure : Failure)
  | frame (failure : Failure)
  | telemetry (failure : Failure)
deriving DecidableEq

def ConsumerError.message : ConsumerError → String
  | denoise _ => "denoise frame"
  | frame f => "dequeue frame: " ++ f.message
  | telemetry f => "dequeue telemetry: " ++ f.message

namespace Consumer

/-- How a turn ended. -/
inductive Progress where
  | goesOn (c : Consumer)
  /-- With the number of frames consumed. -/
  | stopped (consumed : Nat)
  | failed (error : ConsumerError)

def isDone (c : Consumer) : Bool := decide (0 < c.limit) && decide (c.limit ≤ c.consumed)

/-- The frame with the filter run over it and sealed again, or as it is without a filter. -/
def filtered (c : Consumer) (f : Frame) : Except Failure Frame :=
  match c.denoise with
  | none => .ok f
  | some denoise => (denoise.apply f).map Frame.sealed

def readTelemetry (c : Consumer) : Except Failure (List UInt8) → Progress
  | .ok bytes =>
    let (payloads, decoder) := c.decoder.push bytes
    .goesOn { c with decoder, chunks := c.chunks + payloads.length }
  | .error .timeout => .goesOn c
  | .error .invalidState => .stopped c.consumed
  | .error f => .failed (.telemetry f)

/-- What comes after the wait for a frame. -/
inductive AfterFrame where
  /-- The telemetry is read. -/
  | telemetry (c : Consumer)
  /-- The turn ends. -/
  | nextTurn (c : Consumer)
  | stopped (consumed : Nat)
  | failed (error : ConsumerError)

/-- Takes what the wait for a frame gave. A frame with a wrong checksum is passed over. -/
def takeFrame (c : Consumer) : Except Failure Frame → AfterFrame
  | .ok f =>
    if f.verify then
      match c.filtered f with
      | .ok _ => .telemetry { c with consumed := c.consumed + 1 }
      | .error e => .failed (.denoise e)
    else .nextTurn { c with damaged := c.damaged + 1 }
  | .error .timeout => .telemetry c
  | .error .invalidState => .stopped c.consumed
  | .error f => .failed (.frame f)

/-- One turn. -/
def turn (c : Consumer) (t : Turn) : Progress :=
  match c.takeFrame t.frame with
  | .telemetry c => c.readTelemetry t.telemetry
  | .nextTurn c => .goesOn c
  | .stopped consumed => .stopped consumed
  | .failed e => .failed e

/-- Turns until the limit is reached, the queues are closed or a turn fails. -/
def run (c : Consumer) : List Turn → Progress
  | [] => if c.isDone then .stopped c.consumed else .goesOn c
  | t :: later =>
    if c.isDone then .stopped c.consumed
    else match c.turn t with
      | .goesOn c => run c later
      | ended => ended

end Consumer

end SensorRelay

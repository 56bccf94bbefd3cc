import SceneScript.Text.Width

/-
  Byte sources and byte sinks with their faults.

  Key definitions include:
    * `DeviceError`
    * `Source`
    * `Source.read`
    * `Source.readAll`
    * `Sink`
    * `Sink.write`
    * `Sink.flush`

  A source may break off after some bytes and hands out its
  data in chunks.  A sink may have a capacity, in which case
  a write that does not fit still fills it.
-/

namespace SceneScript

------------------------------------------------------------
-- Faults
------------------------------------------------------------

/-
  Why a file or a stream refuses an operation.  A fault that
  the library does not tell apart is `other`.
-/
inductive DeviceError where
| notFound
| isADirectory
| notADirectory
| busy
| invalidUtf8
| writeZero
| brokenPipe
| connectionReset
| other (text : String)
deriving DecidableEq, Repr

namespace DeviceError

/- The text shown for a fault. -/
def message : DeviceError → String
| notFound => "No such file or directory (os error 2)"
| isADirectory => "Is a directory (os error 21)"
| notADirectory => "Not a directory (os error 20)"
| busy => "Device or resource busy (os error 16)"
| invalidUtf8 => "stream did not contain valid UTF-8"
| writeZero => "failed to write whole buffer"
| brokenPipe => "broken pipe"
| connectionReset => "connection reset"
| other text => text

end DeviceError

------------------------------------------------------------
-- Sources
------------------------------------------------------------

/-
  Bytes that are still to be read.  `chunk` bounds a single
  read, and with `budget` a read fails once that many bytes
  were handed out.
-/
structure Source where
  rest : List UInt8
  chunk : Option Nat
  budget : Option Nat

namespace Source

/- The most bytes that one read hands out, if bounded. -/
def readLimit (source : Source) : Option Nat :=
  match source.chunk, source.budget with
  | none, none => none
  | some chunk, none => some chunk
  | none, some budget => some budget
  | some chunk, some budget => some (min chunk budget)

/- The first bytes up to a bound, and those behind them. -/
def cut
    (bytes : List UInt8) :
    Option Nat → List UInt8 × List UInt8
| none => (bytes, [])
| some count => (bytes.take count, bytes.drop count)

/- A cut loses nothing. -/
theorem append_of_cut
    (bytes : List UInt8)
    (limit : Option Nat) :
    (cut bytes limit).1 ++ (cut bytes limit).2 = bytes := by
  cases limit <;> simp [cut]

/- Read some bytes, none at the end of the data. -/
def read
    (source : Source) :
    Except DeviceError (List UInt8 × Source) :=
  if source.budget = some 0 then
    .error .connectionReset
  else
    let (bytes, rest) := cut source.rest source.readLimit
    .ok (bytes,
      { source with
        rest := rest
        budget := source.budget.map (· - bytes.length) })

/- A read takes the bytes it hands out off the front. -/
theorem length_of_read
    {source next : Source}
    {bytes : List UInt8}
    (hRead : source.read = .ok (bytes, next)) :
    bytes.length + next.rest.length =
      source.rest.length := by
  unfold read at hRead
  split at hRead
  · simp at hRead
  · simp only [Except.ok.injEq, Prod.mk.injEq] at hRead
    obtain ⟨hBytes, hNext⟩ := hRead
    subst hBytes hNext
    rw [← List.length_append, append_of_cut]

/- Read until a read hands out no bytes. -/
def readAll
    (source : Source) :
    Except DeviceError (List UInt8) :=
  match _hRead : source.read with
  | .error fault => .error fault
  | .ok ([], _) => .ok []
  | .ok (byte :: bytes, next) =>
      match next.readAll with
      | .error fault => .error fault
      | .ok later => .ok (byte :: bytes ++ later)
termination_by source.rest.length
decreasing_by
  have hLength := length_of_read _hRead
  simp only [List.length_cons] at hLength
  omega

end Source

------------------------------------------------------------
-- Sinks
------------------------------------------------------------

/- Bytes written so far, with the limits of the device. -/
structure Sink where
  written : Array UInt8
  capacity : Option Nat
  flushFails : Bool

namespace Sink

/- A sink that takes everything. -/
def unlimited : Sink where
  written := #[]
  capacity := none
  flushFails := false

/- The number of bytes of a write that still fit. -/
def room
    (sink : Sink)
    (wanted : Nat) : Nat :=
  match sink.capacity with
  | none => wanted
  | some capacity =>
      min wanted (capacity - sink.written.size)

/-
  Write all bytes.  When they do not fit, the part that fits
  stays written.
-/
def write
    (sink : Sink)
    (bytes : List UInt8) :
    Except DeviceError Unit × Sink :=
  let count := sink.room bytes.length
  let result :=
    if count < bytes.length then
      .error .writeZero
    else
      .ok ()
  (result,
    { sink with written := sink.written ++ bytes.take count })

/- Hand buffered bytes on to the device. -/
def flush (sink : Sink) : Except DeviceError Unit :=
  if sink.flushFails then
    .error .brokenPipe
  else
    .ok ()

end Sink

end SceneScript

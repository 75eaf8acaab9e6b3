import PanelLink.Failure

/-!
The writing side of a line, as the answers that its write and flush calls will get, with a
record of the calls made. A sink whose answers have run out takes everything.
-/

namespace PanelLink

/-- The answer to one write call: up to `count` bytes are taken, or the call fails. -/
inductive WriteReply where
  | accept (count : Nat)
  | failure (cause : Failure)
deriving DecidableEq, Repr

inductive FlushReply where
  | done
  | failure (cause : Failure)
deriving DecidableEq, Repr

inductive SinkCall where
  | wrote (bytes : Bytes)
  | writeFailed (cause : Failure)
  | flushed
  | flushFailed (cause : Failure)
deriving DecidableEq, Repr

namespace SinkCall

def taken : SinkCall → Bytes
  | wrote bytes => bytes
  | _ => []

def isFlush : SinkCall → Bool
  | flushed | flushFailed _ => true
  | _ => false

end SinkCall

structure Sink where
  writes : List WriteReply := []
  flushes : List FlushReply := []
  calls : List SinkCall := []
deriving DecidableEq, Repr

inductive Refusal where
  /-- A write call took no bytes. -/
  | stalled
  | failed (cause : Failure)
deriving DecidableEq, Repr

namespace Sink

def accepted (sink : Sink) : Bytes := sink.calls.flatMap SinkCall.taken

def flushCalls (sink : Sink) : Nat := sink.calls.countP SinkCall.isFlush

def record (calls : List SinkCall) (sink : Sink) : Sink :=
  { sink with calls := sink.calls ++ calls }

theorem accepted_record (calls : List SinkCall) (sink : Sink) :
    (sink.record calls).accepted = sink.accepted ++ calls.flatMap SinkCall.taken := by
  simp [accepted, record]

/-! ## Single calls -/

def write (bytes : Bytes) (sink : Sink) : Except Failure Nat × Sink :=
  match sink.writes with
  | [] => (.ok bytes.length, sink.record [.wrote bytes])
  | .accept count :: rest =>
      (.ok (min count bytes.length),
        { sink with writes := rest }.record [.wrote (bytes.take count)])
  | .failure cause :: rest =>
      (.error cause, { sink with writes := rest }.record [.writeFailed cause])

def flush (sink : Sink) : Except Failure Unit × Sink :=
  match sink.flushes with
  | [] => (.ok (), sink.record [.flushed])
  | .done :: rest => (.ok (), { sink with flushes := rest }.record [.flushed])
  | .failure cause :: rest =>
      (.error cause, { sink with flushes := rest }.record [.flushFailed cause])

/-! ## Writing to the end

Short writes go on with the rest and interrupted calls are made again. -/

structure Delivery where
  result : Except Refusal Unit
  calls : List SinkCall
  remaining : List WriteReply

def Delivery.after (call : SinkCall) (delivery : Delivery) : Delivery :=
  { delivery with calls := call :: delivery.calls }

def deliver : List WriteReply → Bytes → Delivery
  | script, [] => ⟨.ok (), [], script⟩
  | [], bytes => ⟨.ok (), [.wrote bytes], []⟩
  | .accept count :: script, bytes =>
      if count = 0 then ⟨.error .stalled, [.wrote []], script⟩
      else (deliver script (bytes.drop count)).after (.wrote (bytes.take count))
  | .failure cause :: script, bytes =>
      if cause.isInterrupted then (deliver script bytes).after (.writeFailed cause)
      else ⟨.error (.failed cause), [.writeFailed cause], script⟩

def writeAll (bytes : Bytes) (sink : Sink) : Except Refusal Unit × Sink :=
  let delivery := deliver sink.writes bytes
  (delivery.result, { sink with writes := delivery.remaining }.record delivery.calls)

def settle : List FlushReply → Except Failure Unit × List SinkCall × List FlushReply
  | [] => (.ok (), [.flushed], [])
  | .done :: script => (.ok (), [.flushed], script)
  | .failure cause :: script =>
      if cause.isInterrupted then
        let (result, calls, rest) := settle script
        (result, .flushFailed cause :: calls, rest)
      else (.error cause, [.flushFailed cause], script)

def flushAll (sink : Sink) : Except Failure Unit × Sink :=
  let (result, calls, rest) := settle sink.flushes
  (result, { sink with flushes := rest }.record calls)

end Sink

end PanelLink

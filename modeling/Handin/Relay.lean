import Handin.Sink

namespace Handin

/-- What one read of a reply yields. No data is the end of the reply. -/
inductive Read
  | data (b : Bytes)
  | fault (f : Fault)
  deriving DecidableEq, Repr

namespace Relay

def chunkSize : Nat := 8192

inductive Outcome
  | total (n : Nat)
  | readFailed (f : Fault)
  | writeFailed (kind : Fault.Kind)
  deriving DecidableEq, Repr

structure Run where
  outcome : Outcome
  sink : Sink
  reads : Nat

def pass (s : Sink) (b : Bytes) : Except Fault.Kind Unit × Sink :=
  match s.writeAll b with
  | (.error kind, s) => (.error kind, s)
  | (.ok (), s) => s.flush

/-- Copies chunks that have been cut to the buffer's size; `total` bytes and `reads` reads have
gone before. -/
def copy (total reads : Nat) (s : Sink) : List Read → Run
  | [] => ⟨.total total, s, reads + 1⟩
  | .data [] :: _ => ⟨.total total, s, reads + 1⟩
  | .data (x :: b) :: rest =>
    match pass s (x :: b) with
    | (.error kind, s) => ⟨.writeFailed kind, s, reads + 1⟩
    | (.ok (), s) => copy (total + (x :: b).length) (reads + 1) s rest
  | .fault f :: rest =>
    if f.kind = .interrupted then copy total (reads + 1) s rest
    else ⟨.readFailed f, s, reads + 1⟩

def pieces (b : Bytes) : List Bytes :=
  if _h : b.length ≤ chunkSize then [b]
  else b.take chunkSize :: pieces (b.drop chunkSize)
termination_by b.length
decreasing_by
  simp only [List.length_drop]
  have : 0 < chunkSize := by decide
  omega

def buffered : List Read → List Read
  | [] => []
  | .data b :: rest => (pieces b).map .data ++ buffered rest
  | .fault f :: rest => .fault f :: buffered rest

end Relay

def relay (reply : List Read) (s : Sink) : Relay.Run := Relay.copy 0 0 s (Relay.buffered reply)

end Handin

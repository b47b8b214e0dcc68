namespace Handin

inductive Fault.Kind
  | notFound | permissionDenied | connectionRefused | connectionReset | connectionAborted
  | notConnected | addrInUse | addrNotAvailable | brokenPipe | alreadyExists | wouldBlock
  | invalidInput | invalidData | timedOut | writeZero | interrupted | unsupported
  | unexpectedEof | outOfMemory | other
  | hostUnreachable | networkUnreachable | networkDown | notADirectory | isADirectory
  | directoryNotEmpty | readOnlyFilesystem | filesystemLoop | staleNetworkFileHandle
  | storageFull | notSeekable | quotaExceeded | fileTooLarge | resourceBusy
  | executableFileBusy | deadlock | crossesDevices | tooManyLinks | invalidFilename
  | argumentListTooLong | inProgress | uncategorized
  deriving DecidableEq, Repr, Inhabited

/-- A failed read or write, or a remark about one. A fault may wrap another, and a remark may name
its source; a remark has no kind of its own and counts as `other`. -/
inductive Fault
  | bare (kind : Fault.Kind)
  | os (code : Int)
  | wrapping (kind : Fault.Kind) (inner : Fault)
  | remark (text : String)
  | remarkOn (text : String) (source : Fault)
  deriving DecidableEq, Repr, Inhabited

namespace Fault

def Kind.ofCode (code : Int) : Kind :=
  match code with
  | 7 => .argumentListTooLong
  | 98 => .addrInUse
  | 99 => .addrNotAvailable
  | 16 => .resourceBusy
  | 103 => .connectionAborted
  | 111 => .connectionRefused
  | 104 => .connectionReset
  | 35 => .deadlock
  | 122 => .quotaExceeded
  | 17 => .alreadyExists
  | 27 => .fileTooLarge
  | 113 => .hostUnreachable
  | 4 => .interrupted
  | 22 => .invalidInput
  | 21 => .isADirectory
  | 40 => .filesystemLoop
  | 2 => .notFound
  | 12 => .outOfMemory
  | 28 => .storageFull
  | 38 => .unsupported
  | 95 => .unsupported
  | 31 => .tooManyLinks
  | 36 => .invalidFilename
  | 100 => .networkDown
  | 101 => .networkUnreachable
  | 107 => .notConnected
  | 20 => .notADirectory
  | 39 => .directoryNotEmpty
  | 32 => .brokenPipe
  | 30 => .readOnlyFilesystem
  | 29 => .notSeekable
  | 116 => .staleNetworkFileHandle
  | 110 => .timedOut
  | 26 => .executableFileBusy
  | 18 => .crossesDevices
  | 115 => .inProgress
  | 13 => .permissionDenied
  | 1 => .permissionDenied
  | 11 => .wouldBlock
  | _ => .uncategorized

def kind : Fault → Kind
  | bare k => k
  | os code => .ofCode code
  | wrapping k _ => k
  | remark _ => .other
  | remarkOn _ _ => .other

/-- The faults met by going from source to source. The source of a fault that wraps another is the
source of the one it wraps, so the wrapped one itself is not met. -/
def chain : Fault → List Fault
  | bare k => [bare k]
  | os code => [os code]
  | wrapping k inner => wrapping k inner :: (chain inner).tail
  | remark text => [remark text]
  | remarkOn text source => remarkOn text source :: chain source

def isTimeout (f : Fault) : Bool :=
  f.kind == .timedOut ||
    match f with
    | wrapping _ inner => inner.chain.any (·.kind == .timedOut)
    | _ => f.chain.any (·.kind == .timedOut)

end Fault

end Handin

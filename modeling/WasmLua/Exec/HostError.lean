import WasmLua.Exec.Failure

namespace WasmLua.Exec

inductive HostError where
  | trap (kind : Bytes)
  | link (reason : Bytes)
  | other (message : Bytes) (wrapped : List HostError)

namespace HostError

mutual

def chain : HostError → List HostError
  | .trap kind => [.trap kind]
  | .link reason => [.link reason]
  | .other message wrapped => .other message wrapped :: chains wrapped

def chains : List HostError → List HostError
  | [] => []
  | error :: rest => error.chain ++ chains rest

end

def text : HostError → Bytes
  | .trap kind => Bytes.ofString trapMark ++ kind
  | .link reason => Bytes.ofString linkMark ++ reason
  | .other message _ => message

def asTrap? : HostError → Option Bytes
  | .trap kind => some kind
  | _ => none

def asLink? : HostError → Option Bytes
  | .link reason => some reason
  | _ => none

def trap? (error : HostError) : Option Bytes := error.chain.findSome? asTrap?

def link? (error : HostError) : Option Bytes := error.chain.findSome? asLink?

def raised (error : HostError) : Raised :=
  match error.trap? with
  | some kind => .text (HostError.trap kind).text
  | none =>
    match error.link? with
    | some reason => .text (HostError.link reason).text
    | none => .text error.text

end HostError

inductive HostFailure where
  | returned (error : HostError)
  | crash

namespace HostFailure

def trap (kind : Bytes) : HostFailure := .returned (.trap kind)

def link (reason : Bytes) : HostFailure := .returned (.link reason)

def plain (message : Bytes) : HostFailure := .returned (.other message [])

def raised : HostFailure → Raised
  | .returned error => error.raised
  | .crash => .crash

end HostFailure

end WasmLua.Exec

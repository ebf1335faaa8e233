import DebateMesh.Discovery

namespace DebateMesh

inductive Datagram
  | json (body : Bytes)
  | sessionInit (body : Bytes)
  | frame (body : Bytes)
deriving DecidableEq

namespace Datagram

def body : Datagram → Bytes
  | json b => b
  | sessionInit b => b
  | frame b => b

def kind : Datagram → UInt8
  | json _ => 1
  | sessionInit _ => 2
  | frame _ => 3

def encode (d : Datagram) : Bytes := d.kind :: d.body

/-- Nothing for an empty datagram or an unknown kind. -/
def decode : Bytes → Option Datagram
  | [] => none
  | k :: b =>
    if k = 1 then some (json b)
    else if k = 2 then some (sessionInit b)
    else if k = 3 then some (frame b)
    else none

def message : Layer → Bytes → Datagram
  | .mesh, b => json b
  | .backbone, b => frame b

theorem decode_encode (d : Datagram) : decode d.encode = some d := by
  cases d <;> rfl

end Datagram

end DebateMesh

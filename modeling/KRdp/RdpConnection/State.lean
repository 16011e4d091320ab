/-
The life-cycle states of a connection, which the stream and the network
measurements consult before they act.
-/

namespace KRdp.RdpConnection

inductive State where
  | initial
  | starting
  | running
  | streaming
  | closed
  deriving DecidableEq, Repr

end KRdp.RdpConnection

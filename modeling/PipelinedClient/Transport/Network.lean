import PipelinedClient.Transport.Channel

/-! What there is to connect to: peers that wait at one address and are met in turn. -/

set_option autoImplicit false

namespace PipelinedClient

structure Network where
  address : String
  peers : List Channel

namespace Network

/-- The next peer, and the network without it; at any other address there is nobody. -/
def meet? (network : Network) (address : String) : Option (Channel × Network) :=
  if network.address = address then
    match network.peers with
    | [] => none
    | peer :: rest => some (peer, { network with peers := rest })
  else none

end Network

end PipelinedClient

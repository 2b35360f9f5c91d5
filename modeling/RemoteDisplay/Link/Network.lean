/-
**Opening a socket.**

The address of a socket is put together from a host and an application, and neither may hold a
blank; the host may not be empty.  Whether anybody answers is up to the network, which may be
missing altogether; then every attempt fails.

Main definitions:

* `RemoteDisplay.Network` — who answers;
* `RemoteDisplay.Network.opens` — whether an attempt to open a socket succeeds.
-/
import RemoteDisplay.Session.Config

set_option relaxedAutoImplicit false
set_option autoImplicit false

namespace RemoteDisplay

/-- The configuration makes an address. -/
def Config.hasAddress (c : Config) : Bool :=
  !c.host.toList.isEmpty && !c.host.toList.contains ' ' && !c.appName.toList.contains ' '

/-- Who answers an attempt to open a socket. -/
inductive Network where
  /-- There is no network. -/
  | missing
  /-- The hosts that answer, and what they answer to. -/
  | hosts (answers : Config → Bool)

namespace Network

/-- An attempt to open a socket succeeds. -/
def opens (n : Network) (c : Config) : Bool :=
  match n with
  | missing => false
  | hosts answers => c.hasAddress && answers c

end Network

end RemoteDisplay

import CloudStorage.Master

/-!
# The configuration

What `parseServers` reads from `config.txt`, as the master and the storage servers start
with it: the numbers are of type `int`, the addresses are such as go to `inet_addr`, and no
two servers of a group listen on one TCP port.
-/

namespace CloudStorage

/-- The range of an `int`. -/
def IsInt (n : Int) : Prop := -2 ^ 31 ≤ n ∧ n < 2 ^ 31

instance : DecidablePred IsInt := fun _ => inferInstanceAs (Decidable (_ ∧ _))

/-- An address without the characters that end it in the texts of the master, and a port of
type `int`. -/
structure Printable (info : ServerInfo) : Prop where
  ip : ∀ ch ∈ [':', ';', '@'], ch ∉ info.ip
  tcpPort : IsInt info.tcpPort

/-- An entry of the group, with the flags that `ServerInfo` starts with. -/
structure Configured (g : Int) (info : ServerInfo) : Prop extends Printable info where
  replicaGroup : info.replicaGroup = g
  isInt : IsInt g
  isPrimary : info.isPrimary = false
  isDead : info.isDead = true

structure Configuration where
  servers : Int → List ServerInfo
  configured : ∀ g, ∀ info ∈ servers g, Configured g info
  distinct : ∀ g, ((servers g).map ServerInfo.tcpPort).Nodup

/-- The master when it starts. -/
def Configuration.master (config : Configuration) : Master where
  servers := config.servers
  primaryServers := fun _ => none
  last_heartbeat := fun _ => none

end CloudStorage

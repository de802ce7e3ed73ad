import BootExtents.Inquiry.Basic

/-!
# Cluster chains

## Main definitions

* `BootExtents.ClusterChain` — the clusters that hold a file, one after the other.
-/

set_option relaxedAutoImplicit false
set_option autoImplicit false

namespace BootExtents

/-- The clusters that hold a file. Which cluster follows another has to be asked for, and so has
the place of a cluster. -/
structure ClusterChain (I : Interface) where
  /-- The bytes of a cluster. -/
  clusterSize : Nat
  /-- Whether a number is that of a cluster at all. -/
  isValid : ClusterId → Bool
  /-- The cluster where the chain starts. -/
  first : Inquiry I Error ClusterId
  /-- The cluster that follows another. -/
  next : ClusterId → Inquiry I Error ClusterId
  /-- The byte of the volume where a valid cluster starts. -/
  offset : ClusterId → Inquiry I Error Nat

end BootExtents

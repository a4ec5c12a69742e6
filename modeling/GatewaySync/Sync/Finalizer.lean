import GatewaySync.Resource.Object
/-!
# The cleanup finalizer

It keeps an object in the cluster until its remote entity is gone.
-/
namespace GatewaySync

/-- The finalizer held until the remote entity is gone. -/
def cleanupFinalizer : String := "konnect.konghq.com/delete"

namespace Metadata

def hasCleanup (m : Metadata) : Bool := m.finalizerList.contains cleanupFinalizer

/-- Adds the cleanup finalizer at the end, if it is missing. -/
def withCleanup (m : Metadata) : Metadata :=
  if m.hasCleanup then m
  else { m with finalizers := some (m.finalizerList ++ [cleanupFinalizer]) }

@[simp] theorem withCleanup_hasCleanup (m : Metadata) : m.withCleanup.hasCleanup = true := by
  unfold withCleanup
  split
  · assumption
  · simp [hasCleanup, finalizerList]

theorem withCleanup_eq (m : Metadata) :
    m.withCleanup = { m with finalizers := m.withCleanup.finalizers } := by
  unfold withCleanup
  split <;> rfl

/-- Drops the cleanup finalizer. The list of finalizers is set afterwards. -/
def withoutCleanup (m : Metadata) : Metadata :=
  { m with finalizers := some (m.finalizerList.filter (· != cleanupFinalizer)) }

end Metadata

end GatewaySync

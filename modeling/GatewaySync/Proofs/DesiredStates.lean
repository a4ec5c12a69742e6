import GatewaySync.Proofs.Fields
/-!
# Desired states in JSON

A desired state is read back as it was written. What is read fits the types that hold it: a number is one of
64 bits, labels are in order, and nothing is resolved yet.
-/
namespace GatewaySync

open Json

def Spec.Fits : Spec → Prop
  | controlPlane s => InKeyOrder s.labels
  | service s => ∀ n ∈ s.port, isInt64 n
  | upstream s => ∀ n ∈ s.slots, isInt64 n
  | pluginBinding s => s.resolved = none
  | _ => True

/-- A free document that is set is no `null`, and all of it can be read. -/
def PluginSpec.Fits (s : PluginSpec) : Prop := ∀ c ∈ s.config, c ≠ .null ∧ c.isReadable

theorem ControlPlaneSpec.decode_encode {s : ControlPlaneSpec} (ordered : InKeyOrder s.labels) :
    ControlPlaneSpec.decode s.encode = some s := by
  have labels := map_textMembers ordered
  rw [textMembers] at labels
  simp [ControlPlaneSpec.decode, ControlPlaneSpec.encode, labels]

theorem ServiceSpec.decode_encode {s : ServiceSpec} (port : ∀ n ∈ s.port, isInt64 n) :
    ServiceSpec.decode s.encode = some s := by
  simp [ServiceSpec.decode, ServiceSpec.encode, writeRef, writeTags, readOption_int port]

theorem RouteSpec.decode_encode (s : RouteSpec) : RouteSpec.decode s.encode = some s := by
  simp [RouteSpec.decode, RouteSpec.encode, writeRef, writeTags]

theorem ConsumerSpec.decode_encode (s : ConsumerSpec) : ConsumerSpec.decode s.encode = some s := by
  simp [ConsumerSpec.decode, ConsumerSpec.encode, writeRef, writeTags]

theorem ConsumerGroupSpec.decode_encode (s : ConsumerGroupSpec) :
    ConsumerGroupSpec.decode s.encode = some s := by
  simp [ConsumerGroupSpec.decode, ConsumerGroupSpec.encode, writeRef, writeTags]

theorem ApiKeySpec.decode_encode (s : ApiKeySpec) : ApiKeySpec.decode s.encode = some s := by
  simp [ApiKeySpec.decode, ApiKeySpec.encode, writeTags]

theorem BasicAuthSpec.decode_encode (s : BasicAuthSpec) : BasicAuthSpec.decode s.encode = some s := by
  simp [BasicAuthSpec.decode, BasicAuthSpec.encode, writeTags]

theorem UpstreamSpec.decode_encode {s : UpstreamSpec} (slots : ∀ n ∈ s.slots, isInt64 n) :
    UpstreamSpec.decode s.encode = some s := by
  simp [UpstreamSpec.decode, UpstreamSpec.encode, writeRef, writeTags, readOption_int slots]

theorem CertificateSpec.decode_encode (s : CertificateSpec) : CertificateSpec.decode s.encode = some s := by
  simp [CertificateSpec.decode, CertificateSpec.encode, writeRef, writeTags]

theorem CaCertificateSpec.decode_encode (s : CaCertificateSpec) :
    CaCertificateSpec.decode s.encode = some s := by
  simp [CaCertificateSpec.decode, CaCertificateSpec.encode, writeRef, writeTags]

theorem KeySetSpec.decode_encode (s : KeySetSpec) : KeySetSpec.decode s.encode = some s := by
  simp [KeySetSpec.decode, KeySetSpec.encode, writeRef, writeTags]

theorem KeyPair.decode_encode (p : KeyPair) : KeyPair.decode p.encode = some p := by
  simp [KeyPair.decode, KeyPair.encode]

theorem KeySpec.decode_encode (s : KeySpec) : KeySpec.decode s.encode = some s := by
  have pem : readOption KeyPair.decode (s.pem.map KeyPair.encode) = some s.pem :=
    readOption_map_self (fun p _ => p.decode_encode) (by simp [KeyPair.encode])
  simp [KeySpec.decode, KeySpec.encode, writeRef, writeTags, pem]

theorem PluginBindingSpec.decode_encode {s : PluginBindingSpec} (unresolved : s.resolved = none) :
    PluginBindingSpec.decode s.encode = some s := by
  have targets (service route consumer : Option String) :
      PluginBindingSpec.decodeTargets (.object [whenSet "serviceRef" encodeName service,
        whenSet "routeRef" encodeName route, whenSet "consumerRef" encodeName consumer]) =
          some (service, route, consumer) := by
    simp [PluginBindingSpec.decodeTargets]
  obtain ⟨ref, plugin, service, route, consumer, resolved⟩ := s
  cases unresolved
  simp [PluginBindingSpec.decode, PluginBindingSpec.encode, writeRef, targets]

theorem PluginSpec.decode_encode {s : PluginSpec} (fits : s.Fits) : PluginSpec.decode s.encode = some s := by
  simp [PluginSpec.decode, PluginSpec.encode, readOption_document fits]

theorem Spec.decode_encode {s : Spec} (fits : s.Fits) : Spec.decode s.kind s.encode = some s := by
  cases s with
  | controlPlane s => simp [Spec.kind, Spec.decode, Spec.encode, ControlPlaneSpec.decode_encode fits]
  | service s => simp [Spec.kind, Spec.decode, Spec.encode, ServiceSpec.decode_encode fits]
  | route s => simp [Spec.kind, Spec.decode, Spec.encode, s.decode_encode]
  | consumer s => simp [Spec.kind, Spec.decode, Spec.encode, s.decode_encode]
  | consumerGroup s => simp [Spec.kind, Spec.decode, Spec.encode, s.decode_encode]
  | apiKey s => simp [Spec.kind, Spec.decode, Spec.encode, s.decode_encode]
  | basicAuth s => simp [Spec.kind, Spec.decode, Spec.encode, s.decode_encode]
  | upstream s => simp [Spec.kind, Spec.decode, Spec.encode, UpstreamSpec.decode_encode fits]
  | certificate s => simp [Spec.kind, Spec.decode, Spec.encode, s.decode_encode]
  | caCertificate s => simp [Spec.kind, Spec.decode, Spec.encode, s.decode_encode]
  | keySet s => simp [Spec.kind, Spec.decode, Spec.encode, s.decode_encode]
  | key s => simp [Spec.kind, Spec.decode, Spec.encode, s.decode_encode]
  | pluginBinding s => simp [Spec.kind, Spec.decode, Spec.encode, PluginBindingSpec.decode_encode fits]

section

variable {v : Json}

theorem ControlPlaneSpec.ordered_of_decode {s : ControlPlaneSpec} (h : ControlPlaneSpec.decode v = some s) :
    InKeyOrder s.labels := by
  simp only [ControlPlaneSpec.decode, Fields.defaulted_eq, Option.bind_eq_bind, Option.bind_eq_some_iff,
    Option.some.injEq] at h
  obtain ⟨fs, -, name, -, description, -, clusterType, -, labels, read, rfl⟩ := h
  rcases readOr_eq_some read with rfl | ⟨w, read⟩
  · exact .nil
  · exact map_inKeyOrder read

theorem ServiceSpec.port_of_decode {s : ServiceSpec} (h : ServiceSpec.decode v = some s) :
    ∀ n ∈ s.port, isInt64 n := by
  simp only [ServiceSpec.decode, Fields.optional_eq, Option.bind_eq_bind, Option.bind_eq_some_iff,
    Option.some.injEq] at h
  obtain ⟨fs, -, ref, -, name, -, host, -, port, read, protocol, -, path, -, enabled, -, tags, -, rfl⟩ := h
  exact isInt64_of_readOption read

theorem UpstreamSpec.slots_of_decode {s : UpstreamSpec} (h : UpstreamSpec.decode v = some s) :
    ∀ n ∈ s.slots, isInt64 n := by
  simp only [UpstreamSpec.decode, Fields.optional_eq, Option.bind_eq_bind, Option.bind_eq_some_iff,
    Option.some.injEq] at h
  obtain ⟨fs, -, ref, -, name, -, algorithm, -, slots, read, hostHeader, -, tags, -, rfl⟩ := h
  exact isInt64_of_readOption read

theorem PluginBindingSpec.unresolved_of_decode {s : PluginBindingSpec}
    (h : PluginBindingSpec.decode v = some s) : s.resolved = none := by
  simp only [PluginBindingSpec.decode, Option.bind_eq_bind, Option.bind_eq_some_iff, Option.some.injEq] at h
  obtain ⟨fs, -, ref, -, plugin, -, targets, -, rfl⟩ := h
  rfl

theorem PluginSpec.fits_of_decode {s : PluginSpec} (h : PluginSpec.decode v = some s) : s.Fits := by
  simp only [PluginSpec.decode, Fields.optional_eq, Option.bind_eq_bind, Option.bind_eq_some_iff,
    Option.some.injEq] at h
  obtain ⟨fs, -, name, -, config, read, disabled, -, protocols, -, rfl⟩ := h
  exact fits_of_readOption_document read

/-- A desired state that was read is of the kind that it was read as, and fits. -/
theorem Spec.fits_of_decode {kind : ManagedKind} {s : Spec} (h : Spec.decode kind v = some s) :
    s.kind = kind ∧ s.Fits := by
  cases kind <;> obtain ⟨x, read, rfl⟩ := Option.map_eq_some_iff.mp h <;> refine ⟨rfl, ?_⟩
  case controlPlane => exact ControlPlaneSpec.ordered_of_decode read
  case service => exact ServiceSpec.port_of_decode read
  case upstream => exact UpstreamSpec.slots_of_decode read
  case pluginBinding => exact PluginBindingSpec.unresolved_of_decode read
  all_goals trivial

end

end GatewaySync

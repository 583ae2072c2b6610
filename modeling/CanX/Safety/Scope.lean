import CanX.Safety.Risk

/-! Where authority reaches and how long it lasts: targets, arm scopes and standing
permissions. Sets of capabilities are lists without repetition. -/

namespace CanX.Safety

def maxTargetAddress : Nat := 0x1FFFFFFF

/-- The coordinates an operation acts on; one left out is unstated. -/
structure OperationTarget where
  deviceId : Option AuditIdentifier
  channel : Option AuditIdentifier
  targetAddress : Option Nat
  address_range : ∀ address ∈ targetAddress, address ≤ maxTargetAddress
  deriving DecidableEq

/-- An unstated coordinate constrains nothing, a stated one must match. -/
def coordinateCovers {Coordinate : Type} [DecidableEq Coordinate]
    (stated other : Option Coordinate) : Bool :=
  stated = none || stated = other

def OperationTarget.covers (target other : OperationTarget) : Bool :=
  coordinateCovers target.deviceId other.deviceId &&
    coordinateCovers target.channel other.channel &&
    coordinateCovers target.targetAddress other.targetAddress

private theorem coordinateCovers_refl {Coordinate : Type} [DecidableEq Coordinate]
    (stated : Option Coordinate) : coordinateCovers stated stated = true := by
  simp [coordinateCovers]

private theorem coordinateCovers_trans {Coordinate : Type} [DecidableEq Coordinate]
    {first second third : Option Coordinate} (left : coordinateCovers first second = true)
    (right : coordinateCovers second third = true) : coordinateCovers first third = true := by
  simp only [coordinateCovers, Bool.or_eq_true, decide_eq_true_eq] at *
  rcases left with unstated | rfl
  · exact .inl unstated
  · exact right

namespace OperationTarget

theorem covers_refl (target : OperationTarget) : target.covers target = true := by
  simp [covers, coordinateCovers_refl]

theorem covers_trans {first second third : OperationTarget} (left : first.covers second = true)
    (right : second.covers third = true) : first.covers third = true := by
  simp only [covers, Bool.and_eq_true] at *
  exact ⟨⟨coordinateCovers_trans left.1.1 right.1.1, coordinateCovers_trans left.1.2 right.1.2⟩,
    coordinateCovers_trans left.2 right.2⟩

end OperationTarget

/-- The bounded authority an armed runtime holds. -/
structure ArmScope where
  capabilities : List Capability
  target : OperationTarget
  grantedAt : Rat
  expiresAt : Rat
  distinct : capabilities.Nodup
  nonempty : capabilities ≠ []
  lasting : grantedAt < expiresAt
  deriving DecidableEq

namespace ArmScope

def isExpired (scope : ArmScope) (now : PyFloat) : Bool := hasLapsed now (.finite scope.expiresAt)

def covers (scope : ArmScope) (capability : Capability) (target : OperationTarget)
    (now : PyFloat) : Bool :=
  !scope.isExpired now && (capability ∈ scope.capabilities && scope.target.covers target)

theorem covers_iff {scope : ArmScope} {capability : Capability} {target : OperationTarget}
    {now : PyFloat} : scope.covers capability target now = true ↔
      scope.isExpired now = false ∧ capability ∈ scope.capabilities ∧
        scope.target.covers target = true := by
  simp [covers]

end ArmScope

/-- One bounded capability grant held for a session. A grant that opens a dangerous
capability expires at a finite instant. -/
structure PermissionGrant where
  capabilities : List Capability
  target : OperationTarget
  expiresAt : Option PyFloat
  distinct : capabilities.Nodup
  nonempty : capabilities ≠ []
  bounded : capabilities.any Capability.isDangerous = true →
    expiresAt.any PyFloat.isFinite = true
  deriving DecidableEq

def PermissionGrant.covers (grant : PermissionGrant) (capability : Capability)
    (target : OperationTarget) (now : PyFloat) : Bool :=
  !grant.expiresAt.any (hasLapsed now) &&
    (capability ∈ grant.capabilities && grant.target.covers target)

abbrev PermissionSet := List PermissionGrant

def PermissionSet.covers (permissions : PermissionSet) (capability : Capability)
    (target : OperationTarget) (now : PyFloat) : Bool :=
  permissions.any (·.covers capability target now)

end CanX.Safety

import Tenancy.AccessControl

/-!
# Licensing

Whether the license has expired, which features it unlocks, and whether one more resource fits under its caps.
-/

namespace Tenancy

/-- The service of the license. -/
structure Licensing where
  equipment : Equipment
  license : License
  access : AccessControl

namespace Licensing

/-- Whether the license has expired. -/
def expired (s : Licensing) (ctx : Context) : Program (Except ServiceError Bool) :=
  s.equipment.span ctx "service.license/expired" do
    return .ok (s.license.isExpiredAt (← Program.time))

/-- Whether the license unlocks a feature. -/
def hasFeature (s : Licensing) (ctx : Context) (feature : String) : Program (Except ServiceError Bool) :=
  s.equipment.span ctx "service.license/has_feature" do
    return .ok (s.license.features.contains feature)

/-- Whether one more resource fits under a cap. Fails when the license has no such cap, and when the resources cannot be
counted. -/
def withinThreshold (s : Licensing) (ctx : Context) (quota : Quota) : Program (Except ServiceError Bool) :=
  s.equipment.span ctx "service.license/within_threshold"
    (match s.license.caps quota with
    | none => return .error ⟨.quotaInvalid, none⟩
    | some cap => do
      match ← (Step.ask ctx (.count quota)).run with
      | .error cause => return .error (.join .quotaUsageGet cause)
      | .ok (count : Nat) => return .ok (count < cap.toNat))

/-- The license, for those who may read it. -/
def get (s : Licensing) (ctx : Context) : Program (Except ServiceError License) :=
  s.equipment.operation ctx "service.license/get_license" .licenseGet do
    Step.demand (← s.access.hasSystemRole ctx SystemRole.licenseReaders) (.kind .noPermission)
    return s.license

/-- Fails when the license has expired. -/
def ping (s : Licensing) (ctx : Context) : Program (Except ServiceError Unit) :=
  s.equipment.span ctx "service.license/ping" do
    return if s.license.isExpiredAt (← Program.time) then .error ⟨.licenseInvalid, none⟩ else .ok ()

/-- Fails unless one more resource fits under a cap. -/
def demandRoom (s : Licensing) (ctx : Context) (quota : Quota) (complaint : Failure) : Step Unit := do
  Step.demand (← Step.ofOperation (s.withinThreshold ctx quota)) complaint

end Licensing

end Tenancy

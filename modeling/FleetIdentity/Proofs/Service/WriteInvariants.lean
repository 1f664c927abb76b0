import FleetIdentity.Proofs.Service.Operations

/-!
# What every operation keeps because every write does

The operations change a store by its five writes alone, on any store, sound or not. Of one write
more can be said than that it is made: data are written only for a device that has just been read.
An update makes writes to its own device only.
-/

namespace FleetIdentity

/-- A property that the writes to one device keep; the write of data, where it follows a read of the
device. -/
structure Store.DeviceInvariant (P : Store → Prop) (id : String) : Prop where
  updateDeviceStatus : ∀ {s s' : Store} {update : StatusUpdate}, P s →
    s.updateDeviceStatus id update = .ok ((), s') → P s'
  updateDeviceData : ∀ {before s s' : Store} {deviceData : String} {e : Enrollment}, P before →
    before.getDeviceById id = .ok e → P s → s.updateDeviceData e.id deviceData = .ok ((), s') → P s'

namespace IdentityService

open StoreCall

variable {P : Store → Prop} {service : IdentityService} {fresh : Fresh}

theorem preserves_writeData {id : String} (h : Store.DeviceInvariant P id) {before : Store}
    {current : Enrollment} (hbefore : P before) (read : before.getDeviceById id = .ok current)
    (deviceData : Option String) : (writeData current deviceData).Preserves P := by
  cases deviceData with
  | none => exact (reading_pure _).preserves
  | some data =>
    rw [writeData]
    split
    · exact (reading_pure _).preserves
    · refine Preserves.bind (preserves_write fun _ _ _ => h.updateDeviceData hbefore read) ?_
      exact fun _ _ _ _ _ => (reading_pure _).preserves

theorem preserves_updateStatus {deviceId : String} (h : Store.DeviceInvariant P deviceId)
    (target : Status) (deviceData : Option String) :
    (updateStatus deviceId target deviceData).Preserves P := by
  rw [updateStatus]
  split
  · exact (reading_throw _).preserves
  · refine (reading_read _).preserves.bind fun s current t hs read => ?_
    have found : s.getDeviceById deviceId = .ok current := (runOn_read_eq_ok_iff.1 read).1
    refine (preserves_writeData h hs found deviceData).bind fun _ data _ _ _ => ?_
    refine (reading_ofExcept _).bind_preserves fun planned => ?_
    cases planned with
    | none => exact (reading_pure _).preserves
    | some update =>
      refine Preserves.bind (preserves_write fun _ _ _ => h.updateDeviceStatus) ?_
      exact fun _ _ _ _ _ => (reading_pure _).preserves

theorem preserves_deviceUpdate {deviceId : String} (h : Store.DeviceInvariant P deviceId)
    (organizationId : String) (target : Status) (deviceData : Option String) :
    (deviceUpdate organizationId deviceId target deviceData).Preserves P := by
  rw [deviceUpdate]
  split
  · refine (reading_deviceGet _ _).bind_preserves fun _ => ?_
    exact preserves_updateStatus h target deviceData
  · exact preserves_updateStatus h target deviceData

/-- The store after operations, each of which may fail. -/
def performAll (service : IdentityService) (operations : List Operation) (s : Store) : Store :=
  operations.foldl (fun s operation => ((service.perform operation).runOn s).2) s

end IdentityService

end FleetIdentity
